import GrammarEngine.Pattern.Flags

/-!
# Properties by name

Names of properties are compared without regard to case, blanks, hyphens and underscores. A name by
itself is that of a property that characters have or lack, of general categories or of a script. A
name with what it is a value of, as in `script=Greek`, is that of general categories or of a script.

Of the properties that characters have or lack, only those are known that go with letters, blanks
and hexadecimal digits. Ages, script extensions and the properties that text is broken by are not
known.
-/

namespace GrammarEngine.Property

/-- What counts of a name. -/
def kept (name : List Char) : List Char :=
  (name.filter fun c => c.toNat < 0x80 && c != ' ' && c != '_' && c != '-').map Char.toLower

/-- The name as it is compared, without `is` before it. But `isc` is no other name for `c`. -/
def loose (name : List Char) : String :=
  match name with
  | i :: s :: rest =>
    if i.toLower == 'i' && s.toLower == 's' then
      if kept rest == ['c'] then "isc" else String.ofList (kept rest)
    else String.ofList (kept name)
  | _ => String.ofList (kept name)

/-- A property that characters have or lack. -/
def binary? : String → Option CharSet
  | "alpha" | "alphabetic" => some (.property .letter)
  | "lower" | "lowercase" => some (.property .lower)
  | "upper" | "uppercase" => some (.property .upper)
  | "cased" => some (.unions [.property .lower, .property .upper, .property (.category .lt)])
  | "whitespace" | "wspace" | "space" => some (.property .blank)
  | "joinc" | "joincontrol" => some (.property .joinControl)
  | "ahex" | "asciihexdigit" => some .asciiHexDigit
  | "hex" | "hexdigit" =>
    some (.unions [.asciiHexDigit, .range '０' '９', .range 'Ａ' 'Ｆ', .range 'ａ' 'ｆ'])
  | _ => none

/-- General categories. Three names stand beside those of the categories: for all characters, for
those that are assigned and for those of ASCII. -/
def category? (name : String) : Option CharSet :=
  match name with
  | "any" => some (.property .any)
  | "assigned" => some (.compl (.property (.category .cn)))
  | "ascii" => some (.property .ascii)
  | _ =>
    (Text.Category.called? name).map fun ks => .unions (ks.map fun k => .property (.category k))

/-- A script. -/
def script? (name : String) : Option CharSet :=
  (Text.script? name).map fun s => .property (.script s)

/-- What a name stands for by itself. -/
def byName? (name : String) : Option CharSet := binary? name <|> category? name <|> script? name

/-- What a name stands for as a value of `kind`. -/
def byValue? (kind value : String) : Option CharSet :=
  match kind with
  | "gc" | "generalcategory" => category? value
  | "sc" | "script" => script? value
  | _ => none

/-- What stands before and after the sign between a kind and a value; true if the sign is `!=`. -/
def halves? : List Char → Option (List Char × Bool × List Char)
  | [] => none
  | '!' :: '=' :: rest => some ([], true, rest)
  | c :: rest =>
    if c == ':' || c == '=' then some ([], false, rest)
    else (halves? rest).map fun (kind, unequal, value) => (c :: kind, unequal, value)

/-- The set of the property called by the text between the braces. -/
def set? (name : List Char) : Option CharSet :=
  match halves? name with
  | none => byName? (loose name)
  | some (kind, unequal, value) =>
    (byValue? (loose kind) (loose value)).map fun s => if unequal then .compl s else s

end GrammarEngine.Property
