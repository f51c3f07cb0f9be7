import GrammarEngine.Pattern.Group
import GrammarEngine.Pattern.Property

/-!
# Escapes of a pattern

What follows a backslash: a character without its meaning, a code point, a class, a property or a
condition. It is delivered to the place that the backslash stands in.
-/

namespace GrammarEngine.Work

/-- Put the atom where it was to go. -/
def deliver (w : Work) (site : Site) (a : Atom) : Read :=
  match site, a with
  | .outside, a => do (← w.atom a).within .base
  | .item _ _, .look _ => .error .badMember
  | .item outer b, a => w.within (.bracket outer b (.item a))
  | .rangeEnd outer b lo, a => do w.within (.bracket outer (← b.addRange w.flags lo a) .items)

/-- The character with this code point. -/
def codePoint (n : Nat) : Except PatternError Char :=
  if n.isValidChar then .ok (Char.ofNat n) else .error .outOfRange

/-- What a letter after a backslash stands for, where it is one character. -/
def control? : Char → Option Char
  | 'a' => some '\x07'
  | 'f' => some '\x0c'
  | 't' => some '\t'
  | 'n' => some '\n'
  | 'r' => some '\r'
  | 'v' => some '\x0b'
  | _ => none

/-- What a character after a backslash stands for, where it is a condition. -/
def look? (f : Flags) : Char → Option Look
  | 'A' => some .start
  | 'z' => some .stop
  | 'B' => some (.edge .interior f.word)
  | '<' => some (.edge .start f.word)
  | '>' => some (.edge .stop f.word)
  | _ => none

/-- Whether a backslash only takes the meaning from the character: ASCII that is no letter, no digit
and no angle. -/
def isPlain (c : Char) : Bool := c.toNat < 0x80 && !c.isAlphanum && c != '<' && c != '>'

/-- The character after a backslash. -/
def escape (w : Work) (site : Site) (c : Char) : Read :=
  if c.isDigit then .error .backReference
  else if isPlain c then w.deliver site (.char c)
  else
    match c with
    | 'x' => w.within (.hex site 2)
    | 'u' => w.within (.hex site 4)
    | 'U' => w.within (.hex site 8)
    | 'p' => w.within (.property site false)
    | 'P' => w.within (.property site true)
    | 'b' =>
      match site with
      | .outside => w.within .edge
      | _ => .error .badMember
    | _ =>
      match control? c, look? w.flags c, w.flags.shorthand? c.toLower with
      | some d, _, _ => w.deliver site (.char d)
      | _, some l, _ => w.deliver site (.look l)
      | _, _, some s => do w.deliver site (.set (← w.flags.negated c.isUpper s))
      | _, _, _ => .error .badEscape

/-- The value of a hexadecimal digit. -/
def hexDigit? (c : Char) : Option Nat :=
  if c.isDigit then some (c.toNat - '0'.toNat)
  else if 'a' ≤ c && c ≤ 'f' then some (c.toNat - 'a'.toNat + 10)
  else if 'A' ≤ c && c ≤ 'F' then some (c.toNat - 'A'.toNat + 10)
  else none

/-- One of the digits of a code point; `byte` if two digits make it up. -/
def hexDigits (w : Work) (site : Site) (left value : Nat) (byte : Bool) (c : Char) : Read :=
  w.skipping c <|
    match hexDigit? c with
    | none => .error .badEscape
    | some d =>
      if left ≤ 1 then do
        let e ← codePoint (16 * value + d)
        if byte && !w.flags.unicode && 0x80 ≤ e.toNat then .error .needsUnicode
        w.deliver site (.char e)
      else w.within (.hexDigits site (left - 1) (16 * value + d) byte)

/-- The first character of a code point. -/
def hex (w : Work) (site : Site) (digits : Nat) (c : Char) : Read :=
  w.skipping c <|
    if c == '{' then w.within (.hexBrace site none) else w.hexDigits site digits 0 (digits == 2) c

/-- A character of a code point in braces. -/
def hexBrace (w : Work) (site : Site) (value : Option Nat) (c : Char) : Read :=
  w.skipping c <|
    match c, value with
    | '}', none => .error .badEscape
    | '}', some n => do w.deliver site (.char (← codePoint n))
    | _, _ =>
      match hexDigit? c with
      | none => .error .badEscape
      | some d => w.within (.hexBrace site (some (16 * value.getD 0 + d)))

/-- The set of a named property. Both cases are added before it is negated. -/
def propertySet (w : Work) (site : Site) (negate : Bool) (name : List Char) : Read :=
  if !w.flags.unicode then .error .needsUnicode
  else
    match Property.set? name with
    | none => .error .unknownProperty
    | some s => do w.deliver site (.set (← w.flags.negated negate (w.flags.folded s)))

/-- The first character after `\p`. -/
def property (w : Work) (site : Site) (negate : Bool) (c : Char) : Read :=
  w.skipping c <|
    match c with
    | '{' => w.within (.propertyName site negate [])
    | '\\' => .error .unknownProperty
    | _ => w.propertySet site negate [c]

/-- A character of the name of a property. -/
def propertyName (w : Work) (site : Site) (negate : Bool) (back : List Char) (c : Char) : Read :=
  w.skipping c <|
    if c == '}' then w.propertySet site negate back.reverse
    else w.within (.propertyName site negate (c :: back))

/-- The edge of words between the braces after `\b`. -/
def edge? : String → Option WordEdge
  | "start" => some .start
  | "end" => some .stop
  | "start-half" => some .halfStart
  | "end-half" => some .halfStop
  | _ => none

/-- Take `\b` as the condition that a word begins or ends. -/
def boundary (w : Work) : Work := w.push (.look (.edge .boundary w.flags.word))

/-- The character after `\b`. -/
def edge (w : Work) (c : Char) : Read :=
  if c == '{' then w.within (.edgeName []) else w.boundary.base c

/-- A character in the braces after `\b`. If the first is no letter, the braces hold a count. -/
def edgeName (w : Work) (back : List Char) (c : Char) : Read :=
  w.skipping c <|
    if c.isAlpha || c == '-' then w.within (.edgeName (c :: back))
    else if back.isEmpty then w.boundary.count (.least none false) c
    else if c == '}' then
      match edge? (String.ofList back.reverse) with
      | none => .error .badEscape
      | some e => w.deliver .outside (.look (.edge e w.flags.word))
    else .error .badEscape

end GrammarEngine.Work
