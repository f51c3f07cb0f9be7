import GrammarEngine.Pattern.Work

/-!
# Branches and groups of a pattern

The characters outside brackets and escapes: literals, repetitions with their counts, alternatives,
and the heads of groups with their names and flags.
-/

namespace GrammarEngine.Work

/-! ## Branches -/

/-- Begin a repetition. -/
def quantify (w : Work) (least : Nat) (most : Option Nat) : Read := do
  (← w.repeatable).within (.greed least most false)

/-- A character at the top of a group. -/
def base (w : Work) (c : Char) : Read :=
  let w := { w with mode := .base }
  w.skipping c <|
    match c with
    | '(' => .ok (.enter w { flags := w.flags, names := w.names, mode := .group .opened })
    | ')' => .ok (.leave w)
    | '|' => .ok (.stay { w with branches := w.branch :: w.branches, items := [] })
    | '[' => w.within (.bracket [] {} .opened)
    | '?' => w.quantify 0 (some 1)
    | '*' => w.quantify 0 none
    | '+' => w.quantify 1 none
    | '{' => do (← w.repeatable).within (.count (.least none false))
    | '\\' => w.within (.escape .outside)
    | '.' => do return .stay (w.push (.set (← w.flags.dot)))
    | '^' => .ok (.stay (w.push (.look w.flags.caret)))
    | '$' => .ok (.stay (w.push (.look w.flags.dollar)))
    | _ => do return .stay (← w.literal c)

/-- After a repetition: a question mark makes it lazy. -/
def greed (w : Work) (least : Nat) (most : Option Nat) (spaced : Bool) (c : Char) : Read :=
  let go := do
    if c == '?' then (← w.rep least most false).within .base
    else (← w.rep least most true).base c
  if spaced then w.skipping c go else go

/-- One more digit of a count, which is to be a 32-bit number. -/
def countDigit (n : Option Nat) (c : Char) : Except PatternError Nat :=
  let m := 10 * n.getD 0 + (c.toNat - '0'.toNat)
  if m < UInt32.size then .ok m else .error .outOfRange

/-- A character of a count. -/
def count (w : Work) (m : CountMode) (c : Char) : Read :=
  w.skipping c <|
    match m with
    | .least n closed =>
      if c.isDigit && !closed then do w.within (.count (.least (some (← countDigit n c)) false))
      else if Text.isBlank c then w.within (.count (.least n n.isSome))
      else
        match n, c with
        | some k, ',' => w.within (.count (.comma k))
        | some k, '}' => w.within (.greed k (some k) true)
        | _, _ => .error .badCount
    | .comma k =>
      if c.isDigit then do w.within (.count (.most k (some (← countDigit none c)) false))
      else if Text.isBlank c then w.within (.count (.most k none false))
      else if c == '}' then w.within (.greed k none true)
      else .error .badCount
    | .most k n closed =>
      if c.isDigit && !closed then do w.within (.count (.most k (some (← countDigit n c)) false))
      else if Text.isBlank c then w.within (.count (.most k n n.isSome))
      else
        match n, c with
        | some l, '}' => if l < k then .error .reversed else w.within (.greed k (some l) true)
        | _, _ => .error .badCount

/-! ## Heads of groups -/

/-- Whether the character may stand in the name of a group. -/
def isNameChar (first : Bool) (c : Char) : Bool :=
  c == '_' || Text.isLetter c ||
    (!first && (c == '.' || c == '[' || c == ']' || Text.isDigit c || Text.isNumeral c))

/-- A character of the name of a group. -/
def name (w : Work) (back : List Char) (c : Char) : Read :=
  if c == '>' then
    let name := String.ofList back.reverse
    if back.isEmpty then .error .badName
    else if w.names.contains name then .error .repeatedName
    else .ok (.stay { w with names := name :: w.names, mode := .base })
  else if isNameChar back.isEmpty c then w.within (.group (.name (c :: back)))
  else .error .badName

/-- A character of the flags of a group. -/
def flagLetter (w : Work) (f : Flags) (seen : List Char) (off last : Bool) (c : Char) : Read :=
  match c with
  | ':' => if last then .error .badFlag else .ok (.stay { w with flags := f, mode := .base })
  | ')' =>
    if last then .error .badFlag
    else if seen.isEmpty then .error .missingOperand
    else .ok (.switch (switch f))
  | '-' => if off then .error .repeatedFlag else w.within (.group (.flags f seen true true))
  | _ =>
    match f.switch? (!off) c with
    | none => .error .badFlag
    | some g =>
      if seen.contains c then .error .repeatedFlag
      else w.within (.group (.flags g (c :: seen) off false))

/-- A character of the head of a group. -/
def group (w : Work) (m : GroupMode) (c : Char) : Read :=
  match m with
  | .opened => w.skipping c (if c == '?' then w.within (.group .query) else w.base c)
  | .query =>
    match c with
    | '=' | '!' => .error .lookAround
    | '<' => w.within (.group .angle)
    | 'P' => w.within (.group .letter)
    | _ => w.flagLetter w.flags [] false false c
  | .letter => if c == '<' then w.within (.group (.name [])) else .error .badFlag
  | .angle => if c == '=' || c == '!' then .error .lookAround else w.name [] c
  | .name back => w.name back c
  | .flags f seen off last => w.flagLetter f seen off last c

end GrammarEngine.Work
