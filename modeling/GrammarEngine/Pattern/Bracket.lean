import GrammarEngine.Pattern.Tree

/-!
# Bracketed sets

What has been read of a set in brackets: its members, and the set on the left of an operator that
waits for its right side.
-/

namespace GrammarEngine

/-- The operators between sets in brackets. -/
inductive SetOp
  | inter | diff | symmDiff
deriving DecidableEq

def SetOp.apply : SetOp → CharSet → CharSet → CharSet
  | .inter => .inter
  | .diff => .diff
  | .symmDiff => .symmDiff

/-- The operator that the doubled character stands for. -/
def SetOp.ofChar : Char → SetOp
  | '&' => .inter
  | '-' => .diff
  | _ => .symmDiff

/-- What a character or an escape stands for. -/
inductive Atom
  | char (c : Char)
  | set (s : CharSet)
  | look (l : Look)

/-- A set in brackets that is being read. -/
structure Bracket where
  negated : Bool := false
  /-- The left side of an operator, and its levels. -/
  pending : Option (SetOp × CharSet × Nat) := none
  members : CharSet := .empty
  /-- The levels of the members. -/
  depths : List Nat := []
  /-- The characters after the bracket, the latest first. -/
  raw : List Char := []

namespace Bracket

/-- A character as a member: outside Unicode mode only ASCII is allowed. -/
def checked (f : Flags) (c : Char) : Except PatternError Char :=
  if f.unicode || c.toNat < 0x80 then .ok c else .error .needsUnicode

/-- Take a set of so many levels as a member. -/
def insert (b : Bracket) (s : CharSet) (depth : Nat := 0) : Bracket :=
  { b with members := b.members.join s, depths := depth :: b.depths }

/-- Take the atom as a member. -/
def add (b : Bracket) (f : Flags) : Atom → Except PatternError Bracket
  | .char c => do return b.insert (.single (← checked f c))
  | .set s => .ok (b.insert s)
  | .look _ => .error .badMember

/-- Take the range between two atoms, which are to be characters in order. -/
def addRange (b : Bracket) (f : Flags) : Atom → Atom → Except PatternError Bracket
  | .char lo, .char hi => do
    let lo ← checked f lo
    let hi ← checked f hi
    if hi.toNat < lo.toNat then .error .reversed else .ok (b.insert (.range lo hi))
  | _, _ => .error .badMember

/-- The members, joined with the left side of the operator that waits for them. -/
def joined (b : Bracket) (f : Flags) : CharSet :=
  match b.pending with
  | none => b.members
  | some (op, s, _) => op.apply (f.folded s) (f.folded b.members)

/-- The levels of what has been read. -/
def depth (b : Bracket) : Nat :=
  match b.pending with
  | none => Leveled.levels b.depths
  | some (_, _, d) => max d (Leveled.levels b.depths) + 1

/-- Make what has been read the left side of an operator. -/
def operate (b : Bracket) (f : Flags) (op : SetOp) : Bracket :=
  { b with pending := some (op, b.joined f, b.depth), members := .empty, depths := [] }

/-- The set, once its closing bracket is read. Both cases are added before it is negated. -/
def close (b : Bracket) (f : Flags) : Except PatternError CharSet :=
  f.negated b.negated (f.folded (b.joined f))

/-- The ASCII sets that are called by name. -/
def namedSet? : String → Option CharSet
  | "alnum" => some .asciiAlphanum
  | "alpha" => some .asciiLetter
  | "ascii" => some (.property .ascii)
  | "blank" => some (.ofString "\t ")
  | "cntrl" => some (.union (.range '\x00' '\x1f') (.single '\x7f'))
  | "digit" => some .asciiDigit
  | "graph" => some (.range '!' '~')
  | "lower" => some .asciiLower
  | "print" => some (.range ' ' '~')
  | "punct" => some (.unions [.range '!' '/', .range ':' '@', .range '[' '\x60', .range '\x7b' '~'])
  | "space" => some .asciiBlank
  | "upper" => some .asciiUpper
  | "word" => some .asciiWord
  | "xdigit" => some .asciiHexDigit
  | _ => none

/-- The set called by the whole text of an inner bracket, `:name:` or `:^name:`, if it is such a
call. Both cases are added before it is negated. -/
def called? (b : Bracket) (f : Flags) : Option (Except PatternError CharSet) :=
  match b.raw with
  | ']' :: ':' :: back =>
    match back.reverse with
    | ':' :: '^' :: name =>
      (namedSet? (String.ofList name)).map fun s => f.negated true (f.folded s)
    | ':' :: name => (namedSet? (String.ofList name)).map fun s => .ok (f.folded s)
    | _ => none
  | _ => none

/-- The member that an inner bracket is, once its closing bracket is read, with its levels. -/
def inner (b : Bracket) (f : Flags) : Except PatternError (CharSet × Nat) :=
  match b.called? f with
  | some s => do return (← s, 0)
  | none => do return (← b.close f, b.depth + 1)

end Bracket

end GrammarEngine
