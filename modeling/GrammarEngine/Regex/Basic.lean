import GrammarEngine.Regex.CharSet

/-!
# Regular expressions

The expressions that are matched. Alternatives and repetitions are ordered: what is written first,
or for a greedy repetition one more round, is preferred. Bounded repetitions are made of these by
`times` and `upTo`.
-/

namespace GrammarEngine

/-- A condition on the place between two characters that has to do with words. -/
inductive WordEdge
  /-- A word begins or ends here. -/
  | boundary
  /-- No word begins or ends here. -/
  | interior
  | start
  | stop
  /-- No word character stands before. -/
  | halfStart
  /-- No word character stands after. -/
  | halfStop
deriving DecidableEq

/-- A condition on the place between two characters. -/
inductive Look
  /-- The beginning of the text. -/
  | start
  /-- The end of the text. -/
  | stop
  /-- The beginning of a line; `crlf` if lines may also end in a carriage return. -/
  | lineStart (crlf : Bool)
  /-- The end of a line. -/
  | lineStop (crlf : Bool)
  /-- An edge of words made of the characters of a set. -/
  | edge (e : WordEdge) (word : CharSet)
deriving DecidableEq

/-- The characters on both sides of a place, if there are any. -/
structure Place where
  before : Option Char
  after : Option Char

/-- Whether a word character is there. -/
def CharSet.memOption (s : CharSet) : Option Char → Bool
  | none => false
  | some c => s.mem c

def WordEdge.holds (before after : Bool) : WordEdge → Bool
  | .boundary => before != after
  | .interior => before == after
  | .start => !before && after
  | .stop => before && !after
  | .halfStart => !before
  | .halfStop => !after

/-- Whether the condition holds at the place. -/
def Look.holds (here : Place) : Look → Bool
  | .start => here.before.isNone
  | .stop => here.after.isNone
  | .lineStart false => here.before.isNone || here.before == some '\n'
  | .lineStop false => here.after.isNone || here.after == some '\n'
  | .lineStart true =>
    here.before.isNone || here.before == some '\n' ||
      (here.before == some '\r' && here.after != some '\n')
  | .lineStop true =>
    here.after.isNone || here.after == some '\r' ||
      (here.after == some '\n' && here.before != some '\r')
  | .edge e word => e.holds (word.memOption here.before) (word.memOption here.after)

/-- A regular expression. -/
inductive Regex
  /-- The empty text. -/
  | empty
  /-- One character of the set. -/
  | set (s : CharSet)
  /-- The empty text, where the condition holds. -/
  | look (l : Look)
  | cat (a b : Regex)
  /-- Either, and rather the first. -/
  | alt (a b : Regex)
  /-- Any number of rounds, rather more of them if greedy and rather fewer if not. -/
  | star (greedy : Bool) (x : Regex)
deriving DecidableEq

namespace Regex

/-- Whether no character has to be read. -/
def nullable : Regex → Bool
  | empty => true
  | set _ => false
  | look _ => true
  | cat a b => a.nullable && b.nullable
  | alt a b => a.nullable || b.nullable
  | star _ _ => true

/-- At most one round. -/
def opt (greedy : Bool) (x : Regex) : Regex := if greedy then alt x empty else alt empty x

/-- At least one round. -/
def plus (greedy : Bool) (x : Regex) : Regex := cat x (star greedy x)

/-- Any number of rounds. Rounds that may be empty are made optional as a whole: so an empty first
round is preferred to none in the order in which the rounds themselves prefer. -/
def rounds (greedy : Bool) (x : Regex) : Regex :=
  if x.nullable then opt greedy (plus greedy x) else star greedy x

/-- `n` rounds, and then `r`. -/
def times (x : Regex) : Nat → Regex → Regex
  | 0, r => r
  | n + 1, r => cat x (times x n r)

/-- At most `n` rounds, each only after the one before it. -/
def upTo (greedy : Bool) (x : Regex) : Nat → Regex
  | 0 => empty
  | 1 => opt greedy x
  | n + 1 => opt greedy (cat x (upTo greedy x n))

/-- From `least` rounds to `most`, or to any number. -/
def rep (greedy : Bool) (x : Regex) (least : Nat) : Option Nat → Regex
  | some most => times x least (upTo greedy x (most - least))
  | none =>
    match least with
    | 0 => rounds greedy x
    | n + 1 => times x n (plus greedy x)

end Regex

end GrammarEngine
