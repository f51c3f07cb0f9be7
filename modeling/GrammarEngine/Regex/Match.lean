import GrammarEngine.Regex.Basic

/-!
# Matching

A thread is the list of the expressions that are still to be matched, one after the other. All
threads walk over the text together, in order of preference, and of two threads with the same rest
only the first is kept; so the work is bounded by the text times the expression.

`explore` follows a thread up to the characters it asks for. It keeps the list of everything it has
come across, the latest first, and does not follow anything twice; so a round of a repetition that
reads nothing ends there. `Regex.matchLength` is the length of the preferred match at the beginning
of a text, and `Regex.find` searches a text for the first place at which there is a match.
-/

namespace GrammarEngine

/-- What is still to be matched, first things first. -/
abbrev Thread := List Regex

namespace Regex

/-- Follow `r` and then `k`, where `rest` follows `k`, unless that has been done before. -/
def visit (here : Place) : Regex → Thread → (List Thread → List Thread) → List Thread → List Thread
  | r, k, rest, seen =>
    if (r :: k) ∈ seen then seen
    else
      match r with
      | empty => rest ((r :: k) :: seen)
      | set _ => (r :: k) :: seen
      | look l => if l.holds here then rest ((r :: k) :: seen) else (r :: k) :: seen
      | cat a b => visit here a (b :: k) (visit here b k rest) ((r :: k) :: seen)
      | alt a b => visit here b k rest (visit here a k rest ((r :: k) :: seen))
      | star true x => rest (visit here x (r :: k) id ((r :: k) :: seen))
      | star false x => visit here x (r :: k) id (rest ((r :: k) :: seen))

end Regex

namespace Thread

/-- Follow a thread up to the characters it asks for. -/
def explore (here : Place) : Thread → List Thread → List Thread
  | [], seen => if [] ∈ seen then seen else [] :: seen
  | r :: k, seen => r.visit here k (explore here k) seen

/-- Follow several threads, the preferred first. The result is in order of preference. -/
def exploreAll (here : Place) (ts : List Thread) : List Thread :=
  (ts.foldl (fun seen t => explore here t seen) []).reverse

/-- What is left of a thread after a character that it asks for. -/
def advance (c : Char) : Thread → Option Thread
  | .set s :: k => if s.mem c then some k else none
  | _ => none

/-- The threads that are preferred to a finished one. -/
def unfinished (ts : List Thread) : List Thread := ts.takeWhile (!·.isEmpty)

/-- Walk over the text with `n` characters read, where `best` is the length of the best match so
far. A finished thread gives a match, and ends what is less preferred. -/
def walk (ts : List Thread) (before : Option Char) (n : Nat) (best : Option Nat) :
    List Char → Option Nat
  | [] =>
    if [] ∈ exploreAll ⟨before, none⟩ ts then some n else best
  | c :: cs =>
    let live := exploreAll ⟨before, some c⟩ ts
    let best := if [] ∈ live then some n else best
    match (unfinished live).filterMap (advance c) with
    | [] => best
    | ts => walk ts (some c) (n + 1) best cs

end Thread

/-- A part of a text: how many characters stand before its beginning, and before its end. -/
structure Span where
  start : Nat
  stop : Nat
deriving DecidableEq

/-- The characters of the part. -/
def Span.piece (m : Span) (text : List Char) : List Char := (text.take m.stop).drop m.start

namespace Regex

/-- The number of characters of the preferred match at the beginning of the text. -/
def matchLength (r : Regex) (text : List Char) : Option Nat := Thread.walk [[r]] none 0 none text

/-- Search what is left of a text behind `before`, with `i` characters passed over. -/
def findFrom (r : Regex) (before : Option Char) (i : Nat) (rest : List Char) : Option Span :=
  match Thread.walk [[r]] before i none rest, rest with
  | some j, _ => some ⟨i, j⟩
  | none, [] => none
  | none, c :: cs => r.findFrom (some c) (i + 1) cs

/-- The preferred match from the first place at which there is one. -/
def find (r : Regex) (text : List Char) : Option Span := r.findFrom none 0 text

end Regex

end GrammarEngine
