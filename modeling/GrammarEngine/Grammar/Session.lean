import GrammarEngine.Parser.Eval

/-!
# Sessions

A session runs one parser of a grammar over several inputs, one after the other. The cells that one
run builds stay built for the next, whatever the run ended in.
-/

namespace GrammarEngine

/-- A run to be made: from which position, and whether the whole input is to be read. -/
structure Request (M : Medium) where
  source : Source M
  position : Nat := 0
  whole : Bool := false

/-- What came of a run: its outcome, unless it does not end, the number of cells built by now, and
its records. -/
structure Report (M : Medium) where
  outcome : Option (Outcome M Value)
  builds : Nat
  log : List Record

namespace Grammar

variable {M : Medium} (g : Grammar M) (p : Parser M)

/-- Make the run. -/
def run (r : Request M) : Run M Value :=
  match r.source.start.forward r.position with
  | .ok c => if r.whole then g.parseAll p c else g.parse p c
  | .error f => .done (.fault f)

/-- Make the runs one after the other, from a state of the cells. -/
def session : List Cell → List (Request M) → List (Report M)
  | _, [] => []
  | built, r :: rs =>
    match g.run p r built with
    | none => ⟨none, built.length, []⟩ :: session built rs
    | some s => ⟨some s.outcome, s.built.length, s.log⟩ :: session s.built rs

end Grammar

end GrammarEngine
