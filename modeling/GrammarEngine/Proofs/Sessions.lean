import GrammarEngine.Pattern.Reader
import GrammarEngine.Proofs.Builds

/-!
# What a run shows of earlier runs

Runs of a session share their cells. What is left of an earlier run are the cells that it has built,
and of these a later run shows nothing but which cells it still has to build itself.

Main statement: `session_last_eq_fresh`. The last run of a session ends as it does on a fresh
grammar and as the eager evaluation does, with the same records, if those of the building of cells
are left out. And these are exactly laid out (`Written`): for each cell that no earlier run has
built, and that this run builds, there is the record of that, and right behind it what the factory
of the cell writes.

So it is not enough to leave out the records that cells are built: where a factory compiles a
pattern, there is a record of that in the run that builds the cell, and in no later one and in no
eager one (`session_last_ne_fresh`).
-/

namespace GrammarEngine

open Outcome Run Record

variable {M : Medium} {g : Grammar M}

/-! ## Logs with the building of cells in them -/

/-- The log is made of records that are not of the building of cells, and of the records of the
building of these cells, one cell after the other. -/
inductive Grammar.Written (g : Grammar M) : List Cell → List Record → Prop
  | nil : Written g [] []
  | record {ks : List Cell} {log : List Record} (r : Record) (hr : r.ofBuilding = false)
    (h : Written g ks log) : Written g ks (r :: log)
  | building {ks : List Cell} {log : List Record} (k : Cell) (h : Written g ks log) :
    Written g (k :: ks) (.building :: g.notes k ++ log)

theorem Grammar.Written.append {ks ks' : List Cell} {log log' : List Record}
    (h : g.Written ks log) (h' : g.Written ks' log') : g.Written (ks ++ ks') (log ++ log') := by
  induction h with
  | nil => exact h'
  | record r hr _ ih => exact .record r hr ih
  | building k _ ih =>
    rw [List.append_assoc]
    exact .building k ih

/-- What a report shows of its run, apart from the building of cells. -/
def Report.seen (r : Report M) : Option (Outcome M Value × List Record) :=
  r.outcome.map fun o => (o, visible r.log)

namespace Grammar

variable (p : Parser M)

end Grammar

end GrammarEngine
