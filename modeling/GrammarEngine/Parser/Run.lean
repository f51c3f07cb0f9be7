import GrammarEngine.Input.Cursor
import GrammarEngine.Parser.Record
import GrammarEngine.Text.Quoted

/-!
# Runs

A run ends in an outcome: a value with the cursor after it, a failure, or a fault of a cursor. On
its way it builds cells, which it is told of and passes on, and writes records. A run may also not
end within its bound, which is no outcome at all.

`Run.handle` is the one way in which runs are put together: it goes on from the value or from the
failure, each with its cursor, and lets a fault through.
-/

namespace GrammarEngine

/-- A parser does not stand where it was tried: why, and where to go on. -/
structure Failure (M : Medium) where
  message : String
  next : Cursor M

namespace Failure

variable {M : Medium}

/-- The message with its place. -/
def full (e : Failure M) : String := e.next.locate e.message

/-- The failure written out. -/
def written (e : Failure M) : String :=
  "Failure \x7b message: " ++ Text.quoted e.message ++ ", next: " ++ e.next.written ++ " \x7d"

/-- The same message at the same cursor. -/
def same (e f : Failure M) : Bool := e.message == f.message && e.next.same f.next

end Failure

/-- How a run ends. -/
inductive Outcome (M : Medium) (β : Type)
  | success (value : β) (next : Cursor M)
  | failure (e : Failure M)
  | fault (f : Fault)

namespace Outcome

variable {M : Medium} {β : Type}

def isSuccess : Outcome M β → Bool
  | .success _ _ => true
  | _ => false

def isFailure : Outcome M β → Bool
  | .failure _ => true
  | _ => false

/-- The cursor that the outcome carries. -/
def next? : Outcome M β → Option (Cursor M)
  | .success _ next => some next
  | .failure e => some e.next
  | .fault _ => none

/-- The value at the moved cursor. -/
def ofForward (value : β) : Except Fault (Cursor M) → Outcome M β
  | .ok next => .success value next
  | .error f => .fault f

end Outcome

/-- The number of a cell, in which a parser is built when it is first used. -/
abbrev Cell := Nat

/-- A finished run: how it ended, the cells built by then, and its records in order. -/
structure Finish (M : Medium) (β : Type) where
  outcome : Outcome M β
  built : List Cell
  log : List Record

/-- The same end after earlier records. -/
def Finish.after {M : Medium} {β : Type} (log : List Record) (s : Finish M β) : Finish M β :=
  { s with log := log ++ s.log }

/-- A run from a state of the cells, `none` if it does not end within its bound. -/
def Run (M : Medium) (β : Type) := List Cell → Option (Finish M β)

namespace Run

variable {M : Medium} {α β : Type}

/-- End at once. -/
def done (o : Outcome M β) : Run M β := fun built => some ⟨o, built, []⟩

def success (v : β) (next : Cursor M) : Run M β := done (.success v next)

def failure (e : Failure M) : Run M β := done (.failure e)

/-- The run that does not end. -/
def endless : Run M β := fun _ => none

/-- Write a record, then run. -/
def noting (r : Record) (run : Run M β) : Run M β := fun built => (run built).map (Finish.after [r])

/-- Mark the cell as built, then run. If it was not built before, there is a record of that, and
then come the notes of what builds it. -/
def building (k : Cell) (notes : List Record) (run : Run M β) : Run M β := fun built =>
  if k ∈ built then run built else (run (k :: built)).map (Finish.after (.building :: notes))

/-- Go on from the value or from the failure. -/
def handle (run : Run M α) (onSuccess : α → Cursor M → Run M β) (onFailure : Failure M → Run M β) :
    Run M β := fun built =>
  match run built with
  | none => none
  | some ⟨.success v next, built, log⟩ => (onSuccess v next built).map (Finish.after log)
  | some ⟨.failure e, built, log⟩ => (onFailure e built).map (Finish.after log)
  | some ⟨.fault f, built, log⟩ => some ⟨.fault f, built, log⟩

/-- Go on from the value; a failure stays. -/
def andThen (run : Run M α) (onSuccess : α → Cursor M → Run M β) : Run M β :=
  run.handle onSuccess failure

/-- Go on from the failure; a value stays. -/
def orElse (run : Run M α) (onFailure : Failure M → Run M α) : Run M α :=
  run.handle success onFailure

/-- Change the value. -/
def map (run : Run M α) (f : α → β) : Run M β := run.andThen fun v next => success (f v) next

/-- Run again and again, each time from the cursor of the last value, until a run fails or does not
move. The failed or unmoved last run leaves no trace but its records and cells. At most `bound` runs
are made. -/
def repeated (step : Cursor M → Run M α) : Nat → Cursor M → Run M (List α)
  | 0, _ => endless
  | bound + 1, c =>
    (step c).handle
      (fun v next =>
        if next.offset = c.offset then success [] c
        else (repeated step bound next).map (v :: ·))
      (fun _ => success [] c)

end Run

end GrammarEngine
