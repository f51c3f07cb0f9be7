import GrammarEngine.Parser.Basic

/-!
# Running a parser

`evalWith enter` runs a parser by recursion on it, where `enter` runs the cells. `eval` bounds the
number of cells that are entered inside one another. A cell that is entered again, inside itself
and at the same offset, is entered so forever; so `depth`, one more than the number of pairs of a
cell and an offset, is a bound that only an endless run exceeds.
-/

namespace GrammarEngine

variable {M : Medium}

/-- A terminal at a cursor: it looks, and moves on by what it has found. -/
def Cursor.accept (c : Cursor M) (t : M.Terminal) : Outcome M Value :=
  match M.look t c.view with
  | some (v, n) => .ofForward v (c.forward n)
  | none => .failure ⟨M.expectation t, c⟩

/-- What is said where input is left over. -/
def leftoverMessage : String := "Unparsed input remains"

/-- The run must have come to the end of the input. -/
def Run.toEnd (run : Run M Value) : Run M Value :=
  run.andThen fun v next =>
    if next.isEmpty then .success v next
    else .noting (.leftover next.length next.offset) (.failure ⟨leftoverMessage, next⟩)

namespace Parser

/-- Run a parser at a cursor, with `enter` to run the cells. -/
def evalWith (enter : Cell → Cursor M → Run M Value) : Parser M → Cursor M → Run M Value
  | succeed v, c => .success v c
  | fail message, c => .failure ⟨message, c⟩
  | terminal t, c => .done (c.accept t)
  | advance n, c => .done (.ofForward .unit (c.forward n))
  | map p f, c => (evalWith enter p c).map f
  | tryMap p f, c => (evalWith enter p c).andThen fun v next => evalWith enter (f v next) next
  | recover p f, c => (evalWith enter p c).orElse fun e => .success (f e.message) e.next
  | tryRecover p f, c => (evalWith enter p c).orElse fun e => evalWith enter (f e) e.next
  | both p q, c => (evalWith enter p c).andThen fun v next => (evalWith enter q next).map (.pair v)
  | first p q, c =>
    (evalWith enter p c).andThen fun v next => (evalWith enter q next).map fun _ => v
  | second p q, c => (evalWith enter p c).andThen fun _ next => evalWith enter q next
  | choice p q, c =>
    (evalWith enter p c).orElse fun e =>
      .noting (.fallback e.next.offset e.message) (evalWith enter q e.next)
  | tagged p q, c =>
    (evalWith enter p c).handle (fun v next => .success (.left v) next) fun e =>
      .noting (.leftFallback e.next.offset e.message) ((evalWith enter q e.next).map .right)
  | many p, c => (Run.repeated (evalWith enter p) (c.length + 1) c).map .list
  | cell k, c => enter k c
  | wrapped p, c => evalWith enter p c
  | whole p, c => (evalWith enter p c).toEnd

/-- Run a parser at a cursor, with at most `bound` cells inside one another. -/
def eval (g : Grammar M) : Nat → Parser M → Cursor M → Run M Value
  | 0 => evalWith fun _ _ => .endless
  | bound + 1 => evalWith fun k c => .building k (g.notes k) (eval g bound (g.target k) c)

end Parser

namespace Grammar

/-- One more than the number of pairs of a cell and an offset from the cursor on. -/
def depth (g : Grammar M) (c : Cursor M) : Nat := g.cells.size * (c.length + 1) + 1

/-- Run a parser of the grammar at a cursor. -/
def parse (g : Grammar M) (p : Parser M) (c : Cursor M) : Run M Value := p.eval g (g.depth c) c

/-- Run a parser of the grammar from a cursor to the end of the input. -/
def parseAll (g : Grammar M) (p : Parser M) (c : Cursor M) : Run M Value := g.parse (.whole p) c

end Grammar

end GrammarEngine
