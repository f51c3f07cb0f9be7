import GrammarEngine.Parser.Run
import GrammarEngine.Pattern.Basic

/-!
# Parsers

A parser is a tree of combinators over the terminals of a medium. The functions inside `tryMap` and
`tryRecover` answer with a parser, which is run at the cursor they were given: so they can decide on
everything that has been read, and move on only as a parser does.

Recursion goes through cells: `cell k` stands for the parser in cell `k` of a grammar. A cell is
built by a factory when it is first used. The factory may compile patterns for its parser, and the
records of that are written in the run that builds the cell, and in no other.

The cells of a grammar are numbered beforehand. Where a factory itself makes new cells, as one does
that calls the function it stands in, each cell that is made so is a cell of its own: any runs that
end come to finitely many of them, and the table lists these.
-/

namespace GrammarEngine

/-- A parser over a medium. -/
inductive Parser (M : Medium)
  /-- The value, with nothing read. -/
  | succeed (v : Value)
  /-- The failure, with nothing read. -/
  | fail (message : String)
  /-- A terminal. -/
  | terminal (t : M.Terminal)
  /-- Move on by so many units, at most to the end. -/
  | advance (n : Nat)
  /-- Change the value. -/
  | map (p : Parser M) (f : Value → Value)
  /-- Go on as the function says for the value and the cursor after it. -/
  | tryMap (p : Parser M) (f : Value → Cursor M → Parser M)
  /-- A value in place of a failure, at the failure's cursor. -/
  | recover (p : Parser M) (f : String → Value)
  /-- Go on as the function says for the failure, at the failure's cursor. -/
  | tryRecover (p : Parser M) (f : Failure M → Parser M)
  /-- One after the other, yielding both values. -/
  | both (p q : Parser M)
  /-- One after the other, yielding the first value. -/
  | first (p q : Parser M)
  /-- One after the other, yielding the second value. -/
  | second (p q : Parser M)
  /-- The second from the failure of the first. -/
  | choice (p q : Parser M)
  /-- The second from the failure of the first, the value tagged with its side. -/
  | tagged (p q : Parser M)
  /-- As often as it moves on, yielding the list of values. -/
  | many (p : Parser M)
  /-- The parser in a cell. -/
  | cell (k : Cell)
  /-- The same parser behind a handle. -/
  | wrapped (p : Parser M)
  /-- The parser, and then the end of the input. -/
  | whole (p : Parser M)

namespace Parser

variable {M : Medium}

/-- The value if there is one. Where `p` fails, nothing is yielded at the cursor of the failure. -/
def opt (p : Parser M) : Parser M := (p.map .present).recover fun _ => .absent

end Parser

/-- What builds the parser of a cell. -/
structure Factory (M : Medium) where
  parser : Parser M
  /-- The patterns that are compiled on the way, the first one first. -/
  compiled : List String := []

namespace Factory

variable {M : Medium}

/-- The factory that has the parser at hand. -/
def yields (p : Parser M) : Factory M := ⟨p, []⟩

/-- The factory with its parser changed. -/
def map (change : Parser M → Parser M) (f : Factory M) : Factory M :=
  { f with parser := change f.parser }

/-- The records that the factory writes. -/
def notes (f : Factory M) : List Record := f.compiled.map Pattern.compiling

end Factory

/-- A grammar: the factories of its cells. -/
structure Grammar (M : Medium) where
  cells : Array (Factory M)

namespace Grammar

variable {M : Medium} (g : Grammar M)

/-- The parser in a cell. -/
def target (k : Cell) : Parser M :=
  match g.cells[k]? with
  | some f => f.parser
  | none => .fail "no such cell"

/-- The records that are written when a cell is built. -/
def notes (k : Cell) : List Record :=
  match g.cells[k]? with
  | some f => f.notes
  | none => []

end Grammar

end GrammarEngine
