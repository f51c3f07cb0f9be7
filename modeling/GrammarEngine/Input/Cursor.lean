import GrammarEngine.Input.Medium

/-!
# Sources and cursors

A source is a list of elements with an identity: two sources of equal content are still two. A
cursor is a source and an offset into it, in units. Cursors are plain data; `forward` gives
another cursor and stops at the end of the source. Only two requests are faults: one whose
position is no 64-bit number, and one that would part an element.
-/

namespace GrammarEngine

/-- The elements of an input, and a number that tells it from other inputs. -/
structure Source (M : Medium) where
  tag : Nat
  elems : List M.Elem

/-- A position, in units, in a source. -/
structure Cursor (M : Medium) where
  source : Source M
  offset : Nat

/-- Why a cursor cannot be moved. -/
inductive Fault
  /-- The new position is beyond the 64-bit numbers. -/
  | overflow
  /-- Moving by `count` from `position` ends inside an element. -/
  | split (count position : Nat)
deriving DecidableEq

def Fault.message : Fault → String
  | .overflow => "attempt to add with overflow"
  | .split count position => s!"forward({count}) from {position} splits a character"

namespace Source

variable {M : Medium}

/-- The number of units of the source. -/
def size (s : Source M) : Nat := Units.size M.width s.elems

/-- One source, not only equal content. -/
def same (s t : Source M) : Bool := s.tag == t.tag

/-- The cursor at the beginning. -/
def start (s : Source M) : Cursor M := ⟨s, 0⟩

/-- The source written out. -/
def written (s : Source M) : String := "Source(" ++ M.written s.elems ++ ")"

end Source

namespace Cursor

variable {M : Medium}

/-- The elements from the cursor on. -/
def remaining (c : Cursor M) : List M.Elem :=
  (Units.drop? M.width c.offset c.source.elems).getD []

/-- The number of units from the cursor on. -/
def length (c : Cursor M) : Nat := c.source.size - c.offset

def isEmpty (c : Cursor M) : Bool := c.length == 0

/-- The next `n` units, if so many are left and an element ends there. -/
def peek (c : Cursor M) (n : Nat) : Option (List M.Elem) := Units.take? M.width n c.remaining

/-- What the cursor shows. -/
def view (c : Cursor M) : View M.Elem := ⟨c.remaining, c.length, c.peek⟩

/-- The cursor `n` units further on, at most at the end. -/
def forward (c : Cursor M) (n : Nat) : Except Fault (Cursor M) :=
  if UInt64.size ≤ c.offset + n then .error .overflow
  else
    let offset := min (c.offset + n) c.source.size
    if (Units.drop? M.width offset c.source.elems).isSome then .ok ⟨c.source, offset⟩
    else .error (.split n c.offset)

/-- One source and one offset. -/
def same (c d : Cursor M) : Bool := c.source.same d.source && c.offset == d.offset

/-- A message with the place it is about. -/
def locate (c : Cursor M) (message : String) : String := s!"{message} at {c.offset}"

/-- The cursor written out: its offset, the source left out. -/
def written (c : Cursor M) : String := s!"Cursor \x7b offset: {c.offset}, .. \x7d"

end Cursor

end GrammarEngine
