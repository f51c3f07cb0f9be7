import GrammarEngine.Input.Units
import GrammarEngine.Value.Basic

/-!
# Media

A medium says what an input is made of: its elements and their widths in units, the terminals that
look at the elements in front of a cursor, and how a run of elements is yielded as a value.

A terminal works with what a cursor shows it, and itself says by how many units to move on. That
these are the units of the elements that it recognises is a law of the medium, `look_eq`.
-/

namespace GrammarEngine

/-- What a cursor shows of the input from it on. -/
structure View (E : Type) where
  /-- The elements. -/
  remaining : List E
  /-- The number of units. -/
  length : Nat
  /-- The first so many units, if an element ends there. -/
  peek : Nat → Option (List E)

/-- What inputs are made of and what can be recognised in them at a glance. -/
structure Medium where
  /-- The elements of an input. -/
  Elem : Type
  /-- The units an element takes up. -/
  width : Elem → Nat
  width_pos : ∀ e, 0 < width e
  /-- The parsers that look at the elements themselves. -/
  Terminal : Type
  /-- The value of a terminal and the number of units to move on by, or nothing if it does not
  stand there. -/
  look : Terminal → View Elem → Option (Value × Nat)
  /-- The value of a terminal and the number of elements it takes from the front of a list. -/
  recognise : Terminal → List Elem → Option (Value × Nat)
  /-- What is looked for is what is recognised, and to be moved on by are the units of what is
  taken. -/
  look_eq : ∀ t rest length, Units.size width rest ≤ length →
    look t ⟨rest, length, fun n => Units.take? width n rest⟩ =
      (recognise t rest).map fun (v, n) => (v, Units.size width (rest.take n))
  /-- What is said where a terminal does not stand. -/
  expectation : Terminal → String
  /-- A run of elements as a value. -/
  piece : List Elem → Value
  /-- A whole input written out. -/
  written : List Elem → String

end GrammarEngine
