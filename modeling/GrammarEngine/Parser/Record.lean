import GrammarEngine.Text.Quoted

/-!
# Log records

What a run notes down on its way, for whoever follows it.
-/

namespace GrammarEngine

/-- How much a record matters. -/
inductive Level
  | debug | trace
deriving DecidableEq

/-- The part of the engine that a record comes from. -/
inductive Topic
  /-- A cell is built. -/
  | cell
  /-- A run over a whole input leaves some of it. -/
  | whole
  /-- The first of two alternatives fails. -/
  | choice
  /-- The left of two tagged alternatives fails. -/
  | tagged
  /-- A pattern is compiled. -/
  | pattern
deriving DecidableEq

/-- A line of the log. -/
structure Record where
  level : Level
  topic : Topic
  message : String
deriving DecidableEq

namespace Record

/-- A cell is used for the first time. -/
def building : Record := ⟨.debug, .cell, "building lazily referenced parser"⟩

/-- A run over a whole input ends before the input does. -/
def leftover (length offset : Nat) : Record :=
  ⟨.debug, .whole, s!"parse succeeded with {length} units left at offset {offset}"⟩

/-- The first alternative fails and the second is tried. -/
def fallback (offset : Nat) (message : String) : Record :=
  ⟨.trace, .choice, s!"first alternative failed at offset {offset}: {message}"⟩

/-- The left alternative fails and the right one is tried. -/
def leftFallback (offset : Nat) (message : String) : Record :=
  ⟨.trace, .tagged, s!"left alternative failed at offset {offset}: {message}"⟩

/-- A pattern is compiled. -/
def compiling (pattern : String) : Record :=
  ⟨.debug, .pattern, "compiling regex terminal " ++ Text.quoted pattern⟩

end Record

end GrammarEngine
