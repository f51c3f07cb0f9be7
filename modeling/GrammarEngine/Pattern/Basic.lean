import GrammarEngine.Parser.Record
import GrammarEngine.Pattern.Flags
import GrammarEngine.Regex.Match

/-!
# Patterns

A pattern is compiled from its text, anchored so that it matches only at the beginning: unless the
text begins with `^` already, it is wrapped into a group after one.

What a text is read as, and how it is searched for, is the business of an engine. Nothing of it is
known here: a compiled pattern is a text and a search.
-/

namespace GrammarEngine

/-- A compiled pattern: the text it was compiled from, and where it is found in a text. -/
structure Pattern where
  text : String
  find : List Char → Option Span

/-- An engine for regular expressions. -/
structure Engine where
  /-- The expression that a text is read as. -/
  read : String → Except PatternError Regex
  /-- The match of an expression in a text that is found first. -/
  find : Regex → List Char → Option Span

namespace Pattern

/-- The text of the pattern that matches only at the beginning. -/
def anchored (p : String) : String := if p.toList.head? == some '^' then p else "^(?:" ++ p ++ ")"

/-- The record of a compilation. -/
def compiling (p : String) : Record := .compiling (anchored p)

/-- The number of characters of the match that is found at the beginning of the text. -/
def matchLength (p : Pattern) (text : List Char) : Option Nat :=
  ((p.find text).filter (·.start == 0)).map (·.stop)

/-- What is said where a pattern does not match. -/
def expectation (p : Pattern) : String := "No match for regex \"" ++ p.text ++ "\""

end Pattern

/-- Compile a pattern. -/
def Engine.compile (E : Engine) (p : String) : Except PatternError Pattern := do
  let r ← E.read (Pattern.anchored p)
  return ⟨Pattern.anchored p, E.find r⟩

end GrammarEngine
