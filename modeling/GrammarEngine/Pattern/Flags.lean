import GrammarEngine.Regex.Basic

/-!
# Flags of a pattern

What the letters of `(?i)` and its like stand for, and the sets and conditions that depend on them.
-/

namespace GrammarEngine

/-- Why a text is no pattern. -/
inductive PatternError
  /-- A repetition has nothing to repeat. -/
  | missingOperand
  /-- The count of a repetition is not of the form `n`, `n,` or `n,m`. -/
  | badCount
  /-- A count, or a code point, is too large. -/
  | outOfRange
  /-- A repetition, or a range of characters, ends before it begins. -/
  | reversed
  | unopenedGroup
  | unclosedGroup
  | unclosedBracket
  /-- Conditions on the text around a match are not supported. -/
  | lookAround
  /-- References to earlier groups are not supported. -/
  | backReference
  | badFlag
  | repeatedFlag
  | badName
  | repeatedName
  | badEscape
  | unfinishedEscape
  | unknownProperty
  /-- A bracket holds what is no character, where one is needed. -/
  | badMember
  /-- The text is not in Unicode mode, as this needs. -/
  | needsUnicode
  /-- The pattern is well formed, but its groups and repetitions are nested too deeply. -/
  | tooDeep
  /-- The pattern is well formed, but its repetitions are too large together. -/
  | tooLarge
deriving DecidableEq

/-- The flags in force. -/
structure Flags where
  /-- Letters stand for both cases. -/
  caseless : Bool := false
  /-- `^` and `$` stand at the ends of lines. -/
  multiline : Bool := false
  /-- `.` stands for line ends too. -/
  dotAll : Bool := false
  /-- Repetitions are lazy, and greedy with a question mark. -/
  swapGreed : Bool := false
  /-- Classes hold all characters of Unicode. -/
  unicode : Bool := true
  /-- Lines may end in carriage returns. -/
  crlf : Bool := false
  /-- Blanks and comments are skipped. -/
  verbose : Bool := false
deriving DecidableEq

namespace Flags

/-- Switch the flag with this letter. -/
def switch? (f : Flags) (on : Bool) : Char → Option Flags
  | 'i' => some { f with caseless := on }
  | 'm' => some { f with multiline := on }
  | 's' => some { f with dotAll := on }
  | 'U' => some { f with swapGreed := on }
  | 'u' => some { f with unicode := on }
  | 'R' => some { f with crlf := on }
  | 'x' => some { f with verbose := on }
  | _ => none

/-- Both cases of a set, if letters stand for both. -/
def folded (f : Flags) (s : CharSet) : CharSet := if f.caseless then .fold s else s

/-- The set of all else. -/
def negated (f : Flags) (negate : Bool) (s : CharSet) : Except PatternError CharSet :=
  if negate then (if f.unicode then .ok (.compl s) else .error .needsUnicode) else .ok s

/-- The characters that words are made of. -/
def word (f : Flags) : CharSet := if f.unicode then .property .word else .asciiWord

/-- The set that a letter after a backslash is short for. -/
def shorthand? (f : Flags) : Char → Option CharSet
  | 'd' => some (if f.unicode then .property (.category .nd) else .asciiDigit)
  | 's' => some (if f.unicode then .property .blank else .asciiBlank)
  | 'w' => some f.word
  | _ => none

/-- The set of `.`. -/
def dot (f : Flags) : Except PatternError CharSet :=
  if !f.unicode then .error .needsUnicode
  else if f.dotAll then .ok (.property .any)
  else if f.crlf then .ok (.compl (.ofString "\r\n"))
  else .ok (.compl (.single '\n'))

/-- The condition of `^`. -/
def caret (f : Flags) : Look := if f.multiline then .lineStart f.crlf else .start

/-- The condition of `$`. -/
def dollar (f : Flags) : Look := if f.multiline then .lineStop f.crlf else .stop

end Flags

end GrammarEngine
