import GrammarEngine.Text.Digit
import GrammarEngine.Text.Letter
import GrammarEngine.Text.Mark
import GrammarEngine.Text.Sign

/-!
# Word characters

A word is made of letters, marks, decimal digits, connecting punctuation such as `_`, and the two
join controls.
-/

namespace GrammarEngine.Text

/-- The property Join_Control. -/
def isJoinControl (c : Char) : Bool := c.toNat == 0x200C || c.toNat == 0x200D

/-- A character that a word may hold. The plain letters and digits are tried first. -/
def isWord (c : Char) : Bool :=
  c.isAlphanum || isLetter c || isDigit c || isMark c || inRanges c.toNat connectorRanges ||
    isJoinControl c

end GrammarEngine.Text
