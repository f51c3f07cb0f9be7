import GrammarEngine.Text.Blank
import GrammarEngine.Text.CaseFold
import GrammarEngine.Text.Category
import GrammarEngine.Text.Script

/-!
# Sets of characters

A set of characters is written with ranges, properties and the operations on sets; `mem` says which
characters are in it. Folding adds to a set all characters that differ from one of its own only in
case.
-/

namespace GrammarEngine

/-- A property of characters. -/
inductive CharProperty
  | any | ascii | blank | joinControl | letter | lower | upper | word
  | category (k : Text.Category)
  | script (s : Text.Script)
deriving DecidableEq

def CharProperty.holds : CharProperty → Char → Bool
  | .any, _ => true
  | .ascii, c => c.toNat < 0x80
  | .blank, c => Text.isBlank c
  | .joinControl, c => Text.isJoinControl c
  | .letter, c => Text.isLetter c
  | .lower, c => Text.isLower c
  | .upper, c => Text.isUpper c
  | .word, c => Text.isWord c
  | .category k, c => k.has c
  | .script s, c => s.has c

/-- A set of characters. -/
inductive CharSet
  | empty
  /-- The characters from `lo` to `hi`, both included. -/
  | range (lo hi : Char)
  | property (p : CharProperty)
  | union (s t : CharSet)
  | inter (s t : CharSet)
  | diff (s t : CharSet)
  /-- What is in exactly one of the two. -/
  | symmDiff (s t : CharSet)
  | compl (s : CharSet)
  /-- What differs from a member at most in case. -/
  | fold (s : CharSet)
deriving DecidableEq

namespace CharSet

/-- Whether the character is in the set. -/
def mem : CharSet → Char → Bool
  | empty, _ => false
  | range lo hi, c => lo.toNat ≤ c.toNat && c.toNat ≤ hi.toNat
  | property p, c => p.holds c
  | union s t, c => s.mem c || t.mem c
  | inter s t, c => s.mem c && t.mem c
  | diff s t, c => s.mem c && !t.mem c
  | symmDiff s t, c => s.mem c != t.mem c
  | compl s, c => !s.mem c
  | fold s, c => (Text.caseOrbit c).any s.mem

/-- The set of one character. -/
def single (c : Char) : CharSet := range c c

/-- The union, without an empty left side. -/
def join : CharSet → CharSet → CharSet
  | empty, t => t
  | s, t => union s t

/-- The union of several sets. -/
def unions (ss : List CharSet) : CharSet := ss.foldl join empty

/-- The characters of a text. -/
def ofString (s : String) : CharSet := unions (s.toList.map single)

/-! ## Named sets -/

/-- The digits from `0` to `9`. -/
def asciiDigit : CharSet := range '0' '9'

def asciiLower : CharSet := range 'a' 'z'

def asciiUpper : CharSet := range 'A' 'Z'

def asciiLetter : CharSet := union asciiLower asciiUpper

def asciiAlphanum : CharSet := union asciiDigit asciiLetter

/-- The ASCII digits of numbers to the base 16. -/
def asciiHexDigit : CharSet := unions [asciiDigit, range 'a' 'f', range 'A' 'F']

/-- The ASCII characters of words. -/
def asciiWord : CharSet := union asciiAlphanum (single '_')

/-- Tab, line feed, vertical tab, form feed, carriage return and space. -/
def asciiBlank : CharSet := union (range '\t' '\r') (single ' ')

end CharSet

end GrammarEngine
