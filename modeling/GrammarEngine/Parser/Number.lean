import GrammarEngine.Media.Text
import GrammarEngine.Parser.Basic
import GrammarEngine.Pattern.Reader
import GrammarEngine.Value.Decimal

/-!
# Numbers in text

Digits, integers and decimal fractions, in ASCII. Each is recognised by a pattern and yields its
text; `digit`, `integer` and `float` yield the number.

The three patterns are compiled once, for all grammars, when the first parser that needs them is
made. Here they are taken as compiled; a factory that is the first to need one lists it among the
patterns it compiles.
-/

namespace GrammarEngine.Number

/-! ## Patterns -/

/-- `[0-9]` -/
def digitRegex : Regex := .set .asciiDigit

/-- `[+-]?` -/
def signRegex : Regex := .opt true (.set (.union (.single '+') (.single '-')))

/-- `(?:0|[1-9][0-9]*)` -/
def naturalRegex : Regex :=
  .alt (.set (.single '0')) (.cat (.set (.range '1' '9')) (.star true digitRegex))

/-- `(?:\.[0-9]+)?` -/
def fractionRegex : Regex := .opt true (.cat (.set (.single '.')) (.plus true digitRegex))

def digitPattern : Pattern := .ofRegex "^(?:[0-9])" (.cat (.look .start) digitRegex)

def integerPattern : Pattern :=
  .ofRegex "^(?:[+-]?(?:0|[1-9][0-9]*))" (.cat (.look .start) (.cat signRegex naturalRegex))

def floatPattern : Pattern :=
  .ofRegex "^(?:[+-]?(?:0|[1-9][0-9]*)(?:\\.[0-9]+)?)"
    (.cat (.look .start) (.cat signRegex (.cat naturalRegex fractionRegex)))

theorem compile_digit : Pattern.compile "[0-9]" = .ok digitPattern := rfl

theorem compile_integer : Pattern.compile "[+-]?(?:0|[1-9][0-9]*)" = .ok integerPattern := rfl

theorem compile_float :
    Pattern.compile "[+-]?(?:0|[1-9][0-9]*)(?:\\.[0-9]+)?" = .ok floatPattern := rfl

/-! ## Parsers -/

/-- A pattern with its own message. -/
def matching (p : Pattern) (message : String) : Parser text :=
  .choice (.terminal (.pattern p)) (.fail message)

/-- The text of one digit. -/
def digitText : Parser text := matching digitPattern "Digit expected"

/-- The sum of the digits of a text. -/
def digitSum (s : String) : Int64 :=
  Int64.ofNat ((s.toList.filter Char.isDigit).foldl (fun n d => n + Decimal.digit d) 0)

/-- One digit. -/
def digit : Parser text :=
  digitText.map fun
    | .str s => .int (digitSum s)
    | v => v

/-- The text of an integer. -/
def integerText : Parser text := matching integerPattern "Integer expected"

/-- An integer of 64 bits. What is out of range fails after its digits. -/
def integer : Parser text :=
  integerText.tryMap fun v _ =>
    match Decimal.int64? v.text.toList with
    | some n => .succeed (.int n)
    | none => .fail "Integer out of range"

/-- The text of a decimal fraction. -/
def floatText : Parser text := matching floatPattern "Number expected"

/-- The binary64 number nearest to a decimal fraction. -/
def float : Parser text :=
  floatText.tryMap fun v _ =>
    match Decimal.binary64? v.text.toList with
    | some x => .succeed (.float x)
    | none => .fail "Number expected"

end GrammarEngine.Number
