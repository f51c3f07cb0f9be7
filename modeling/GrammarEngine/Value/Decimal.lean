import GrammarEngine.Value.Binary64

/-!
# Reading decimal numbers

A decimal literal is an optional sign and ASCII digits, for binary64 also with a point between
digits. Whole numbers are read exactly and then checked against the range of 64 bits.
-/

namespace GrammarEngine.Decimal

/-- The value of an ASCII digit. -/
def digit (c : Char) : Nat := c.toNat - '0'.toNat

/-- The value of a row of digits after those that gave `n`. -/
def value (n : Nat) (ds : List Char) : Nat := ds.foldl (fun n d => 10 * n + digit d) n

/-- The value of one or more ASCII digits. -/
def natural? (ds : List Char) : Option Nat :=
  if ds.isEmpty || !ds.all Char.isDigit then none else some (value 0 ds)

/-- The sign, true for minus, and what follows it. -/
def signed : List Char → Bool × List Char
  | '-' :: rest => (true, rest)
  | '+' :: rest => (false, rest)
  | rest => (false, rest)

/-- The integer written by the literal. -/
def integer? (s : List Char) : Option Int :=
  (natural? (signed s).2).map fun n => if (signed s).1 then -(n : Int) else n

/-- The integer as a word, if it fits. -/
def word? (n : Int) : Option Int64 :=
  if Int64.minValue.toInt ≤ n ∧ n ≤ Int64.maxValue.toInt then some (Int64.ofInt n) else none

/-- The word written by the literal, if it is one and fits. -/
def int64? (s : List Char) : Option Int64 := integer? s >>= word?

/-- The binary64 number nearest to the literal: digits, and after a point more digits. -/
def binary64? (s : List Char) : Option Binary64 :=
  let (negative, body) := signed s
  let whole := body.takeWhile Char.isDigit
  match body.dropWhile Char.isDigit with
  | [] => (natural? whole).map fun n => .ofRatio negative n 1
  | '.' :: fraction =>
    match natural? whole, natural? fraction with
    | some _, some _ =>
      some (.ofRatio negative (value 0 (whole ++ fraction)) (Nat.pow 10 fraction.length))
    | _, _ => none
  | _ => none

end GrammarEngine.Decimal
