/-!
# Double-precision numbers as bits

A number of the IEEE 754 format binary64 is kept as its 64 bits, so that every operation on it is
arithmetic on natural numbers. `ofRatio` rounds a quotient to the nearest such number, a half to the
even neighbour, and what is too large to infinity.
-/

namespace GrammarEngine

/-- A number of the format binary64. -/
structure Binary64 where
  bits : UInt64
deriving DecidableEq, Inhabited

namespace Binary64

/-- The bits of positive infinity. -/
def infinityBits : Nat := 0x7FF0000000000000

/-- The bit of the sign. -/
def signBit : Nat := 0x8000000000000000

/-- The leading bit of a significand, which is not among the bits. -/
def hiddenBit : Nat := 0x10000000000000

/-- The bits without the sign. -/
def magnitude (x : Binary64) : Nat := x.bits.toNat % signBit

def isNaN (x : Binary64) : Bool := infinityBits < x.magnitude

def isZero (x : Binary64) : Bool := x.magnitude == 0

/-- Equality of numbers: the two zeros are equal, and nothing equals a NaN. -/
def equal (x y : Binary64) : Bool :=
  !x.isNaN && !y.isNaN && (x.bits == y.bits || (x.isZero && y.isZero))

/-- The sixteen lower-case hexadecimal digits of the bits. -/
def hex (x : Binary64) : String :=
  let digits := Nat.toDigits 16 x.bits.toNat
  String.ofList (List.replicate (16 - digits.length) '0' ++ digits)

/-- The quotient rounded to a natural number, a half to the even one. -/
def roundDiv (num den : Nat) : Nat :=
  let q := num / den
  let r := num % den
  if den < 2 * r || (2 * r == den && q % 2 == 1) then q + 1 else q

/-- Numerator and denominator of `num / den` in units of `2 ^ e`. -/
def scale (num den : Nat) (e : Int) : Nat × Nat :=
  if 0 ≤ e then (num, den <<< e.toNat) else (num <<< (-e).toNat, den)

/-- The exponent of the last binary place of `num / den`: fifty-three places are kept, and none
below `2 ^ -1074`. -/
def lastPlace (num den : Nat) : Int :=
  let e : Int := (num.log2 : Int) - (den.log2 : Int) - 52
  let (n, d) := scale num den e
  max (if n < hiddenBit * d then e - 1 else e) (-1074)

/-- The bits of the number nearest to `num / den`, which is positive. Carrying out of the
significand moves to the next exponent, and out of the largest one to infinity. -/
def nearestBits (num den : Nat) : Nat :=
  let e := lastPlace num den
  let (n, d) := scale num den e
  let q := roundDiv n d
  let bits := if q < hiddenBit then q else (e + 1075).toNat * hiddenBit + (q - hiddenBit)
  min bits infinityBits

/-- The number nearest to `num / den` with the given sign. -/
def ofRatio (negative : Bool) (num den : Nat) : Binary64 :=
  let bits := if num == 0 then 0 else nearestBits num den
  ⟨UInt64.ofNat (if negative then bits + signBit else bits)⟩

end Binary64

end GrammarEngine
