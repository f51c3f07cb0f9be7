import GrammarEngine.Value.Basic

/-!
# Chains of operations

A chain is a first number and pairs of an operator and a number. It is worked off from the left in
64-bit arithmetic, where a result that does not fit is an error.
-/

namespace GrammarEngine

/-- Why a chain has no result. -/
inductive ArithmeticError
  | overflow
  | divisionByZero
  /-- The value is no chain. -/
  | malformed
deriving DecidableEq

def ArithmeticError.message : ArithmeticError → String
  | .overflow => "Arithmetic overflow"
  | .divisionByZero => "Division by zero"
  | .malformed => "Bad fold"

namespace Arithmetic

/-- The operations of a chain. -/
inductive Op
  | add | sub | mul | div
deriving DecidableEq

def op? : String → Option Op
  | "+" => some .add
  | "-" => some .sub
  | "*" => some .mul
  | "/" => some .div
  | _ => none

/-- The result over the integers; division goes toward zero. -/
def Op.exact : Op → Int → Int → Int
  | .add, a, b => a + b
  | .sub, a, b => a - b
  | .mul, a, b => a * b
  | .div, a, b => a.tdiv b

/-- The result, if it is a number of 64 bits. -/
def Op.apply (op : Op) (a b : Int64) : Except ArithmeticError Int64 :=
  if op = .div ∧ b = 0 then .error .divisionByZero
  else
    let r := op.exact a.toInt b.toInt
    if Int64.minValue.toInt ≤ r ∧ r ≤ Int64.maxValue.toInt then .ok (.ofInt r) else .error .overflow

/-- Work off one operator and number. -/
def step (acc : Int64) : Value → Except ArithmeticError Int64
  | .pair op (.int b) =>
    match op? op.text with
    | some op => op.apply acc b
    | none => .error .malformed
  | _ => .error .malformed

/-- The result of a chain. -/
def chain : Value → Except ArithmeticError Int64
  | .pair (.int a) (.list steps) => steps.foldlM step a
  | _ => .error .malformed

end Arithmetic

end GrammarEngine
