import GrammarEngine.Proofs.Integers
import GrammarEngine.Value.Arithmetic

/-!
# Arithmetic expressions

The expressions of a calculator as syntax trees, with what they write and what they mean:

    expr   ::= term { ("+" | "-") term }
    term   ::= factor { ("*" | "/") factor }
    factor ::= integer | "(" expr ")"

A row of operations of one level is a tree that grows to the left, so that to work it off from the
left is to go up the tree. The meaning is over the integers, and there is none as soon as a literal
or a result is no number of 64 bits or a division is by zero, wherever in the tree.

`Chain` is the other view of a row, as a first operand and a list of operations on it, in which a
parser comes upon it. `chain_fold` says that `Arithmetic.chain` computes its meaning.
-/

namespace GrammarEngine.Calculator

open Arithmetic

/-! ## Arithmetic of 64 bits -/

/-- The number, if it is one of 64 bits. -/
def within (n : Int) : Option Int := if -2 ^ 63 ≤ n ∧ n < 2 ^ 63 then some n else none

/-- The result of an operation, if there is one of 64 bits. Division goes toward zero. -/
def checked : Op → Int → Int → Option Int
  | .add, a, b => within (a + b)
  | .sub, a, b => within (a - b)
  | .mul, a, b => within (a * b)
  | .div, a, b => if b = 0 then none else within (a.tdiv b)

theorem word?_toInt (n : Int) : (Decimal.word? n).map Int64.toInt = within n := by
  unfold Decimal.word? within
  rw [Int64.toInt_minValue, Int64.toInt_maxValue]
  by_cases hn : -2 ^ 63 ≤ n ∧ n < 2 ^ 63
  · rw [if_pos hn, if_pos ⟨hn.1, by omega⟩, Option.map_some, Int64.toInt_ofInt_of_le hn.1 hn.2]
  · rw [if_neg hn, if_neg (by omega)]
    rfl

/-- What is worked off is the exact result, where there is one. -/
theorem apply_toInt (op : Op) (a b : Int64) :
    (op.apply a b).toOption.map Int64.toInt = checked op a.toInt b.toInt := by
  have hexact : ¬ (op = .div ∧ b = 0) →
      (op.apply a b).toOption.map Int64.toInt = within (op.exact a.toInt b.toInt) := by
    intro hz
    rw [← word?_toInt]
    unfold Op.apply Decimal.word?
    rw [if_neg hz]
    dsimp only
    split <;> rfl
  cases op with
  | add | sub | mul => exact hexact (by simp)
  | div =>
    show _ = if b.toInt = 0 then none else within (a.toInt.tdiv b.toInt)
    have hb : b.toInt = 0 ↔ b = 0 := Int64.toInt_inj (y := 0)
    by_cases hz : b = 0
    · rw [if_pos (hb.2 hz)]
      unfold Op.apply
      rw [if_pos ⟨rfl, hz⟩]
      rfl
    · rw [if_neg (mt hb.1 hz)]
      exact hexact fun h => hz h.2

/-! ## Syntax trees -/

mutual

/-- `integer | "(" expr ")"` -/
inductive Factor
  | literal (l : Number.Literal)
  | group (e : Expr)

/-- `factor { ("*" | "/") factor }` -/
inductive Term
  | factor (f : Factor)
  | mul (t : Term) (f : Factor)
  | div (t : Term) (f : Factor)

/-- `term { ("+" | "-") term }` -/
inductive Expr
  | term (t : Term)
  | add (e : Expr) (t : Term)
  | sub (e : Expr) (t : Term)

end

mutual

/-- The text of a factor. -/
def Factor.text : Factor → List Char
  | .literal l => l.text
  | .group e => '(' :: e.text ++ [')']

/-- The text of a term. -/
def Term.text : Term → List Char
  | .factor f => f.text
  | .mul t f => t.text ++ '*' :: f.text
  | .div t f => t.text ++ '/' :: f.text

/-- The text of an expression. -/
def Expr.text : Expr → List Char
  | .term t => t.text
  | .add e t => e.text ++ '+' :: t.text
  | .sub e t => e.text ++ '-' :: t.text

end

mutual

/-- The meaning of a factor. -/
def Factor.eval : Factor → Option Int
  | .literal l => within l.value
  | .group e => e.eval

/-- The meaning of a term. -/
def Term.eval : Term → Option Int
  | .factor f => f.eval
  | .mul t f => do checked .mul (← t.eval) (← f.eval)
  | .div t f => do checked .div (← t.eval) (← f.eval)

/-- The meaning of an expression. -/
def Expr.eval : Expr → Option Int
  | .term t => t.eval
  | .add e t => do checked .add (← e.eval) (← t.eval)
  | .sub e t => do checked .sub (← e.eval) (← t.eval)

end

/-! ## Chains -/

/-- The sign of an operation, as a token. -/
def sign : Op → Sign
  | .add => .plus
  | .sub => .minus
  | .mul => .star
  | .div => .slash

/-- The character of an operation. -/
def symbol : Op → Char
  | .add => '+'
  | .sub => '-'
  | .mul => '*'
  | .div => '/'

theorem toList_sign (op : Op) : (sign op).text.toList = [symbol op] := by
  cases op <;> rfl

theorem symbol_inj {a b : Op} (h : symbol a = symbol b) : a = b := by
  cases a <;> cases b <;> first | rfl | cases h

theorem op?_sign (op : Op) : op? (Value.token (.sign (sign op))).text = some op := by
  cases op <;> rfl

/-- A first operand and operations on it, each with its second operand. -/
structure Chain (α : Type) where
  first : α
  steps : List (Op × α)

section Chain

variable {α : Type} (write : α → List Char) (mean : α → Option Int)

/-- What operations write, with `write` for their operands. -/
def stepsText (steps : List (Op × α)) : List Char := steps.flatMap fun s => symbol s.1 :: write s.2

/-- What operations make of a number, with `mean` for their operands. -/
def stepsEval (a : Int) (steps : List (Op × α)) : Option Int :=
  steps.foldlM (fun a s => do checked s.1 a (← mean s.2)) a

/-- An operand without a meaning leaves the operations without one. -/
theorem stepsEval_eq_none {steps : List (Op × α)} (h : ∃ s ∈ steps, mean s.2 = none) (a : Int) :
    stepsEval mean a steps = none := by
  unfold stepsEval
  induction steps generalizing a with
  | nil =>
    obtain ⟨s, hs, -⟩ := h
    cases hs
  | cons s steps ih =>
    obtain ⟨s', hs', hnone⟩ := h
    rw [List.foldlM_cons]
    rcases List.mem_cons.1 hs' with rfl | hs'
    · rw [hnone]
      rfl
    · exact Option.bind_eq_none_iff.2 fun a' _ => ih ⟨s', hs', hnone⟩ a'

namespace Chain

/-- One operation more. -/
def snoc (ch : Chain α) (op : Op) (x : α) : Chain α := ⟨ch.first, ch.steps ++ [(op, x)]⟩

def text (ch : Chain α) : List Char := write ch.first ++ stepsText write ch.steps

def eval (ch : Chain α) : Option Int := do stepsEval mean (← mean ch.first) ch.steps

theorem text_snoc (ch : Chain α) (op : Op) (x : α) :
    (ch.snoc op x).text write = ch.text write ++ symbol op :: write x := by
  simp [Chain.text, snoc, stepsText]

theorem eval_snoc (ch : Chain α) (op : Op) (x : α) :
    (ch.snoc op x).eval mean = (do checked op (← ch.eval mean) (← mean x)) := by
  simp [Chain.eval, snoc, stepsEval, Option.bind_assoc]

/-- All operands of the chain have a property, and all its operations are one of two. -/
structure All (P : α → Prop) (a b : Op) (ch : Chain α) : Prop where
  first : P ch.first
  steps : ∀ s ∈ ch.steps, (s.1 = a ∨ s.1 = b) ∧ P s.2

theorem All.imp {P Q : α → Prop} {a b : Op} {ch : Chain α} (h : ch.All P a b)
    (hPQ : ∀ x, P x → Q x) : ch.All Q a b :=
  ⟨hPQ _ h.first, fun s hs => ⟨(h.steps s hs).1, hPQ _ (h.steps s hs).2⟩⟩

theorem All.snoc {P : α → Prop} {a b op : Op} {ch : Chain α} {x : α} (h : ch.All P a b)
    (hop : op = a ∨ op = b) (hx : P x) : (ch.snoc op x).All P a b := by
  refine ⟨h.first, fun s hs => ?_⟩
  rcases List.mem_append.1 hs with hs | hs
  · exact h.steps s hs
  · rw [List.mem_singleton.1 hs]
    exact ⟨hop, hx⟩

end Chain

end Chain

def Term.chain : Term → Chain Factor
  | .factor f => ⟨f, []⟩
  | .mul t f => t.chain.snoc .mul f
  | .div t f => t.chain.snoc .div f

def Expr.chain : Expr → Chain Term
  | .term t => ⟨t, []⟩
  | .add e t => e.chain.snoc .add t
  | .sub e t => e.chain.snoc .sub t

theorem Term.text_chain : ∀ t : Term, t.chain.text Factor.text = t.text
  | .factor f => by simp [chain, Chain.text, stepsText, Term.text]
  | .mul t f => by rw [chain, Chain.text_snoc, text_chain t, Term.text]; rfl
  | .div t f => by rw [chain, Chain.text_snoc, text_chain t, Term.text]; rfl

theorem Expr.text_chain : ∀ e : Expr, e.chain.text Term.text = e.text
  | .term t => by simp [chain, Chain.text, stepsText, Expr.text]
  | .add e t => by rw [chain, Chain.text_snoc, text_chain e, Expr.text]; rfl
  | .sub e t => by rw [chain, Chain.text_snoc, text_chain e, Expr.text]; rfl

theorem Term.eval_chain : ∀ t : Term, t.chain.eval Factor.eval = t.eval
  | .factor f => by simp [chain, Chain.eval, stepsEval, Term.eval]
  | .mul t f => by rw [chain, Chain.eval_snoc, eval_chain t, Term.eval]
  | .div t f => by rw [chain, Chain.eval_snoc, eval_chain t, Term.eval]

theorem Expr.eval_chain : ∀ e : Expr, e.chain.eval Term.eval = e.eval
  | .term t => by simp [chain, Chain.eval, stepsEval, Expr.eval]
  | .add e t => by rw [chain, Chain.eval_snoc, eval_chain e, Expr.eval]
  | .sub e t => by rw [chain, Chain.eval_snoc, eval_chain e, Expr.eval]

/-! ## Working off a chain -/

/-- The value of an operation: its sign and the number of its operand. -/
def StepValue {α : Type} (eval : α → Option Int) (s : Op × α) (v : Value) : Prop :=
  ∃ b : Int64, eval s.2 = some b.toInt ∧ v = .pair (.token (.sign (sign s.1))) (.int b)

/-- **A chain of values is worked off to the meaning of the chain.** -/
theorem chain_fold {α : Type} {eval : α → Option Int} {steps : List (Op × α)} {vs : List Value}
    (h : List.Forall₂ (StepValue eval) steps vs) (a : Int64) :
    (Arithmetic.chain (.pair (.int a) (.list vs))).toOption.map Int64.toInt =
      stepsEval eval a.toInt steps := by
  show (vs.foldlM step a).toOption.map Int64.toInt = _
  induction h generalizing a with
  | nil => rfl
  | @cons s v steps vs hv _ ih =>
    obtain ⟨b, hb, rfl⟩ := hv
    have happly := apply_toInt s.1 a b
    have hstep : step a (.pair (.token (.sign (sign s.1))) (.int b)) = s.1.apply a b := by
      unfold step
      dsimp only
      rw [op?_sign]
    unfold stepsEval at ih ⊢
    rw [List.foldlM_cons, List.foldlM_cons, hstep, hb]
    show _ = (checked s.1 a.toInt b.toInt).bind _
    rcases happ : s.1.apply a b with e | w
    · rw [happ] at happly
      rw [← happly]
      rfl
    · rw [happ] at happly
      rw [← happly]
      exact ih w

end GrammarEngine.Calculator
