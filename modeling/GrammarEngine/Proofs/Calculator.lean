import GrammarEngine.Proofs.Expressions
import GrammarEngine.Proofs.Termination
import Mathlib.Tactic.IntervalCases

/-!
# The calculator

The grammar of arithmetic expressions evaluates every expression: on its text, a run to the end
yields what it means, and fails if it means nothing (`parseAll_expr`).

Where something has no meaning, the parser of it may still yield a value, of a shorter reading: the
loop over the operations drops a failed last round and the rest is left to whoever goes on. `Reads`
keeps this apart. It says of a parser in front of a text that it yields the meaning of the text just
after it, or, where there is none, that it fails or ends before one of the operators.

1. A literal out of range fails after its digits, where no parenthesis opens (`literal_reads`).
2. An expression in parentheses that ends before an operator does not find the parenthesis closed
   (`group_reads`), so a factor without a meaning fails.
3. A chain reads its operands as far as they have a meaning, ends before an operator of its own or
   where an operand has ended, and is worked off to its meaning (`chained_reads`).
4. By induction over the tree everything is read so (`Factor.reads`), and at the end of the text no
   operator is left.
-/

namespace GrammarEngine.Calculator

open Outcome Cursor Run Arithmetic

/-! ## The grammar -/

/-- A text that stands as it is. -/
def literal (s : String) : Parser text := .terminal (.literal s)

/-- The sign of an operation. -/
def operator (op : Op) : Parser text :=
  (literal (sign op).text).map fun _ => .token (.sign (sign op))

/-- One of two operators and its second operand. -/
def operation (a b : Op) (operand : Parser text) : Parser text :=
  .both (.choice (operator a) (operator b)) operand

/-- An operand and operations of one level on it, worked off once all are read. -/
def chained (a b : Op) (first next : Parser text) : Parser text :=
  .wrapped (.tryMap (.both first (.many (operation a b next))) fun v c => Check.chain.parser v c)

/-- An integer, or an expression in parentheses through the cell. -/
def factor (k : Cell) : Parser text :=
  .wrapped (.choice Number.integer (.first (.second (literal "(") (.cell k)) (literal ")")))

def term (k : Cell) : Parser text := chained .mul .div (factor k) (factor (k + 1))

def expr : Parser text := chained .add .sub (term 0) (term 2)

/-- Each of the four factors of an expression has a cell of its own for the expression inside it. -/
def grammar : Grammar text := ⟨Array.replicate 4 (.yields expr)⟩

theorem target_eq {k : Cell} (hk : k < 4) : grammar.target k = expr := by
  interval_cases k <;> rfl

/-! ## Signs -/

section Signs

variable {c : Cursor text} {s : String} {ch : Char} {rest : List Char}
  (enter : Cell → Cursor text → Run text Value)

theorem literal_stands (hs : s.toList = [ch]) (hc : c.Before (ch :: rest)) :
    ((literal s).evalWith enter c).Ensures (· = .success (.str s) (c.past [ch])) := by
  have h : text.recognise (.literal s) (ch :: rest) = some (.str s, 1) := by
    rw [recognise_character hs]
    exact if_pos rfl
  exact (hc.terminal h enter).ensures

theorem literal_fails (hs : s.toList = [ch]) (hc : c.remaining.head? ≠ some ch) :
    ((literal s).evalWith enter c).Ensures
      (· = .failure ⟨TextTerminal.expectation (.literal s), c⟩) := by
  have h : text.recognise (.literal s) c.remaining = none := by
    rw [recognise_character hs, if_neg hc]
  exact (terminal_fails h enter).ensures

theorem operator_stands (op : Op) (hc : c.Before (symbol op :: rest)) :
    ((operator op).evalWith enter c).Ensures
      (· = .success (.token (.sign (sign op))) (c.past [symbol op])) :=
  (literal_stands enter (toList_sign op) hc).after_success (ensures_success rfl)

theorem operator_fails (op : Op) (hc : c.remaining.head? ≠ some (symbol op)) :
    ((operator op).evalWith enter c).Ensures
      (· = .failure ⟨TextTerminal.expectation (.literal (sign op).text), c⟩) :=
  (literal_fails enter (toList_sign op) hc).andThen_failure

variable {a b : Op}

/-- Either of two operators stands where its sign does. -/
theorem operators_stand {op : Op} (hop : op = a ∨ op = b) (hc : c.Before (symbol op :: rest)) :
    ((Parser.choice (operator a) (operator b)).evalWith enter c).Ensures
      (· = .success (.token (.sign (sign op))) (c.past [symbol op])) := by
  by_cases ha : op = a
  · subst ha
    exact (operator_stands enter op hc).after_success (ensures_success rfl)
  · obtain rfl : op = b := hop.resolve_left ha
    have hne : c.remaining.head? ≠ some (symbol a) := by
      rw [hc.remaining]
      exact fun h => ha (symbol_inj (Option.some.inj h))
    exact (operator_fails enter a hne).after_failure ((operator_stands enter op hc).noting _)

theorem operators_fail (ha : c.remaining.head? ≠ some (symbol a))
    (hb : c.remaining.head? ≠ some (symbol b)) :
    ∃ e, ((Parser.choice (operator a) (operator b)).evalWith enter c).Ensures (· = .failure e) :=
  ⟨_, (operator_fails enter a ha).after_failure ((operator_fails enter b hb).noting _)⟩

end Signs

/-! ## Reading -/

/-- The cursor stands before one of the characters. -/
def Stops (stops : List Char) (d : Cursor text) : Prop := ∃ ch ∈ stops, d.remaining.head? = some ch

theorem Stops.head_mem {stops : List Char} {d : Cursor text} (h : Stops stops d)
    (after : List Char) : ∀ ch ∈ d.remaining.head?, ch ∈ stops ++ after := by
  obtain ⟨ch, hch, hd⟩ := h
  rw [hd]
  rintro _ ⟨⟩
  exact List.mem_append_left after hch

theorem Stops.symbols {stops : List Char} {d : Cursor text} (h : Stops stops d) {a b : Op} :
    Stops (symbol a :: symbol b :: stops) d := by
  obtain ⟨ch, hch, hd⟩ := h
  exact ⟨ch, List.mem_cons_of_mem _ (List.mem_cons_of_mem _ hch), hd⟩

/-- What is yielded in front of a text that means `r`: its number, after the text, or anything
before one of the characters `stops` if it has no meaning. -/
def Result (stops : List Char) (c : Cursor text) (xs : List Char) :
    Option Int → Value → Cursor text → Prop
  | some n, v, d => ∃ w : Int64, w.toInt = n ∧ v = .int w ∧ d = c.past xs
  | none, _, d => Stops stops d

/-- In front of the text `xs`, which means `r`, and one of the characters `follow` or nothing after
it, the parser yields a result, and it fails only if the text has no meaning. -/
def Reads (p : Parser text) (stops follow : List Char) (xs : List Char) (r : Option Int) : Prop :=
  ∀ bound c rest, c.Before (xs ++ rest) → (∀ ch ∈ rest.head?, ch ∈ follow) →
    (p.evalWith (grammar.enter bound) c).Ensures (Meets (Result stops c xs r) fun _ => r = none)

/-- A cell reads as the expression does. -/
theorem cell_reads {k : Cell} (hk : k < 4) {stops follow xs : List Char} {r : Option Int}
    (h : Reads expr stops follow xs r) : Reads (.cell k) stops follow xs r := by
  intro bound c rest hc hrest
  show (grammar.enter bound k c).Ensures _
  cases bound with
  | zero => exact ensures_endless
  | succ bound =>
    show (building k _ ((grammar.target k).eval grammar bound c)).Ensures _
    rw [target_eq hk, Grammar.eval_eq_evalWith]
    exact (h bound c rest hc hrest).building k _

/-! ## Factors -/

/-- The characters after a term. -/
def afterTerm : List Char := [symbol .add, symbol .sub, ')']

/-- The characters after a factor. -/
def afterFactor : List Char := symbol .mul :: symbol .div :: afterTerm

theorem literal_reads (k : Cell) (l : Number.Literal) :
    Reads (factor k) [] afterFactor l.text (within l.value) := by
  intro bound c rest hc hrest
  have hdigit : ∀ ch ∈ afterFactor, ch.isDigit = false := by
    simp [afterFactor, afterTerm, symbol]
  have hinteger := (Number.integer_endsIn (grammar.enter bound) hc).ensures
  rw [Number.integerOutcome_literal l fun ch hch => hdigit ch (hrest ch hch)] at hinteger
  rw [← word?_toInt]
  rcases hw : Decimal.word? l.value with _ | w <;> rw [hw] at hinteger
  · -- out of range: after the literal there is no parenthesis
    have hne : (c.past l.text).remaining.head? ≠ some '(' := by
      rw [hc.past.remaining]
      intro h
      exact absurd (hrest '(' h) (by decide)
    have hopen := literal_fails (s := "(") (grammar.enter bound) rfl hne
    refine hinteger.after_failure (Ensures.noting ?_ _)
    exact hopen.andThen_failure.after_failure (ensures_failure rfl)
  · exact hinteger.after_success (ensures_success ⟨w, rfl, rfl, rfl⟩)

/-- The characters before which a term without a meaning may end. -/
def termStops : List Char := [symbol .mul, symbol .div]

/-- The characters before which an expression without a meaning may end. -/
def exprStops : List Char := symbol .add :: symbol .sub :: termStops

/-- The expression in parentheses is read to the end, or the closing parenthesis is not there. -/
theorem group_reads {k : Cell} (hk : k < 4) {xs : List Char} {r : Option Int}
    (h : Reads expr exprStops [')'] xs r) :
    Reads (factor k) [] afterFactor ('(' :: xs ++ [')']) r := by
  intro bound c rest hc _
  have hc' : c.Before ('(' :: (xs ++ ')' :: rest)) := by simpa using hc
  have hinside : (c.past ['(']).Before (xs ++ ')' :: rest) := hc'.past_cons
  have hinteger := (Number.integer_endsIn (grammar.enter bound) hc').ensures
  refine hinteger.after_failure (Ensures.noting ?_ _)
  refine Ensures.handle (P := Meets (Result exprStops (c.past ['(']) xs r) fun _ => r = none)
    ?_ (fun v d hv => ?_) (fun e he => ensures_failure he) fun _ => trivial
  · refine (literal_stands _ rfl hc').after_success ?_
    exact cell_reads hk h bound _ _ hinside fun ch hch => by cases hch; exact List.mem_cons_self
  · cases r with
    | some n =>
      obtain ⟨w, hw, rfl, rfl⟩ := hv
      refine (literal_stands _ rfl hinside.past).after_success (ensures_success ⟨w, hw, rfl, ?_⟩)
      rw [← past_append, ← past_append]
      rfl
    | none =>
      have hne : d.remaining.head? ≠ some ')' :=
        fun h => absurd (hv.head_mem [] ')' h) (by decide)
      exact (literal_fails _ rfl hne).after_failure (ensures_failure rfl)

/-! ## Chains -/

section Chains

variable {α : Type} {write : α → List Char} {mean : α → Option Int} {a b : Op}
  {stops after : List Char} {first next : Parser text}

theorem mem_symbols {op : Op} (hop : op = a ∨ op = b) (cs : List Char) :
    symbol op ∈ symbol a :: symbol b :: cs := by
  rcases hop with rfl | rfl
  · exact List.mem_cons_self
  · exact List.mem_cons_of_mem _ List.mem_cons_self

variable (write) in
/-- Operations begin with an operator. -/
theorem head_operations {steps : List (Op × α)} (hsteps : ∀ s ∈ steps, s.1 = a ∨ s.1 = b)
    {rest : List Char} (hrest : ∀ ch ∈ rest.head?, ch ∈ after) :
    ∀ ch ∈ (stepsText write steps ++ rest).head?, ch ∈ symbol a :: symbol b :: after := by
  cases steps with
  | nil => exact fun ch hch => List.mem_cons_of_mem _ (List.mem_cons_of_mem _ (hrest ch hch))
  | cons s steps =>
    rintro ch ⟨⟩
    exact mem_symbols (hsteps s List.mem_cons_self) after

/-- One operation is read, or its operand has no meaning. -/
theorem operation_reads {op : Op} {x : α} {follow rest : List Char} {c : Cursor text}
    (hop : op = a ∨ op = b) (hread : Reads next stops follow (write x) (mean x)) (m : Nat)
    (hc : c.Before (symbol op :: (write x ++ rest))) (hrest : ∀ ch ∈ rest.head?, ch ∈ follow) :
    ((operation a b next).evalWith (grammar.enter m) c).Ensures (Meets (fun v d =>
      StepValue mean (op, x) v ∧ d = c.past (symbol op :: write x) ∨ mean x = none ∧ Stops stops d)
      fun _ => mean x = none) := by
  refine (operators_stand _ hop hc).after_success ?_
  refine (hread m _ rest hc.past_cons hrest).handle (fun v d hv => ensures_success ?_)
    (fun e he => ensures_failure he) fun _ => trivial
  rcases hx : mean x with _ | n <;> rw [hx] at hv
  · exact Or.inr ⟨rfl, hv⟩
  · obtain ⟨w, rfl, rfl, rfl⟩ := hv
    exact Or.inl ⟨⟨w, hx, rfl⟩, (past_append c [symbol op] (write x)).symm⟩

variable (next) in
/-- Where neither operator stands, no operation is read. -/
theorem operations_end (ha : symbol a ∉ stops ++ after) (hb : symbol b ∉ stops ++ after)
    {d : Cursor text} (hd : ∀ ch ∈ d.remaining.head?, ch ∈ stops ++ after) (m bound : Nat) :
    (repeated ((operation a b next).evalWith (grammar.enter m)) bound d).Ensures
      (Meets (fun vs e => vs = [] ∧ e = d) fun _ => False) := by
  cases bound with
  | zero => exact ensures_endless
  | succ bound =>
    obtain ⟨e, he⟩ := operators_fail (grammar.enter m) (fun h => ha (hd _ h)) fun h => hb (hd _ h)
    exact he.andThen_failure.after_failure (ensures_success ⟨rfl, rfl⟩)

/-- The loop over the operations of a chain reads all of them. Where an operand has no meaning it
may also end before: before an operator, or where that operand has ended. -/
theorem operations_read (ha : symbol a ∉ stops ++ after) (hb : symbol b ∉ stops ++ after)
    {steps : List (Op × α)}
    (hsteps : ∀ s ∈ steps, (s.1 = a ∨ s.1 = b) ∧
      Reads next stops (symbol a :: symbol b :: after) (write s.2) (mean s.2))
    (m bound : Nat) {c : Cursor text} {rest : List Char}
    (hc : c.Before (stepsText write steps ++ rest)) (hrest : ∀ ch ∈ rest.head?, ch ∈ after) :
    (repeated ((operation a b next).evalWith (grammar.enter m)) bound c).Ensures
      (Meets (fun vs d =>
        List.Forall₂ (StepValue mean) steps vs ∧ d = c.past (stepsText write steps) ∨
        (∃ s ∈ steps, mean s.2 = none) ∧ Stops (symbol a :: symbol b :: stops) d)
        fun _ => False) := by
  induction steps generalizing bound c with
  | nil =>
    have hhead : ∀ ch ∈ c.remaining.head?, ch ∈ stops ++ after := by
      intro ch hch
      rw [hc.remaining] at hch
      exact List.mem_append_right _ (hrest ch hch)
    refine (operations_end next ha hb hhead m bound).imp fun o ho => ho.imp ?_ fun _ h => h
    rintro vs d ⟨rfl, rfl⟩
    exact Or.inl ⟨.nil, rfl⟩
  | cons s steps ih =>
    cases bound with
    | zero => exact ensures_endless
    | succ bound =>
      obtain ⟨hop, hread⟩ := hsteps s List.mem_cons_self
      have hsteps' := fun s' hs' => hsteps s' (List.mem_cons_of_mem s hs')
      have hnext := head_operations write (fun s' hs' => (hsteps' s' hs').1) hrest
      have hc' : c.Before (symbol s.1 :: (write s.2 ++ (stepsText write steps ++ rest))) := by
        simpa [stepsText] using hc
      have hhere : Stops (symbol a :: symbol b :: stops) c :=
        ⟨symbol s.1, mem_symbols hop stops, by rw [hc'.remaining]; rfl⟩
      refine (operation_reads hop hread m hc' hnext).handle (fun v d hv => ?_)
        (fun e he => ensures_success (Or.inr ⟨⟨s, List.mem_cons_self, he⟩, hhere⟩)) fun _ => trivial
      rcases hv with ⟨hv, rfl⟩ | ⟨hnone, hstop⟩
      · -- one operation is read, and the loop goes on
        have hmoved : ¬ (c.past (symbol s.1 :: write s.2)).offset = c.offset := by
          have := Char.utf8Size_pos (symbol s.1)
          show ¬ c.offset + ((symbol s.1).utf8Size + _) = c.offset
          omega
        have hd : (c.past (symbol s.1 :: write s.2)).Before (stepsText write steps ++ rest) :=
          Before.past (by simpa using hc')
        rw [if_neg hmoved]
        refine Ensures.map_value ((ih hsteps' bound hd).imp fun o ho => ho.imp ?_ fun _ h => h)
        rintro vs d (⟨hvs, rfl⟩ | ⟨⟨s', hs', hnone⟩, hstop⟩)
        · exact Or.inl ⟨.cons hv hvs, (past_append c _ _).symm⟩
        · exact Or.inr ⟨⟨s', List.mem_cons_of_mem _ hs', hnone⟩, hstop⟩
      · -- the operand has no meaning, and the loop ends here or where the operand has ended
        have hsome : ∃ s' ∈ s :: steps, mean s'.2 = none := ⟨s, List.mem_cons_self, hnone⟩
        by_cases ho : d.offset = c.offset
        · rw [if_pos ho]
          exact ensures_success (Or.inr ⟨hsome, hhere⟩)
        · rw [if_neg ho]
          have hend := operations_end next ha hb (hstop.head_mem after) m bound
          refine Ensures.map_value (hend.imp fun o ho => ho.imp ?_ fun _ h => h)
          rintro vs d' ⟨-, rfl⟩
          exact Or.inr ⟨hsome, hstop.symbols⟩

/-- The operands of a chain are read in order, before they are worked off. -/
theorem operands_read (ha : symbol a ∉ stops ++ after) (hb : symbol b ∉ stops ++ after)
    {ch : Chain α} (hall : ch.All (fun x => ∀ p ∈ [first, next],
      Reads p stops (symbol a :: symbol b :: after) (write x) (mean x)) a b)
    (m : Nat) {c : Cursor text} {rest : List Char} (hc : c.Before (ch.text write ++ rest))
    (hrest : ∀ ch ∈ rest.head?, ch ∈ after) :
    ((Parser.both first (.many (operation a b next))).evalWith (grammar.enter m) c).Ensures
      (Meets (fun v d =>
        (∃ w vs, mean ch.first = some w.toInt ∧ List.Forall₂ (StepValue mean) ch.steps vs ∧
          v = .pair (.int w) (.list vs) ∧ d = c.past (ch.text write)) ∨
        ch.eval mean = none ∧ Stops (symbol a :: symbol b :: stops) d)
        fun _ => ch.eval mean = none) := by
  have hc' : c.Before (write ch.first ++ (stepsText write ch.steps ++ rest)) := by
    rw [← List.append_assoc]
    exact hc
  have hsteps : ∀ s ∈ ch.steps, (s.1 = a ∨ s.1 = b) ∧
      Reads next stops (symbol a :: symbol b :: after) (write s.2) (mean s.2) :=
    fun s hs => ⟨(hall.steps s hs).1, (hall.steps s hs).2 next (by simp)⟩
  have hnext := head_operations write (fun s hs => (hsteps s hs).1) hrest
  have hnone : mean ch.first = none → ch.eval mean = none := by
    intro h
    rw [Chain.eval, h]
    rfl
  refine (hall.first first (by simp) m c _ hc' hnext).handle (fun v d hv => ?_)
    (fun e he => ensures_failure (hnone he)) fun _ => trivial
  rcases hfirst : mean ch.first with _ | n <;> rw [hfirst] at hv
  · have hend := operations_end next ha hb (hv.head_mem after) m (d.length + 1)
    refine Ensures.map_value (Ensures.map_value (hend.imp fun o ho => ho.imp ?_ fun _ h => h.elim))
    rintro vs d' ⟨-, rfl⟩
    exact Or.inr ⟨hnone hfirst, hv.symbols⟩
  · obtain ⟨w, rfl, rfl, rfl⟩ := hv
    have hread := operations_read ha hb hsteps m ((c.past (write ch.first)).length + 1) hc'.past
      hrest
    refine Ensures.map_value (Ensures.map_value (hread.imp fun o ho => ho.imp ?_ fun _ h => h.elim))
    rintro vs d (⟨hvs, rfl⟩ | ⟨hsome, hstop⟩)
    · exact Or.inl ⟨w, vs, rfl, hvs, rfl, (past_append c _ _).symm⟩
    · refine Or.inr ⟨?_, hstop⟩
      rw [Chain.eval, hfirst]
      exact stepsEval_eq_none mean hsome w.toInt

/-- **A chain is read as what it means,** if its operands are. -/
theorem chained_reads (ha : symbol a ∉ stops ++ after) (hb : symbol b ∉ stops ++ after)
    {ch : Chain α} (hall : ch.All (fun x => ∀ p ∈ [first, next],
      Reads p stops (symbol a :: symbol b :: after) (write x) (mean x)) a b) :
    Reads (chained a b first next) (symbol a :: symbol b :: stops) after (ch.text write)
      (ch.eval mean) := by
  intro m c rest hc hrest
  refine (operands_read ha hb hall m hc hrest).handle (fun v d hv => ?_)
    (fun e he => ensures_failure he) fun _ => trivial
  dsimp only [Check.parser]
  rcases hv with ⟨w, vs, hw, hvs, rfl, rfl⟩ | ⟨hnone, hstop⟩
  · have hfold : ch.eval mean =
        (Arithmetic.chain (.pair (.int w) (.list vs))).toOption.map Int64.toInt := by
      rw [chain_fold hvs w, Chain.eval, hw]
      rfl
    rw [hfold]
    rcases Arithmetic.chain (.pair (.int w) (.list vs)) with e | n
    · exact ensures_failure rfl
    · exact ensures_success ⟨n, rfl, rfl, rfl⟩
  · rw [hnone]
    rcases Arithmetic.chain v with e | n
    · exact ensures_failure rfl
    · exact ensures_success hstop

end Chains

/-! ## Trees -/

theorem term_reads {t : Term} (h : t.chain.All (fun f => ∀ k < 4,
      Reads (factor k) [] afterFactor f.text f.eval) .mul .div) {k : Cell} (hk : k + 1 < 4) :
    Reads (term k) termStops afterTerm t.text t.eval := by
  rw [← t.text_chain, ← t.eval_chain]
  refine chained_reads (by decide) (by decide) (h.imp fun f hf => ?_)
  simp only [List.forall_mem_cons, List.not_mem_nil, false_imp_iff, implies_true, and_true]
  exact ⟨hf k (Nat.lt_of_succ_lt hk), hf (k + 1) hk⟩

theorem expr_reads {e : Expr} (h : e.chain.All (fun t => ∀ k, k + 1 < 4 →
      Reads (term k) termStops afterTerm t.text t.eval) .add .sub) :
    Reads expr exprStops [')'] e.text e.eval := by
  rw [← e.text_chain, ← e.eval_chain]
  refine chained_reads (by decide) (by decide) (h.imp fun t ht => ?_)
  simp only [List.forall_mem_cons, List.not_mem_nil, false_imp_iff, implies_true, and_true]
  exact ⟨ht 0 (by decide), ht 2 (by decide)⟩

mutual

theorem Factor.reads : ∀ (f : Factor) (k : Cell), k < 4 →
    Reads (Calculator.factor k) [] afterFactor f.text f.eval
  | .literal l, _, _ => literal_reads _ l
  | .group e, _, hk => group_reads hk (expr_reads e.terms_read)

/-- The factors of a term are read. -/
theorem Term.factors_read : ∀ t : Term, t.chain.All (fun f => ∀ k < 4,
    Reads (Calculator.factor k) [] afterFactor f.text f.eval) .mul .div
  | .factor f => ⟨f.reads, by simp [Term.chain]⟩
  | .mul t f => t.factors_read.snoc (.inl rfl) f.reads
  | .div t f => t.factors_read.snoc (.inr rfl) f.reads

/-- The terms of an expression are read. -/
theorem Expr.terms_read : ∀ e : Expr, e.chain.All (fun t => ∀ k, k + 1 < 4 →
    Reads (Calculator.term k) termStops afterTerm t.text t.eval) .add .sub
  | .term t => ⟨fun _ => term_reads t.factors_read, by simp [Expr.chain]⟩
  | .add e t => e.terms_read.snoc (.inl rfl) fun _ => term_reads t.factors_read
  | .sub e t => e.terms_read.snoc (.inr rfl) fun _ => term_reads t.factors_read

end

/-! ## The end of every run -/

theorem guarded_chained {a b : Op} {first next : Parser text} (hfirst : first.Guarded)
    (hnext : next.Guarded) : (chained a b first next).Guarded := by
  rintro k ((hk | ⟨-, (hk | hk) | ⟨-, hk⟩⟩) | ⟨-, v, c, hk⟩)
  · exact hfirst k hk
  · exact hk
  · exact hk
  · exact hnext k hk
  · dsimp only [Check.parser] at hk
    split at hk <;> exact hk

theorem guarded_factor (k : Cell) : (factor k).Guarded := by
  have hopen : (literal "(").Consuming := consumes_literal (by decide)
  have hinteger : Number.integerText.Consuming := Number.consuming_numbers _ (by simp)
  rintro j (((hj | hj) | ⟨hn, -⟩) | ((hj | ⟨hn, -⟩) | ⟨-, hj⟩))
  · exact hj
  · exact hj
  · exact hn hinteger
  · exact hj
  · exact hn hopen
  · exact hj

theorem guarded_expr : expr.Guarded :=
  guarded_chained (guarded_chained (guarded_factor 0) (guarded_factor 1))
    (guarded_chained (guarded_factor 2) (guarded_factor 3))

theorem parser_of_mem {f : Factory text} (hf : f ∈ grammar.cells) : f.parser = expr := by
  rw [(Array.mem_replicate.1 hf).2]
  rfl

theorem peeksAt_chained {a b : Op} {first next : Parser text} (hfirst : ∀ d, first.PeeksAt d)
    (hnext : ∀ d, next.PeeksAt d) (d : Cursor text) : (chained a b first next).PeeksAt d := by
  refine ⟨⟨hfirst d, fun _ d => ⟨⟨trivial, fun _ => trivial⟩, hnext⟩⟩, fun v c => ?_⟩
  exact Check.peeksAt (by simp) (by simp) v c

theorem peeksAt_factor (k : Cell) (d : Cursor text) : (factor k).PeeksAt d :=
  ⟨Number.peeksAt_numbers d _ (by simp), fun _ => ⟨⟨trivial, fun _ => trivial⟩, fun _ => trivial⟩⟩

theorem peeksAt_expr : ∀ d, expr.PeeksAt d :=
  peeksAt_chained (peeksAt_chained (peeksAt_factor 0) (peeksAt_factor 1))
    (peeksAt_chained (peeksAt_factor 2) (peeksAt_factor 3))

/-- On every text the calculator ends, in a value or in a failure. -/
theorem parseAll_ends {s : Source text} (hs : s.size < UInt64.size) (built : List Cell) :
    ∃ t, grammar.parseAll expr s.start built = some t ∧ ∀ f, t.outcome ≠ .fault f := by
  have hg : grammar.NonLeftRecursive :=
    Grammar.nonLeftRecursive_of_guarded fun f hf => parser_of_mem hf ▸ guarded_expr
  obtain ⟨t, ht⟩ := Option.isSome_iff_exists.1
    (Grammar.parse_isSome hg (.whole expr) (placed_start s) built)
  refine ⟨t, ht, fun f hf => ?_⟩
  obtain ⟨n, d, hd, hfault⟩ := Grammar.fault_of_advance (placed_start s) hs ht hf
  have hpeek := hd.peeksAt (fun f hf d => parser_of_mem hf ▸ peeksAt_expr d) (peeksAt_expr s.start)
  obtain ⟨hds, -, hdp⟩ := hd.reaches.ahead (placed_start s)
  rw [forward_of_peek hdp (by rw [hds]; exact hs) hpeek] at hfault
  cases hfault

theorem whole_reads (e : Expr) {s : Source text} (he : s.elems = e.text) (hs : s.size < UInt64.size)
    (m : Nat) : ((Parser.whole expr).evalWith (grammar.enter m) s.start).Ensures
      (Meets (fun v d => ∃ w : Int64, e.eval = some w.toInt ∧ v = .int w ∧ d = ⟨s, s.size⟩)
        fun _ => e.eval = none) := by
  have hstart : s.start.Before (e.text ++ []) := by
    rw [List.append_nil, ← he]
    exact before_start hs
  have hread := expr_reads e.terms_read m s.start [] hstart (by simp)
  refine hread.handle (fun v d hv => ?_) (fun _ hf => ensures_failure hf) fun _ => trivial
  rcases hr : e.eval with _ | n <;> rw [hr] at hv
  · -- an operator is left
    obtain ⟨ch, -, hch⟩ := hv
    have hleft : d.isEmpty = false := isEmpty_eq_false fun h => by rw [h] at hch; cases hch
    rw [hleft]
    refine Ensures.noting ?_ _
    exact ensures_failure rfl
  · obtain ⟨w, rfl, rfl, rfl⟩ := hv
    rw [if_pos hstart.past.isEmpty]
    exact ensures_success ⟨w, rfl, rfl, hstart.past.eq_end⟩

/-- **The calculator evaluates every expression.** On the text of an expression, a source that is
not too long to exist, the run to the end of the text ends, and it succeeds if and only if the
expression has a meaning. Then its value is the meaning, at the end of the text; otherwise it is a
failure. -/
theorem parseAll_expr (e : Expr) (tag : Nat) (built : List Cell) :
    let s : Source text := ⟨tag, e.text⟩
    s.size ≤ 2 ^ 63 - 1 →
    ∃ t, grammar.parseAll expr s.start built = some t ∧
      ((∃ v d, t.outcome = .success v d) ↔ e.eval.isSome) ∧
      (∀ n, e.eval = some n →
        ∃ w : Int64, w.toInt = n ∧ t.outcome = .success (.int w) ⟨s, s.size⟩) ∧
      (e.eval = none → ∃ f, t.outcome = .failure f) := by
  intro s hsize
  have hs : s.size < UInt64.size := Nat.lt_of_le_of_lt hsize (by decide)
  obtain ⟨t, ht, hfault⟩ := parseAll_ends hs built
  have hmeets := whole_reads e rfl hs _ built t (by rw [← Grammar.eval_eq_evalWith]; exact ht)
  refine ⟨t, ht, ?_⟩
  rcases ho : t.outcome with ⟨v, d⟩ | f | f <;> rw [ho] at hmeets
  · obtain ⟨w, hw, rfl, rfl⟩ := hmeets
    rw [hw]
    refine ⟨by simp, fun n hn => ⟨w, Option.some.inj hn, rfl⟩, ?_⟩
    rintro ⟨⟩
  · have hnone : e.eval = none := hmeets
    rw [hnone]
    refine ⟨by simp, ?_, fun _ => ⟨f, rfl⟩⟩
    rintro n ⟨⟩
  · exact (hfault f ho).elim

/-- `-2*(3+4)/3`, which means -4: the quotient goes toward zero. -/
theorem parseAll_product :
    let digit (c : Char) (h : c.isDigit = true) (h0 : c ≠ '0') : Factor :=
      .literal ⟨.none, [c], .positive h h0 (by simp)⟩
    let e : Expr := .term (.div (.mul
      (.factor (.literal ⟨.minus, ['2'], .positive rfl (by decide) (by simp)⟩))
      (.group (.add (.term (.factor (digit '3' rfl (by decide))))
        (.factor (digit '4' rfl (by decide))))))
      (digit '3' rfl (by decide)))
    let s : Source text := ⟨0, e.text⟩
    s.elems = "-2*(3+4)/3".toList ∧ s.size ≤ 2 ^ 63 - 1 ∧ e.eval = some (-4) ∧
      ∃ t, grammar.parseAll expr s.start [] = some t ∧
        ∃ w : Int64, w.toInt = -4 ∧ t.outcome = .success (.int w) ⟨s, s.size⟩ := by
  intro digit e s
  have hs : s.size ≤ 2 ^ 63 - 1 := by decide
  have he : e.eval = some (-4) := by decide
  obtain ⟨t, ht, -, hvalue, -⟩ := parseAll_expr e 0 [] hs
  exact ⟨rfl, hs, he, t, ht, hvalue _ he⟩

end GrammarEngine.Calculator
