import GrammarEngine.Proofs.Calculator
import GrammarEngine.Proofs.Pieces

/-!
# What the calculator accepts

Whenever a run of the calculator to the end of a text succeeds, its value is what an expression
means, but the text need not be that of the expression. A literal out of range fails after its
digits, the choice goes on there, and where a parenthesis opens the literal is passed over.
`Padded xs ys` says that `xs` is `ys` with such literals before opening parentheses.

Main statement: `parseAll_accepts`. The text is that of an expression that means the value, padded.
It is one without padding if and only if no literal out of range stands directly before an opening
parenthesis (`Overlong`).

1. What the parser of integers reads is a literal, as a value and as a failure after its digits
   (`integer_reads`).
2. `Accepts` says of a parser that what it reads, if it yields a value, is a text with that meaning,
   padded. The operations of a chain are read one by one (`operations_accept`), and worked off to
   the meaning of the chain (`chained_accepts`).
3. Every chain is that of a tree (`Term.exists_chain`, `Expr.exists_chain`), so by induction on the
   bound on nested cells expressions are accepted (`expr_accepts`).
4. In the text of an expression no digit stands directly before an opening parenthesis
   (`Expr.apart`), so an overlong text is that of no expression.
-/

namespace GrammarEngine

open Outcome Cursor Run

/-! ## Literals -/

namespace Number

/-- A literal ends with a digit. -/
theorem Literal.getLast?_text (l : Literal) : ∃ d, l.text.getLast? = some d ∧ d.isDigit = true := by
  obtain ⟨hne, hds⟩ := l.natural.digits
  unfold text
  rw [List.getLast?_append_of_ne_nil _ hne, List.getLast?_eq_some_getLast hne]
  exact ⟨_, rfl, hds _ (List.getLast_mem hne)⟩

variable (enter : Cell → Cursor text → Run text Value) {c : Cursor text}

/-- **What the parser of integers reads.** A value is that of the literal it has read; a failure is
where it started, or after a literal out of range. -/
theorem integer_reads (hc : c.Placed) : (integer.evalWith enter c).Ensures (Meets
    (fun v d => ∃ (l : Literal) (w : Int64), c.Between l.text d ∧
      Decimal.word? l.value = some w ∧ v = .int w)
    fun e => e.next = c ∨
      ∃ l : Literal, c.Between l.text e.next ∧ Decimal.word? l.value = none) := by
  have htext : (integerText.evalWith enter c).Ensures (Meets
      (fun v d => ∃ l : Literal, c.Between l.text d ∧ v.text.toList = l.text) (·.next = c)) := by
    refine (ensures_done (accept_between hc _)).handle (fun v d hv => ?_) (fun e he => ?_)
      fun _ => trivial
    · obtain ⟨n, hn, hb⟩ := hv
      obtain ⟨m, hm, h⟩ := Option.map_eq_some_iff.1 hn
      cases h
      have hm' : integerPattern.matchLength c.remaining = some n := hm
      rw [matchLength_integer] at hm'
      obtain ⟨l, hl⟩ := literal_of_integerLength hm'
      rw [hl] at hb
      refine ensures_success ⟨l, hb, ?_⟩
      show (String.ofList (c.remaining.take n)).toList = l.text
      rw [String.toList_ofList, hl]
    · have he' : e.next = c := he
      exact Ensures.noting (ensures_failure he') _
  refine htext.handle (fun v d hv => ?_) (fun e he => ensures_failure (Or.inl he)) fun _ => trivial
  obtain ⟨l, hb, hl⟩ := hv
  have hword : Decimal.int64? v.text.toList = Decimal.word? l.value := by
    unfold Decimal.int64?
    rw [hl, integer?_literal]
    rfl
  dsimp only
  rw [hword]
  rcases hw : Decimal.word? l.value with _ | w
  · exact ensures_failure (Or.inr ⟨l, hb, hw⟩)
  · exact ensures_success ⟨l, w, hb, hw, rfl⟩

end Number

namespace Calculator

open Arithmetic Number

/-! ## Padding -/

/-- The first text is the second with literals out of range before opening parentheses. -/
inductive Padded : List Char → List Char → Prop
  | nil : Padded [] []
  | cons (ch : Char) {xs ys : List Char} (h : Padded xs ys) : Padded (ch :: xs) (ch :: ys)
  | skip (l : Literal) (hl : within l.value = none) {xs ys : List Char} (h : Padded xs ys) :
    Padded (l.text ++ '(' :: xs) ('(' :: ys)

theorem Padded.refl : ∀ xs, Padded xs xs
  | [] => .nil
  | ch :: xs => .cons ch (refl xs)

theorem Padded.append {xs ys xs' ys' : List Char} (h : Padded xs ys) (h' : Padded xs' ys') :
    Padded (xs ++ xs') (ys ++ ys') := by
  induction h with
  | nil => exact h'
  | cons ch _ ih => exact .cons ch ih
  | skip l hl _ ih =>
    rw [List.append_assoc]
    exact .skip l hl ih

/-- A literal out of range stands directly before an opening parenthesis. -/
def Overlong (xs : List Char) : Prop :=
  ∃ (front : List Char) (l : Literal) (rest : List Char),
    xs = front ++ l.text ++ '(' :: rest ∧ within l.value = none

/-- Where nothing is overlong, nothing is padded. -/
theorem Padded.eq {xs ys : List Char} (h : Padded xs ys) (hxs : ¬ Overlong xs) : xs = ys := by
  induction h with
  | nil => rfl
  | cons ch _ ih =>
    rw [ih]
    rintro ⟨front, l, rest, rfl, hl⟩
    exact hxs ⟨ch :: front, l, rest, rfl, hl⟩
  | skip l hl _ _ => exact (hxs ⟨[], l, _, rfl, hl⟩).elim

/-! ## Texts of expressions -/

/-- No digit stands directly before an opening parenthesis. -/
def Apart (xs : List Char) : Prop := xs.IsChain fun a b => a.isDigit = true → b ≠ '('

theorem Apart.operation {xs ys : List Char} (hx : Apart xs) (hy : Apart ys) (op : Op) :
    Apart (xs ++ symbol op :: ys) := by
  have hdigit : (symbol op).isDigit = false := by cases op <;> rfl
  have hparen : symbol op ≠ '(' := by cases op <;> decide
  refine List.isChain_append.2 ⟨hx, List.isChain_cons.2 ⟨fun b _ h => ?_, hy⟩, fun a _ b hb _ => ?_⟩
  · rw [hdigit] at h
    cases h
  · cases hb
    exact hparen

theorem apart_of_notMem {xs : List Char} (h : '(' ∉ xs) : Apart xs := by
  induction xs with
  | nil => exact .nil
  | cons ch xs ih =>
    have hxs : '(' ∉ xs := fun h' => h (List.mem_cons_of_mem ch h')
    refine List.isChain_cons.2 ⟨fun b hb _ => ?_, ih hxs⟩
    rintro rfl
    exact hxs (List.mem_of_mem_head? hb)

theorem apart_literal (l : Literal) : Apart l.text := by
  refine apart_of_notMem fun h => ?_
  rcases List.mem_append.1 h with h | h
  · cases hs : l.sign <;> rw [hs] at h <;> simp [LiteralSign.text] at h
  · exact absurd (l.natural.digits.2 _ h) (by decide)

mutual

theorem Factor.apart : ∀ f : Factor, Apart f.text
  | .literal l => apart_literal l
  | .group e => by
    refine List.isChain_append.2 ⟨List.isChain_cons.2 ⟨fun b _ h => ?_, e.apart⟩, .singleton _, ?_⟩
    · cases h
    · intro a _ b hb _
      cases hb
      decide

theorem Term.apart : ∀ t : Term, Apart t.text
  | .factor f => f.apart
  | .mul t f => t.apart.operation f.apart .mul
  | .div t f => t.apart.operation f.apart .div

theorem Expr.apart : ∀ e : Expr, Apart e.text
  | .term t => t.apart
  | .add e t => e.apart.operation t.apart .add
  | .sub e t => e.apart.operation t.apart .sub

end

theorem Apart.not_overlong {xs : List Char} (h : Apart xs) : ¬ Overlong xs := by
  rintro ⟨front, l, rest, rfl, -⟩
  obtain ⟨d, hd, hdigit⟩ := l.getLast?_text
  have hlast : d ∈ (front ++ l.text).getLast? := by
    rw [List.getLast?_append, hd]
    rfl
  exact (List.isChain_append.1 h).2.2 d hlast '(' rfl hdigit rfl

/-! ## Accepted values -/

section Accepts

variable {α : Type} {write : α → List Char} {mean : α → Option Int} {a b : Op} {n : Nat}
  {c : Cursor text}

variable (write mean) in
/-- The text is written by something that means the number. -/
def Means (xs : List Char) (m : Int) : Prop := ∃ x, write x = xs ∧ mean x = some m

/-- Between the cursors stands a text with the meaning, padded, and the value is the meaning. -/
def Accepted (S : List Char → Int → Prop) (c : Cursor text) (v : Value) (d : Cursor text) : Prop :=
  ∃ xs ys w, c.Between xs d ∧ Padded xs ys ∧ S ys (Int64.toInt w) ∧ v = .int w

/-- Wherever it starts, what the parser yields is accepted. -/
def Accepts (n : Nat) (p : Parser text) (S : List Char → Int → Prop) : Prop :=
  ∀ c : Cursor text, c.Placed →
    (p.evalWith (grammar.enter n) c).Ensures (Meets (Accepted S c) fun _ => True)

theorem Accepts.imp {p : Parser text} {S S' : List Char → Int → Prop} (h : Accepts n p S)
    (hS : ∀ xs m, S xs m → S' xs m) : Accepts n p S' := by
  refine fun c hc => (h c hc).imp_value fun v d hv => ?_
  obtain ⟨xs, ys, w, hb, hp, hs, rfl⟩ := hv
  exact ⟨xs, ys, w, hb, hp, hS ys _ hs, rfl⟩

/-! ## Signs and parentheses -/

theorem literal_between (enter : Cell → Cursor text → Run text Value) (hc : c.Placed) {s : String}
    {ch : Char} (hs : s.toList = [ch]) : ((literal s).evalWith enter c).Ensures
      (Meets (fun _ d => c.Between [ch] d) (·.next = c)) := by
  refine Ensures.imp_value (ensures_done (accept_between hc _)) fun v d hv => ?_
  obtain ⟨k, hk, hb⟩ := hv
  rw [recognise_character hs] at hk
  by_cases hhead : c.remaining.head? = some ch
  · rw [if_pos hhead] at hk
    cases hk
    obtain ⟨rest, hrest⟩ := List.head?_eq_some_iff.1 hhead
    rw [hrest] at hb
    exact hb
  · rw [if_neg hhead] at hk
    cases hk

theorem operator_between (enter : Cell → Cursor text → Run text Value) (hc : c.Placed) (op : Op) :
    ((operator op).evalWith enter c).Ensures
      (Meets (fun v d => v = .token (.sign (sign op)) ∧ c.Between [symbol op] d) (·.next = c)) :=
  (literal_between enter hc (toList_sign op)).andThen fun _ _ hb => ensures_success ⟨rfl, hb⟩

/-- One of two operators is read. -/
theorem operators_between (enter : Cell → Cursor text → Run text Value) (hc : c.Placed) (a b : Op) :
    ((Parser.choice (operator a) (operator b)).evalWith enter c).Ensures (Meets
      (fun v d => ∃ op, (op = a ∨ op = b) ∧ v = .token (.sign (sign op)) ∧ c.Between [symbol op] d)
      fun _ => True) := by
  refine (operator_between enter hc a).handle
    (fun v d hv => ensures_success ⟨a, Or.inl rfl, hv⟩) (fun e he => ?_) fun _ => trivial
  have he' : e.next = c := he
  rw [he']
  refine Ensures.noting ?_ _
  exact (operator_between enter hc b).value.imp_value fun v d hv => ⟨b, Or.inr rfl, hv⟩

/-! ## Factors -/

/-- An expression in parentheses is read from the one to the other. -/
theorem group_accepts {k : Cell} (h : Accepts n (.cell k) (Means Expr.text Expr.eval))
    (hc : c.Placed) :
    ((Parser.first (.second (literal "(") (.cell k)) (literal ")")).evalWith (grammar.enter n)
      c).Ensures (Meets (fun v d => ∃ xs ys w, c.Between ('(' :: (xs ++ [')'])) d ∧ Padded xs ys ∧
        Means Expr.text Expr.eval ys (Int64.toInt w) ∧ v = .int w) fun _ => True) := by
  refine Ensures.andThen (S := fun v d => ∃ xs ys w, c.Between ('(' :: xs) d ∧ Padded xs ys ∧
    Means Expr.text Expr.eval ys (Int64.toInt w) ∧ v = .int w) ?_ fun v d hv => ?_
  · refine (literal_between _ hc rfl).value.andThen fun _ d hb => ?_
    refine (h d hb.placed).imp_value fun v d' hv => ?_
    obtain ⟨xs, ys, w, hb', hv⟩ := hv
    exact ⟨xs, ys, w, hb.trans hb', hv⟩
  · obtain ⟨xs, ys, w, hb, hv⟩ := hv
    exact (literal_between _ hb.placed rfl).value.andThen fun _ d' hb' =>
      ensures_success ⟨xs, ys, w, hb.trans hb', hv⟩

/-- **A factor is a literal, or an expression in parentheses** that a literal out of range may stand
before. -/
theorem factor_accepts {k : Cell} (h : Accepts n (.cell k) (Means Expr.text Expr.eval)) :
    Accepts n (factor k) (Means Factor.text Factor.eval) := by
  have hgroup : ∀ {ys : List Char} {m : Int}, Means Expr.text Expr.eval ys m →
      Means Factor.text Factor.eval ('(' :: (ys ++ [')'])) m := by
    rintro ys m ⟨e, rfl, he⟩
    exact ⟨.group e, rfl, he⟩
  intro c hc
  refine (integer_reads (grammar.enter n) hc).handle (fun v d hv => ?_) (fun f hf => ?_)
    fun _ => trivial
  · obtain ⟨l, w, hb, hw, rfl⟩ := hv
    refine ensures_success ⟨l.text, l.text, w, hb, .refl _, ⟨.literal l, rfl, ?_⟩, rfl⟩
    rw [Factor.eval, ← word?_toInt, hw]
    rfl
  · rcases hf with hf | ⟨l, hb, hl⟩
    · rw [hf]
      refine ((group_accepts h hc).imp_value fun v d hv => ?_).noting _
      obtain ⟨xs, ys, w, hb, hp, hs, rfl⟩ := hv
      exact ⟨_, _, w, hb, .cons '(' (hp.append (.refl _)), hgroup hs, rfl⟩
    · -- the literal is passed over
      have hl' : within l.value = none := by
        rw [← word?_toInt, hl]
        rfl
      refine ((group_accepts h hb.placed).imp_value fun v d hv => ?_).noting _
      obtain ⟨xs, ys, w, hb', hp, hs, rfl⟩ := hv
      exact ⟨_, _, w, hb.trans hb', .skip l hl' (hp.append (.refl _)), hgroup hs, rfl⟩

/-! ## Chains -/

/-- One operation is read, its operand padded. -/
theorem operation_accepts {next : Parser text} (h : Accepts n next (Means write mean))
    (hc : c.Placed) : ((operation a b next).evalWith (grammar.enter n) c).Ensures
      (Meets (fun v d => ∃ s xs, (s.1 = a ∨ s.1 = b) ∧ StepValue mean s v ∧
        c.Between xs d ∧ Padded xs (symbol s.1 :: write s.2)) fun _ => True) := by
  refine (operators_between _ hc a b).andThen fun v d hv => ?_
  obtain ⟨op, hop, rfl, hb⟩ := hv
  refine Ensures.map_value ((h d hb.placed).imp_value fun v d' hv => ?_)
  obtain ⟨xs, ys, w, hb', hp, ⟨x, rfl, hx⟩, rfl⟩ := hv
  exact ⟨(op, x), _, hop, ⟨w, hx, rfl⟩, hb.trans hb', .cons _ hp⟩

/-- The loop over the operations of a chain reads them one by one. -/
theorem operations_accept {next : Parser text} (h : Accepts n next (Means write mean))
    (bound : Nat) (hc : c.Placed) :
    (repeated ((operation a b next).evalWith (grammar.enter n)) bound c).Ensures
      (Meets (fun vs d => ∃ steps xs, (∀ s ∈ steps, s.1 = a ∨ s.1 = b) ∧
        List.Forall₂ (StepValue mean) steps vs ∧ c.Between xs d ∧ Padded xs (stepsText write steps))
        fun _ => False) := by
  have hend : ∀ {c : Cursor text}, c.Placed → ∃ steps xs, (∀ s ∈ steps, s.1 = a ∨ s.1 = b) ∧
      List.Forall₂ (StepValue mean) steps [] ∧ c.Between xs c ∧ Padded xs (stepsText write steps) :=
    fun hc => ⟨[], [], by simp, .nil, hc.between_self, .nil⟩
  induction bound generalizing c with
  | zero => exact ensures_endless
  | succ bound ih =>
    refine (operation_accepts h hc).handle (fun v d hv => ?_) (fun _ _ => ensures_success (hend hc))
      fun _ => trivial
    by_cases ho : d.offset = c.offset
    · rw [if_pos ho]
      exact ensures_success (hend hc)
    · rw [if_neg ho]
      obtain ⟨s, xs, hs, hv, hb, hp⟩ := hv
      refine Ensures.map_value ((ih hb.placed).imp_value fun vs d' hvs => ?_)
      obtain ⟨steps, ys, hsteps, hvs, hb', hp'⟩ := hvs
      refine ⟨s :: steps, xs ++ ys, ?_, .cons hv hvs, hb.trans hb', hp.append hp'⟩
      exact List.forall_mem_cons.2 ⟨hs, hsteps⟩

/-- **A chain is read as what it means,** padded. -/
theorem chained_accepts {first next : Parser text} (hfirst : Accepts n first (Means write mean))
    (hnext : Accepts n next (Means write mean)) :
    Accepts n (chained a b first next) fun xs m => ∃ ch : Chain α,
      (∀ s ∈ ch.steps, s.1 = a ∨ s.1 = b) ∧ ch.text write = xs ∧ ch.eval mean = some m := by
  intro c hc
  -- the operands, before they are worked off
  refine Ensures.andThen (S := fun v d => ∃ (x : α) (w : Int64) (steps : List (Op × α))
    (vs : List Value) (xs : List Char), mean x = some w.toInt ∧ (∀ s ∈ steps, s.1 = a ∨ s.1 = b) ∧
    List.Forall₂ (StepValue mean) steps vs ∧ v = .pair (.int w) (.list vs) ∧ c.Between xs d ∧
    Padded xs (write x ++ stepsText write steps)) ?_ fun v d hv => ?_
  · refine (hfirst c hc).andThen fun v d hv => ?_
    obtain ⟨xs, ys, w, hb, hp, ⟨x, rfl, hx⟩, rfl⟩ := hv
    refine Ensures.map_value (Ensures.map_value ((operations_accept hnext _ hb.placed).imp
      fun o ho => ho.imp (fun vs d' hvs => ?_) fun _ h => h.elim))
    obtain ⟨steps, xs', hsteps, hvs, hb', hp'⟩ := hvs
    exact ⟨x, w, steps, vs, xs ++ xs', hx, hsteps, hvs, rfl, hb.trans hb', hp.append hp'⟩
  · obtain ⟨x, w, steps, vs, xs, hx, hsteps, hvs, rfl, hb, hp⟩ := hv
    have hfold := chain_fold hvs w
    dsimp only [Check.parser]
    rcases hchain : Arithmetic.chain (.pair (.int w) (.list vs)) with e | m <;> rw [hchain] at hfold
    · exact ensures_failure trivial
    · refine ensures_success ⟨xs, _, m, hb, hp, ⟨⟨x, steps⟩, hsteps, rfl, ?_⟩, rfl⟩
      rw [Chain.eval, hx]
      exact hfold.symm

end Accepts

/-! ## Trees of chains -/

/-- A chain of products and quotients is that of a term. -/
theorem Term.exists_chain (f : Factor) {steps : List (Op × Factor)}
    (h : ∀ s ∈ steps, s.1 = .mul ∨ s.1 = .div) : ∃ t : Term, t.chain = ⟨f, steps⟩ := by
  induction steps using List.reverseRecOn with
  | nil => exact ⟨.factor f, rfl⟩
  | append_singleton steps s ih =>
    obtain ⟨t, ht⟩ := ih fun s' hs' => h s' (List.mem_append_left _ hs')
    obtain ⟨op, x⟩ := s
    rcases h (op, x) (by simp) with hop | hop
    · obtain rfl : op = .mul := hop
      exact ⟨.mul t x, by rw [Term.chain, ht]; rfl⟩
    · obtain rfl : op = .div := hop
      exact ⟨.div t x, by rw [Term.chain, ht]; rfl⟩

/-- A chain of sums and differences is that of an expression. -/
theorem Expr.exists_chain (t : Term) {steps : List (Op × Term)}
    (h : ∀ s ∈ steps, s.1 = .add ∨ s.1 = .sub) : ∃ e : Expr, e.chain = ⟨t, steps⟩ := by
  induction steps using List.reverseRecOn with
  | nil => exact ⟨.term t, rfl⟩
  | append_singleton steps s ih =>
    obtain ⟨e, he⟩ := ih fun s' hs' => h s' (List.mem_append_left _ hs')
    obtain ⟨op, x⟩ := s
    rcases h (op, x) (by simp) with hop | hop
    · obtain rfl : op = .add := hop
      exact ⟨.add e x, by rw [Expr.chain, he]; rfl⟩
    · obtain rfl : op = .sub := hop
      exact ⟨.sub e x, by rw [Expr.chain, he]; rfl⟩

theorem term_accepts {n : Nat} (h : ∀ k < 4, Accepts n (.cell k) (Means Expr.text Expr.eval))
    {k : Cell} (hk : k + 1 < 4) : Accepts n (term k) (Means Term.text Term.eval) := by
  refine (chained_accepts (factor_accepts (h k (Nat.lt_of_succ_lt hk)))
    (factor_accepts (h (k + 1) hk))).imp fun xs m hm => ?_
  obtain ⟨⟨f, steps⟩, hsteps, rfl, hm⟩ := hm
  obtain ⟨t, ht⟩ := Term.exists_chain f hsteps
  rw [← ht] at hm ⊢
  exact ⟨t, t.text_chain.symm, t.eval_chain ▸ hm⟩

theorem expr_accepts_of_cells {n : Nat}
    (h : ∀ k < 4, Accepts n (.cell k) (Means Expr.text Expr.eval)) :
    Accepts n expr (Means Expr.text Expr.eval) := by
  refine (chained_accepts (term_accepts h (by decide)) (term_accepts h (by decide))).imp
    fun xs m hm => ?_
  obtain ⟨⟨t, steps⟩, hsteps, rfl, hm⟩ := hm
  obtain ⟨e, he⟩ := Expr.exists_chain t hsteps
  rw [← he] at hm ⊢
  exact ⟨e, e.text_chain.symm, e.eval_chain ▸ hm⟩

/-- **What is read as an expression is one,** padded. -/
theorem expr_accepts (n : Nat) : Accepts n expr (Means Expr.text Expr.eval) := by
  induction n with
  | zero => exact expr_accepts_of_cells fun _ _ _ _ => ensures_endless
  | succ n ih =>
    refine expr_accepts_of_cells fun k hk c hc => ?_
    refine Ensures.building ?_ k _
    rw [target_eq hk, Grammar.eval_eq_evalWith]
    exact ih c hc

theorem remaining_start (s : Source text) : s.start.remaining = s.elems := by
  unfold remaining Source.start
  cases s.elems <;> rfl

/-- Whether a run succeeds can be computed. -/
theorem exists_success {x : Option (Finish text Value)}
    (h : x.map (·.outcome.isSuccess) = some true) :
    ∃ t v d, x = some t ∧ t.outcome = .success v d := by
  obtain ⟨t, rfl, ht⟩ := Option.map_eq_some_iff.1 h
  rcases ho : t.outcome with ⟨v, d⟩ | e | f <;> rw [ho] at ht
  · exact ⟨t, v, d, rfl, ho⟩
  · cases ht
  · cases ht

/-- **What the calculator accepts.** If the run to the end of a text succeeds, its value is what an
expression means, and the text is that of the expression, padded with literals out of range before
opening parentheses. It is the text of an expression with this meaning if and only if no literal out
of range stands directly before an opening parenthesis. -/
theorem parseAll_accepts (s : Source text) {built : List Cell} {t : Finish text Value} {v : Value}
    {d : Cursor text} (ht : grammar.parseAll expr s.start built = some t)
    (hv : t.outcome = .success v d) :
    ∃ (e : Expr) (w : Int64), v = .int w ∧ e.eval = some w.toInt ∧ Padded s.elems e.text ∧
      ((∃ e' : Expr, s.elems = e'.text ∧ e'.eval = some w.toInt) ↔ ¬ Overlong s.elems) := by
  have hwhole : ((Parser.whole expr).eval grammar (grammar.depth s.start) s.start).Ensures
      (Meets (fun v d => Accepted (Means Expr.text Expr.eval) s.start v d ∧ d.remaining = [])
        fun _ => True) := by
    rw [Grammar.eval_eq_evalWith]
    refine (expr_accepts _ s.start (placed_start s)).andThen fun v d hv => ?_
    by_cases he : d.isEmpty = true
    · rw [if_pos he]
      refine ensures_success ⟨hv, ?_⟩
      by_contra hne
      rw [isEmpty_eq_false hne] at he
      cases he
    · rw [if_neg he]
      exact (ensures_failure trivial).noting _
  have hmeets := hwhole built t ht
  rw [hv] at hmeets
  obtain ⟨⟨xs, ys, w, hb, hp, ⟨e, rfl, he⟩, rfl⟩, hd⟩ := hmeets
  have hxs : xs = s.elems := by
    rw [← remaining_start, hb.remaining, hd, List.append_nil]
  subst hxs
  refine ⟨e, w, rfl, he, hp, fun h => ?_, fun h => ⟨e, hp.eq h, he⟩⟩
  obtain ⟨e', he', -⟩ := h
  rw [he']
  exact e'.apart.not_overlong

/-- `2*(3)`, which is accepted and no literal of which is out of range. -/
theorem parseAll_accepts_product :
    let s : Source text := ⟨0, "2*(3)".toList⟩
    ¬ Overlong s.elems ∧ ∃ t v d, grammar.parseAll expr s.start [] = some t ∧
      t.outcome = .success v d ∧
      ∃ (e : Expr) (w : Int64), v = .int w ∧ s.elems = e.text ∧ e.eval = some w.toInt := by
  intro s
  have hs : Apart s.elems := by
    unfold Apart
    decide
  have hsuccess : (grammar.parseAll expr s.start []).map (·.outcome.isSuccess) = some true := by
    decide +kernel
  obtain ⟨t, v, d, ht, hv⟩ := exists_success hsuccess
  obtain ⟨-, w, hw, -, -, hiff⟩ := parseAll_accepts s ht hv
  obtain ⟨e, he, heval⟩ := hiff.2 hs.not_overlong
  exact ⟨hs.not_overlong, t, v, d, ht, hv, e, w, hw, he, heval⟩

/-- A literal out of range is passed over before a parenthesis: `99999999999999999999(1)` is
accepted, and is the text of no expression. -/
theorem parseAll_accepts_overlong :
    ¬ ∀ (s : Source text) (built : List Cell) (t : Finish text Value) (v : Value) (d : Cursor text),
      grammar.parseAll expr s.start built = some t → t.outcome = .success v d →
      ∃ (e : Expr) (w : Int64), v = .int w ∧ s.elems = e.text ∧ e.eval = some w.toInt := by
  intro h
  let s : Source text := ⟨0, "99999999999999999999(1)".toList⟩
  have hsuccess : (grammar.parseAll expr s.start []).map (·.outcome.isSuccess) = some true := by
    decide +kernel
  obtain ⟨t, v, d, ht, hv⟩ := exists_success hsuccess
  obtain ⟨e, w, -, he, -⟩ := h s [] t v d ht hv
  have hlong : Overlong s.elems :=
    ⟨[], ⟨.none, "99999999999999999999".toList, .positive rfl (by decide) (List.all_eq_true.1 rfl)⟩,
      ['1', ')'], rfl, by decide⟩
  rw [he] at hlong
  exact e.apart.not_overlong hlong

end Calculator

end GrammarEngine
