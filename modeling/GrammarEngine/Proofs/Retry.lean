import GrammarEngine.Proofs.Motion
import GrammarEngine.Proofs.Numerals

/-!
# Choice that starts again

Where the left side of a choice fails, the engine goes on at the cursor of the failure. Ordinarily a
choice goes back to where it was tried. The two rules are the same for parsers that fail in place,
that is, at the cursor where they were tried.

`evalResuming` is the evaluation with the rule left open: `resume c e` is where a choice and a
recovery go on after the failure `e` of what they tried at `c`. `evalResuming_next` says which rule
the engine has; `evalRetry` is the evaluation that goes back.

`InPlace g p` lists the parsers that fail in place, with recursion through the cells of the grammar;
`InPlace.failsAt` proves that they do. Sequences are not among them, nor is `integer`, which fails
after its digits; `float` is, because every text that its pattern matches can be read
(`binary64?_isSome`).
-/

namespace GrammarEngine

open Outcome Run

variable {M : Medium}

/-! ## Where to go on -/

namespace Parser

/-- Run a parser at a cursor, with `enter` to run the cells and `resume` to say where a choice and a
recovery go on. -/
def evalResuming (resume : Cursor M → Failure M → Cursor M)
    (enter : Cell → Cursor M → Run M Value) : Parser M → Cursor M → Run M Value
  | succeed v, c => .success v c
  | fail message, c => .failure ⟨message, c⟩
  | terminal t, c => .done (c.accept t)
  | advance n, c => .done (.ofForward .unit (c.forward n))
  | map p f, c => (evalResuming resume enter p c).map f
  | tryMap p f, c =>
    (evalResuming resume enter p c).andThen fun v next => evalResuming resume enter (f v next) next
  | recover p f, c =>
    (evalResuming resume enter p c).orElse fun e => .success (f e.message) (resume c e)
  | tryRecover p f, c =>
    (evalResuming resume enter p c).orElse fun e => evalResuming resume enter (f e) e.next
  | both p q, c =>
    (evalResuming resume enter p c).andThen fun v next =>
      (evalResuming resume enter q next).map (.pair v)
  | first p q, c =>
    (evalResuming resume enter p c).andThen fun v next =>
      (evalResuming resume enter q next).map fun _ => v
  | second p q, c =>
    (evalResuming resume enter p c).andThen fun _ next => evalResuming resume enter q next
  | choice p q, c =>
    (evalResuming resume enter p c).orElse fun e =>
      .noting (.fallback e.next.offset e.message) (evalResuming resume enter q (resume c e))
  | tagged p q, c =>
    (evalResuming resume enter p c).handle (fun v next => .success (.left v) next) fun e =>
      .noting (.leftFallback e.next.offset e.message)
        ((evalResuming resume enter q (resume c e)).map .right)
  | many p, c => (Run.repeated (evalResuming resume enter p) (c.length + 1) c).map .list
  | cell k, c => enter k c
  | wrapped p, c => evalResuming resume enter p c
  | whole p, c => (evalResuming resume enter p c).toEnd

/-- The engine goes on at the cursor of the failure. -/
theorem evalResuming_next (enter : Cell → Cursor M → Run M Value) (p : Parser M) (c : Cursor M) :
    p.evalResuming (fun _ e => e.next) enter c = p.evalWith enter c := by
  induction p generalizing c with
  | succeed | fail | terminal | advance | cell => rfl
  | wrapped p ih => exact ih c
  | many p ih => unfold evalResuming evalWith; rw [funext ih]
  | tryMap p f ih ihf | tryRecover p f ih ihf => unfold evalResuming evalWith; simp only [ih, ihf]
  | map p f ih | recover p f ih | whole p ih => unfold evalResuming evalWith; simp only [ih]
  | both p q ihp ihq | first p q ihp ihq | second p q ihp ihq | choice p q ihp ihq
  | tagged p q ihp ihq => unfold evalResuming evalWith; simp only [ihp, ihq]

/-- Run a parser at a cursor, with at most `bound` cells inside one another, where a choice and a
recovery go back to the cursor at which they were tried. -/
def evalRetry (g : Grammar M) : Nat → Parser M → Cursor M → Run M Value
  | 0 => evalResuming (fun c _ => c) fun _ _ => .endless
  | bound + 1 =>
    evalResuming (fun c _ => c) fun k c =>
      .building k (g.notes k) (evalRetry g bound (g.target k) c)

end Parser

/-! ## Failing in place -/

/-- Parsers that fail only where they were tried, as their form shows. -/
inductive Parser.InPlace : {M : Medium} → Grammar M → Parser M → Prop
  | succeed {M : Medium} {g : Grammar M} (v : Value) : InPlace g (.succeed v)
  | fail {M : Medium} {g : Grammar M} (message : String) : InPlace g (.fail message)
  | terminal {M : Medium} {g : Grammar M} (t : M.Terminal) : InPlace g (.terminal t)
  | float {g : Grammar text} : InPlace g Number.float
  | many {M : Medium} {g : Grammar M} (p : Parser M) : InPlace g (.many p)
  | recover {M : Medium} {g : Grammar M} (p : Parser M) (f : String → Value) :
    InPlace g (.recover p f)
  | map {M : Medium} {g : Grammar M} {p : Parser M} (hp : InPlace g p) (f : Value → Value) :
    InPlace g (.map p f)
  | wrapped {M : Medium} {g : Grammar M} {p : Parser M} (hp : InPlace g p) : InPlace g (.wrapped p)
  | choice {M : Medium} {g : Grammar M} {p q : Parser M} (hp : InPlace g p) (hq : InPlace g q) :
    InPlace g (.choice p q)
  | tagged {M : Medium} {g : Grammar M} {p q : Parser M} (hp : InPlace g p) (hq : InPlace g q) :
    InPlace g (.tagged p q)
  | cell {M : Medium} {g : Grammar M} {k : Cell} (hk : InPlace g (g.target k)) : InPlace g (.cell k)

/-- What a terminal yields is what it recognises. -/
theorem Cursor.accept_recognised (c : Cursor M) (t : M.Terminal) :
    (c.accept t).Meets (fun v _ => ∃ n, M.recognise t c.remaining = some (v, n)) (·.next = c) := by
  rw [accept_eq]
  split
  next v n h =>
    rcases c.forward (Units.size M.width (c.remaining.take n)) with f | d
    · trivial
    · exact ⟨n, h⟩
  next => rfl

namespace Number

/-- The texts of decimal fractions can be read. -/
theorem floatText_readable (enter : Cell → Cursor text → Run text Value) (c : Cursor text) :
    (floatText.evalWith enter c).Ensures
      (Meets (fun v _ => (Decimal.binary64? v.text.toList).isSome) (·.next = c)) := by
  refine (ensures_done (c.accept_recognised (.pattern floatPattern))).handle (fun v next hv => ?_)
    (fun e he => ?_) fun _ => trivial
  · obtain ⟨n, hn⟩ := hv
    obtain ⟨m, hm, h⟩ := Option.map_eq_some_iff.1 hn
    cases h
    refine ensures_success ?_
    show (Decimal.binary64? (String.ofList (c.remaining.take n)).toList).isSome = true
    rw [String.toList_ofList]
    exact binary64?_isSome hm
  · have he' : e.next = c := he
    exact Ensures.noting (ensures_failure he') _

/-- The conversion of a decimal fraction does not fail. -/
theorem float_failsAt (enter : Cell → Cursor text → Run text Value) (c : Cursor text) :
    (float.evalWith enter c).Ensures (FailsAt c) := by
  refine (floatText_readable enter c).handle (fun v next hv => ?_) (fun e he => ensures_failure he)
    fun _ => trivial
  obtain ⟨x, hx⟩ := Option.isSome_iff_exists.1 hv
  simp only [hx]
  exact ensures_success trivial

end Number

namespace Parser

/-- **Failing in place.** -/
theorem InPlace.failsAt {g : Grammar M} {p : Parser M} (h : InPlace g p) (bound : Nat)
    (c : Cursor M) : (p.evalWith (g.enter bound) c).Ensures (FailsAt c) := by
  induction h generalizing bound with
  | succeed v => exact ensures_success trivial
  | fail message => exact ensures_failure rfl
  | terminal t => exact ensures_done ((c.accept_meets t).imp (fun _ _ _ => trivial) fun _ he => he)
  | float => exact Number.float_failsAt _ c
  | many p =>
    refine (ensures_repeated (fun _ _ => ensures_within_true _) _ trivial).handle
      (fun _ _ _ => ensures_success trivial) (fun _ he => he.elim) fun _ => trivial
  | recover p f =>
    exact (ensures_true _).handle (fun _ _ _ => ensures_success trivial)
      (fun _ _ => ensures_success trivial) fun _ => trivial
  | map _ f ih => exact (ih bound c).map f
  | wrapped _ ih => exact ih bound c
  | choice _ _ ihp ihq =>
    refine (ihp bound c).handle (fun _ _ _ => ensures_success trivial) (fun e he => ?_)
      fun _ => trivial
    have he' : e.next = c := he
    rw [he']
    exact (ihq bound c).noting _
  | tagged _ _ ihp ihq =>
    refine (ihp bound c).handle (fun _ _ _ => ensures_success trivial) (fun e he => ?_)
      fun _ => trivial
    have he' : e.next = c := he
    rw [he']
    exact ((ihq bound c).map _).noting _
  | cell _ ih =>
    cases bound with
    | zero => exact ensures_endless
    | succ bound =>
      refine Ensures.building ?_ _ _
      rw [Grammar.eval_eq_evalWith]
      exact ih bound c

/-! ## Agreement -/

/-- The left side of every choice, and what every recovery tries, is in place. -/
def LeftsInPlace (g : Grammar M) : Parser M → Prop
  | recover p _ => InPlace g p ∧ p.LeftsInPlace g
  | choice p q | tagged p q => InPlace g p ∧ p.LeftsInPlace g ∧ q.LeftsInPlace g
  | both p q | first p q | second p q => p.LeftsInPlace g ∧ q.LeftsInPlace g
  | tryMap p f => p.LeftsInPlace g ∧ ∀ v next, (f v next).LeftsInPlace g
  | tryRecover p f => p.LeftsInPlace g ∧ ∀ e, (f e).LeftsInPlace g
  | map p _ | many p | wrapped p | whole p => p.LeftsInPlace g
  | succeed _ | fail _ | terminal _ | advance _ | cell _ => True

theorem leftsInPlace_numbers {g : Grammar text} :
    ∀ p ∈ [Number.digitText, Number.digit, Number.integerText, Number.integer, Number.floatText,
      Number.float], p.LeftsInPlace g := by
  have hm : ∀ p message, (Number.matching p message).LeftsInPlace g :=
    fun p message => ⟨.terminal _, trivial, trivial⟩
  simp only [List.forall_mem_cons, List.not_mem_nil, false_imp_iff, implies_true, and_true]
  refine ⟨hm _ _, hm _ _, hm _ _, ⟨hm _ _, fun v _ => ?_⟩, hm _ _, ⟨hm _ _, fun v _ => ?_⟩⟩
  · dsimp only
    split <;> trivial
  · dsimp only
    split <;> trivial

/-- **Two rules that agree in place agree.** Wherever the rule is asked, the failure is at the
cursor where its parser was tried. -/
theorem evalResuming_congr {g : Grammar M} {resume resume' : Cursor M → Failure M → Cursor M}
    {enter : Cell → Cursor M → Run M Value}
    (h : ∀ e : Failure M, resume e.next e = resume' e.next e)
    (hplace : ∀ p, InPlace g p → ∀ c, (p.evalResuming resume enter c).Ensures (FailsAt c))
    (p : Parser M) (hp : p.LeftsInPlace g) (c : Cursor M) :
    p.evalResuming resume enter c = p.evalResuming resume' enter c := by
  induction p generalizing c with
  | succeed | fail | terminal | advance | cell => rfl
  | wrapped p ih => exact ih hp c
  | map p f ih | whole p ih => unfold evalResuming; rw [ih hp]
  | many p ih => unfold evalResuming; rw [funext (ih hp)]
  | tryMap p f ih ihf =>
    unfold evalResuming
    rw [← ih hp.1]
    exact (ensures_true _).handle_congr (fun v next _ => ihf v next (hp.2 v next) next)
      fun _ _ => rfl
  | tryRecover p f ih ihf =>
    unfold evalResuming
    rw [← ih hp.1]
    exact (ensures_true _).handle_congr (fun _ _ _ => rfl) fun e _ => ihf e (hp.2 e) e.next
  | both p q ihp ihq | first p q ihp ihq | second p q ihp ihq =>
    unfold evalResuming
    rw [← ihp hp.1]
    simp only [ihq hp.2]
  | recover p f ih =>
    unfold evalResuming
    rw [← ih hp.2]
    refine (hplace p hp.1 c).handle_congr (fun _ _ _ => rfl) fun e he => ?_
    obtain rfl : e.next = c := he
    rw [h e]
  | choice p q ihp ihq =>
    unfold evalResuming
    rw [← ihp hp.2.1]
    refine (hplace p hp.1 c).handle_congr (fun _ _ _ => rfl) fun e he => ?_
    obtain rfl : e.next = c := he
    rw [h e, ihq hp.2.2]
  | tagged p q ihp ihq =>
    unfold evalResuming
    rw [← ihp hp.2.1]
    refine (hplace p hp.1 c).handle_congr (fun _ _ _ => rfl) fun e he => ?_
    obtain rfl : e.next = c := he
    rw [h e, ihq hp.2.2]

/-- **Choice that starts again.** Let the left side of every choice, and what every recovery tries,
be in place, in a parser and in the cells of its grammar. Then going back to where a choice was
tried and going on at the failure are the same run: the same outcome, the same cells built and the
same records, or none of them, at every cursor and under every bound on nested cells. -/
theorem evalRetry_eq_eval {g : Grammar M} (hg : ∀ f ∈ g.cells, f.parser.LeftsInPlace g)
    {p : Parser M} (hp : p.LeftsInPlace g) (bound : Nat) (c : Cursor M) :
    p.evalRetry g bound c = p.eval g bound c := by
  -- the two rules over the same cells; that the cells are the same is left to the induction
  have agree : ∀ bound (p : Parser M), p.LeftsInPlace g → ∀ c,
      p.evalResuming (fun c _ => c) (g.enter bound) c = p.eval g bound c := by
    intro bound p hp c
    rw [Grammar.eval_eq_evalWith, ← evalResuming_next]
    symm
    refine evalResuming_congr ?_ (fun q hq d => ?_) p hp c
    · exact fun _ => rfl
    · rw [evalResuming_next]
      exact hq.failsAt bound d
  induction bound generalizing p c with
  | zero => exact agree 0 p hp c
  | succ bound ih =>
    have henter : (fun k d => building k (g.notes k) ((g.target k).evalRetry g bound d)) =
        g.enter (bound + 1) := by
      funext k d
      rw [ih (Grammar.forall_target hg (fun _ => trivial) k) d]
      rfl
    show p.evalResuming _ (fun k d =>
      building k (g.notes k) ((g.target k).evalRetry g bound d)) c = _
    rw [henter]
    exact agree (bound + 1) p hp c

/-- Items in brackets, each a decimal fraction or an `x`, and possibly a digit after them. -/
theorem evalRetry_eq_eval_brackets :
    let bracket : Parser text :=
      .second (.terminal (.literal "(")) (.first (.cell 0) (.terminal (.literal ")")))
    let item : Parser text := .tagged Number.float (.terminal (.literal "x"))
    let g : Grammar text := ⟨#[.yields (.choice (.cell 1) bracket), .yields item]⟩
    let p : Parser text := .both (.cell 0) (.opt Number.digit)
    let s : Source text := ⟨0, ['(', '(', 'x', ')', ')', '7']⟩
    (∀ f ∈ g.cells, f.parser.LeftsInPlace g) ∧ p.LeftsInPlace g ∧
      p.evalRetry g 4 s.start [] = p.eval g 4 s.start [] := by
  intro bracket item g p s
  have hitem : InPlace g item := .tagged .float (.terminal _)
  have hdigit : InPlace g (Number.digit.map .present) :=
    .map (.map (.choice (.terminal _) (.fail _)) _) _
  have hg : ∀ f ∈ g.cells, f.parser.LeftsInPlace g := by
    intro f hf
    have hf' : f = .yields (.choice (.cell 1) bracket) ∨ f = .yields item := by simpa [g] using hf
    rcases hf' with rfl | rfl
    · exact ⟨.cell hitem, trivial, trivial, trivial, trivial⟩
    · exact ⟨.float, leftsInPlace_numbers _ (by simp), trivial⟩
  have hp : p.LeftsInPlace g := ⟨trivial, hdigit, leftsInPlace_numbers Number.digit (by simp)⟩
  exact ⟨hg, hp, congrFun (evalRetry_eq_eval hg hp 4 s.start) []⟩

/-- A sequence does not fail in place: a choice that goes back finds `ac`, the engine does not. -/
example :
    let p : Parser text := .choice (.second (.terminal (.literal "a")) (.terminal (.literal "b")))
      (.terminal (.literal "ac"))
    let s : Source text := ⟨0, ['a', 'c']⟩
    (p.evalRetry ⟨#[]⟩ 0 s.start []).map (·.outcome.isSuccess) = some true ∧
      (p.eval ⟨#[]⟩ 0 s.start []).map (·.outcome.isSuccess) = some false := by
  decide

end Parser

end GrammarEngine
