import GrammarEngine.Proofs.Motion

/-!
# Comparing runs

Two evaluations of one parser differ in how they enter cells and in the cells that are built before.
`Run.Follows C run run'` says that whenever `run` ends, `run'` ends too and in the same outcome,
with cells and log as the comparison `C` asks. `evalWith_follows` carries it from the cells to
parsers: if entering a cell is followed, then so is everything that enters cells.

The comparison is one-sided. Used with more room for nested cells on the second side it says that
room does no harm; used in both directions it says that two evaluations end alike or not at all.
-/

namespace GrammarEngine

open Outcome Cursor

variable {M : Medium} {α β : Type}

/-- A record of the building of a cell: that it is built, or that a pattern is compiled for it. -/
def Record.ofBuilding (r : Record) : Bool := r.topic == .cell || r.topic == .pattern

/-- What is asked of the cells and the logs of two runs. Records other than those of the building of
cells stand on both sides. -/
structure Comparison where
  cells : List Cell → List Cell → Prop
  log : List Record → List Record → Prop
  log_nil : log [] []
  log_append : ∀ {a a' b b'}, log a a' → log b b' → log (a ++ b) (a' ++ b')
  log_record : ∀ r : Record, r.ofBuilding = false → log [r] [r]

/-- The same cells and the same log. -/
def Comparison.exact : Comparison where
  cells := Eq
  log := Eq
  log_nil := rfl
  log_append := by rintro a _ b _ rfl rfl; rfl
  log_record _ _ := rfl

namespace Run

/-- Where the first run ends, the second ends in the same outcome. -/
def Follows (C : Comparison) (run run' : Run M β) : Prop :=
  ∀ built built' s, C.cells built built' → run built = some s →
    ∃ s', run' built' = some s' ∧ s'.outcome = s.outcome ∧ C.cells s.built s'.built ∧
      C.log s.log s'.log

variable {C : Comparison}

theorem follows_exact_iff {run run' : Run M β} :
    Follows .exact run run' ↔ ∀ built s, run built = some s → run' built = some s := by
  constructor
  · intro h built s hs
    obtain ⟨⟨o, b, l⟩, hs', ho, hb, hl⟩ := h built built s rfl hs
    rw [hs']
    cases s
    cases ho; cases hb; cases hl
    rfl
  · rintro h built _ s rfl hs
    exact ⟨s, h built s hs, rfl, rfl, rfl⟩

theorem follows_done (o : Outcome M β) : Follows C (done o) (done o) := by
  intro built built' s hb hs
  cases hs
  exact ⟨_, rfl, rfl, hb, C.log_nil⟩

theorem follows_endless {run : Run M β} : Follows C endless run := by
  intro built built' s _ hs
  cases hs

theorem Follows.noting {run run' : Run M β} (h : Follows C run run') {r : Record}
    (hr : r.ofBuilding = false) : Follows C (noting r run) (noting r run') := by
  intro built built' s hb hs
  obtain ⟨t, ht, rfl⟩ := Option.map_eq_some_iff.1 hs
  obtain ⟨t', ht', ho, hc, hl⟩ := h built built' t hb ht
  refine ⟨t'.after [r], ?_, ho, hc, C.log_append (C.log_record r hr) hl⟩
  unfold Run.noting
  rw [ht']
  rfl

/-- **Sequencing.** Both runs go on from the same value or failure, about which the first run has
ensured something. -/
theorem Follows.handle {run run' : Run M α} (h : Follows C run run') {P : Outcome M α → Prop}
    (hP : run.Ensures P) {onSuccess onSuccess' : α → Cursor M → Run M β}
    {onFailure onFailure' : Failure M → Run M β}
    (hs : ∀ v next, P (.success v next) → Follows C (onSuccess v next) (onSuccess' v next))
    (hf : ∀ e, P (.failure e) → Follows C (onFailure e) (onFailure' e)) :
    Follows C (run.handle onSuccess onFailure) (run'.handle onSuccess' onFailure') := by
  intro built built' s hb h'
  rcases handle_cases h' with ⟨v, next, b, log, t, hr, ht, rfl⟩ | ⟨e, b, log, t, hr, ht, rfl⟩ |
    ⟨f, b, log, hr, rfl⟩
  · obtain ⟨⟨o, b', log'⟩, hr', ho, hc, hl⟩ := h built built' _ hb hr
    cases ho
    obtain ⟨t', ht', ho', hc', hl'⟩ := hs v next (hP _ _ hr) b b' t hc ht
    exact ⟨t'.after log', by rw [handle_success hr', ht']; rfl, ho', hc', C.log_append hl hl'⟩
  · obtain ⟨⟨o, b', log'⟩, hr', ho, hc, hl⟩ := h built built' _ hb hr
    cases ho
    obtain ⟨t', ht', ho', hc', hl'⟩ := hf e (hP _ _ hr) b b' t hc ht
    exact ⟨t'.after log', by rw [handle_failure hr', ht']; rfl, ho', hc', C.log_append hl hl'⟩
  · obtain ⟨⟨o, b', log'⟩, hr', ho, hc, hl⟩ := h built built' _ hb hr
    cases ho
    exact ⟨⟨.fault f, b', log'⟩, handle_fault hr', rfl, hc, hl⟩

theorem Follows.map {run run' : Run M α} (h : Follows C run run') (f : α → β) :
    Follows C (run.map f) (run'.map f) :=
  h.handle run.ensures_true (fun v next _ => follows_done (.success (f v) next))
    fun e _ => follows_done (.failure e)

theorem Follows.repeated {I : Cursor M → Prop} {step step' : Cursor M → Run M α}
    (hI : ∀ d, I d → (step d).Ensures (Within I)) (h : ∀ d, I d → Follows C (step d) (step' d))
    (bound : Nat) {c : Cursor M} (hc : I c) :
    Follows C (repeated step bound c) (repeated step' bound c) := by
  induction bound generalizing c with
  | zero => exact follows_endless
  | succ bound ih =>
    refine (h c hc).handle (hI c hc) (fun v next hn => ?_) fun _ _ => follows_done _
    by_cases ho : next.offset = c.offset
    · rw [if_pos ho, if_pos ho]; exact follows_done _
    · rw [if_neg ho, if_neg ho]; exact (ih hn).map _

theorem Follows.toEnd {run run' : Run M Value} (h : Follows C run run') :
    Follows C run.toEnd run'.toEnd := by
  refine h.handle run.ensures_true (fun v next _ => ?_) fun e _ => follows_done (.failure e)
  by_cases he : next.isEmpty = true
  · rw [if_pos he]; exact follows_done (.success v next)
  · rw [if_neg he]
    exact (follows_done (.failure _)).noting rfl

end Run

open Run

/-- **Comparing evaluations.** If the second evaluation follows the first wherever they enter a cell
at a cursor of a closed set, then it does so for every parser. -/
theorem Parser.evalWith_follows {C : Comparison} {I : Cursor M → Prop} (hI : Closed I)
    {enter enter' : Cell → Cursor M → Run M Value}
    (hE : ∀ k d, I d → (enter k d).Ensures (Within I))
    (h : ∀ k d, I d → Follows C (enter k d) (enter' k d)) (p : Parser M) {c : Cursor M} (hc : I c) :
    Follows C (p.evalWith enter c) (p.evalWith enter' c) := by
  -- every part of the run is within the set, so each part that follows starts there
  have within : ∀ (p : Parser M) {c : Cursor M}, I c → (p.evalWith enter c).Ensures (Within I) :=
    fun p c hc => p.evalWith_within hI hE hc
  have stay : ∀ e : Failure M, Follows C (failure e : Run M Value) (failure e) :=
    fun e => follows_done (.failure e)
  have keep : ∀ (v : Value) (next : Cursor M), Follows C (success v next) (success v next) :=
    fun v next => follows_done (.success v next)
  induction p generalizing c with
  | succeed v => exact keep v c
  | fail message => exact stay _
  | terminal t => exact follows_done _
  | advance n => exact follows_done _
  | map p f ih => exact (ih hc).map f
  | tryMap p f ih ihf =>
    exact (ih hc).handle (within p hc) (fun v next hn => ihf v next hn) fun e _ => stay e
  | recover p f ih =>
    exact (ih hc).handle (within p hc) (fun v next _ => keep v next) fun e _ => keep _ e.next
  | tryRecover p f ih ihf =>
    exact (ih hc).handle (within p hc) (fun v next _ => keep v next) fun e he => ihf e he
  | both p q ihp ihq =>
    exact (ihp hc).handle (within p hc) (fun v next hn => (ihq hn).map _) fun e _ => stay e
  | first p q ihp ihq =>
    exact (ihp hc).handle (within p hc) (fun v next hn => (ihq hn).map _) fun e _ => stay e
  | second p q ihp ihq =>
    exact (ihp hc).handle (within p hc) (fun _ next hn => ihq hn) fun e _ => stay e
  | choice p q ihp ihq =>
    exact (ihp hc).handle (within p hc) (fun v next _ => keep v next)
      fun e he => (ihq he).noting rfl
  | tagged p q ihp ihq =>
    exact (ihp hc).handle (within p hc) (fun v next _ => keep (.left v) next)
      fun e he => ((ihq he).map _).noting rfl
  | many p ih => exact (Follows.repeated (fun _ hd => within p hd) (fun _ hd => ih hd) _ hc).map _
  | cell k => exact h k c hc
  | wrapped p ih => exact ih hc
  | whole p ih => exact (ih hc).toEnd

/-- The same where cells are followed at every cursor. -/
theorem Parser.evalWith_follows_all {C : Comparison} {enter enter' : Cell → Cursor M → Run M Value}
    (h : ∀ k d, Follows C (enter k d) (enter' k d)) (p : Parser M) (c : Cursor M) :
    Follows C (p.evalWith enter c) (p.evalWith enter' c) := by
  exact p.evalWith_follows (fun _ _ _ _ _ => trivial) (fun k d _ => (enter k d).ensures_within_true)
    (fun k d _ => h k d) trivial

end GrammarEngine
