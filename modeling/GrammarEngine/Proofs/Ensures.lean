import GrammarEngine.Parser.Eval

/-!
# What a run ensures

A run threads the built cells and the log through everything it does, and most facts about it are
about neither. `Run.Ensures` speaks of the outcomes only: whatever cells are built before, if the
run ends, its outcome has the property.

`Run.handle` is opened here once. `handle_cases` says all that a handled run can have done, and
`handle_success`, `handle_failure` and `handle_fault` what it does next; no later proof unfolds it.
-/

namespace GrammarEngine

variable {M : Medium} {α β : Type}

/-! ## Outcomes -/

namespace Outcome

/-- A value and its cursor, or a failure, that the predicates hold of. A fault meets everything. -/
def Meets (onSuccess : β → Cursor M → Prop) (onFailure : Failure M → Prop) : Outcome M β → Prop
  | .success v next => onSuccess v next
  | .failure e => onFailure e
  | .fault _ => True

/-- The cursor that the outcome carries is in the set. -/
abbrev Within (I : Cursor M → Prop) : Outcome M β → Prop := Meets (fun _ next => I next) (I ·.next)

/-- A failure, if it is one, is reported at the cursor. -/
abbrev FailsAt (c : Cursor M) : Outcome M β → Prop := Meets (fun _ _ => True) (·.next = c)

theorem Meets.imp {S S' : β → Cursor M → Prop} {F F' : Failure M → Prop} {o : Outcome M β}
    (h : o.Meets S F) (hS : ∀ v next, S v next → S' v next) (hF : ∀ e, F e → F' e) :
    o.Meets S' F' := by
  cases o with
  | success v next => exact hS v next h
  | failure e => exact hF e h
  | fault f => trivial

theorem Within.next {I : Cursor M → Prop} {o : Outcome M β} (h : o.Within I) {d : Cursor M}
    (hd : o.next? = some d) : I d := by
  cases o with
  | success v next => cases hd; exact h
  | failure e => cases hd; exact h
  | fault f => cases hd

end Outcome

open Outcome

/-! ## Handled runs -/

namespace Run

section Handle

variable {run : Run M α} {onSuccess : α → Cursor M → Run M β} {onFailure : Failure M → Run M β}
  {built b : List Cell} {log : List Record}

theorem handle_success {v : α} {next : Cursor M}
    (h : run built = some ⟨.success v next, b, log⟩) :
    run.handle onSuccess onFailure built = (onSuccess v next b).map (Finish.after log) := by
  unfold handle; rw [h]

theorem handle_failure {e : Failure M} (h : run built = some ⟨.failure e, b, log⟩) :
    run.handle onSuccess onFailure built = (onFailure e b).map (Finish.after log) := by
  unfold handle; rw [h]

theorem handle_fault {f : Fault} (h : run built = some ⟨.fault f, b, log⟩) :
    run.handle onSuccess onFailure built = some ⟨.fault f, b, log⟩ := by
  unfold handle; rw [h]

/-- **Inversion of a handled run.** It went on from a value, or from a failure, or ended in the
fault of its first part. -/
theorem handle_cases {s : Finish M β} (h : run.handle onSuccess onFailure built = some s) :
    (∃ v next b log t, run built = some ⟨.success v next, b, log⟩ ∧
      onSuccess v next b = some t ∧ s = t.after log) ∨
    (∃ e b log t, run built = some ⟨.failure e, b, log⟩ ∧ onFailure e b = some t ∧
      s = t.after log) ∨
    ∃ f b log, run built = some ⟨.fault f, b, log⟩ ∧ s = ⟨.fault f, b, log⟩ := by
  rcases hr : run built with _ | ⟨o, b, log⟩
  · unfold handle at h; rw [hr] at h; cases h
  · cases o with
    | success v next =>
      rw [handle_success hr] at h
      obtain ⟨t, ht, rfl⟩ := Option.map_eq_some_iff.1 h
      exact Or.inl ⟨v, next, b, log, t, rfl, ht, rfl⟩
    | failure e =>
      rw [handle_failure hr] at h
      obtain ⟨t, ht, rfl⟩ := Option.map_eq_some_iff.1 h
      exact Or.inr (Or.inl ⟨e, b, log, t, rfl, ht, rfl⟩)
    | fault f =>
      rw [handle_fault hr] at h
      cases h
      exact Or.inr (Or.inr ⟨f, b, log, rfl, rfl⟩)

end Handle

/-! ## Ensured properties -/

/-- Whatever cells are built before, if the run ends, its outcome has the property. -/
def Ensures (run : Run M β) (P : Outcome M β → Prop) : Prop :=
  ∀ built s, run built = some s → P s.outcome

theorem Ensures.imp {run : Run M β} {P Q : Outcome M β → Prop} (h : run.Ensures P)
    (hPQ : ∀ o, P o → Q o) : run.Ensures Q :=
  fun built s hs => hPQ _ (h built s hs)

theorem Ensures.and {run : Run M β} {P Q : Outcome M β → Prop} (h : run.Ensures P)
    (h' : run.Ensures Q) : run.Ensures fun o => P o ∧ Q o :=
  fun built s hs => ⟨h built s hs, h' built s hs⟩

theorem ensures_true (run : Run M β) : run.Ensures fun _ => True := fun _ _ _ => trivial

theorem ensures_within_true (run : Run M β) : run.Ensures (Within fun _ => True) :=
  run.ensures_true.imp fun o _ => by cases o <;> trivial

theorem ensures_done {P : Outcome M β → Prop} {o : Outcome M β} (h : P o) : (done o).Ensures P := by
  intro built s hs
  cases hs
  exact h

theorem ensures_success {P : Outcome M β → Prop} {v : β} {next : Cursor M}
    (h : P (.success v next)) : (success v next).Ensures P := ensures_done h

theorem ensures_failure {P : Outcome M β → Prop} {e : Failure M} (h : P (.failure e)) :
    (failure e).Ensures P := ensures_done h

theorem ensures_endless {P : Outcome M β → Prop} : (endless : Run M β).Ensures P := by
  intro built s hs
  cases hs

theorem Ensures.noting {run : Run M β} {P : Outcome M β → Prop} (h : run.Ensures P) (r : Record) :
    (noting r run).Ensures P := by
  intro built s hs
  obtain ⟨t, ht, rfl⟩ := Option.map_eq_some_iff.1 hs
  exact h built t ht

theorem Ensures.building {run : Run M β} {P : Outcome M β → Prop} (h : run.Ensures P) (k : Cell)
    (notes : List Record) : (building k notes run).Ensures P := by
  intro built s hs
  unfold Run.building at hs
  by_cases hk : k ∈ built
  · rw [if_pos hk] at hs; exact h _ _ hs
  · rw [if_neg hk] at hs
    obtain ⟨t, ht, rfl⟩ := Option.map_eq_some_iff.1 hs
    exact h _ t ht

/-- **Sequencing.** What the first part ensures is known where the run goes on. -/
theorem Ensures.handle {run : Run M α} {P : Outcome M α → Prop} {Q : Outcome M β → Prop}
    {onSuccess : α → Cursor M → Run M β} {onFailure : Failure M → Run M β} (h : run.Ensures P)
    (hs : ∀ v next, P (.success v next) → (onSuccess v next).Ensures Q)
    (hf : ∀ e, P (.failure e) → (onFailure e).Ensures Q) (hq : ∀ f, Q (.fault f)) :
    (run.handle onSuccess onFailure).Ensures Q := by
  intro built s h'
  rcases handle_cases h' with ⟨v, next, b, log, t, hr, ht, rfl⟩ | ⟨e, b, log, t, hr, ht, rfl⟩ |
    ⟨f, b, log, hr, rfl⟩
  · exact hs v next (h _ _ hr) b t ht
  · exact hf e (h _ _ hr) b t ht
  · exact hq f

/-- Where the first part ends in a known value, the run goes on from it. -/
theorem Ensures.after_success {run : Run M α} {Q : Outcome M β → Prop}
    {onSuccess : α → Cursor M → Run M β} {onFailure : Failure M → Run M β} {v : α} {next : Cursor M}
    (h : run.Ensures (· = .success v next)) (hs : (onSuccess v next).Ensures Q) :
    (run.handle onSuccess onFailure).Ensures Q := by
  intro built s h'
  rcases handle_cases h' with ⟨v, next, b, log, t, hr, ht, rfl⟩ | ⟨e, b, log, t, hr, ht, rfl⟩ |
    ⟨f, b, log, hr, rfl⟩
  · cases h _ _ hr; exact hs b t ht
  · cases h _ _ hr
  · cases h _ _ hr

/-- Where the first part ends in a known failure, the run goes on from it. -/
theorem Ensures.after_failure {run : Run M α} {Q : Outcome M β → Prop}
    {onSuccess : α → Cursor M → Run M β} {onFailure : Failure M → Run M β} {e : Failure M}
    (h : run.Ensures (· = .failure e)) (hf : (onFailure e).Ensures Q) :
    (run.handle onSuccess onFailure).Ensures Q := by
  intro built s h'
  rcases handle_cases h' with ⟨v, next, b, log, t, hr, ht, rfl⟩ | ⟨e, b, log, t, hr, ht, rfl⟩ |
    ⟨f, b, log, hr, rfl⟩
  · cases h _ _ hr
  · cases h _ _ hr; exact hf b t ht
  · cases h _ _ hr

theorem Ensures.andThen_failure {run : Run M α} {go : α → Cursor M → Run M β} {e : Failure M}
    (h : run.Ensures (· = .failure e)) : (run.andThen go).Ensures (· = .failure e) :=
  h.after_failure (ensures_failure rfl)

/-- What the first part ensures is known also where two ways to go on are the same. -/
theorem Ensures.handle_congr {run : Run M α} {P : Outcome M α → Prop} (h : run.Ensures P)
    {onSuccess onSuccess' : α → Cursor M → Run M β} {onFailure onFailure' : Failure M → Run M β}
    (hs : ∀ v next, P (.success v next) → onSuccess v next = onSuccess' v next)
    (hf : ∀ e, P (.failure e) → onFailure e = onFailure' e) :
    run.handle onSuccess onFailure = run.handle onSuccess' onFailure' := by
  funext built
  rcases hr : run built with _ | ⟨o, b, log⟩
  · unfold Run.handle; rw [hr]
  · cases o with
    | success v next => rw [handle_success hr, handle_success hr, hs v next (h _ _ hr)]
    | failure e => rw [handle_failure hr, handle_failure hr, hf e (h _ _ hr)]
    | fault f => rw [handle_fault hr, handle_fault hr]

theorem Ensures.map_value {run : Run M α} {S : β → Cursor M → Prop} {F : Failure M → Prop}
    {f : α → β} (h : run.Ensures (Meets (fun v next => S (f v) next) F)) :
    (run.map f).Ensures (Meets S F) :=
  h.handle (fun _ _ hv => ensures_success hv) (fun _ he => ensures_failure he) fun _ => trivial

theorem Ensures.map {run : Run M α} {I : Cursor M → Prop} {F : Failure M → Prop}
    (h : run.Ensures (Meets (fun _ next => I next) F)) (f : α → β) :
    (run.map f).Ensures (Meets (fun _ next => I next) F) := h.map_value

theorem Ensures.imp_value {run : Run M β} {S S' : β → Cursor M → Prop} {F : Failure M → Prop}
    (h : run.Ensures (Meets S F)) (hS : ∀ v next, S v next → S' v next) :
    run.Ensures (Meets S' F) :=
  h.imp fun _ ho => ho.imp hS fun _ he => he

/-- What is known of the failures is not asked for. -/
theorem Ensures.value {run : Run M β} {S : β → Cursor M → Prop} {F : Failure M → Prop}
    (h : run.Ensures (Meets S F)) : run.Ensures (Meets S fun _ => True) :=
  h.imp fun _ ho => ho.imp (fun _ _ hv => hv) fun _ _ => trivial

/-- What is known of the failures of both parts is known of the failures of the whole. -/
theorem Ensures.andThen {run : Run M α} {go : α → Cursor M → Run M β} {S : α → Cursor M → Prop}
    {S' : β → Cursor M → Prop} {F : Failure M → Prop} (h : run.Ensures (Meets S F))
    (hs : ∀ v next, S v next → (go v next).Ensures (Meets S' F)) :
    (run.andThen go).Ensures (Meets S' F) :=
  h.handle hs (fun _ he => ensures_failure he) fun _ => trivial

/-- A repetition does not fail, and every cursor it goes on from is in a set that its steps do not
leave. -/
theorem ensures_repeated {I : Cursor M → Prop} {step : Cursor M → Run M α}
    (h : ∀ d, I d → (step d).Ensures (Within I)) (bound : Nat) {c : Cursor M} (hc : I c) :
    (repeated step bound c).Ensures (Meets (fun _ next => I next) fun _ => False) := by
  induction bound generalizing c with
  | zero => exact ensures_endless
  | succ bound ih =>
    refine (h c hc).handle (fun v next hn => ?_) (fun _ _ => ensures_success hc) fun _ => trivial
    by_cases ho : next.offset = c.offset
    · rw [if_pos ho]; exact ensures_success hc
    · rw [if_neg ho]; exact (ih hn).map _

theorem Ensures.toEnd {run : Run M Value} {S : Value → Cursor M → Prop} {F : Failure M → Prop}
    (h : run.Ensures (Meets S F)) (hS : ∀ v next, S v next → F ⟨leftoverMessage, next⟩) :
    run.toEnd.Ensures (Meets S F) := by
  refine Ensures.handle h (fun v next hv => ?_) (fun e he => ensures_failure he) fun _ => trivial
  by_cases he : next.isEmpty = true
  · rw [if_pos he]; exact ensures_success hv
  · rw [if_neg he]; exact (ensures_failure (hS v next hv)).noting _

/-! ## Runs that end -/

/-- Whatever cells are built before, the run ends, and in this outcome. -/
def EndsIn (run : Run M β) (o : Outcome M β) : Prop :=
  ∀ built, ∃ s, run built = some s ∧ s.outcome = o

theorem EndsIn.ensures {run : Run M β} {o : Outcome M β} (h : run.EndsIn o) :
    run.Ensures (· = o) := by
  intro built s hs
  obtain ⟨t, ht, ho⟩ := h built
  rw [hs] at ht
  cases ht
  exact ho

theorem EndsIn.unique {run : Run M β} {o o' : Outcome M β} (h : run.EndsIn o)
    (h' : run.EndsIn o') : o = o' := by
  obtain ⟨s, hs, rfl⟩ := h []
  exact h'.ensures [] s hs

theorem endsIn_done (o : Outcome M β) : (done o).EndsIn o :=
  fun built => ⟨⟨o, built, []⟩, rfl, rfl⟩

theorem EndsIn.noting {run : Run M β} {o : Outcome M β} (h : run.EndsIn o) (r : Record) :
    (noting r run).EndsIn o := by
  intro built
  obtain ⟨s, hs, ho⟩ := h built
  exact ⟨s.after [r], by unfold Run.noting; rw [hs]; rfl, ho⟩

theorem EndsIn.after_success {run : Run M α} {onSuccess : α → Cursor M → Run M β}
    {onFailure : Failure M → Run M β} {v : α} {next : Cursor M} {o : Outcome M β}
    (h : run.EndsIn (.success v next)) (hs : (onSuccess v next).EndsIn o) :
    (run.handle onSuccess onFailure).EndsIn o := by
  intro built
  obtain ⟨⟨o', b, log⟩, hr, rfl⟩ := h built
  obtain ⟨t, ht, ho⟩ := hs b
  exact ⟨t.after log, by rw [handle_success hr, ht]; rfl, ho⟩

theorem EndsIn.after_failure {run : Run M α} {onSuccess : α → Cursor M → Run M β}
    {onFailure : Failure M → Run M β} {e : Failure M} {o : Outcome M β}
    (h : run.EndsIn (.failure e)) (hf : (onFailure e).EndsIn o) :
    (run.handle onSuccess onFailure).EndsIn o := by
  intro built
  obtain ⟨⟨o', b, log⟩, hr, rfl⟩ := h built
  obtain ⟨t, ht, ho⟩ := hf b
  exact ⟨t.after log, by rw [handle_failure hr, ht]; rfl, ho⟩

theorem EndsIn.map_success {run : Run M α} {v : α} {next : Cursor M}
    (h : run.EndsIn (.success v next)) (f : α → β) : (run.map f).EndsIn (.success (f v) next) :=
  h.after_success (endsIn_done _)

end Run

end GrammarEngine
