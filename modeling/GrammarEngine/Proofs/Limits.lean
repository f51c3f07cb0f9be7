import GrammarEngine.Proofs.Depth

/-!
# Runs with enough room

What a parser is parsed as does not depend on the room for nested cells, once there is enough: it is
the limit of the runs with more and more room (`limit_parse`). Limits keep to how runs are put
together (`Limit.handle`), and there is only one (`Limit.unique`). So a combinator is parsed as its
parts are, put together in its own way, although each of them is parsed with room of its own.
-/

namespace GrammarEngine

open Outcome Cursor Run

variable {M : Medium} {α β : Type}

namespace Run

/-- The run is what the bounded runs come to with more and more room. -/
structure Limit (R : Nat → Run M β) (run : Run M β) : Prop where
  mono : ∀ {m n : Nat} {built s}, m ≤ n → R m built = some s → R n built = some s
  iff : ∀ {built s}, run built = some s ↔ ∃ n, R n built = some s

variable {R : Nat → Run M α} {run : Run M α}

/-- Bounded runs come to one run only. -/
theorem Limit.unique {run' : Run M α} (h : Limit R run) (h' : Limit R run') : run = run' := by
  funext built
  exact Option.ext fun s => h.iff.trans h'.iff.symm

theorem limit_const (run : Run M β) : Limit (fun _ => run) run where
  mono _ hs := hs
  iff := ⟨fun hs => ⟨0, hs⟩, fun ⟨_, hs⟩ => hs⟩

theorem Limit.noting (h : Limit R run) (r : Record) :
    Limit (fun n => noting r (R n)) (noting r run) where
  mono := by
    intro m n built s hmn hs
    obtain ⟨t, ht, rfl⟩ := Option.map_eq_some_iff.1 hs
    exact Option.map_eq_some_iff.2 ⟨t, h.mono hmn ht, rfl⟩
  iff := by
    intro built s
    constructor
    · intro hs
      obtain ⟨t, ht, rfl⟩ := Option.map_eq_some_iff.1 hs
      obtain ⟨n, hn⟩ := h.iff.1 ht
      exact ⟨n, Option.map_eq_some_iff.2 ⟨t, hn, rfl⟩⟩
    · rintro ⟨n, hs⟩
      obtain ⟨t, ht, rfl⟩ := Option.map_eq_some_iff.1 hs
      exact Option.map_eq_some_iff.2 ⟨t, h.iff.2 ⟨n, ht⟩, rfl⟩

/-- **Sequencing.** There is enough room for both parts. -/
theorem Limit.handle (h : Limit R run) {P : Outcome M α → Prop} (hP : run.Ensures P)
    {onSuccess : Nat → α → Cursor M → Run M β} {onSuccess' : α → Cursor M → Run M β}
    {onFailure : Nat → Failure M → Run M β} {onFailure' : Failure M → Run M β}
    (hs : ∀ v next, P (.success v next) →
      Limit (fun n => onSuccess n v next) (onSuccess' v next))
    (hf : ∀ e, P (.failure e) → Limit (fun n => onFailure n e) (onFailure' e)) :
    Limit (fun n => (R n).handle (onSuccess n) (onFailure n))
      (run.handle onSuccess' onFailure') where
  mono := by
    intro m n built s hmn hend
    show (R n).handle (onSuccess n) (onFailure n) built = some s
    rcases handle_cases hend with ⟨v, next, b, log, t, hr, ht, rfl⟩ |
      ⟨e, b, log, t, hr, ht, rfl⟩ | ⟨f, b, log, hr, rfl⟩
    · have ht' := (hs v next (hP _ _ (h.iff.2 ⟨m, hr⟩))).mono hmn ht
      rw [handle_success (h.mono hmn hr), ht']
      rfl
    · have ht' := (hf e (hP _ _ (h.iff.2 ⟨m, hr⟩))).mono hmn ht
      rw [handle_failure (h.mono hmn hr), ht']
      rfl
    · exact handle_fault (h.mono hmn hr)
  iff := by
    intro built s
    constructor
    · intro hend
      rcases handle_cases hend with ⟨v, next, b, log, t, hr, ht, rfl⟩ |
        ⟨e, b, log, t, hr, ht, rfl⟩ | ⟨f, b, log, hr, rfl⟩
      · obtain ⟨m, hm⟩ := h.iff.1 hr
        have hlimit := hs v next (hP _ _ hr)
        obtain ⟨n, hn⟩ := hlimit.iff.1 ht
        refine ⟨max m n, ?_⟩
        rw [handle_success (h.mono (Nat.le_max_left m n) hm),
          hlimit.mono (Nat.le_max_right m n) hn]
        rfl
      · obtain ⟨m, hm⟩ := h.iff.1 hr
        have hlimit := hf e (hP _ _ hr)
        obtain ⟨n, hn⟩ := hlimit.iff.1 ht
        refine ⟨max m n, ?_⟩
        rw [handle_failure (h.mono (Nat.le_max_left m n) hm),
          hlimit.mono (Nat.le_max_right m n) hn]
        rfl
      · obtain ⟨m, hm⟩ := h.iff.1 hr
        exact ⟨m, handle_fault hm⟩
    · rintro ⟨n, hend⟩
      rcases handle_cases hend with ⟨v, next, b, log, t, hr, ht, rfl⟩ |
        ⟨e, b, log, t, hr, ht, rfl⟩ | ⟨f, b, log, hr, rfl⟩
      · have hr' := h.iff.2 ⟨n, hr⟩
        rw [handle_success hr', (hs v next (hP _ _ hr')).iff.2 ⟨n, ht⟩]
        rfl
      · have hr' := h.iff.2 ⟨n, hr⟩
        rw [handle_failure hr', (hf e (hP _ _ hr')).iff.2 ⟨n, ht⟩]
        rfl
      · exact handle_fault (h.iff.2 ⟨n, hr⟩)

theorem Limit.map (h : Limit R run) (f : α → β) : Limit (fun n => (R n).map f) (run.map f) :=
  h.handle run.ensures_true (fun _ _ _ => limit_const _) fun _ _ => limit_const _

end Run

namespace Grammar

variable {g : Grammar M} {c : Cursor M}

/-- What a parser is parsed as is what its bounded runs come to. -/
theorem limit_parse (p : Parser M) (hc : c.Placed) :
    Limit (fun n => p.eval g n c) (g.parse p c) where
  mono hmn hs := Parser.eval_mono hmn hs
  iff := parse_eq_some_iff hc

theorem parse_ensures_placed (p : Parser M) (hc : c.Placed) :
    (g.parse p c).Ensures (Within Placed) :=
  (p.eval_reaches g (g.depth c) c).imp fun _ ho =>
    ho.imp (fun _ _ hn => (hn.ahead hc).2.2) fun _ hn => (hn.ahead hc).2.2

end Grammar

end GrammarEngine
