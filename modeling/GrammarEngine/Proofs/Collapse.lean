import GrammarEngine.Proofs.Mapping
import GrammarEngine.Proofs.Repetition

/-!
# Repeating what always succeeds

A repetition does not fail, and an optional parser does not either. A loop around them ends where
they do not move, and so what it yields depends on where that is: for a repetition wherever it has
come to, for an optional parser where the parser in it yields a value, or fails, without moving.

Main statement: `repetition_collapses`.

1. What the parser has to be is said by `Onward`. All parsers of grammars are so (`onward_eval`),
   and then their repetitions and the optional parsers of them are (`onward_many`, `onward_opt`).
2. The loop around a repetition makes one round or none (`many_many_endsIn_iff`).
3. A failure in place ends the loop around an optional parser as it ends the loop around the parser
   itself, in the same run (`repeated_orElse`).
4. After a failure further on the loop around an optional parser goes on. Its rounds are the
   attempts of the parser, with an absent value for each such failure (`rounds_opt_iff`).
-/

namespace GrammarEngine

open Outcome Cursor Run Value

variable {M : Medium} {α β : Type}

/-! ## Cursors ahead -/

namespace Cursor

variable {c d e : Cursor M}

/-- The second cursor is of the same source, at the end of an element and not before the first. -/
def Ahead (c d : Cursor M) : Prop := d.source = c.source ∧ c.offset ≤ d.offset ∧ d.Placed

theorem Placed.ahead_self (h : c.Placed) : c.Ahead c := ⟨rfl, Nat.le_refl _, h⟩

theorem Ahead.trans (h : c.Ahead d) (h' : d.Ahead e) : c.Ahead e :=
  ⟨h'.1.trans h.1, Nat.le_trans h.2.1 h'.2.1, h'.2.2⟩

theorem Ahead.eq (h : c.Ahead d) (ho : d.offset = c.offset) : d = c := by
  obtain ⟨s, i⟩ := c
  obtain ⟨t, j⟩ := d
  obtain ⟨rfl, -⟩ := h
  cases ho
  rfl

end Cursor

/-! ## Steps that do not move back -/

/-- Nothing is asked of the cells and the logs. -/
def Comparison.outcomes : Comparison where
  cells _ _ := True
  log _ _ := True
  log_nil := trivial
  log_append _ _ := trivial
  log_record _ _ := trivial

namespace Run

/-- A run follows itself, whatever the cells, if they do not change how it ends. -/
theorem follows_outcomes_iff {run : Run M β} : Follows .outcomes run run ↔
    ∀ built built', (run built).map Finish.outcome = (run built').map Finish.outcome := by
  constructor
  · intro h built built'
    rcases hs : run built with _ | s
    · rcases hs' : run built' with _ | s'
      · rfl
      · obtain ⟨t, ht, -⟩ := h built' built s' trivial hs'
        rw [hs] at ht
        cases ht
    · obtain ⟨s', hs', ho, -⟩ := h built built' s trivial hs
      rw [hs', Option.map_some, Option.map_some, ho]
  · intro h built built' s _ hs
    have h' := h built' built
    rw [hs, Option.map_some] at h'
    obtain ⟨s', hs', ho⟩ := Option.map_eq_some_iff.1 h'
    exact ⟨s', hs', ho, trivial, trivial⟩

/-- The cells built before do not change how the step ends, and its values and failures are at
cursors of the same source, not before the one where the step was made. -/
structure Onward (step : Cursor M → Run M α) : Prop where
  outcome : ∀ d built built',
    (step d built).map Finish.outcome = (step d built').map Finish.outcome
  within : ∀ d, d.Placed → (step d).Ensures (Within d.Ahead)

variable {step : Cursor M → Run M α} {c d : Cursor M}

theorem Onward.steady (h : Onward step) : Steady step where
  outcome := h.outcome
  ahead d hd := (h.within d hd).imp fun _ ho => ho.imp (fun _ _ hn => hn) fun _ _ => trivial

/-- A step within the cursors ahead of one keeps to them. -/
theorem Onward.within_of_ahead (h : Onward step) (hd : c.Ahead d) :
    (step d).Ensures (Within c.Ahead) :=
  (h.within d hd.2.2).imp fun _ ho => ho.imp (fun _ _ hn => hd.trans hn) fun _ hn => hd.trans hn

theorem Onward.next (h : Onward step) (hc : c.Placed) {o : Outcome M α} (ho : (step c).EndsIn o)
    {next : Cursor M} (hn : o.next? = some next) : c.Ahead next := by
  obtain ⟨s, hs, rfl⟩ := ho []
  exact (h.within c hc [] s hs).next hn

/-- From one cursor to the other, each attempt moves on: it yields the next value, which is present,
or it fails further on, and then the next value is absent. -/
inductive Attempts (step : Cursor M → Run M Value) : Cursor M → List Value → Cursor M → Prop
  | stop (c : Cursor M) : Attempts step c [] c
  | value {c next d : Cursor M} {v : Value} {vs : List Value}
    (h : (step c).EndsIn (.success v next)) (hn : c.offset < next.offset)
    (hr : Attempts step next vs d) : Attempts step c (.present v :: vs) d
  | miss {c d : Cursor M} {e : Failure M} {vs : List Value} (h : (step c).EndsIn (.failure e))
    (hn : c.offset < e.next.offset) (hr : Attempts step e.next vs d) :
    Attempts step c (.absent :: vs) d

/-- At the cursor the step yields a value or fails, and does not move. -/
def Stalls (step : Cursor M → Run M α) (d : Cursor M) : Prop :=
  ∃ o next, (step d).EndsIn o ∧ o.next? = some next ∧ next.offset = d.offset

/-- An absent value stands for a failure that has moved on. -/
theorem Attempts.of_absent {step : Cursor M → Run M Value} {front back : List Value}
    (h : Attempts step c (front ++ .absent :: back) d) :
    ∃ a e, Attempts step c front a ∧ (step a).EndsIn (.failure e) ∧ a.offset < e.next.offset ∧
      Attempts step e.next back d := by
  induction front generalizing c with
  | nil =>
    cases h with
    | miss h hn hr => exact ⟨c, _, .stop c, h, hn, hr⟩
  | cons v front ih =>
    cases h with
    | value h hn hr =>
      obtain ⟨a, e, ha, rest⟩ := ih hr
      exact ⟨a, e, .value h hn ha, rest⟩
    | miss h hn hr =>
      obtain ⟨a, e, ha, rest⟩ := ih hr
      exact ⟨a, e, .miss h hn ha, rest⟩

/-- A run that does not fail does not end in a failure. -/
theorem Ensures.not_failure {run : Run M β} {S : β → Cursor M → Prop}
    (h : run.Ensures (Meets S fun _ => False)) {e : Failure M} : ¬ run.EndsIn (.failure e) := by
  intro he
  obtain ⟨s, hs, ho⟩ := he []
  have hfail := h [] s hs
  rw [ho] at hfail
  exact hfail

/-- **Failures in place.** With a value in place of each failure the loop ends where it does
without. -/
theorem repeated_orElse {I : Cursor M → Prop} (hI : ∀ d, I d → (step d).Ensures (Within I))
    (hf : ∀ d, I d → (step d).Ensures (FailsAt d)) (f : Failure M → α) (bound : Nat) (hc : I c) :
    repeated (fun d => (step d).orElse fun e => success (f e) e.next) bound c =
      repeated step bound c := by
  induction bound generalizing c with
  | zero => rfl
  | succ bound ih =>
    unfold repeated orElse
    rw [handle_handle]
    simp only [handle_of_success]
    refine ((hI c hc).and (hf c hc)).handle_congr (fun v next hn => ?_) fun e he => ?_
    · split
      · rfl
      · exact congrArg (fun run => run.map (v :: ·)) (ih hn.1)
    · rw [if_pos (congrArg offset he.2)]

end Run

/-! ## Repetitions and optional parsers -/

namespace Parser

variable {enter : Cell → Cursor M → Run M Value} {p : Parser M} {c d : Cursor M} {w : Value}

/-- The parsers of grammars do not move back, in a failure either. -/
theorem onward_eval (g : Grammar M) (n : Nat) (p : Parser M) :
    Onward (p.evalWith (g.enter n)) where
  outcome := (p.steady_eval g n).outcome
  within d hd := by
    rw [← Grammar.eval_eq_evalWith]
    exact (p.eval_reaches g n d).imp fun o ho =>
      ho.imp (fun _ _ hn => hn.ahead hd) fun _ hn => hn.ahead hd

/-- A repetition does not fail. -/
theorem many_ensures (enter : Cell → Cursor M → Run M Value) (p : Parser M) (c : Cursor M) :
    ((many p).evalWith enter c).Ensures (Meets (fun _ _ => True) fun _ => False) :=
  (ensures_repeated (I := fun _ => True) (fun d _ => (p.evalWith enter d).ensures_within_true) _
    trivial).map _

theorem onward_many (hp : Onward (p.evalWith enter)) : Onward ((many p).evalWith enter) where
  outcome d := by
    refine follows_outcomes_iff.1 (Follows.map ?_ _)
    exact Follows.repeated (I := fun _ => True)
      (fun e _ => (p.evalWith enter e).ensures_within_true)
      (fun e _ => follows_outcomes_iff.2 (hp.outcome e)) _ trivial
  within d hd := by
    have h :=
      (ensures_repeated (fun e he => hp.within_of_ahead he) (d.length + 1) hd.ahead_self).map
      Value.list
    exact h.imp fun _ ho => ho.imp (fun _ _ hn => hn) fun _ he => he.elim

theorem onward_opt (hp : Onward (p.evalWith enter)) : Onward ((opt p).evalWith enter) where
  outcome d := by
    refine follows_outcomes_iff.1 ?_
    exact ((follows_outcomes_iff.2 (hp.outcome d)).map _).handle (ensures_true _)
      (fun v next _ => follows_done (.success v next)) fun e _ => follows_done (.success _ e.next)
  within d hd :=
    ((hp.within d hd).map _).handle (fun v next hn => ensures_success hn)
      (fun e he => ensures_success he) fun _ => trivial

/-- An optional parser does not fail. -/
theorem opt_ensures (enter : Cell → Cursor M → Run M Value) (p : Parser M) (c : Cursor M) :
    ((opt p).evalWith enter c).Ensures (Meets (fun _ _ => True) fun _ => False) := by
  rw [evalWith_opt]
  exact (ensures_true _).handle (fun _ _ _ => ensures_success trivial)
    (fun _ _ => ensures_success trivial) fun _ => trivial

/-- The values of an optional parser. -/
theorem opt_endsIn_iff (hp : Onward (p.evalWith enter)) {next : Cursor M} :
    ((opt p).evalWith enter c).EndsIn (.success w next) ↔
      (∃ v, w = .present v ∧ (p.evalWith enter c).EndsIn (.success v next)) ∨
        ∃ e, w = .absent ∧ (p.evalWith enter c).EndsIn (.failure e) ∧ e.next = next := by
  rw [evalWith_opt]
  constructor
  · intro h
    obtain ⟨s, hs, ho⟩ := h []
    rcases handle_cases hs with ⟨v, _, b, log, t, hr, ht, rfl⟩ | ⟨e, b, log, t, hr, ht, rfl⟩ |
      ⟨f, b, log, hr, rfl⟩
    · cases ht
      cases ho
      exact Or.inl ⟨v, rfl, hp.steady.endsIn hr⟩
    · cases ht
      cases ho
      exact Or.inr ⟨e, rfl, hp.steady.endsIn hr, rfl⟩
    · cases ho
  · rintro (⟨v, rfl, h⟩ | ⟨e, rfl, h, rfl⟩)
    · exact h.after_success (endsIn_done _)
    · exact h.after_failure (endsIn_done _)

/-- The values of a repetition are the chains of rounds that have come to their end. -/
theorem many_endsIn_iff (hp : Onward (p.evalWith enter)) (hc : c.Placed) :
    ((many p).evalWith enter c).EndsIn (.success w d) ↔
      ∃ vs, w = .list vs ∧ Rounds (p.evalWith enter) c vs d ∧ Rests (p.evalWith enter) d := by
  constructor
  · intro h
    obtain ⟨t, ht, ho⟩ := h []
    rcases handle_cases ht with ⟨vs, next, b, log, u, hu, hv, rfl⟩ |
      ⟨e, b, log, u, hu, he, rfl⟩ | ⟨f, b, log, -, rfl⟩
    · cases hv
      cases ho
      rcases repeated_rounds hp.steady hu with ⟨f, hf⟩ | ⟨vs', d', hs, hrounds⟩
      · cases hf
      · cases hs
        exact ⟨vs, rfl, hrounds⟩
    · cases he
      cases ho
    · cases ho
  · rintro ⟨vs, rfl, hr, hd⟩
    exact (hr.endsIn hp.steady hd hc (Nat.lt_succ_self _)).map_success _

/-- Where a repetition has ended, it yields nothing more. -/
theorem many_again (hp : Onward (p.evalWith enter)) (hc : c.Placed)
    (h : ((many p).evalWith enter c).EndsIn (.success w d)) :
    ((many p).evalWith enter d).EndsIn (.success (.list []) d) := by
  obtain ⟨vs, rfl, hr, hd⟩ := (many_endsIn_iff hp hc).1 h
  exact (many_endsIn_iff hp (hr.spends hp.steady hc).2.2).2 ⟨[], rfl, .stop d, hd⟩

/-- **The loop around a repetition** makes one round if the repetition moves, and otherwise none. -/
theorem many_many_endsIn_iff (hp : Onward (p.evalWith enter)) (hc : c.Placed) :
    ((many (many p)).evalWith enter c).EndsIn (.success w d) ↔
      ∃ v, ((many p).evalWith enter c).EndsIn (.success v d) ∧
        w = .list (if d.offset = c.offset then [] else [v]) := by
  rw [many_endsIn_iff (onward_many hp) hc]
  constructor
  · rintro ⟨ws, rfl, hr, hd⟩
    cases hr with
    | stop =>
      rcases hd with ⟨e, he⟩ | ⟨v, next, h, hn⟩
      · exact ((many_ensures enter p c).not_failure he).elim
      · obtain rfl := ((onward_many hp).next hc h rfl).eq hn
        exact ⟨v, h, by rw [if_pos rfl]⟩
    | round h hn hr =>
      -- the repetition has come to its end, so a second round does not move
      have hagain := many_again hp hc h
      cases hr with
      | stop => exact ⟨_, h, by rw [if_neg hn]⟩
      | round h' hn' =>
        cases h'.unique hagain
        exact (hn' rfl).elim
  · rintro ⟨v, h, rfl⟩
    by_cases hn : d.offset = c.offset
    · obtain rfl := ((onward_many hp).next hc h rfl).eq hn
      exact ⟨[], by rw [if_pos rfl], .stop _, Or.inr ⟨v, _, h, rfl⟩⟩
    · exact ⟨[v], by rw [if_neg hn], .round h hn (.stop d), Or.inr ⟨_, d, many_again hp hc h, rfl⟩⟩

/-- The rounds of an optional parser are attempts of the parser in it. -/
theorem rounds_opt_iff (hp : Onward (p.evalWith enter)) (hc : c.Placed) {vs : List Value} :
    Rounds ((opt p).evalWith enter) c vs d ↔ Attempts (p.evalWith enter) c vs d := by
  constructor
  · intro h
    induction h with
    | stop c => exact .stop c
    | round h hn _ ih =>
      obtain ⟨-, hle, hnext⟩ := (onward_opt hp).next hc h rfl
      rcases (opt_endsIn_iff hp).1 h with ⟨v, rfl, hv⟩ | ⟨e, rfl, he, rfl⟩
      · exact .value hv (by omega) (ih hnext)
      · exact .miss he (by omega) (ih hnext)
  · intro h
    induction h with
    | stop c => exact .stop c
    | value h hn _ ih =>
      obtain ⟨-, -, hnext⟩ := hp.next hc h rfl
      exact .round ((opt_endsIn_iff hp).2 (Or.inl ⟨_, rfl, h⟩)) (by omega) (ih hnext)
    | miss h hn _ ih =>
      obtain ⟨-, -, hnext⟩ := hp.next hc h rfl
      exact .round ((opt_endsIn_iff hp).2 (Or.inr ⟨_, rfl, h, rfl⟩)) (by omega) (ih hnext)

/-- An optional parser ends the loop where the parser in it does not move. -/
theorem rests_opt_iff (hp : Onward (p.evalWith enter)) :
    Rests ((opt p).evalWith enter) d ↔ Stalls (p.evalWith enter) d := by
  constructor
  · rintro (⟨e, he⟩ | ⟨w, next, h, hn⟩)
    · exact ((opt_ensures enter p d).not_failure he).elim
    · rcases (opt_endsIn_iff hp).1 h with ⟨v, -, hv⟩ | ⟨e, -, he, rfl⟩
      · exact ⟨_, next, hv, rfl, hn⟩
      · exact ⟨_, e.next, he, rfl, hn⟩
  · rintro ⟨⟨v, next⟩ | e | f, d', ho, hnext, hn⟩
    · cases hnext
      exact Or.inr ⟨_, next, (opt_endsIn_iff hp).2 (Or.inl ⟨v, rfl, ho⟩), hn⟩
    · cases hnext
      exact Or.inr ⟨_, e.next, (opt_endsIn_iff hp).2 (Or.inr ⟨e, rfl, ho, rfl⟩), hn⟩
    · cases hnext

/-- An optional parser around a repetition makes the run of the repetition. -/
theorem opt_many_eq (enter : Cell → Cursor M → Run M Value) (p : Parser M) (c : Cursor M) :
    (opt (many p)).evalWith enter c = ((many p).evalWith enter c).map .present := by
  rw [evalWith_opt]
  exact (many_ensures enter p c).handle_congr (fun _ _ _ => rfl) fun _ he => he.elim

/-- The loop around an optional parser makes the run of the loop around the parser, if that fails in
place. -/
theorem many_opt_eq (hp : Onward (p.evalWith enter)) (hc : c.Placed)
    (hf : ∀ d, c.Ahead d → (p.evalWith enter d).Ensures (FailsAt d)) :
    (many (opt p)).evalWith enter c = ((many p).evalWith enter c).map (onEach .present) := by
  have hloop : (many (opt p)).evalWith enter c = (many (p.map .present)).evalWith enter c :=
    congrArg (fun run => run.map Value.list) <|
      repeated_orElse (fun d hd => (hp.within_of_ahead hd).map Value.present)
        (fun d hd => (hf d hd).map Value.present) (fun _ => .absent) (c.length + 1) hc.ahead_self
  rw [hloop, evalWith_moves (.many p .present)]
  rfl

/-- **Repeating what always succeeds.** Let a parser be a function of the cursor whose values and
failures are in the same source and not before it, and let the cursor be reached from the beginning
of a source. The repetition of the parser's repetition yields the list of what that yields, at its
cursor, or the empty list if that does not move, and it yields nothing else. If the parser fails in
place wherever it fails, then the repetition of the optional parser is the repetition of the parser
with each value marked as present: the same run, with its cells and its records. The optional
repetition is the repetition with its value marked as present, whatever the parser does.

In any case the repetition of the optional parser yields a chain of attempts, at the cursor where
the parser yields a value or fails without moving, and of every such chain: each absent value in it
stands for a failure that has moved on. It does yield one, unless the parser is endless, or a fault,
after such attempts, of which there are at most as many as units are left to read. -/
theorem repetition_collapses (hp : Onward (p.evalWith enter)) {s : Source M}
    (hc : s.start.Reaches c) :
    (∀ w d, ((many (many p)).evalWith enter c).EndsIn (.success w d) ↔
        ∃ v, ((many p).evalWith enter c).EndsIn (.success v d) ∧
          w = .list (if d.offset = c.offset then [] else [v])) ∧
      ((∀ d, c.Ahead d → (p.evalWith enter d).Ensures (FailsAt d)) →
        (many (opt p)).evalWith enter c = ((many p).evalWith enter c).map (onEach .present)) ∧
      (opt (many p)).evalWith enter c = ((many p).evalWith enter c).map .present ∧
      (∀ w d, ((many (opt p)).evalWith enter c).EndsIn (.success w d) ↔
        ∃ vs, w = .list vs ∧ Attempts (p.evalWith enter) c vs d ∧ Stalls (p.evalWith enter) d) ∧
      (∀ front back d,
        ((many (opt p)).evalWith enter c).EndsIn (.success (.list (front ++ .absent :: back)) d) →
          ∃ a e, Attempts (p.evalWith enter) c front a ∧ (p.evalWith enter a).EndsIn (.failure e) ∧
            a.offset < e.next.offset ∧ Attempts (p.evalWith enter) e.next back d) ∧
      ((∀ vs d, Attempts (p.evalWith enter) c vs d →
          ∃ o, (p.evalWith enter d).EndsIn o ∧ ∀ f, o ≠ .fault f) →
        ∃ vs d, ((many (opt p)).evalWith enter c).EndsIn (.success (.list vs) d)) ∧
      ∀ vs d, Attempts (p.evalWith enter) c vs d →
        c.offset + vs.length ≤ d.offset ∧ vs.length ≤ c.length := by
  obtain ⟨-, -, hplaced⟩ := hc.ahead (placed_start s)
  have chain : ∀ w d, ((many (opt p)).evalWith enter c).EndsIn (.success w d) ↔
      ∃ vs, w = .list vs ∧ Attempts (p.evalWith enter) c vs d ∧ Stalls (p.evalWith enter) d := by
    intro w d
    simp only [many_endsIn_iff (onward_opt hp) hplaced, rounds_opt_iff hp hplaced,
      rests_opt_iff hp]
  refine ⟨fun w d => many_many_endsIn_iff hp hplaced, many_opt_eq hp hplaced,
    opt_many_eq enter p c, chain, fun front back d h => ?_, fun h => ?_, fun vs d h => ?_⟩
  · obtain ⟨vs, hvs, hattempts, -⟩ := (chain _ _).1 h
    cases hvs
    exact hattempts.of_absent
  · have hends : ∀ vs d, Rounds ((opt p).evalWith enter) c vs d →
        ∃ o, ((opt p).evalWith enter d).EndsIn o ∧ ∀ f, o ≠ .fault f := by
      intro vs d hr
      obtain ⟨⟨v, next⟩ | e | f, ho, hfault⟩ := h vs d ((rounds_opt_iff hp hplaced).1 hr)
      · exact ⟨_, (opt_endsIn_iff hp).2 (Or.inl ⟨v, rfl, ho⟩), fun _ => nofun⟩
      · exact ⟨_, (opt_endsIn_iff hp).2 (Or.inr ⟨e, rfl, ho, rfl⟩), fun _ => nofun⟩
      · exact (hfault f rfl).elim
    obtain ⟨vs, d, hr, hd⟩ := exists_rests (onward_opt hp).steady hplaced hends
    exact ⟨vs, d, (many_endsIn_iff (onward_opt hp) hplaced).2 ⟨vs, rfl, hr, hd⟩⟩
  · obtain ⟨hs, hle, hd⟩ := ((rounds_opt_iff hp hplaced).2 h).spends (onward_opt hp).steady hplaced
    have hsize := hd.offset_le
    have hlength := hplaced.offset_add_length
    rw [hs] at hsize
    exact ⟨hle, by omega⟩

/-- An `a` and a `b` one after the other in `aab`: the first attempt fails at the second `a`, the
second attempt yields a value and the third fails in place. The letter `a` alone only fails in
place. -/
theorem repetition_collapses_letters :
    let g : Grammar text := ⟨#[.yields (.terminal (.literal "b"))]⟩
    let a : Parser text := .terminal (.literal "a")
    let p : Parser text := .second a (.cell 0)
    let s : Source text := ⟨0, ['a', 'a', 'b']⟩
    Onward (p.evalWith (g.enter 1)) ∧ Onward (a.evalWith (g.enter 1)) ∧
      s.start.Reaches s.start ∧
      (∀ d, s.start.Ahead d → (a.evalWith (g.enter 1) d).Ensures (FailsAt d)) ∧
      ((many (opt p)).evalWith (g.enter 1) s.start).EndsIn
        (.success (.list [.absent, .present (.str "b")]) ⟨s, 3⟩) ∧
      ((many (opt a)).evalWith (g.enter 1) s.start).EndsIn
        (.success (.list [.present (.str "a"), .present (.str "a")]) ⟨s, 2⟩) ∧
      ((many (many a)).evalWith (g.enter 1) s.start).EndsIn
        (.success (.list [.list [.str "a", .str "a"]]) ⟨s, 2⟩) := by
  intro g a p s
  have hp : Onward (p.evalWith (g.enter 1)) := p.onward_eval g 1
  have ha : Onward (a.evalWith (g.enter 1)) := a.onward_eval g 1
  have hc : s.start.Reaches s.start := .refl
  have hfails : ∀ d, s.start.Ahead d → (a.evalWith (g.enter 1) d).Ensures (FailsAt d) :=
    fun d _ => ensures_done ((d.accept_meets _).imp (fun _ _ _ => trivial) fun _ he => he)
  have hfirst : (p.evalWith (g.enter 1) ⟨s, 0⟩).EndsIn
      (.failure ⟨"Expected string literal \"b\"", ⟨s, 1⟩⟩) := by
    refine hp.steady.endsIn_of_outcome [] ?_
    unfold g p a s
    rfl
  have hsecond : (p.evalWith (g.enter 1) ⟨s, 1⟩).EndsIn (.success (.str "b") ⟨s, 3⟩) := by
    refine hp.steady.endsIn_of_outcome [] ?_
    unfold g p a s
    rfl
  have hthird : (p.evalWith (g.enter 1) ⟨s, 3⟩).EndsIn
      (.failure ⟨"Expected string literal \"a\"", ⟨s, 3⟩⟩) := by
    refine hp.steady.endsIn_of_outcome [] ?_
    unfold g p a s
    rfl
  have hattempts : Attempts (p.evalWith (g.enter 1)) s.start [.absent, .present (.str "b")]
      ⟨s, 3⟩ :=
    .miss hfirst (Nat.lt_succ_self 0) (.value hsecond (by decide) (.stop _))
  have hletters : (many a).evalWith (g.enter 1) s.start [] =
      some ⟨.success (.list [.str "a", .str "a"]) ⟨s, 2⟩, [], []⟩ := by
    unfold g a s
    rfl
  have hends : ((many a).evalWith (g.enter 1) s.start).EndsIn
      (.success (.list [.str "a", .str "a"]) ⟨s, 2⟩) := (onward_many ha).steady.endsIn hletters
  obtain ⟨-, -, -, hiff, -⟩ := repetition_collapses hp hc
  obtain ⟨hmany, hopt, -⟩ := repetition_collapses ha hc
  refine ⟨hp, ha, hc, hfails, ?_, ?_, ?_⟩
  · exact (hiff _ _).2 ⟨_, rfl, hattempts, _, _, hthird, rfl, rfl⟩
  · rw [hopt hfails]
    exact hends.map_success _
  · exact (hmany _ _).2 ⟨_, hends, rfl⟩

end Parser

end GrammarEngine
