import GrammarEngine.Proofs.Stateless

/-!
# A repetition takes all that it can

The rounds of a repetition are a chain: each round starts where the one before it has come to,
yields a value and moves on. The chain ends where the parser fails, or yields a value without
moving; that last attempt leaves nothing behind, neither its value nor its message nor its cursor.

Main statement: `many_maximal`. A repetition yields the values of such a chain, at its end, and
those of every such chain; it does not fail, and tried again at its end it yields nothing.

1. What the parser has to be is said by `Steady`: a function of the cursor that does not move back.
   All parsers of grammars are so (`steady_eval`).
2. A chain that comes to its end is what the loop yields (`Rounds.endsIn`): each round leaves less
   to read, so the bound of the loop does not run out.
3. What the loop yields is such a chain (`repeated_rounds`).
-/

namespace GrammarEngine

open Outcome Cursor

variable {M : Medium} {α : Type}

namespace Run

/-- The cells built before do not change how the step ends, and a value is at a cursor of the same
source, not before the one where the step was made. -/
structure Steady (step : Cursor M → Run M α) : Prop where
  outcome : ∀ d built built',
    (step d built).map Finish.outcome = (step d built').map Finish.outcome
  ahead : ∀ d, d.Placed → (step d).Ensures
    (Meets (fun _ next => next.source = d.source ∧ d.offset ≤ next.offset ∧ next.Placed)
      fun _ => True)

/-- From one cursor to the other, each step yields the next of the values and moves on. -/
inductive Rounds (step : Cursor M → Run M α) : Cursor M → List α → Cursor M → Prop
  | stop (c : Cursor M) : Rounds step c [] c
  | round {c next d : Cursor M} {v : α} {vs : List α} (h : (step c).EndsIn (.success v next))
    (hn : next.offset ≠ c.offset) (hr : Rounds step next vs d) : Rounds step c (v :: vs) d

/-- At the cursor the step fails, or yields a value and does not move. -/
def Rests (step : Cursor M → Run M α) (d : Cursor M) : Prop :=
  (∃ e, (step d).EndsIn (.failure e)) ∨
    ∃ v next, (step d).EndsIn (.success v next) ∧ next.offset = d.offset

variable {step : Cursor M → Run M α} {c d : Cursor M} {vs : List α}

/-- A run of the step shows how it ends from any cells. -/
theorem Steady.endsIn (hstep : Steady step) {built : List Cell} {s : Finish M α}
    (hs : step d built = some s) : (step d).EndsIn s.outcome := by
  intro built'
  have h := hstep.outcome d built' built
  rw [hs, Option.map_some] at h
  exact Option.map_eq_some_iff.1 h

theorem Steady.endsIn_of_outcome (hstep : Steady step) (built : List Cell) {o : Outcome M α}
    (ho : (step d built).map Finish.outcome = some o) : (step d).EndsIn o := by
  obtain ⟨s, hs, rfl⟩ := Option.map_eq_some_iff.1 ho
  exact hstep.endsIn hs

theorem Steady.next (hstep : Steady step) (hc : c.Placed) {v : α} {next : Cursor M}
    (h : (step c).EndsIn (.success v next)) :
    next.source = c.source ∧ c.offset ≤ next.offset ∧ next.Placed := by
  obtain ⟨s, hs, ho⟩ := h []
  have hahead := hstep.ahead c hc [] s hs
  rw [ho] at hahead
  exact hahead

/-- A step that moves leaves less to read. -/
theorem Steady.length_lt (hstep : Steady step) (hc : c.Placed) {v : α} {next : Cursor M}
    (h : (step c).EndsIn (.success v next)) (hn : next.offset ≠ c.offset) :
    next.length < c.length := by
  obtain ⟨hs, hle, hp⟩ := hstep.next hc h
  have hsize := hp.offset_le
  rw [hs] at hsize
  unfold length
  rw [hs]
  omega

/-- Every round takes at least one unit. -/
theorem Rounds.spends (hstep : Steady step) (h : Rounds step c vs d) (hc : c.Placed) :
    d.source = c.source ∧ c.offset + vs.length ≤ d.offset ∧ d.Placed := by
  induction h with
  | stop c => exact ⟨rfl, Nat.le_refl _, hc⟩
  | @round c next d v vs h hn _ ih =>
    obtain ⟨hs, hle, hp⟩ := hstep.next hc h
    obtain ⟨hs', hle', hp'⟩ := ih hp
    refine ⟨hs'.trans hs, ?_, hp'⟩
    rw [List.length_cons]
    omega

/-- **A chain that has come to its end is what the loop yields.** -/
theorem Rounds.endsIn (hstep : Steady step) (h : Rounds step c vs d) (hd : Rests step d)
    (hc : c.Placed) {bound : Nat} (hb : c.length < bound) :
    (repeated step bound c).EndsIn (.success vs d) := by
  induction h generalizing bound with
  | stop c =>
    obtain ⟨bound, rfl⟩ := Nat.exists_eq_add_of_lt hb
    rcases hd with ⟨e, he⟩ | ⟨v, next, hv, hn⟩
    · exact he.after_failure (endsIn_done _)
    · refine hv.after_success ?_
      rw [if_pos hn]
      exact endsIn_done _
  | @round c next d v vs h hn _ ih =>
    obtain ⟨bound, rfl⟩ := Nat.exists_eq_add_of_lt hb
    have hlt := hstep.length_lt hc h hn
    refine h.after_success ?_
    rw [if_neg hn]
    exact (ih hd (hstep.next hc h).2.2 (by omega)).map_success _

/-- **What the loop yields is a chain that has come to its end.** Otherwise it ends in a fault. -/
theorem repeated_rounds (hstep : Steady step) {bound : Nat} {built : List Cell}
    {s : Finish M (List α)} (hs : repeated step bound c built = some s) :
    (∃ f, s.outcome = .fault f) ∨
      ∃ vs d, s.outcome = .success vs d ∧ Rounds step c vs d ∧ Rests step d := by
  induction bound generalizing c built s with
  | zero => cases hs
  | succ bound ih =>
    rcases handle_cases hs with ⟨v, next, b, log, t, hr, ht, rfl⟩ | ⟨e, b, log, t, hr, ht, rfl⟩ |
      ⟨f, b, log, hr, rfl⟩
    · have hv := hstep.endsIn hr
      by_cases hn : next.offset = c.offset
      · rw [if_pos hn] at ht
        cases ht
        exact Or.inr ⟨[], c, rfl, .stop c, Or.inr ⟨v, next, hv, hn⟩⟩
      · rw [if_neg hn] at ht
        rcases handle_cases ht with ⟨vs, d, b, log, u, hu, hvs, rfl⟩ | ⟨e, b, log, u, hu, -⟩ |
          ⟨f, b, log, -, rfl⟩
        · cases hvs
          rcases ih hu with ⟨f, hf⟩ | ⟨vs', d', ho, hrounds, hrests⟩
          · cases hf
          · cases ho
            exact Or.inr ⟨v :: vs, d, rfl, .round hv hn hrounds, hrests⟩
        · rcases ih hu with ⟨f, hf⟩ | ⟨vs', d', ho, -⟩
          · cases hf
          · cases ho
        · exact Or.inl ⟨f, rfl⟩
    · cases ht
      exact Or.inr ⟨[], c, rfl, .stop c, Or.inl ⟨e, hstep.endsIn hr⟩⟩
    · exact Or.inl ⟨f, rfl⟩

/-- Where no step of a chain is endless or a fault, a chain comes to its end. -/
theorem exists_rests (hstep : Steady step) (hc : c.Placed)
    (h : ∀ vs d, Rounds step c vs d → ∃ o, (step d).EndsIn o ∧ ∀ f, o ≠ .fault f) :
    ∃ vs d, Rounds step c vs d ∧ Rests step d := by
  induction hn : c.length using Nat.strongRecOn generalizing c with
  | ind n ih =>
    obtain ⟨o, ho, hfault⟩ := h [] c (.stop c)
    rcases o with ⟨v, next⟩ | e | f
    · by_cases hmove : next.offset = c.offset
      · exact ⟨[], c, .stop c, Or.inr ⟨v, next, ho, hmove⟩⟩
      · have hlt := hstep.length_lt hc ho hmove
        obtain ⟨vs, d, hr, hd⟩ := ih next.length (by omega) (hstep.next hc ho).2.2
          (fun vs d hr => h (v :: vs) d (.round ho hmove hr)) rfl
        exact ⟨v :: vs, d, .round ho hmove hr, hd⟩
    · exact ⟨[], c, .stop c, Or.inl ⟨e, ho⟩⟩
    · exact (hfault f rfl).elim

end Run

open Run

namespace Parser

/-- The parsers of grammars are functions of the cursor and do not move back. -/
theorem steady_eval (g : Grammar M) (n : Nat) (p : Parser M) : Steady (p.evalWith (g.enter n)) := by
  refine ⟨fun d built built' => ?_, fun d hd => ?_⟩
  · have h := (p.eval_map_visible g n d built []).trans (p.eval_map_visible g n d built' []).symm
    rw [← Grammar.eval_eq_evalWith]
    simpa [Option.map_map, Function.comp_def] using congrArg (Option.map Prod.fst) h
  · rw [← Grammar.eval_eq_evalWith]
    exact (p.eval_reaches g n d).imp fun o ho =>
      ho.imp (fun _ _ hn => hn.ahead hd) fun _ _ => trivial

/-- **A repetition takes all that it can.** Let a parser be a function of the cursor that does not
move back. Then its repetition, from a cursor reached from the beginning of a source, does not fail.
It yields the values of a chain of rounds, at the cursor where the chain has come to its end, and of
every such chain; and it does yield them unless the parser is endless, or a fault, after such
rounds. Every round takes at least one unit, so there are at most as many as are left to read. Tried
again where it has ended, the repetition yields nothing and stays there. -/
theorem many_maximal {enter : Cell → Cursor M → Run M Value} {p : Parser M}
    (hp : Steady (p.evalWith enter)) {s : Source M} {c : Cursor M} (hc : s.start.Reaches c) :
    (∀ built t e, (many p).evalWith enter c built = some t → t.outcome ≠ .failure e) ∧
      (∀ w d, ((many p).evalWith enter c).EndsIn (.success w d) ↔
        ∃ vs, w = .list vs ∧ Rounds (p.evalWith enter) c vs d ∧ Rests (p.evalWith enter) d) ∧
      ((∀ vs d, Rounds (p.evalWith enter) c vs d →
          ∃ o, (p.evalWith enter d).EndsIn o ∧ ∀ f, o ≠ .fault f) →
        ∃ vs d, ((many p).evalWith enter c).EndsIn (.success (.list vs) d)) ∧
      (∀ vs d, Rounds (p.evalWith enter) c vs d →
        c.offset + vs.length ≤ d.offset ∧ vs.length ≤ c.length) ∧
      ∀ w d, ((many p).evalWith enter c).EndsIn (.success w d) →
        ((many p).evalWith enter d).EndsIn (.success (.list []) d) := by
  obtain ⟨-, -, hplaced⟩ := hc.ahead (placed_start s)
  have outcome : ∀ built t, (many p).evalWith enter c built = some t → (∃ f, t.outcome = .fault f) ∨
      ∃ vs d, t.outcome = .success (.list vs) d ∧ Rounds (p.evalWith enter) c vs d ∧
        Rests (p.evalWith enter) d := by
    intro built t ht
    rcases handle_cases ht with ⟨vs, d, b, log, u, hu, hv, rfl⟩ | ⟨e, b, log, u, hu, -⟩ |
      ⟨f, b, log, -, rfl⟩
    · cases hv
      rcases repeated_rounds hp hu with ⟨f, hf⟩ | ⟨vs, d, ho, h⟩
      · cases hf
      · cases ho
        exact Or.inr ⟨vs, d, rfl, h⟩
    · rcases repeated_rounds hp hu with ⟨f, hf⟩ | ⟨vs, d, ho, -⟩
      · cases hf
      · cases ho
    · exact Or.inl ⟨f, rfl⟩
  have yields : ∀ {c d : Cursor M} {vs : List Value}, c.Placed → Rounds (p.evalWith enter) c vs d →
      Rests (p.evalWith enter) d → ((many p).evalWith enter c).EndsIn (.success (.list vs) d) :=
    fun hc hr hd => (hr.endsIn hp hd hc (Nat.lt_succ_self _)).map_success _
  have chain : ∀ w d, ((many p).evalWith enter c).EndsIn (.success w d) →
      ∃ vs, w = .list vs ∧ Rounds (p.evalWith enter) c vs d ∧ Rests (p.evalWith enter) d := by
    intro w d h
    obtain ⟨t, ht, ho⟩ := h []
    rcases outcome [] t ht with ⟨f, hf⟩ | ⟨vs, d', hs, h⟩
    · rw [hf] at ho
      cases ho
    · rw [hs] at ho
      cases ho
      exact ⟨vs, rfl, h⟩
  refine ⟨fun built t e ht ho => ?_, fun w d => ⟨chain w d, ?_⟩, fun h => ?_, fun vs d hr => ?_,
    fun w d h => ?_⟩
  · rcases outcome built t ht with ⟨f, hf⟩ | ⟨vs, d, hs, -⟩
    · rw [hf] at ho
      cases ho
    · rw [hs] at ho
      cases ho
  · rintro ⟨vs, rfl, hr, hd⟩
    exact yields hplaced hr hd
  · obtain ⟨vs, d, hr, hd⟩ := exists_rests hp hplaced h
    exact ⟨vs, d, yields hplaced hr hd⟩
  · obtain ⟨hs, hle, hd⟩ := hr.spends hp hplaced
    have hsize := hd.offset_le
    have hlength := hplaced.offset_add_length
    rw [hs] at hsize
    exact ⟨hle, by omega⟩
  · obtain ⟨vs, rfl, hr, hd⟩ := chain w d h
    exact yields (hr.spends hp hplaced).2.2 (.stop d) hd

/-- Pairs of an `a` and a `b` in `xababa`, from offset 1. The third `a` is read in vain. -/
theorem many_maximal_pairs :
    let g : Grammar text := ⟨#[.yields (.terminal (.literal "b"))]⟩
    let p : Parser text := .both (.terminal (.literal "a")) (.cell 0)
    let s : Source text := ⟨0, ['x', 'a', 'b', 'a', 'b', 'a']⟩
    let ab : Value := .pair (.str "a") (.str "b")
    Steady (p.evalWith (g.enter 1)) ∧ s.start.Reaches ⟨s, 1⟩ ∧
      ((many p).evalWith (g.enter 1) ⟨s, 1⟩).EndsIn (.success (.list [ab, ab]) ⟨s, 5⟩) ∧
      ((many p).evalWith (g.enter 1) ⟨s, 5⟩).EndsIn (.success (.list []) ⟨s, 5⟩) := by
  intro g p s ab
  have hp : Steady (p.evalWith (g.enter 1)) := p.steady_eval g 1
  have hc : s.start.Reaches ⟨s, 1⟩ := Reaches.refl.forward (n := 1) rfl
  have attempt : ∀ {i : Nat} {o : Outcome text Value},
      (p.evalWith (g.enter 1) ⟨s, i⟩ [0]).map Finish.outcome = some o →
      (p.evalWith (g.enter 1) ⟨s, i⟩).EndsIn o := by
    intro i o ho
    obtain ⟨t, ht, rfl⟩ := Option.map_eq_some_iff.1 ho
    exact hp.endsIn ht
  have hfirst : (p.evalWith (g.enter 1) ⟨s, 1⟩).EndsIn (.success ab ⟨s, 3⟩) := by
    refine attempt ?_
    unfold g p s ab
    rfl
  have hsecond : (p.evalWith (g.enter 1) ⟨s, 3⟩).EndsIn (.success ab ⟨s, 5⟩) := by
    refine attempt ?_
    unfold g p s ab
    rfl
  have hthird : (p.evalWith (g.enter 1) ⟨s, 5⟩).EndsIn
      (.failure ⟨"Expected string literal \"b\"", ⟨s, 6⟩⟩) := by
    refine attempt ?_
    unfold g p s
    rfl
  have hrounds : Rounds (p.evalWith (g.enter 1)) ⟨s, 1⟩ [ab, ab] ⟨s, 5⟩ := by
    refine .round hfirst ?_ (.round hsecond ?_ (.stop _))
    · show 3 ≠ 1
      decide
    · show 5 ≠ 3
      decide
  obtain ⟨-, hiff, -, -, hagain⟩ := many_maximal hp hc
  have hvalue := (hiff _ _).2 ⟨[ab, ab], rfl, hrounds, Or.inl ⟨_, hthird⟩⟩
  exact ⟨hp, hc, hvalue, hagain _ _ hvalue⟩

end Parser

end GrammarEngine
