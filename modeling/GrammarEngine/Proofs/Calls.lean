import GrammarEngine.Proofs.Depth

/-!
# What a run comes to run

`g.Calls p c q d` says that a run of `p` at `c` runs its part `q` at `d`. A second part is called
only after the first has ended in the value or in the failure that leads to it, so parts that are
passed over are not called. `g.Runs` is the relation of all the calls inside one another.

Whatever a run does to the cells, to the log and to its own end is done at the leaves that it comes
to run: a terminal, a move, the entry of a cell. `eval_has` makes this a rule of proof: an effect
that is allowed of these leaves, and kept where runs follow one another, is an effect of the whole
run.
-/

namespace GrammarEngine

open Outcome Cursor Run

variable {M : Medium} {α β : Type} {g : Grammar M}

/-! ## Calls -/

namespace Grammar

/-- The parser ends at the cursor, in the outcome. -/
def Gives (g : Grammar M) (p : Parser M) (c : Cursor M) (o : Outcome M Value) : Prop :=
  ∃ n s, p.eval g n c [] = some s ∧ s.outcome = o

/-- What an evaluation ends in does not depend on the cells built before it. -/
theorem eval_ensures_gives (n : Nat) (p : Parser M) (c : Cursor M) :
    (p.eval g n c).Ensures (g.Gives p c) := by
  intro built s hs
  have h := (p.eval_map_visible g n c built []).trans (p.eval_map_visible g n c [] []).symm
  rw [hs, Option.map_some] at h
  obtain ⟨t, ht, heq⟩ := Option.map_eq_some_iff.1 h.symm
  exact ⟨n, t, ht, congrArg Prod.fst heq⟩

theorem Gives.unique {p : Parser M} {c : Cursor M} {o o' : Outcome M Value} (h : g.Gives p c o)
    (h' : g.Gives p c o') : o = o' := by
  obtain ⟨n, s, hs, rfl⟩ := h
  obtain ⟨n', s', hs', rfl⟩ := h'
  have hs := Parser.eval_mono (Nat.le_max_left n n') hs
  have hs' := Parser.eval_mono (Nat.le_max_right n n') hs'
  rw [hs] at hs'
  cases hs'
  rfl

/-- A run that ends, ends in the outcome that its parser gives. -/
theorem Gives.ensures {p : Parser M} {c : Cursor M} {o : Outcome M Value} (h : g.Gives p c o)
    (n : Nat) : (p.eval g n c).Ensures (· = o) :=
  (eval_ensures_gives n p c).imp fun _ ho => ho.unique h

/-- A repetition from the first cursor comes to start a round at the second. -/
inductive Rounds (g : Grammar M) (p : Parser M) : Cursor M → Cursor M → Prop
  | refl (c : Cursor M) : Rounds g p c c
  | round {c next d : Cursor M} {v : Value} (h : g.Gives p c (.success v next))
    (hn : next.offset ≠ c.offset) (h' : Rounds g p next d) : Rounds g p c d

/-- Running the first parser at its cursor runs the second, a part of it, at its own. -/
inductive Calls (g : Grammar M) : Parser M → Cursor M → Parser M → Cursor M → Prop
  | map {p f c} : Calls g (.map p f) c p c
  | tryMap {p f c} : Calls g (.tryMap p f) c p c
  | onValue {p f c v next} (h : g.Gives p c (.success v next)) :
    Calls g (.tryMap p f) c (f v next) next
  | recover {p f c} : Calls g (.recover p f) c p c
  | tryRecover {p f c} : Calls g (.tryRecover p f) c p c
  | onFailure {p f c e} (h : g.Gives p c (.failure e)) : Calls g (.tryRecover p f) c (f e) e.next
  | both {p q c} : Calls g (.both p q) c p c
  | bothSecond {p q c v next} (h : g.Gives p c (.success v next)) : Calls g (.both p q) c q next
  | first {p q c} : Calls g (.first p q) c p c
  | firstSecond {p q c v next} (h : g.Gives p c (.success v next)) : Calls g (.first p q) c q next
  | second {p q c} : Calls g (.second p q) c p c
  | secondSecond {p q c v next} (h : g.Gives p c (.success v next)) : Calls g (.second p q) c q next
  | choice {p q c} : Calls g (.choice p q) c p c
  | choiceSecond {p q c e} (h : g.Gives p c (.failure e)) : Calls g (.choice p q) c q e.next
  | tagged {p q c} : Calls g (.tagged p q) c p c
  | taggedSecond {p q c e} (h : g.Gives p c (.failure e)) : Calls g (.tagged p q) c q e.next
  | many {p c d} (h : g.Rounds p c d) : Calls g (.many p) c p d
  | cell {k c} : Calls g (.cell k) c (g.target k) c
  | wrapped {p c} : Calls g (.wrapped p) c p c
  | whole {p c} : Calls g (.whole p) c p c

/-- Running the first parser at its cursor comes to run the second at its own. -/
inductive Runs (g : Grammar M) : Parser M → Cursor M → Parser M → Cursor M → Prop
  | refl (p : Parser M) (c : Cursor M) : Runs g p c p c
  | call {p q r : Parser M} {c d e : Cursor M} (h : g.Calls p c q d) (h' : Runs g q d r e) :
    Runs g p c r e

/-- Calls only move forward. -/
theorem Calls.reaches {p q : Parser M} {c d : Cursor M} (h : g.Calls p c q d) : c.Reaches d := by
  have within : ∀ {p : Parser M} {c : Cursor M} {o : Outcome M Value}, g.Gives p c o →
      o.Within c.Reaches := by
    rintro p c o ⟨n, s, hs, rfl⟩
    exact p.eval_reaches g n c [] s hs
  cases h with
  | onValue hv | bothSecond hv | firstSecond hv | secondSecond hv => exact within hv
  | onFailure he | choiceSecond he | taggedSecond he => exact within he
  | many hr =>
    induction hr with
    | refl => exact .refl
    | round hv _ _ ih => exact Reaches.trans (within hv) ih
  | _ => exact .refl

theorem Runs.reaches {p q : Parser M} {c d : Cursor M} (h : g.Runs p c q d) : c.Reaches d := by
  induction h with
  | refl => exact .refl
  | call hc _ ih => exact hc.reaches.trans ih

/-- What a run to the end of the input runs besides itself is what its parser runs. -/
theorem runs_whole {p q : Parser M} {c d : Cursor M} (h : g.Runs p.whole c q d) :
    q = p.whole ∨ g.Runs p c q d := by
  cases h with
  | refl => exact Or.inl rfl
  | call h h' => cases h; exact Or.inr h'

end Grammar

/-! ## Effects -/

/-- The fault in which the run ended. -/
def Outcome.fault? : Outcome M β → Option Fault
  | .success _ _ | .failure _ => none
  | .fault f => some f

/-- A relation between the cells before a run, the cells after it, its log and its fault, that is
kept where runs follow one another and does not depend on the records of choices and of leftovers.
-/
structure Effect where
  holds : List Cell → List Cell → List Record → Option Fault → Prop
  refl : ∀ b, holds b b [] none
  trans : ∀ {a b c l l' f}, holds a b l none → holds b c l' f → holds a c (l ++ l') f
  record : ∀ b (r : Record), r.ofBuilding = false → holds b b [r] none

namespace Run

/-- Wherever the run ends, it has had the effect. -/
def Has (E : Effect) (run : Run M β) : Prop :=
  ∀ built s, run built = some s → E.holds built s.built s.log s.outcome.fault?

variable {E : Effect}

theorem has_done {o : Outcome M β} (h : ∀ b, E.holds b b [] o.fault?) : (done o).Has E := by
  intro built s hs
  cases hs
  exact h built

theorem has_success (v : β) (next : Cursor M) : (success v next).Has E := has_done E.refl

theorem has_failure (e : Failure M) : (failure e : Run M β).Has E := has_done E.refl

theorem has_endless : (endless : Run M β).Has E := by
  intro built s hs
  cases hs

theorem Has.noting {run : Run M β} (h : run.Has E) {r : Record} (hr : r.ofBuilding = false) :
    (noting r run).Has E := by
  intro built s hs
  obtain ⟨t, ht, rfl⟩ := Option.map_eq_some_iff.1 hs
  exact E.trans (E.record built r hr) (h built t ht)

theorem Has.building {run : Run M β} (h : run.Has E) {k : Cell} {notes : List Record}
    (hk : ∀ b, k ∉ b → E.holds b (k :: b) (.building :: notes) none) :
    (building k notes run).Has E := by
  intro built s hs
  unfold Run.building at hs
  by_cases hb : k ∈ built
  · rw [if_pos hb] at hs
    exact h built s hs
  · rw [if_neg hb] at hs
    obtain ⟨t, ht, rfl⟩ := Option.map_eq_some_iff.1 hs
    exact E.trans (hk built hb) (h _ t ht)

/-- **Sequencing.** The effect of the first part, which did not end in a fault where the run goes
on, is followed by the effect of the second. -/
theorem Has.handle {run : Run M α} (h : run.Has E) {P : Outcome M α → Prop} (hP : run.Ensures P)
    {onSuccess : α → Cursor M → Run M β} {onFailure : Failure M → Run M β}
    (hs : ∀ v next, P (.success v next) → (onSuccess v next).Has E)
    (hf : ∀ e, P (.failure e) → (onFailure e).Has E) : (run.handle onSuccess onFailure).Has E := by
  intro built s h'
  rcases handle_cases h' with ⟨v, next, b, log, t, hr, ht, rfl⟩ | ⟨e, b, log, t, hr, ht, rfl⟩ |
    ⟨f, b, log, hr, rfl⟩
  · exact E.trans (h _ _ hr) (hs v next (hP _ _ hr) b t ht)
  · exact E.trans (h _ _ hr) (hf e (hP _ _ hr) b t ht)
  · exact h built _ hr

theorem Has.map {run : Run M α} (h : run.Has E) (f : α → β) : (run.map f).Has E :=
  h.handle run.ensures_true (fun v next _ => has_success (f v) next) fun e _ => has_failure e

theorem has_atEnd (v : Value) (next : Cursor M) :
    Has E (if next.isEmpty then success v next
      else noting (.leftover next.length next.offset) (failure ⟨leftoverMessage, next⟩)) := by
  by_cases he : next.isEmpty = true
  · rw [if_pos he]; exact has_success v next
  · rw [if_neg he]
    exact (has_failure _).noting rfl

theorem Has.toEnd {run : Run M Value} (h : run.Has E) : run.toEnd.Has E :=
  h.handle run.ensures_true (fun v next _ => has_atEnd v next) fun e _ => has_failure e

/-- The rounds of a repetition have the effect. -/
theorem has_repeated {p : Parser M} {step : Cursor M → Run M Value} {c : Cursor M}
    (hstep : ∀ d, g.Rounds p c d → (step d).Has E) (hP : ∀ d, (step d).Ensures (g.Gives p d))
    (bound : Nat) : (repeated step bound c).Has E := by
  induction bound generalizing c with
  | zero => exact has_endless
  | succ bound ih =>
    refine (hstep c (.refl c)).handle (hP c) (fun v next hv => ?_) fun _ _ => has_success [] c
    by_cases ho : next.offset = c.offset
    · rw [if_pos ho]; exact has_success [] c
    · rw [if_neg ho]
      exact (ih fun d hd => hstep d (.round hv ho hd)).map _

end Run

/-- The effect is allowed of the leaves that a run of the parser comes to run. -/
structure Effect.Allows (E : Effect) (g : Grammar M) (p : Parser M) (c : Cursor M) : Prop where
  terminal : ∀ t d f, g.Runs p c (.terminal t) d → d.accept t = .fault f →
    ∀ b, E.holds b b [] (some f)
  advance : ∀ n d f, g.Runs p c (.advance n) d → d.forward n = .error f →
    ∀ b, E.holds b b [] (some f)
  cell : ∀ k d, g.Runs p c (.cell k) d → ∀ b, k ∉ b →
    E.holds b (k :: b) (.building :: g.notes k) none

theorem Effect.Allows.call {E : Effect} {p q : Parser M} {c d : Cursor M} (h : E.Allows g p c)
    (hc : g.Calls p c q d) : E.Allows g q d where
  terminal t e f hr := h.terminal t e f (.call hc hr)
  advance n e f hr := h.advance n e f (.call hc hr)
  cell k e hr := h.cell k e (.call hc hr)

namespace Parser

/-- A parser has the effect if the cells that it enters have it. -/
theorem evalWith_has_of_enter {E : Effect} {bound : Nat}
    (henter : ∀ k d, E.Allows g (.cell k) d → (g.enter bound k d).Has E) (p : Parser M)
    {c : Cursor M} (h : E.Allows g p c) : (p.evalWith (g.enter bound) c).Has E := by
  -- where a part runs is known from the outcome of the part before it, so its leaves are allowed
  have gives : ∀ (p : Parser M) (c : Cursor M),
      (p.evalWith (g.enter bound) c).Ensures (g.Gives p c) := by
    intro p c
    rw [← Grammar.eval_eq_evalWith]
    exact Grammar.eval_ensures_gives bound p c
  induction p generalizing c with
  | succeed v => exact has_success v c
  | fail message => exact has_failure _
  | terminal t =>
    refine has_done fun b => ?_
    rcases ho : c.accept t with ⟨v, next⟩ | e | f
    · exact E.refl b
    · exact E.refl b
    · exact h.terminal t c f (.refl _ c) ho b
  | advance n =>
    refine has_done fun b => ?_
    rcases hf : c.forward n with f | d
    · exact h.advance n c f (.refl _ c) hf b
    · exact E.refl b
  | map p f ih => exact (ih (h.call .map)).map f
  | tryMap p f ih ihf =>
    exact (ih (h.call .tryMap)).handle (gives p c)
      (fun v next hv => ihf v next (h.call (.onValue hv))) fun e _ => has_failure e
  | recover p f ih =>
    exact (ih (h.call .recover)).handle (gives p c) (fun v next _ => has_success v next)
      fun e _ => has_success _ e.next
  | tryRecover p f ih ihf =>
    exact (ih (h.call .tryRecover)).handle (gives p c) (fun v next _ => has_success v next)
      fun e he => ihf e (h.call (.onFailure he))
  | both p q ihp ihq =>
    exact (ihp (h.call .both)).handle (gives p c)
      (fun v next hv => (ihq (h.call (.bothSecond hv))).map _) fun e _ => has_failure e
  | first p q ihp ihq =>
    exact (ihp (h.call .first)).handle (gives p c)
      (fun v next hv => (ihq (h.call (.firstSecond hv))).map _) fun e _ => has_failure e
  | second p q ihp ihq =>
    exact (ihp (h.call .second)).handle (gives p c)
      (fun v next hv => ihq (h.call (.secondSecond hv))) fun e _ => has_failure e
  | choice p q ihp ihq =>
    exact (ihp (h.call .choice)).handle (gives p c) (fun v next _ => has_success v next)
      fun e he => (ihq (h.call (.choiceSecond he))).noting rfl
  | tagged p q ihp ihq =>
    exact (ihp (h.call .tagged)).handle (gives p c)
      (fun v next _ => has_success (Value.left v) next)
      fun e he => ((ihq (h.call (.taggedSecond he))).map _).noting rfl
  | many p ih =>
    exact (has_repeated (fun d hd => ih (h.call (.many hd))) (gives p) _).map _
  | cell k => exact henter k c h
  | wrapped p ih => exact ih (h.call .wrapped)
  | whole p ih => exact (ih (h.call .whole)).toEnd

/-- **Effects of a run.** A run has every effect that is allowed of the leaves it comes to run. -/
theorem eval_has {E : Effect} (bound : Nat) (p : Parser M) {c : Cursor M} (h : E.Allows g p c) :
    (p.eval g bound c).Has E := by
  rw [Grammar.eval_eq_evalWith]
  induction bound generalizing p c with
  | zero => exact evalWith_has_of_enter (fun _ _ _ => has_endless) p h
  | succ bound ih =>
    refine evalWith_has_of_enter (fun k d hd => ?_) p h
    refine Has.building ?_ (hd.cell k d (.refl _ d))
    rw [Grammar.eval_eq_evalWith]
    exact ih (g.target k) (hd.call .cell)

end Parser

end GrammarEngine
