import GrammarEngine.Media.Text
import GrammarEngine.Proofs.Ensures

/-!
# How parsers move

`forward` is the only way from a cursor to another: `eval_reaches` says that every outcome of a
parser, a value or a failure, is at a cursor that the start reaches by moving forward. What holds of
all such cursors is said once, for cursors alone: a cursor at the end of an element (`Placed`)
reaches only such cursors, over its own source and at offsets not before its own (`Reaches.ahead`).

Together they give `source_split_at_next`: the cursor of an outcome parts the source in two, and
what remains at it is exactly the second part.
-/

namespace GrammarEngine

open Outcome

variable {M : Medium}

/-! ## Cursors -/

namespace Cursor

/-- An element, or nothing yet, ends at the cursor. -/
def Placed (c : Cursor M) : Prop := (Units.drop? M.width c.offset c.source.elems).isSome

/-- A placed cursor parts its source, and the second part is what remains. -/
theorem placed_iff {c : Cursor M} : c.Placed ↔
    ∃ front, c.source.elems = front ++ c.remaining ∧ Units.size M.width front = c.offset := by
  unfold Placed
  rw [Option.isSome_iff_exists]
  constructor
  · rintro ⟨rest, h⟩
    have hr : c.remaining = rest := by unfold remaining; rw [h]; rfl
    rw [hr]
    exact (Units.drop?_eq_some_iff M.width_pos).1 h
  · intro h
    exact ⟨c.remaining, (Units.drop?_eq_some_iff M.width_pos).2 h⟩

theorem placed_start (s : Source M) : s.start.Placed := by
  unfold Placed Source.start
  cases s.elems <;> rfl

theorem Placed.size_remaining {c : Cursor M} (h : c.Placed) :
    c.offset + Units.size M.width c.remaining = c.source.size := by
  obtain ⟨front, hf, ho⟩ := placed_iff.1 h
  unfold Source.size
  rw [hf, Units.size_append, ho]

theorem Placed.offset_le {c : Cursor M} (h : c.Placed) : c.offset ≤ c.source.size := by
  have := h.size_remaining
  omega

theorem Placed.offset_add_length {c : Cursor M} (h : c.Placed) :
    c.offset + c.length = c.source.size := by
  have := h.offset_le
  unfold length
  omega

/-- What remains is no longer than what is left, wherever the cursor is. -/
theorem size_remaining_le (c : Cursor M) : Units.size M.width c.remaining ≤ c.length := by
  by_cases h : c.Placed
  · have := h.size_remaining
    have := h.offset_add_length
    omega
  · unfold Placed at h
    unfold remaining
    rw [Option.not_isSome_iff_eq_none.1 h]
    exact Nat.zero_le _

/-- A terminal that is looked for at a cursor is recognised in what remains. -/
theorem look_view (c : Cursor M) (t : M.Terminal) : M.look t c.view =
    (M.recognise t c.remaining).map fun (v, n) =>
      (v, Units.size M.width (c.remaining.take n)) :=
  M.look_eq t c.remaining c.length c.size_remaining_le

/-- **A terminal at a cursor.** It moves on by the units of the elements that it recognises. -/
theorem accept_eq (c : Cursor M) (t : M.Terminal) :
    c.accept t = match M.recognise t c.remaining with
      | some (v, n) => .ofForward v (c.forward (Units.size M.width (c.remaining.take n)))
      | none => .failure ⟨M.expectation t, c⟩ := by
  unfold accept
  rw [look_view]
  cases M.recognise t c.remaining <;> rfl

/-- What a move forward does where it is no fault. -/
theorem forward_eq_ok {c d : Cursor M} {n : Nat} (h : c.forward n = .ok d) :
    d = ⟨c.source, min (c.offset + n) c.source.size⟩ ∧ d.Placed := by
  unfold forward at h
  by_cases hn : UInt64.size ≤ c.offset + n
  · rw [if_pos hn] at h; cases h
  · rw [if_neg hn] at h
    by_cases hp : (Units.drop? M.width (min (c.offset + n) c.source.size) c.source.elems).isSome
    · rw [if_pos hp] at h; cases h; exact ⟨rfl, hp⟩
    · rw [if_neg hp] at h; cases h

/-- A cursor is reached by moving forward any number of times. -/
inductive Reaches (c : Cursor M) : Cursor M → Prop
  | refl : Reaches c c
  | forward {d e : Cursor M} {n : Nat} (h : Reaches c d) (hn : d.forward n = .ok e) : Reaches c e

theorem Reaches.trans {c d e : Cursor M} (h : c.Reaches d) (h' : d.Reaches e) : c.Reaches e := by
  induction h' with
  | refl => exact h
  | forward _ hn ih => exact ih.forward hn

/-- **Moving ahead.** A placed cursor reaches only placed cursors, over its own source and not
before its own offset. -/
theorem Reaches.ahead {c d : Cursor M} (h : c.Reaches d) (hc : c.Placed) :
    d.source = c.source ∧ c.offset ≤ d.offset ∧ d.Placed := by
  induction h with
  | refl => exact ⟨rfl, Nat.le_refl _, hc⟩
  | forward _ hn ih =>
    obtain ⟨rfl, he⟩ := forward_eq_ok hn
    obtain ⟨hs, ho, hp⟩ := ih
    have hle := hp.offset_le
    exact ⟨hs, by show _ ≤ min _ _; omega, he⟩

end Cursor

open Cursor

/-! ## Parsers -/

/-- A terminal that stands moves forward; one that does not fails where it is. -/
theorem Cursor.accept_meets (c : Cursor M) (t : M.Terminal) :
    (c.accept t).Meets (fun _ next => c.Reaches next) (·.next = c) := by
  unfold accept
  split
  next v n h =>
    rcases hf : c.forward n with f | d
    · trivial
    · exact Reaches.refl.forward hf
  next => rfl

/-- A set of cursors that moving forward does not leave. -/
def Cursor.Closed (I : Cursor M → Prop) : Prop :=
  ∀ ⦃c d : Cursor M⦄ ⦃n : Nat⦄, I c → c.forward n = .ok d → I d

theorem Cursor.closed_reaches (c : Cursor M) : Closed c.Reaches := fun _ _ _ => Reaches.forward

theorem Cursor.Closed.reaches {I : Cursor M → Prop} (hI : Closed I) {c d : Cursor M} (hc : I c)
    (h : c.Reaches d) : I d := by
  induction h with
  | refl => exact hc
  | forward _ hn ih => exact hI ih hn

theorem Run.Ensures.within_of_reaches {β : Type} {run : Run M β} {c d : Cursor M}
    (h : run.Ensures (Within d.Reaches)) (hd : c.Reaches d) : run.Ensures (Within c.Reaches) :=
  h.imp fun _ ho => ho.imp (fun _ _ => hd.trans) fun _ => hd.trans

namespace Parser

/-- **A parser only moves forward.** From a cursor of a closed set it ends at one of the set, in a
value or in a failure, if the cells it enters do. -/
theorem evalWith_within {I : Cursor M → Prop} (hI : Closed I)
    {enter : Cell → Cursor M → Run M Value} (henter : ∀ k d, I d → (enter k d).Ensures (Within I))
    (p : Parser M) {c : Cursor M} (hc : I c) : (p.evalWith enter c).Ensures (Within I) := by
  -- a run is gone on with from its failure as from its value, so both have to keep to the set
  have stay : ∀ e : Failure M, I e.next → (Run.failure e : Run M Value).Ensures (Within I) :=
    fun e he => Run.ensures_failure he
  have keep : ∀ (v : Value) (next : Cursor M), I next → (Run.success v next).Ensures (Within I) :=
    fun v next hn => Run.ensures_success hn
  induction p generalizing c with
  | succeed v => exact keep v c hc
  | fail message => exact stay _ hc
  | terminal t =>
    exact Run.ensures_done
      ((c.accept_meets t).imp (fun _ _ h => hI.reaches hc h) fun e h => h.symm ▸ hc)
  | advance n =>
    refine Run.ensures_done ?_
    rcases hf : c.forward n with f | d
    · trivial
    · exact hI hc hf
  | map p f ih => exact (ih hc).map f
  | tryMap p f ih ihf =>
    exact (ih hc).handle (fun v next hn => ihf v next hn) stay fun _ => trivial
  | recover p f ih =>
    exact (ih hc).handle keep (fun e he => keep (f e.message) e.next he) fun _ => trivial
  | tryRecover p f ih ihf =>
    exact (ih hc).handle keep (fun e he => ihf e he) fun _ => trivial
  | both p q ihp ihq =>
    exact (ihp hc).handle (fun v next hn => (ihq hn).map _) stay fun _ => trivial
  | first p q ihp ihq =>
    exact (ihp hc).handle (fun v next hn => (ihq hn).map _) stay fun _ => trivial
  | second p q ihp ihq =>
    exact (ihp hc).handle (fun _ next hn => ihq hn) stay fun _ => trivial
  | choice p q ihp ihq =>
    exact (ihp hc).handle keep (fun e he => (ihq he).noting _) fun _ => trivial
  | tagged p q ihp ihq =>
    exact (ihp hc).handle (fun v => keep (.left v)) (fun e he => ((ihq he).map _).noting _)
      fun _ => trivial
  | many p ih =>
    exact (Run.ensures_repeated (fun _ hd => ih hd) _ hc).handle (fun vs => keep (.list vs))
      (fun _ he => he.elim) fun _ => trivial
  | cell k => exact henter k c hc
  | wrapped p ih => exact ih hc
  | whole p ih => exact (ih hc).toEnd fun _ _ h => h

/-- Every outcome is at a cursor that the start reaches, if the cells move so. -/
theorem evalWith_reaches {enter : Cell → Cursor M → Run M Value}
    (henter : ∀ k d, (enter k d).Ensures (Within d.Reaches)) (p : Parser M) (c : Cursor M) :
    (p.evalWith enter c).Ensures (Within c.Reaches) :=
  p.evalWith_within c.closed_reaches (fun k d hd => (henter k d).within_of_reaches hd) .refl

/-- The same of a grammar. -/
theorem eval_reaches (g : Grammar M) (bound : Nat) (p : Parser M) (c : Cursor M) :
    (p.eval g bound c).Ensures (Within c.Reaches) := by
  induction bound generalizing p c with
  | zero => exact p.evalWith_reaches (fun _ _ => Run.ensures_endless) c
  | succ bound ih => exact p.evalWith_reaches (fun k d => (ih (g.target k) d).building k _) c

end Parser

namespace Grammar

variable {g : Grammar M}

/-- Enter a cell, with at most `bound` cells inside one another from it on. -/
def enter (g : Grammar M) : Nat → Cell → Cursor M → Run M Value
  | 0, _, _ => .endless
  | bound + 1, k, c => .building k (g.notes k) ((g.target k).eval g bound c)

theorem eval_eq_evalWith (bound : Nat) (p : Parser M) (c : Cursor M) :
    p.eval g bound c = p.evalWith (g.enter bound) c := by
  cases bound <;> rfl

theorem enter_reaches (bound : Nat) (k : Cell) (d : Cursor M) :
    (g.enter bound k d).Ensures (Within d.Reaches) := by
  have h := Parser.eval_reaches g bound (.cell k) d
  rw [eval_eq_evalWith] at h
  exact h

/-- What holds of the parsers that the factories of a grammar yield holds of what its cells stand
for, if it holds of the failure that stands for a missing cell. -/
theorem forall_target {P : Parser M → Prop} (h : ∀ f ∈ g.cells, P f.parser)
    (hfail : ∀ message, P (.fail message)) (k : Cell) : P (g.target k) := by
  unfold target
  rcases hk : g.cells[k]? with _ | f
  · exact hfail _
  · exact h f (Array.mem_of_getElem? hk)

/-- All notes of a cell are about patterns that are compiled. -/
theorem forall_notes {P : Record → Prop} (h : ∀ pattern, P (.compiling pattern)) (k : Cell) :
    ∀ r ∈ g.notes k, P r := by
  intro r hr
  unfold notes at hr
  rcases hk : g.cells[k]? with _ | f <;> rw [hk] at hr
  · cases hr
  · obtain ⟨p, -, rfl⟩ := List.mem_map.1 hr
    exact h _

end Grammar

/-- **The cursor of every outcome.** Started at a cursor reached from the beginning of a source, an
evaluation that ends in a value or in a failure carries a cursor over the same source, not before
the start and not beyond the end, which parts the source at the end of an element: what remains at
the cursor is the rest of the source from its offset on. -/
theorem source_split_at_next (g : Grammar M) (p : Parser M) {s : Source M} {c d : Cursor M}
    (hc : s.start.Reaches c) {bound : Nat} {built : List Cell} {t : Finish M Value}
    (ht : p.eval g bound c built = some t) (hd : t.outcome.next? = some d) :
    d.source = s ∧ c.offset ≤ d.offset ∧ d.offset ≤ s.size ∧ d.offset + d.length = s.size ∧
      ∃ front, s.elems = front ++ d.remaining ∧ Units.size M.width front = d.offset := by
  obtain ⟨hcs, -, hcp⟩ := hc.ahead (placed_start s)
  have hr : c.Reaches d := (p.eval_reaches g bound c built t ht).next hd
  obtain ⟨hds, hle, hdp⟩ := hr.ahead hcp
  have hs : d.source = s := hds.trans hcs
  refine ⟨hs, hle, ?_, ?_, ?_⟩
  · rw [← hs]; exact hdp.offset_le
  · rw [← hs]; exact hdp.offset_add_length
  · rw [← hs]; exact placed_iff.1 hdp

/-- The failure of the second `é`, at offset 3 of `aéx`, for a rule that begins with `é` and goes on
with itself, from offset 1. -/
theorem source_split_after_accent :
    let s : Source text := ⟨0, ['a', 'é', 'x']⟩
    let g : Grammar text := ⟨#[.yields (.second (.terminal (.literal "é")) (.cell 0))]⟩
    let e : Failure text := ⟨"Expected string literal \"é\"", ⟨s, 3⟩⟩
    s.start.Reaches ⟨s, 1⟩ ∧
      (Parser.cell 0).eval g 2 ⟨s, 1⟩ [] = some ⟨.failure e, [0], [.building]⟩ ∧
      e.next.offset + e.next.length = s.size ∧
      ∃ front, s.elems = front ++ e.next.remaining ∧ Units.size text.width front = 3 := by
  intro s g e
  have hc : s.start.Reaches ⟨s, 1⟩ := Reaches.refl.forward (n := 1) rfl
  have ht : (Parser.cell 0).eval g 2 ⟨s, 1⟩ [] = some ⟨.failure e, [0], [.building]⟩ := rfl
  obtain ⟨-, -, -, hl, hsplit⟩ := source_split_at_next g _ hc ht rfl
  exact ⟨hc, ht, hl, hsplit⟩

end GrammarEngine
