import GrammarEngine.Proofs.Consuming
import GrammarEngine.Proofs.Depth

/-!
# Grammars without left recursion end

A parser leads to a cell if it may enter the cell before it has consumed anything. A grammar is not
left-recursive if no cell leads to a cell that leads to a cell, and so on forever; so it is where no
cell leads to any, that is, where all references to cells are guarded by something consumed.

Over such a grammar every parser ends (`parse_isSome`), by three inductions inside one another.

1. Over what is left to read: everything is known to end at the cursors beyond the present one.
2. Over the relation of leading: the cells to which a parser leads are known to end here.
3. Over the parser (`settles_of_leads`): each of its parts runs here, or beyond. A part is reached
   by a value or by a failure of the part before it, and both only move forward.

A repetition ends because a round that does not move is its last.
-/

namespace GrammarEngine

open Outcome Cursor Run

variable {M : Medium} {α β : Type}

/-! ## Settled runs -/

namespace Run

/-- With enough room for nested cells, the run ends and more room does not change it. -/
def Settles (R : Nat → Run M β) : Prop := ∀ built, ∃ s n, ∀ m, n ≤ m → R m built = some s

theorem settles_done (o : Outcome M β) : Settles fun _ => done o :=
  fun built => ⟨⟨o, built, []⟩, 0, fun _ _ => rfl⟩

theorem Settles.noting {R : Nat → Run M β} (h : Settles R) (r : Record) :
    Settles fun m => noting r (R m) := by
  intro built
  obtain ⟨s, n, hn⟩ := h built
  refine ⟨s.after [r], n, fun m hm => ?_⟩
  show (R m built).map (Finish.after [r]) = _
  rw [hn m hm]
  rfl

theorem Settles.building {R : Nat → Run M β} (h : Settles R) (k : Cell) (notes : List Record) :
    Settles fun m => building k notes (R m) := by
  intro built
  unfold Run.building
  by_cases hk : k ∈ built
  · simp only [if_pos hk]
    exact h built
  · obtain ⟨s, n, hn⟩ := h (k :: built)
    refine ⟨s.after (.building :: notes), n, fun m hm => ?_⟩
    simp only [if_neg hk, hn m hm, Option.map_some]

/-- **Sequencing.** There is room for both parts, and it is known what the first has ensured. -/
theorem Settles.handle {R : Nat → Run M α} (h : Settles R) {P : Outcome M α → Prop}
    (hP : ∀ m, (R m).Ensures P) {onSuccess : Nat → α → Cursor M → Run M β}
    {onFailure : Nat → Failure M → Run M β}
    (hs : ∀ v next, P (.success v next) → Settles fun m => onSuccess m v next)
    (hf : ∀ e, P (.failure e) → Settles fun m => onFailure m e) :
    Settles fun m => (R m).handle (onSuccess m) (onFailure m) := by
  intro built
  obtain ⟨⟨o, b, log⟩, n, hn⟩ := h built
  have hp := hP n built _ (hn n (Nat.le_refl n))
  cases o with
  | success v next =>
    obtain ⟨t, n', ht⟩ := hs v next hp b
    refine ⟨t.after log, max n n', fun m hm => ?_⟩
    have ht' : onSuccess m v next b = some t := ht m (by omega)
    show (R m).handle (onSuccess m) (onFailure m) built = _
    rw [handle_success (hn m (by omega)), ht']
    rfl
  | failure e =>
    obtain ⟨t, n', ht⟩ := hf e hp b
    refine ⟨t.after log, max n n', fun m hm => ?_⟩
    have ht' : onFailure m e b = some t := ht m (by omega)
    show (R m).handle (onSuccess m) (onFailure m) built = _
    rw [handle_failure (hn m (by omega)), ht']
    rfl
  | fault f => exact ⟨_, n, fun m hm => handle_fault (hn m hm)⟩

theorem Settles.map {R : Nat → Run M α} (h : Settles R) (f : α → β) :
    Settles fun m => (R m).map f :=
  h.handle (fun m => (R m).ensures_true) (fun v next _ => settles_done (.success (f v) next))
    fun e _ => settles_done (.failure e)

theorem Settles.toEnd {R : Nat → Run M Value} (h : Settles R) : Settles fun m => (R m).toEnd := by
  refine h.handle (fun m => (R m).ensures_true) (fun v next _ => ?_)
    fun e _ => settles_done (.failure e)
  by_cases he : next.isEmpty = true
  · simp only [if_pos he]
    exact settles_done (.success v next)
  · simp only [if_neg he]
    exact (settles_done (.failure _)).noting _

/-- **A repetition ends.** Every round but the last leaves less to read, so there are at most as
many rounds as units, and one more. -/
theorem Settles.repeated {step : Nat → Cursor M → Run M α}
    (hstep : ∀ m d, (step m d).Ensures (Within d.Reaches)) {c : Cursor M} (hc : c.Placed)
    (h : ∀ d, c.Reaches d → Settles fun m => step m d) (bound : Nat) (hb : c.length < bound) :
    Settles fun m => repeated (step m) bound c := by
  induction bound generalizing c with
  | zero => omega
  | succ bound ih =>
    refine (h c .refl).handle (fun m => hstep m c) (fun v next hn => ?_) fun _ _ => settles_done _
    by_cases ho : next.offset = c.offset
    · simp only [if_pos ho]
      exact settles_done (.success [] c)
    · simp only [if_neg ho]
      have hle := (hn.ahead hc).2.1
      have hlt := Passes.length_lt ⟨hn, by omega⟩ hc
      exact (ih (hn.ahead hc).2.2 (fun d hd => h d (hn.trans hd)) (by omega)).map _

end Run

/-! ## Leading cells -/

namespace Parser

/-- The cell occurs in the parser, and not only in the second parts of sequences whose first part
consumes. -/
def Leads : Parser M → Cell → Prop
  | cell j, k => j = k
  | map p _, k | recover p _, k | many p, k | wrapped p, k | whole p, k => p.Leads k
  | tryMap p f, k => p.Leads k ∨ ¬ p.Consuming ∧ ∃ v next, (f v next).Leads k
  | tryRecover p f, k => p.Leads k ∨ ∃ e, (f e).Leads k
  | both p q, k | first p q, k | second p q, k => p.Leads k ∨ ¬ p.Consuming ∧ q.Leads k
  | choice p q, k | tagged p q, k => p.Leads k ∨ q.Leads k
  | succeed _, _ | fail _, _ | terminal _, _ | advance _, _ => False

/-- Every reference to a cell is in the second part of a sequence whose first part consumes. -/
def Guarded (p : Parser M) : Prop := ∀ k, ¬ p.Leads k

/-- **A parser ends here** if everything ends beyond and the cells to which it leads end here. -/
theorem settles_of_leads {enter : Nat → Cell → Cursor M → Run M Value}
    (henter : ∀ m k d, (enter m k d).Ensures (Within d.Reaches)) {c : Cursor M} (hc : c.Placed)
    (beyond : ∀ (q : Parser M) d, c.Passes d → Settles fun m => q.evalWith (enter m) d)
    (p : Parser M) (hp : ∀ k, p.Leads k → Settles fun m => enter m k c) :
    Settles fun m => p.evalWith (enter m) c := by
  have reaches : ∀ (p : Parser M) m d, (p.evalWith (enter m) d).Ensures (Within d.Reaches) :=
    fun p m d => p.evalWith_reaches (henter m) d
  have keep : ∀ (v : Value) (next : Cursor M), Settles fun _ => success v next :=
    fun v next => settles_done (.success v next)
  have stay : ∀ e : Failure M, Settles fun _ => (failure e : Run M Value) :=
    fun e => settles_done (.failure e)
  -- what ends here ends wherever the parts before it have come to
  have ahead : ∀ q : Parser M, (Settles fun m => q.evalWith (enter m) c) →
      ∀ d, c.Reaches d → Settles fun m => q.evalWith (enter m) d := by
    intro q hq d hd
    rcases hd.eq_or_passes hc with rfl | hd
    · exact hq
    · exact beyond q d hd
  -- the second part of a sequence is beyond, or what it leads to the sequence leads to
  have sequence : ∀ {p : Parser M} {go : Nat → Value → Cursor M → Run M Value},
      (Settles fun m => p.evalWith (enter m) c) →
      (∀ v d, c.Passes d → Settles fun m => go m v d) →
      (¬ p.Consuming → ∀ v d, c.Reaches d → Settles fun m => go m v d) →
      Settles fun m => (p.evalWith (enter m) c).andThen (go m) := by
    intro p go h hbeyond hhere
    by_cases hcons : p.Consuming
    · exact h.handle (fun m => hcons.beyond (henter m) hc) (fun v next hn => hbeyond v next hn)
        fun e _ => stay e
    · exact h.handle (fun m => reaches p m c) (fun v next hn => hhere hcons v next hn)
        fun e _ => stay e
  induction p with
  | succeed v => exact keep v c
  | fail message => exact stay _
  | terminal t => exact settles_done _
  | advance n => exact settles_done _
  | map p f ih => exact (ih hp).map f
  | tryMap p f ih ihf =>
    refine sequence (ih fun k hk => hp k (.inl hk)) (fun v d hd => beyond (f v d) d hd) ?_
    intro hcons v d hd
    exact ahead _ (ihf v d fun k hk => hp k (.inr ⟨hcons, v, d, hk⟩)) d hd
  | recover p f ih =>
    exact (ih hp).handle (fun m => reaches p m c) (fun v next _ => keep v next)
      fun e _ => keep _ e.next
  | tryRecover p f ih ihf =>
    refine (ih fun k hk => hp k (.inl hk)).handle (fun m => reaches p m c)
      (fun v next _ => keep v next) fun e he => ?_
    exact ahead _ (ihf e fun k hk => hp k (.inr ⟨e, hk⟩)) e.next he
  | both p q ihp ihq =>
    refine sequence (ihp fun k hk => hp k (.inl hk)) (fun v d hd => (beyond q d hd).map _) ?_
    intro hcons v d hd
    exact (ahead q (ihq fun k hk => hp k (.inr ⟨hcons, hk⟩)) d hd).map _
  | first p q ihp ihq =>
    refine sequence (ihp fun k hk => hp k (.inl hk)) (fun v d hd => (beyond q d hd).map _) ?_
    intro hcons v d hd
    exact (ahead q (ihq fun k hk => hp k (.inr ⟨hcons, hk⟩)) d hd).map _
  | second p q ihp ihq =>
    refine sequence (ihp fun k hk => hp k (.inl hk)) (fun _ d hd => beyond q d hd) ?_
    intro hcons _ d hd
    exact ahead q (ihq fun k hk => hp k (.inr ⟨hcons, hk⟩)) d hd
  | choice p q ihp ihq =>
    refine (ihp fun k hk => hp k (.inl hk)).handle (fun m => reaches p m c)
      (fun v next _ => keep v next) fun e he => ?_
    exact (ahead q (ihq fun k hk => hp k (.inr hk)) e.next he).noting _
  | tagged p q ihp ihq =>
    refine (ihp fun k hk => hp k (.inl hk)).handle (fun m => reaches p m c)
      (fun v next _ => keep (.left v) next) fun e he => ?_
    exact ((ahead q (ihq fun k hk => hp k (.inr hk)) e.next he).map _).noting _
  | many p ih =>
    exact (Settles.repeated (fun m d => reaches p m d) hc (ahead p (ih hp)) _
      (Nat.lt_succ_self _)).map _
  | cell k => exact hp k rfl
  | wrapped p ih => exact ih hp
  | whole p ih => exact (ih hp).toEnd

end Parser

/-! ## Grammars -/

namespace Grammar

variable {g : Grammar M}

/-- No cell leads to a cell, that leads to a cell, and so on forever. -/
def NonLeftRecursive (g : Grammar M) : Prop := WellFounded fun j k => (g.target k).Leads j

theorem nonLeftRecursive_of_guarded (h : ∀ f ∈ g.cells, f.parser.Guarded) : g.NonLeftRecursive := by
  refine ⟨fun k => ⟨k, fun j hj => ?_⟩⟩
  have hk : (g.target k).Guarded := forall_target h (fun _ _ hl => hl) k
  exact (hk j hj).elim

/-- A cell ends if its parser does. -/
theorem enter_settles {k : Cell} {c : Cursor M}
    (h : Settles fun m => (g.target k).evalWith (g.enter m) c) :
    Settles fun m => g.enter m k c := by
  intro built
  obtain ⟨s, n, hn⟩ := h.building k (g.notes k) built
  refine ⟨s, n + 1, fun m hm => ?_⟩
  obtain ⟨m, rfl⟩ := Nat.exists_eq_add_of_le' (Nat.le_trans (Nat.le_add_left 1 n) hm)
  show building k (g.notes k) ((g.target k).eval g m c) built = some s
  rw [eval_eq_evalWith]
  exact hn m (by omega)

theorem settles (hg : g.NonLeftRecursive) (p : Parser M) {c : Cursor M} (hc : c.Placed) :
    Settles fun m => p.evalWith (g.enter m) c := by
  induction hn : c.length using Nat.strong_induction_on generalizing p c with
  | _ n ih =>
    have beyond : ∀ (q : Parser M) d, c.Passes d → Settles fun m => q.evalWith (g.enter m) d := by
      intro q d hd
      have hlt := hd.length_lt hc
      exact ih d.length (by omega) q (hd.1.ahead hc).2.2 rfl
    -- at this cursor the cells come first, each after those to which it leads
    have cells : ∀ k, Settles fun m => g.enter m k c := by
      intro k
      induction k using hg.induction with
      | _ k ihk => exact enter_settles ((g.target k).settles_of_leads enter_reaches hc beyond ihk)
    exact p.settles_of_leads enter_reaches hc beyond fun k _ => cells k

/-- **Without left recursion every parser ends.** -/
theorem parse_isSome (hg : g.NonLeftRecursive) (p : Parser M) {c : Cursor M} (hc : c.Placed)
    (built : List Cell) : (g.parse p c built).isSome := by
  obtain ⟨s, n, hn⟩ := settles hg p hc built
  have hs : p.eval g n c built = some s := by
    rw [eval_eq_evalWith]
    exact hn n (Nat.le_refl n)
  rw [(parse_eq_some_iff hc).2 ⟨n, hs⟩]
  rfl

/-- **Guarded grammars end.** If in the cells of a grammar every reference to a cell is in the
second part of a sequence whose first part consumes, then every parser over these cells ends at
every cursor reached from the beginning of a source, and so does the parser that asks for the end of
the input. -/
theorem parse_isSome_of_guarded (hg : ∀ f ∈ g.cells, f.parser.Guarded) (p : Parser M) {s : Source M}
    {c : Cursor M} (hc : s.start.Reaches c) (built : List Cell) :
    (g.parse p c built).isSome ∧ (g.parseAll p c built).isSome := by
  have hg' := nonLeftRecursive_of_guarded hg
  obtain ⟨-, -, hp⟩ := hc.ahead (placed_start s)
  exact ⟨parse_isSome hg' p hp built, parse_isSome hg' (.whole p) hp built⟩

/-- Nested lists of integers, of which the last is not closed, read by a repetition whose rounds may
yield nothing. -/
theorem parse_isSome_nested_lists :
    let items : Parser text := .many (.cell 0)
    let list : Parser text :=
      .second (.terminal (.literal "(")) (.first items (.terminal (.literal ")")))
    let g : Grammar text := ⟨#[.yields (.choice list Number.integer)]⟩
    let s : Source text := ⟨0, ['(', '1', ')', '(']⟩
    (∀ f ∈ g.cells, f.parser.Guarded) ∧ s.start.Reaches ⟨s, 1⟩ ∧
      (g.parse (.many (.opt (.cell 0))) ⟨s, 1⟩ []).isSome ∧
      (g.parseAll (.many (.opt (.cell 0))) ⟨s, 1⟩ []).isSome := by
  intro items list g s
  have hopen : (Parser.terminal (.literal "(") : Parser text).Consuming :=
    consumes_literal (by decide)
  have hinteger : Number.integerText.Consuming := Number.consuming_numbers _ (by simp)
  have hg : ∀ f ∈ g.cells, f.parser.Guarded := by
    intro f hf k hk
    rw [Array.mem_singleton.1 hf] at hk
    rcases hk with (hk | ⟨hn, -⟩) | ((hk | hk) | ⟨hn, -⟩)
    · exact hk
    · exact hn hopen
    · exact hk
    · exact hk
    · exact hn hinteger
  have hc : s.start.Reaches ⟨s, 1⟩ := Reaches.refl.forward (n := 1) rfl
  exact ⟨hg, hc, parse_isSome_of_guarded hg _ hc []⟩

end Grammar

end GrammarEngine
