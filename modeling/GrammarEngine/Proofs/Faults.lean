import GrammarEngine.Grammar.Description
import GrammarEngine.Parser.Number
import GrammarEngine.Proofs.Calls
import GrammarEngine.Proofs.Positions

/-!
# Where faults come from

A cursor that moves by what it can peek at moves exactly there (`forward_of_peek`). A terminal asks
for a move by its own count of units, and it asks only where it has found something: so many units
can then be peeked at (`peek_of_look`). So it is never a fault over a source that 64-bit numbers can
measure, and every fault of a run is that of a move which a function of the grammar has asked for
(`fault_of_advance`).

A function that asks only for moves it has peeked at asks for no fault. `Parser.PeeksAt` reads this
off a parser; `Runs.peeksAt` carries it to everything that the parser comes to run.
-/

namespace GrammarEngine

open Outcome Cursor Run

variable {M : Medium} {g : Grammar M}

/-! ## Terminals -/

/-- **What a terminal has found is in front of the cursor,** with an element ending behind it. -/
theorem Cursor.peek_of_look {c : Cursor M} {t : M.Terminal} {v : Value} {n : Nat}
    (h : M.look t c.view = some (v, n)) : (c.peek n).isSome := by
  rw [look_view] at h
  obtain ⟨⟨v', k⟩, -, h'⟩ := Option.map_eq_some_iff.1 h
  cases h'
  refine Option.isSome_iff_exists.2 ⟨c.remaining.take k, ?_⟩
  rw [peek, Units.take?_eq_some_iff M.width_pos]
  exact ⟨c.remaining.drop k, (List.take_append_drop k c.remaining).symm, rfl⟩

/-- A terminal is no fault. -/
theorem Cursor.accept_ne_fault {c : Cursor M} (hc : c.Placed) (hs : c.source.size < UInt64.size)
    (t : M.Terminal) (f : Fault) : c.accept t ≠ .fault f := by
  unfold accept
  split
  next v n h =>
    rw [forward_of_peek hc hs (peek_of_look h)]
    simp [Outcome.ofForward]
  next => simp

/-! ## Faults of runs -/

/-- A fault, if there is one, is of these. -/
def Effect.faulting (P : Fault → Prop) : Effect where
  holds _ _ _ fault := ∀ f, fault = some f → P f
  refl _ _ h := by cases h
  trans _ h' := h'
  record _ _ _ _ h := by cases h

namespace Grammar

/-- **Every fault is that of a move** that the run has come to, and that a function of the grammar
has asked for. -/
theorem fault_of_advance {p : Parser M} {c : Cursor M} (hc : c.Placed)
    (hs : c.source.size < UInt64.size) {n : Nat} {built : List Cell} {s : Finish M Value}
    (h : p.eval g n c built = some s) {f : Fault} (hf : s.outcome = .fault f) :
    ∃ m d, g.Runs p c (.advance m) d ∧ d.forward m = .error f := by
  have allowed : (Effect.faulting fun f => ∃ m d, g.Runs p c (.advance m) d ∧
      d.forward m = .error f).Allows g p c := by
    refine ⟨fun t d f hr ho => ?_, fun m d f hr hd _ f' hf' => ?_, fun _ _ _ _ _ _ h => by cases h⟩
    · obtain ⟨hsource, -, hd⟩ := hr.reaches.ahead hc
      exact (accept_ne_fault hd (hsource ▸ hs) t f ho).elim
    · cases hf'
      exact ⟨m, d, hr, hd⟩
  exact p.eval_has n allowed built s h f (by rw [hf]; rfl)

end Grammar

/-! ## Moves that are peeked at -/

namespace Parser

/-- Every move that the parser asks for at the cursor is peeked at, and so is every move of its
functions at the cursor that they are given. -/
def PeeksAt : Parser M → Cursor M → Prop
  | advance n, c => (c.peek n).isSome
  | map p _, c | recover p _, c | wrapped p, c | whole p, c => p.PeeksAt c
  | tryMap p f, c => p.PeeksAt c ∧ ∀ v next, (f v next).PeeksAt next
  | tryRecover p f, c => p.PeeksAt c ∧ ∀ e : Failure M, (f e).PeeksAt e.next
  | both p q, c | first p q, c | second p q, c | choice p q, c | tagged p q, c =>
    p.PeeksAt c ∧ ∀ d, q.PeeksAt d
  | many p, _ => ∀ d, p.PeeksAt d
  | succeed _, _ | fail _, _ | terminal _, _ | cell _, _ => True

end Parser

/-- Checks that ask for no move, or look before they do. -/
theorem Check.peeksAt {f : Check} (hforward : ∀ n, f ≠ .forward n)
    (hfail : ∀ message n, f ≠ .fail message n) (v : Value) (next : Cursor M) :
    (f.parser v next).PeeksAt next := by
  cases f with
  | forward n => exact (hforward n rfl).elim
  | fail message n => exact (hfail message n rfl).elim
  | reject | atEnd | chain =>
    dsimp only [parser]
    split <;> trivial
  | range =>
    dsimp only [parser]
    split
    next => split <;> trivial
    next => trivial
  | take =>
    dsimp only [parser]
    split
    next n =>
      by_cases hn : n < 0
      · rw [if_pos hn]; trivial
      · rw [if_neg hn]
        rcases hpeek : next.peek n.toInt.toNat with _ | piece
        · trivial
        · exact Option.isSome_iff_exists.2 ⟨piece, hpeek⟩
    next => trivial

theorem Number.peeksAt_numbers (c : Cursor text) :
    ∀ p ∈ [digitText, digit, integerText, integer, floatText, float], p.PeeksAt c := by
  have hm : ∀ p message, (matching p message).PeeksAt c := fun _ _ => ⟨trivial, fun _ => trivial⟩
  simp only [List.forall_mem_cons, List.not_mem_nil, false_imp_iff, implies_true, and_true]
  refine ⟨hm _ _, hm _ _, hm _ _, ⟨hm _ _, fun v _ => ?_⟩, hm _ _, ⟨hm _ _, fun v _ => ?_⟩⟩
  · dsimp only
    split <;> trivial
  · dsimp only
    split <;> trivial

namespace Grammar

theorem Calls.peeksAt (hg : ∀ f ∈ g.cells, ∀ d, f.parser.PeeksAt d) {p q : Parser M}
    {c d : Cursor M} (h : g.Calls p c q d) (hp : p.PeeksAt c) : q.PeeksAt d := by
  cases h with
  | map | recover | wrapped | whole => exact hp
  | tryMap | tryRecover | both | first | second | choice | tagged => exact hp.1
  | onValue => exact hp.2 _ d
  | onFailure | bothSecond | firstSecond | secondSecond | choiceSecond | taggedSecond =>
    exact hp.2 _
  | many => exact hp d
  | cell => exact forall_target (P := fun p => ∀ d, p.PeeksAt d) hg (fun _ _ => trivial) _ c

theorem Runs.peeksAt (hg : ∀ f ∈ g.cells, ∀ d, f.parser.PeeksAt d) {p q : Parser M} {c d : Cursor M}
    (h : g.Runs p c q d) (hp : p.PeeksAt c) : q.PeeksAt d := by
  induction h with
  | refl => exact hp
  | call hc _ ih => exact ih (hc.peeksAt hg hp)

/-- **No fault on any input.** Let a run of the parser come only to moves that are peeked at, over a
source that is not too long to exist. Then whatever a terminal finds where the run has come to it
stands in front of that very cursor, and it moves past exactly that; every move of a function goes
where it was asked to; and if the run ends, with or without asking for the end of the input, it ends
in a value or in a failure. -/
theorem parse_faultless {p : Parser M} {s : Source M} (hs : s.size ≤ 2 ^ 63 - 1) {c : Cursor M}
    (hc : s.start.Reaches c) (hpeek : ∀ n d, g.Runs p c (.advance n) d → (d.peek n).isSome) :
    (∀ t d v n, g.Runs p c (.terminal t) d → M.look t d.view = some (v, n) →
        (d.peek n).isSome ∧ d.forward n = .ok ⟨s, d.offset + n⟩) ∧
      (∀ n d, g.Runs p c (.advance n) d → d.forward n = .ok ⟨s, d.offset + n⟩) ∧
      ∀ built t, g.parse p c built = some t ∨ g.parseAll p c built = some t →
        (∃ v next, t.outcome = .success v next) ∨ ∃ e, t.outcome = .failure e := by
  obtain ⟨hcs, -, hcp⟩ := hc.ahead (placed_start s)
  have hsize : s.size < UInt64.size := Nat.lt_of_le_of_lt hs (by decide)
  have past : ∀ q n d, g.Runs p c q d → (d.peek n).isSome →
      d.forward n = .ok ⟨s, d.offset + n⟩ := by
    intro q n d hd hn
    obtain ⟨hds, -, hdp⟩ := hd.reaches.ahead hcp
    have hds' : d.source = s := hds.trans hcs
    rw [forward_of_peek hdp (by rw [hds']; exact hsize) hn, hds']
  refine ⟨fun t d v n hd hlook => ?_, fun n d hd => past _ n d hd (hpeek n d hd), ?_⟩
  · have hn := peek_of_look hlook
    exact ⟨hn, past _ n d hd hn⟩
  · intro built t ht
    rcases ho : t.outcome with ⟨v, next⟩ | e | f
    · exact Or.inl ⟨v, next, rfl⟩
    · exact Or.inr ⟨e, rfl⟩
    · have hsize' : c.source.size < UInt64.size := by rw [hcs]; exact hsize
      obtain ⟨n, d, hd, hf⟩ : ∃ n d, g.Runs p c (.advance n) d ∧ d.forward n = .error f := by
        rcases ht with ht | ht
        · exact fault_of_advance hcp hsize' ht ho
        · obtain ⟨n, d, hd, hf⟩ := fault_of_advance hcp hsize' ht ho
          rcases runs_whole hd with hq | hd
          · cases hq
          · exact ⟨n, d, hd, hf⟩
      rw [past _ n d hd (hpeek n d hd)] at hf
      cases hf

/-- Digits, each with as many bytes after it, from offset 1 of `x2é1é`: the second digit asks for
half a character and is refused. -/
theorem parse_faultless_counted :
    let item : Parser text := .tryMap Number.digit fun v next => Check.take.parser v next
    let g : Grammar text := ⟨#[.yields (.choice (.both item (.cell 0)) (.succeed .unit))]⟩
    let s : Source text := ⟨0, ['x', '2', 'é', '1', 'é']⟩
    s.size ≤ 2 ^ 63 - 1 ∧ s.start.Reaches ⟨s, 1⟩ ∧
      (∀ n d, g.Runs (.cell 0) ⟨s, 1⟩ (.advance n) d → (d.peek n).isSome) ∧
      ∀ built t,
        g.parse (.cell 0) ⟨s, 1⟩ built = some t ∨ g.parseAll (.cell 0) ⟨s, 1⟩ built = some t →
        (∃ v next, t.outcome = .success v next) ∨ ∃ e, t.outcome = .failure e := by
  intro item g s
  have hg : ∀ f ∈ g.cells, ∀ d, f.parser.PeeksAt d := by
    intro f hf d
    rw [Array.mem_singleton.1 hf]
    have hitem : item.PeeksAt d :=
      ⟨Number.peeksAt_numbers d _ (by simp), fun v next => Check.peeksAt (by simp) (by simp) v next⟩
    exact ⟨⟨hitem, fun _ => trivial⟩, fun _ => trivial⟩
  have hs : s.size ≤ 2 ^ 63 - 1 := by decide
  have hc : s.start.Reaches ⟨s, 1⟩ := Reaches.refl.forward (n := 1) rfl
  have hpeek : ∀ n d, g.Runs (.cell 0) ⟨s, 1⟩ (.advance n) d → (d.peek n).isSome :=
    fun n d hd => hd.peeksAt hg trivial
  exact ⟨hs, hc, hpeek, (parse_faultless hs hc hpeek).2.2⟩

end Grammar

end GrammarEngine
