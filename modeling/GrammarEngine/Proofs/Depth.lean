import Mathlib.Data.Finset.Card
import Mathlib.Data.Finset.Prod
import Mathlib.Order.Interval.Finset.Nat
import GrammarEngine.Proofs.Stateless

/-!
# The bound on nested cells is no restriction

`parse` allows as many cells inside one another as there are pairs of a cell and an offset. This is
enough: a run that ends under any bound ends under this one, in the same way (`parse_eq_some_iff`).

1. More room does no harm (`eval_mono`).
2. Consider the pairs of a cell and an offset whose runs end within `n` nested cells. If going from
   `n` to `n + 1` adds no pair, then nothing is ever added (`ends_of_stable`): what is allowed one
   more nested cell finds inside only runs that had ended before.
3. Until then each step adds a pair, so it stops after as many steps as there are pairs
   (`exists_stable`).
-/

namespace GrammarEngine

open Outcome Cursor Run

variable {M : Medium} {β : Type} {g : Grammar M}

theorem Run.Follows.building {run run' : Run M β} (h : Follows .exact run run') (k : Cell)
    (notes : List Record) : Follows .exact (building k notes run) (building k notes run') := by
  rw [follows_exact_iff] at h ⊢
  intro built s hs
  unfold Run.building at hs ⊢
  by_cases hk : k ∈ built
  · rw [if_pos hk] at hs ⊢
    exact h built s hs
  · rw [if_neg hk] at hs ⊢
    obtain ⟨t, ht, rfl⟩ := Option.map_eq_some_iff.1 hs
    rw [h _ t ht]
    rfl

namespace Parser

/-! ## More room -/

theorem eval_follows_succ (n : Nat) (p : Parser M) (c : Cursor M) :
    Follows .exact (p.eval g n c) (p.eval g (n + 1) c) := by
  induction n generalizing p c with
  | zero => exact p.evalWith_follows_all (fun _ _ => follows_endless) c
  | succ n ih => exact p.evalWith_follows_all (fun k d => (ih (g.target k) d).building k _) c

/-- A run that ends ends in the same way with more room for nested cells. -/
theorem eval_mono {m n : Nat} (h : m ≤ n) {p : Parser M} {c : Cursor M} {built : List Cell}
    {s : Finish M Value} (hs : p.eval g m c built = some s) : p.eval g n c built = some s := by
  induction h with
  | refl => exact hs
  | step _ ih => exact follows_exact_iff.1 (p.eval_follows_succ _ c) built s ih

/-- Whether a run ends does not depend on the cells built before it. -/
theorem eval_isSome_eq (n : Nat) (p : Parser M) (c : Cursor M) (built built' : List Cell) :
    (p.eval g n c built).isSome = (p.eval g n c built').isSome := by
  have h := p.eval_map_visible g n c built []
  have h' := p.eval_map_visible g n c built' []
  rw [← Option.isSome_map, h, ← h', Option.isSome_map]

end Parser

/-! ## Pairs of a cell and a cursor -/

namespace Grammar

/-- The parser of the cell ends at the cursor, with at most `n` cells inside one another. -/
def Ends (g : Grammar M) (n : Nat) (k : Cell) (d : Cursor M) : Prop :=
  ((g.target k).eval g n d []).isSome

instance (n : Nat) (k : Cell) (d : Cursor M) : Decidable (g.Ends n k d) :=
  inferInstanceAs (Decidable (_ = true))

theorem Ends.mono {m n : Nat} (h : m ≤ n) {k : Cell} {d : Cursor M} (hm : g.Ends m k d) :
    g.Ends n k d := by
  unfold Ends at *
  obtain ⟨s, hs⟩ := Option.isSome_iff_exists.1 hm
  rw [Parser.eval_mono h hs]
  rfl

/-- A cell that the grammar does not have fails at once. -/
theorem ends_of_size_le (n : Nat) {k : Cell} (hk : g.cells.size ≤ k) (d : Cursor M) :
    g.Ends n k d := by
  have ht : g.target k = .fail "no such cell" := by
    unfold target
    rw [Array.getElem?_eq_none hk]
  unfold Ends
  rw [ht]
  cases n <;> rfl

/-- If every cell that ends within `m` nested cells ends within `n`, then what is allowed one more
does the same with `n + 1` as with `m + 1`. -/
theorem follows_of_ends {c : Cursor M} {m n : Nat}
    (h : ∀ k d, c.Reaches d → g.Ends m k d → g.Ends n k d) (p : Parser M) {d : Cursor M}
    (hd : c.Reaches d) : Follows .exact (p.eval g (m + 1) d) (p.eval g (n + 1) d) := by
  have target : ∀ k d, c.Reaches d →
      Follows .exact ((g.target k).eval g m d) ((g.target k).eval g n d) := by
    intro k d hd
    rw [follows_exact_iff]
    intro built s hs
    have hm : g.Ends m k d := by
      unfold Ends
      rw [Parser.eval_isSome_eq m (g.target k) d [] built, hs]
      rfl
    have hn := h k d hd hm
    unfold Ends at hn
    rw [Parser.eval_isSome_eq n (g.target k) d [] built] at hn
    obtain ⟨t, ht⟩ := Option.isSome_iff_exists.1 hn
    -- both runs have ended, so with room for either they are the same run
    have hs' := Parser.eval_mono (Nat.le_max_left m n) hs
    have ht' := Parser.eval_mono (Nat.le_max_right m n) ht
    rw [hs'] at ht'
    cases ht'
    exact ht
  refine p.evalWith_follows c.closed_reaches (fun k e he => ?_)
    (fun k e he => (target k e he).building k _) hd
  exact (((g.target k).eval_reaches g m e).within_of_reaches he).building k _

/-- Once one more nested cell lets no pair end that did not, none ever will. -/
theorem ends_of_stable {c : Cursor M} {n : Nat}
    (h : ∀ k d, c.Reaches d → g.Ends (n + 1) k d → g.Ends n k d) (m : Nat) :
    ∀ k d, c.Reaches d → g.Ends m k d → g.Ends n k d := by
  induction m with
  | zero => exact fun k d _ hm => hm.mono (Nat.zero_le n)
  | succ m ih =>
    intro k d hd hm
    apply h k d hd
    unfold Ends at hm ⊢
    obtain ⟨s, hs⟩ := Option.isSome_iff_exists.1 hm
    rw [follows_exact_iff.1 (follows_of_ends ih (g.target k) hd) [] s hs]
    rfl

/-! ## Counting pairs -/

section Count

variable (g) (c : Cursor M)

/-- The cells of the grammar, each at the offsets from the cursor on. -/
def pairs : Finset (Cell × Nat) :=
  Finset.range g.cells.size ×ˢ Finset.Icc c.offset c.source.size

/-- The pairs whose runs end within `n` nested cells. -/
def ending (n : Nat) : Finset (Cell × Nat) :=
  (g.pairs c).filter fun x => g.Ends n x.1 ⟨c.source, x.2⟩

variable {g c}

theorem card_pairs (hc : c.Placed) : (g.pairs c).card = g.cells.size * (c.length + 1) := by
  have := hc.offset_le
  unfold pairs length
  rw [Finset.card_product, Finset.card_range, Nat.card_Icc]
  congr 1
  omega

theorem ending_subset_succ (n : Nat) : g.ending c n ⊆ g.ending c (n + 1) := by
  intro x hx
  unfold ending at *
  rw [Finset.mem_filter] at hx ⊢
  exact ⟨hx.1, hx.2.mono (Nat.le_succ n)⟩

theorem mem_ending (hc : c.Placed) {n : Nat} {k : Cell} (hk : k < g.cells.size) {d : Cursor M}
    (hd : c.Reaches d) : (k, d.offset) ∈ g.ending c n ↔ g.Ends n k d := by
  obtain ⟨hs, hle, hp⟩ := hd.ahead hc
  have hle' := hp.offset_le
  rw [hs] at hle'
  have he : (⟨c.source, d.offset⟩ : Cursor M) = d := by rw [← hs]
  unfold ending pairs
  rw [Finset.mem_filter, Finset.mem_product, Finset.mem_range, Finset.mem_Icc]
  show _ ∧ g.Ends n k ⟨c.source, d.offset⟩ ↔ _
  rw [he]
  exact ⟨fun h => h.2, fun h => ⟨⟨hk, hle, hle'⟩, h⟩⟩

/-- As long as there is always a pair to add, there are at least as many pairs as steps. -/
theorem le_card_ending (hc : c.Placed) (n : Nat)
    (h : ∀ m < n, ∃ k d, c.Reaches d ∧ g.Ends (m + 1) k d ∧ ¬ g.Ends m k d) :
    n ≤ (g.ending c n).card := by
  induction n with
  | zero => exact Nat.zero_le _
  | succ n ih =>
    have hn := ih fun m hm => h m (Nat.lt_succ_of_lt hm)
    obtain ⟨k, d, hd, hs, hns⟩ := h n (Nat.lt_succ_self n)
    have hk : k < g.cells.size := by
      by_contra hk
      exact hns (ends_of_size_le n (Nat.le_of_not_lt hk) d)
    have hss : g.ending c n ⊂ g.ending c (n + 1) := by
      refine (Finset.ssubset_iff_of_subset (ending_subset_succ n)).2 ⟨(k, d.offset), ?_, ?_⟩
      · exact (mem_ending hc hk hd).2 hs
      · exact fun hmem => hns ((mem_ending hc hk hd).1 hmem)
    have := Finset.card_lt_card hss
    omega

/-- Within as many steps as there are pairs, one step adds none. -/
theorem exists_stable (hc : c.Placed) : ∃ n ≤ g.cells.size * (c.length + 1),
    ∀ k d, c.Reaches d → g.Ends (n + 1) k d → g.Ends n k d := by
  by_contra hno
  push Not at hno
  have hle := le_card_ending hc (g.cells.size * (c.length + 1) + 1)
    fun m hm => hno m (Nat.le_of_lt_succ hm)
  have hcard : (g.ending c (g.cells.size * (c.length + 1) + 1)).card ≤ (g.pairs c).card :=
    Finset.card_le_card (Finset.filter_subset _ _)
  rw [card_pairs hc] at hcard
  omega

end Count

/-- **The bound is no restriction.** At a placed cursor a parser ends under the bound of `parse`
exactly if it ends under some bound. -/
theorem parse_eq_some_iff {p : Parser M} {c : Cursor M} (hc : c.Placed) {built : List Cell}
    {s : Finish M Value} : g.parse p c built = some s ↔ ∃ n, p.eval g n c built = some s := by
  constructor
  · exact fun h => ⟨_, h⟩
  · rintro ⟨n, hn⟩
    obtain ⟨m, hm, hstable⟩ := exists_stable (g := g) hc
    have hsucc := Parser.eval_mono (Nat.le_succ n) hn
    have hfollows := follows_of_ends (ends_of_stable hstable n) p Reaches.refl
    exact Parser.eval_mono (Nat.succ_le_succ hm) (follows_exact_iff.1 hfollows built s hsucc)

end Grammar

end GrammarEngine
