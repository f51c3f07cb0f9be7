import GrammarEngine.Media.Slice
import GrammarEngine.Proofs.Motion

/-!
# Where a cursor can go

What can be seen from a cursor, how much is left to the end and where a move forward leads are all
decided by the places where elements end. A cursor that is reached from the beginning of a source
stands at such a place, within the source. From there `n` units can be seen exactly if another such
place is `n` units ahead; a move goes exactly there, or to the end if it asks for more than is left;
and any other move is a fault. `Cursor.Consistent` says so of one cursor and one amount, and the
main statement is `cursors_consistent`, for text and for slices.

The end of a source is where a move stops only if the position that it asks for is a 64-bit number.
In slices this is the only thing that can go wrong (`forward_slice`), and it does go wrong: from any
offset but the first there are amounts for which a move is a fault (`slice_saturates`,
`slice_overflows`).

1. So many units can be seen exactly if an element ends behind them (`Placed.peek_isSome_iff`), and
   then a move goes past what was seen (`forward_of_remaining`).
2. A move is no fault exactly if its position is a 64-bit number and an element ends where it stops
   (`forward_eq_ok_iff`).
3. Elements end, in text, where a position of the string is valid (`placed_text_iff`), and in slices
   everywhere up to the end (`placed_slice_iff`).
-/

namespace GrammarEngine

open Cursor

/-! ## Elements in units -/

theorem Units.size_one {α : Type} (xs : List α) : size (fun _ => 1) xs = xs.length := by
  induction xs with
  | nil => rfl
  | cons x xs ih => rw [size, ih, List.length_cons, Nat.add_comm]

namespace Cursor

variable {M : Medium} {c d e : Cursor M} {m n : Nat}

/-! ## Looking ahead -/

/-- So many units can be seen exactly if an element ends behind them. -/
theorem Placed.peek_isSome_iff (hc : c.Placed) (n : Nat) :
    (c.peek n).isSome ↔ (⟨c.source, c.offset + n⟩ : Cursor M).Placed := by
  obtain ⟨front, hfront, hoffset⟩ := placed_iff.1 hc
  constructor
  · intro h
    obtain ⟨piece, hpiece⟩ := Option.isSome_iff_exists.1 h
    obtain ⟨rest, hrest, hsize⟩ := (Units.take?_eq_some_iff M.width_pos).1 hpiece
    refine Option.isSome_iff_exists.2 ⟨rest, (Units.drop?_eq_some_iff M.width_pos).2 ?_⟩
    refine ⟨front ++ piece, ?_, ?_⟩
    · show c.source.elems = front ++ piece ++ rest
      rw [hfront, hrest, List.append_assoc]
    · rw [Units.size_append, hoffset, hsize]
  · intro h
    obtain ⟨front', hfront', hoffset'⟩ := placed_iff.1 h
    have hsplit := hfront.symm.trans hfront'
    have hsize : Units.size M.width front' = c.offset + n := hoffset'
    obtain ⟨piece, rfl, hpiece⟩ := Units.exists_of_append_eq M.width_pos hsplit (by omega)
    rw [Units.size_append] at hsize
    exact Option.isSome_iff_exists.2
      ⟨piece, (Units.take?_eq_some_iff M.width_pos).2 ⟨_, hpiece, by omega⟩⟩

/-- They cannot be seen if too few remain, or if the last one is inside an element. -/
theorem Placed.peek_eq_none_iff (hc : c.Placed) (n : Nat) :
    c.peek n = none ↔ c.length < n ∨ ¬ (⟨c.source, c.offset + n⟩ : Cursor M).Placed := by
  rw [← Option.not_isSome_iff_eq_none, hc.peek_isSome_iff n]
  refine ⟨Or.inr, fun h => h.elim (fun hlt hplaced => ?_) id⟩
  have hsize : c.offset + n ≤ c.source.size := hplaced.offset_le
  unfold length at hlt
  omega

theorem Placed.offset_add_le (hc : c.Placed) (h : (c.peek n).isSome) :
    c.offset + n ≤ c.source.size := by
  have hplaced := (hc.peek_isSome_iff n).1 h
  exact hplaced.offset_le

/-! ## Moving -/

/-- A move is no fault exactly if its position is a 64-bit number and an element ends where it
stops. -/
theorem forward_eq_ok_iff : c.forward n = .ok d ↔
    c.offset + n < UInt64.size ∧ d = ⟨c.source, min (c.offset + n) c.source.size⟩ ∧ d.Placed := by
  constructor
  · intro h
    obtain ⟨hd, hplaced⟩ := forward_eq_ok h
    rcases Nat.lt_or_ge (c.offset + n) UInt64.size with hn | hn
    · exact ⟨hn, hd, hplaced⟩
    · rw [forward, if_pos hn] at h
      cases h
  · rintro ⟨hn, rfl, hplaced⟩
    rw [forward, if_neg (Nat.not_le_of_lt hn)]
    exact if_pos hplaced

theorem forward_of_overflow (h : UInt64.size ≤ c.offset + n) : c.forward n = .error .overflow :=
  if_pos h

/-- A move that would stop inside an element is a fault. -/
theorem forward_of_not_placed (hn : c.offset + n < UInt64.size)
    (h : ¬ (⟨c.source, min (c.offset + n) c.source.size⟩ : Cursor M).Placed) :
    c.forward n = .error (.split n c.offset) := by
  rw [forward, if_neg (Nat.not_le_of_lt hn)]
  exact if_neg h

/-- A placed cursor moves past what it has in front of it. -/
theorem forward_of_remaining (hc : c.Placed) (hs : c.source.size < UInt64.size)
    {front rest : List M.Elem} (h : c.remaining = front ++ rest) :
    c.forward (Units.size M.width front) = .ok ⟨c.source, c.offset + Units.size M.width front⟩ ∧
      (⟨c.source, c.offset + Units.size M.width front⟩ : Cursor M).remaining = rest := by
  have hsize := hc.size_remaining
  rw [h, Units.size_append] at hsize
  obtain ⟨before, hb, ho⟩ := placed_iff.1 hc
  have hdrop : Units.drop? M.width (c.offset + Units.size M.width front) c.source.elems =
      some rest := by
    rw [Units.drop?_eq_some_iff M.width_pos]
    exact ⟨before ++ front, by rw [hb, h, List.append_assoc], by rw [Units.size_append, ho]⟩
  have hmin : min (c.offset + Units.size M.width front) c.source.size =
      c.offset + Units.size M.width front := by omega
  constructor
  · refine forward_eq_ok_iff.2 ⟨by omega, by rw [hmin], ?_⟩
    exact Option.isSome_iff_exists.2 ⟨rest, hdrop⟩
  · unfold remaining
    dsimp only
    rw [hdrop]
    rfl

/-- A move that is peeked at is no fault. -/
theorem forward_of_peek (hc : c.Placed) (hs : c.source.size < UInt64.size)
    (h : (c.peek n).isSome) : c.forward n = .ok ⟨c.source, c.offset + n⟩ := by
  obtain ⟨front, hf⟩ := Option.isSome_iff_exists.1 h
  obtain ⟨rest, hr, rfl⟩ := (Units.take?_eq_some_iff M.width_pos).1 hf
  exact (forward_of_remaining hc hs hr).1

/-- At the end of a source nothing remains. -/
theorem placed_end (s : Source M) :
    (⟨s, s.size⟩ : Cursor M).Placed ∧ (⟨s, s.size⟩ : Cursor M).remaining = [] := by
  have hdrop : Units.drop? M.width s.size s.elems = some [] :=
    (Units.drop?_eq_some_iff M.width_pos).2 ⟨s.elems, by rw [List.append_nil], rfl⟩
  constructor
  · exact Option.isSome_iff_exists.2 ⟨[], hdrop⟩
  · unfold remaining
    dsimp only
    rw [hdrop]
    rfl

/-- A move by more than is left stops at the end. -/
theorem Placed.forward_beyond (hc : c.Placed) (h : c.length < n)
    (hn : c.offset + n < UInt64.size) : c.forward n = .ok ⟨c.source, c.source.size⟩ := by
  have hlength := hc.offset_add_length
  have hmin : min (c.offset + n) c.source.size = c.source.size := by omega
  exact forward_eq_ok_iff.2 ⟨hn, by rw [hmin], (placed_end c.source).1⟩

/-- What is left but cannot be seen ends inside an element. -/
theorem Placed.forward_of_unseen (hc : c.Placed) (hs : c.source.size < UInt64.size)
    (h : c.peek n = none) (hle : n ≤ c.length) : c.forward n = .error (.split n c.offset) := by
  have hlength := hc.offset_add_length
  have hmin : min (c.offset + n) c.source.size = c.offset + n := by omega
  refine forward_of_not_placed (by omega) ?_
  rw [hmin, ← hc.peek_isSome_iff, h]
  exact Bool.false_ne_true

/-- Where two moves stop, one by both amounts would. -/
theorem forward_forward (h : c.forward n = .ok d) (h' : d.forward m = .ok e) :
    e = ⟨c.source, min (c.offset + n + m) c.source.size⟩ ∧ e.Placed := by
  obtain ⟨rfl, -⟩ := forward_eq_ok h
  obtain ⟨rfl, he⟩ := forward_eq_ok h'
  refine ⟨?_, he⟩
  congr 1
  show min (min (c.offset + n) c.source.size + m) c.source.size = _
  omega

/-! ## Looking, moving and measuring -/

/-- What is seen, what is measured and where a move by `n` leads fit together, where elements end at
the offsets of `ends`. -/
structure Consistent (ends : Nat → Prop) (c : Cursor M) (n : Nat) : Prop where
  /-- So much is seen as is left and ends with an element. -/
  seen : (c.peek n).isSome ↔ n ≤ c.length ∧ ends (c.offset + n)
  /-- What is seen is moved past. -/
  passed : ∀ front, c.peek n = some front → ∃ d, c.forward n = .ok d ∧
    Units.size M.width front = n ∧ c.remaining = front ++ d.remaining ∧ c.length = n + d.length
  /-- Beyond the end a move stops there. -/
  stopped : c.length < n → c.offset + n < UInt64.size →
    c.forward n = .ok ⟨c.source, c.source.size⟩ ∧
      (⟨c.source, c.source.size⟩ : Cursor M).remaining = []
  /-- Any other move is a fault. -/
  refused : c.peek n = none → ¬ (c.length < n ∧ c.offset + n < UInt64.size) →
    c.forward n = .error (if c.offset + n < UInt64.size then .split n c.offset else .overflow)
  /-- Two moves in a row are one. -/
  joined : ∀ m d e, c.forward n = .ok d → d.forward m = .ok e → c.offset + n + m < UInt64.size →
    c.forward (n + m) = .ok e
  /-- A move leaves the cursor as it was: in the source of the new cursor it is found again. -/
  kept : ∀ d, c.forward n = .ok d → (⟨d.source, c.offset⟩ : Cursor M) = c

/-- **A placed cursor is consistent** in a source that 64-bit numbers can measure. -/
theorem Placed.consistent (hc : c.Placed) (hs : c.source.size < UInt64.size) {ends : Nat → Prop}
    (hends : ∀ k, (⟨c.source, k⟩ : Cursor M).Placed ↔ k ≤ c.source.size ∧ ends k) (n : Nat) :
    c.Consistent ends n where
  seen := by
    have hlength := hc.offset_add_length
    rw [hc.peek_isSome_iff n, hends]
    refine and_congr_left fun _ => ?_
    omega
  passed front hfront := by
    obtain ⟨rest, hrest, hsize⟩ := (Units.take?_eq_some_iff M.width_pos).1 hfront
    obtain ⟨hforward, hremaining⟩ := forward_of_remaining hc hs hrest
    rw [hsize] at hforward hremaining
    have hle := hc.offset_add_le (Option.isSome_iff_exists.2 ⟨front, hfront⟩)
    refine ⟨_, hforward, hsize, by rw [hrest, hremaining], ?_⟩
    show c.source.size - c.offset = n + (c.source.size - (c.offset + n))
    omega
  stopped hlt hn := ⟨hc.forward_beyond hlt hn, (placed_end c.source).2⟩
  refused hpeek hno := by
    by_cases hn : c.offset + n < UInt64.size
    · rw [if_pos hn]
      exact hc.forward_of_unseen hs hpeek (Nat.le_of_not_lt fun hlt => hno ⟨hlt, hn⟩)
    · rw [if_neg hn]
      exact forward_of_overflow (Nat.le_of_not_lt hn)
  joined m d e hd he hsum := by
    obtain ⟨he', hplaced⟩ := forward_forward hd he
    rw [Nat.add_assoc] at he' hsum
    exact forward_eq_ok_iff.2 ⟨hsum, he', hplaced⟩
  kept d hd := by
    obtain ⟨rfl, -⟩ := forward_eq_ok hd
    rfl

/-! ## Where elements end -/

/-- In text an element ends where a position of the string is valid. -/
theorem placed_text_iff {s : Source text} {k : Nat} :
    (⟨s, k⟩ : Cursor text).Placed ↔ (⟨k⟩ : String.Pos.Raw).IsValid (String.ofList s.elems) := by
  unfold Placed
  rw [Option.isSome_iff_exists, String.Pos.Raw.isValid_ofList]
  constructor
  · rintro ⟨rest, h⟩
    obtain ⟨front, hfront, hsize⟩ := (Units.drop?_eq_some_iff text.width_pos).1 h
    refine ⟨front.length, ?_⟩
    rw [hfront, List.take_left, utf8ByteSize_ofList]
    exact hsize.symm
  · rintro ⟨i, hi⟩
    rw [utf8ByteSize_ofList] at hi
    refine ⟨s.elems.drop i, (Units.drop?_eq_some_iff text.width_pos).2 ?_⟩
    exact ⟨s.elems.take i, (List.take_append_drop i s.elems).symm, hi.symm⟩

/-- In slices an element ends everywhere up to the end. -/
theorem placed_slice_iff {K : ElemKind} {s : Source (slice K)} {k : Nat} :
    (⟨s, k⟩ : Cursor (slice K)).Placed ↔ k ≤ s.size := by
  constructor
  · exact fun h => h.offset_le
  · intro hk
    unfold Source.size at hk
    rw [Units.size_one] at hk
    refine Option.isSome_iff_exists.2
      ⟨s.elems.drop k, (Units.drop?_eq_some_iff (slice K).width_pos).2 ?_⟩
    refine ⟨s.elems.take k, (List.take_append_drop k s.elems).symm, ?_⟩
    rw [Units.size_one, List.length_take_of_le hk]

end Cursor

/-- **Looking ahead, moving and measuring agree.** Consider a cursor that is reached from the
beginning of a source that 64-bit numbers can measure, and any amount. So many units can be seen
exactly if they are left and, in text, if they end at a valid position of the string. Then they are
as many as asked for, the move by them is no fault, behind it the rest remains, and the length has
dropped by the amount. If more is asked for than is left, and the position is a 64-bit number, the
move leads to the end, where nothing remains. Any other move is a fault. Two moves in a row lead
where one by their sum does, and the cursor moved from stays what it was. -/
theorem cursors_consistent :
    (∀ {s : Source text} {c : Cursor text}, s.size < UInt64.size → s.start.Reaches c → ∀ n,
      c.Consistent (fun k => (⟨k⟩ : String.Pos.Raw).IsValid (String.ofList s.elems)) n) ∧
    ∀ {K : ElemKind} {s : Source (slice K)} {c : Cursor (slice K)}, s.size < UInt64.size →
      s.start.Reaches c → ∀ n, c.Consistent (fun _ => True) n := by
  constructor
  · intro s c hs hc n
    obtain ⟨hsource, -, hplaced⟩ := hc.ahead (placed_start s)
    obtain rfl : c.source = s := hsource
    refine hplaced.consistent hs (fun k => ?_) n
    rw [placed_text_iff]
    refine (and_iff_right_of_imp fun h => ?_).symm
    have hle : k ≤ (String.ofList c.source.elems).utf8ByteSize := h.le_utf8ByteSize
    rwa [utf8ByteSize_ofList] at hle
  · intro K s c hs hc n
    obtain ⟨hsource, -, hplaced⟩ := hc.ahead (placed_start s)
    obtain rfl : c.source = s := hsource
    refine hplaced.consistent hs (fun k => ?_) n
    rw [placed_slice_iff, and_true]

/-- At the `é` of `aé€`, which is two bytes long: two bytes ahead it ends, one byte ahead it does
not, five bytes ahead is the end. From the first `1` of a slice the second is one element ahead. -/
theorem cursors_consistent_accent :
    (let s : Source text := ⟨0, ['a', 'é', '€']⟩
      let c : Cursor text := ⟨s, 1⟩
      s.size < UInt64.size ∧ s.start.Reaches c ∧
        (2 ≤ c.length ∧ (⟨1 + 2⟩ : String.Pos.Raw).IsValid (String.ofList s.elems)) ∧
        (∃ d, c.forward 2 = .ok d ∧ c.remaining = ['é'] ++ d.remaining ∧ c.length = 2 + d.length) ∧
        c.forward 1 = .error (.split 1 1) ∧
        c.forward 6 = .ok ⟨s, 6⟩ ∧ c.forward (2 + 3) = .ok ⟨s, 6⟩ ∧
        c.forward (UInt64.size - 1) = .error .overflow) ∧
    let s : Source (slice .integers) := ⟨0, [1, 1]⟩
    s.size < UInt64.size ∧ s.start.Reaches ⟨s, 0⟩ ∧
      ∃ d, (⟨s, 0⟩ : Cursor (slice .integers)).forward 1 = .ok d ∧ d.remaining = [1] := by
  obtain ⟨htext, hslice⟩ := cursors_consistent
  constructor
  · intro s c
    have hs : s.size < UInt64.size := by decide
    have hc : s.start.Reaches c := Reaches.refl.forward (n := 1) rfl
    obtain ⟨d, hd, -, hremaining, hlength⟩ := (htext hs hc 2).passed ['é'] rfl
    have hsplit := (htext hs hc 1).refused rfl (by decide)
    have hend := (htext hs hc 6).stopped (by decide) (by decide)
    have hsum := (htext hs hc 2).joined 3 ⟨s, 3⟩ ⟨s, 6⟩ rfl rfl (by decide)
    have hfar := htext hs hc (UInt64.size - 1)
    have hunseen := Option.not_isSome_iff_eq_none.1 (mt hfar.seen.1 (by decide))
    have hover := hfar.refused hunseen (by decide)
    rw [if_neg (by decide)] at hover
    exact ⟨hs, hc, (htext hs hc 2).seen.1 rfl, ⟨d, hd, hremaining, hlength⟩, hsplit, hend.1, hsum,
      hover⟩
  · intro s
    have hs : s.size < UInt64.size := by decide
    obtain ⟨d, hd, -, hremaining, -⟩ := (hslice hs Reaches.refl 1).passed [1] rfl
    exact ⟨hs, Reaches.refl, d, hd, (List.cons.inj hremaining).2.symm⟩

/-! ## Saturation -/

namespace Cursor

variable {K : ElemKind}

/-- In slices a move is a fault only if its position is no 64-bit number. -/
theorem forward_slice (c : Cursor (slice K)) (n : Nat) : c.forward n =
    if c.offset + n < UInt64.size then .ok ⟨c.source, min (c.offset + n) c.source.size⟩
    else .error .overflow := by
  by_cases hn : c.offset + n < UInt64.size
  · rw [if_pos hn]
    exact forward_eq_ok_iff.2 ⟨hn, rfl, placed_slice_iff.2 (Nat.min_le_right _ _)⟩
  · rw [if_neg hn]
    exact forward_of_overflow (Nat.le_of_not_lt hn)

/-- Two moves in a row: the second begins where the first has stopped. -/
theorem forward_slice_bind (c : Cursor (slice K)) (a b : Nat) :
    (c.forward a >>= (·.forward b)) =
      if c.offset + a < UInt64.size ∧ min (c.offset + a) c.source.size + b < UInt64.size then
        .ok ⟨c.source, min (c.offset + a + b) c.source.size⟩
      else .error .overflow := by
  rw [c.forward_slice a]
  by_cases ha : c.offset + a < UInt64.size
  · rw [if_pos ha]
    show forward _ b = _
    have hmin : min (min (c.offset + a) c.source.size + b) c.source.size =
        min (c.offset + a + b) c.source.size := by omega
    rw [forward_slice, hmin]
    simp only [ha, true_and]
  · rw [if_neg ha, if_neg fun h => ha h.1]
    rfl

/-- A move by a sum that is cut down to a 64-bit number. -/
theorem forward_slice_capped {c : Cursor (slice K)} (hs : c.source.size < UInt64.size) (n : Nat) :
    c.forward (min n (UInt64.size - 1)) =
      if c.offset = 0 ∨ c.offset + n < UInt64.size then
        .ok ⟨c.source, min (c.offset + n) c.source.size⟩
      else .error .overflow := by
  have hsize : 0 < UInt64.size := by decide
  have hiff : c.offset + min n (UInt64.size - 1) < UInt64.size ↔
      c.offset = 0 ∨ c.offset + n < UInt64.size := by omega
  rw [forward_slice]
  simp only [hiff]
  by_cases h : c.offset = 0 ∨ c.offset + n < UInt64.size
  · have hmin : min (c.offset + min n (UInt64.size - 1)) c.source.size =
        min (c.offset + n) c.source.size := by omega
    rw [if_pos h, if_pos h, hmin]
  · rw [if_neg h, if_neg h]

end Cursor

/-- **Where moves in slices saturate.** A move stops at its position or at the end, whichever comes
first, if that position is a 64-bit number, and is a fault otherwise. So moves by all 64-bit amounts
saturate from the beginning, and only from there. Two moves in a row come to the same as one by
their sum, cut down to a 64-bit number, exactly if both ways are faults or neither is: two moves can
stop at the end before the sum is too large, and can go beyond the 64-bit numbers where the sum is
cut down. -/
theorem slice_saturates {K : ElemKind} {c : Cursor (slice K)} (hs : c.source.size < UInt64.size) :
    (∀ n, c.forward n =
      if c.offset + n < UInt64.size then .ok ⟨c.source, min (c.offset + n) c.source.size⟩
      else .error .overflow) ∧
    ((∀ n < UInt64.size, c.forward n = .ok ⟨c.source, min (c.offset + n) c.source.size⟩) ↔
      c.offset = 0) ∧
    ∀ a b, (c.forward a >>= (·.forward b)) = c.forward (min (a + b) (UInt64.size - 1)) ↔
      (c.offset + a < UInt64.size ∧ min (c.offset + a) c.source.size + b < UInt64.size ↔
        c.offset = 0 ∨ c.offset + a + b < UInt64.size) := by
  refine ⟨c.forward_slice, ⟨fun h => ?_, fun h n hn => ?_⟩, fun a b => ?_⟩
  · have hsize : 0 < UInt64.size := by decide
    obtain ⟨hlt, -⟩ := forward_eq_ok_iff.1 (h (UInt64.size - 1) (by omega))
    omega
  · rw [c.forward_slice, if_pos (by omega)]
  · rw [c.forward_slice_bind, forward_slice_capped hs, ← Nat.add_assoc]
    by_cases hrow : c.offset + a < UInt64.size ∧
        min (c.offset + a) c.source.size + b < UInt64.size <;>
      by_cases hsum : c.offset = 0 ∨ c.offset + a + b < UInt64.size
    · rw [if_pos hrow, if_pos hsum]
      exact iff_of_true rfl (iff_of_true hrow hsum)
    · rw [if_pos hrow, if_neg hsum]
      exact iff_of_false nofun fun h => hsum (h.1 hrow)
    · rw [if_neg hrow, if_pos hsum]
      exact iff_of_false nofun fun h => hrow (h.2 hsum)
    · rw [if_neg hrow, if_neg hsum]
      exact iff_of_true rfl (iff_of_false hrow hsum)

/-- At the second element of `[1, 2]` a move by any amount up to `2 ^ 64 - 2` stops at the end, and
moves by 1 and by 5 come to the same as one by 6. -/
theorem slice_saturates_second :
    let c : Cursor (slice .integers) := ⟨⟨0, [1, 2]⟩, 1⟩
    c.source.size < UInt64.size ∧ c.forward (UInt64.size - 2) = .ok ⟨c.source, 2⟩ ∧
      (c.forward 1 >>= (·.forward 5)) = c.forward (min (1 + 5) (UInt64.size - 1)) := by
  intro c
  have hs : c.source.size < UInt64.size := by decide
  obtain ⟨hforward, -, hsum⟩ := slice_saturates hs
  refine ⟨hs, ?_, (hsum 1 5).2 (by decide)⟩
  rw [hforward, if_pos (by decide)]
  rfl

/-- Neither law holds of all 64-bit amounts at the second element of `[1, 2]`: a move by
`2 ^ 64 - 1` is a fault, and moves by 2 and by `2 ^ 64 - 3` stop at the end, where one by their sum
is a fault. -/
theorem slice_overflows :
    let s : Source (slice .integers) := ⟨0, [1, 2]⟩
    let c : Cursor (slice .integers) := ⟨s, 1⟩
    s.start.Reaches c ∧ c.forward (UInt64.size - 1) = .error .overflow ∧
      (¬ ∀ n < UInt64.size, c.forward n = .ok ⟨s, min (c.offset + n) s.size⟩) ∧
      ¬ ∀ a < UInt64.size, ∀ b < UInt64.size,
        (c.forward a >>= (·.forward b)) = c.forward (min (a + b) (UInt64.size - 1)) := by
  intro s c
  have hs : c.source.size < UInt64.size := by decide
  have hfault : c.forward (UInt64.size - 1) = .error .overflow := forward_of_overflow (by decide)
  refine ⟨Reaches.refl.forward (n := 1) rfl, hfault, fun h => ?_, fun h => ?_⟩
  · have hlast := h (UInt64.size - 1) (by decide)
    rw [hfault] at hlast
    cases hlast
  · have hsum := h 2 (by decide) (UInt64.size - 3) (by decide)
    rw [c.forward_slice_bind, if_pos (by decide)] at hsum
    rw [forward_slice_capped hs, if_neg (by decide)] at hsum
    cases hsum

end GrammarEngine
