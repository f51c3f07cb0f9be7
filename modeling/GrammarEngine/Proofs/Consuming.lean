import GrammarEngine.Media.Slice
import GrammarEngine.Proofs.Motion
import GrammarEngine.Proofs.Numerals

/-!
# Parsers that consume

A parser consumes if its values are at cursors beyond its start. `Parser.Consuming` reads this off
the parser: its terminals take at least one element, of two parsers in sequence one consumes, and of
two alternatives both. `Consuming.beyond` says that such a parser does move on, whatever the cells
do that it enters.

Non-empty literals, the tokens of slices, patterns that do not match the empty text and all parsers
of numbers are consuming.
-/

namespace GrammarEngine

open Outcome Cursor Run

variable {M : Medium} {α β : Type}

/-! ## Cursors beyond a cursor -/

/-- The cursor is reached and lies beyond. -/
def Cursor.Passes (c d : Cursor M) : Prop := c.Reaches d ∧ c.offset < d.offset

namespace Cursor

variable {c d e : Cursor M}

theorem Passes.reaches (h : c.Passes d) (hc : c.Placed) (h' : d.Reaches e) : c.Passes e := by
  obtain ⟨-, -, hd⟩ := h.1.ahead hc
  obtain ⟨-, hle, -⟩ := h'.ahead hd
  exact ⟨h.1.trans h', Nat.lt_of_lt_of_le h.2 hle⟩

theorem Reaches.passes (h : c.Reaches d) (hc : c.Placed) (h' : d.Passes e) : c.Passes e := by
  obtain ⟨-, hle, -⟩ := h.ahead hc
  exact ⟨h.trans h'.1, Nat.lt_of_le_of_lt hle h'.2⟩

/-- To reach a cursor is to stay or to pass. -/
theorem Reaches.eq_or_passes (h : c.Reaches d) (hc : c.Placed) : d = c ∨ c.Passes d := by
  obtain ⟨hs, hle, -⟩ := h.ahead hc
  rcases Nat.eq_or_lt_of_le hle with ho | hlt
  · left
    cases c; cases d
    cases hs; cases ho
    rfl
  · exact Or.inr ⟨h, hlt⟩

theorem Passes.length_lt (h : c.Passes d) (hc : c.Placed) : d.length < c.length := by
  obtain ⟨hs, -, hd⟩ := h.1.ahead hc
  have hlt := h.2
  have hle := hd.offset_le
  unfold length
  rw [← hs]
  omega

end Cursor

/-- A value beyond the cursor, or a failure at a cursor that it reaches. -/
abbrev Outcome.Beyond (c : Cursor M) : Outcome M β → Prop :=
  Meets (fun _ next => c.Passes next) (c.Reaches ·.next)

theorem Run.Ensures.beyond_of_reaches {c d : Cursor M} {run : Run M β} (h : run.Ensures (Beyond d))
    (hc : c.Placed) (hd : c.Reaches d) : run.Ensures (Beyond c) :=
  h.imp fun _ ho => ho.imp (fun _ _ => hd.passes hc) fun _ => hd.trans

/-- **One step beyond is enough.** Of two runs in sequence the first or the second goes beyond its
start. -/
theorem Run.Ensures.andThen_beyond {c : Cursor M} (hc : c.Placed) {run : Run M α}
    {go : α → Cursor M → Run M β}
    (h : run.Ensures (Beyond c) ∧ (∀ v next, (go v next).Ensures (Within next.Reaches)) ∨
      run.Ensures (Within c.Reaches) ∧ ∀ v next, next.Placed → (go v next).Ensures (Beyond next)) :
    (run.andThen go).Ensures (Beyond c) := by
  rcases h with ⟨hrun, hgo⟩ | ⟨hrun, hgo⟩
  · refine hrun.handle (fun v next hn => ?_) (fun e he => ensures_failure he) fun _ => trivial
    exact (hgo v next).imp fun o ho => ho.imp (fun _ _ => hn.reaches hc) fun _ => hn.1.trans
  · refine hrun.handle (fun v next hn => ?_) (fun e he => ensures_failure he) fun _ => trivial
    obtain ⟨-, -, hp⟩ := hn.ahead hc
    exact (hgo v next hp).beyond_of_reaches hc hn

/-! ## Consuming parsers -/

/-- The terminal takes at least one element. -/
def Medium.Consumes (M : Medium) (t : M.Terminal) : Prop :=
  ∀ rest v n, M.recognise t rest = some (v, n) → rest.take n ≠ []

theorem Cursor.accept_beyond {c : Cursor M} (hc : c.Placed) {t : M.Terminal} (ht : M.Consumes t) :
    (c.accept t).Beyond c := by
  rw [accept_eq]
  split
  next v n h =>
    rcases hf : c.forward (Units.size M.width (c.remaining.take n)) with f | d
    · trivial
    · obtain ⟨hd, -⟩ := forward_eq_ok hf
      refine ⟨Reaches.refl.forward hf, ?_⟩
      have hpos : Units.size M.width (c.remaining.take n) ≠ 0 :=
        fun h0 => ht _ v n h (Units.eq_nil_of_size M.width_pos h0)
      have hsize : Units.size M.width (c.remaining.take n) +
          Units.size M.width (c.remaining.drop n) = Units.size M.width c.remaining := by
        rw [← Units.size_append, List.take_append_drop]
      have := hc.size_remaining
      rw [hd]
      show c.offset < min _ _
      omega
  next => exact Reaches.refl

namespace Parser

/-- Every value of the parser is beyond its start, as its terminals show. -/
def Consuming : Parser M → Prop
  | fail _ => True
  | terminal t => M.Consumes t
  | map p _ | wrapped p | whole p => p.Consuming
  | tryMap p f => p.Consuming ∨ ∀ v next, (f v next).Consuming
  | tryRecover p f => p.Consuming ∧ ∀ e, (f e).Consuming
  | both p q | first p q | second p q => p.Consuming ∨ q.Consuming
  | choice p q | tagged p q => p.Consuming ∧ q.Consuming
  | succeed _ | advance _ | recover _ _ | many _ | cell _ => False

/-- **A consuming parser moves on.** -/
theorem Consuming.beyond {enter : Cell → Cursor M → Run M Value}
    (henter : ∀ k d, (enter k d).Ensures (Within d.Reaches)) {p : Parser M} (hp : p.Consuming)
    {c : Cursor M} (hc : c.Placed) : (p.evalWith enter c).Ensures (Beyond c) := by
  have reaches : ∀ (p : Parser M) (c : Cursor M), (p.evalWith enter c).Ensures (Within c.Reaches) :=
    fun p c => p.evalWith_reaches henter c
  induction p generalizing c with
  | fail message => exact ensures_failure .refl
  | terminal t => exact ensures_done (accept_beyond hc hp)
  | map p f ih => exact (ih hp hc).map f
  | tryMap p f ih ihf =>
    refine Ensures.andThen_beyond hc ?_
    rcases hp with hp | hf
    · exact Or.inl ⟨ih hp hc, fun v next => reaches (f v next) next⟩
    · exact Or.inr ⟨reaches p c, fun v next hn => ihf v next (hf v next) hn⟩
  | tryRecover p f ih ihf =>
    refine (ih hp.1 hc).handle (fun _ _ hn => ensures_success hn) (fun e he => ?_) fun _ => trivial
    obtain ⟨-, -, hn⟩ := he.ahead hc
    exact (ihf e (hp.2 e) hn).beyond_of_reaches hc he
  | both p q ihp ihq =>
    refine Ensures.andThen_beyond hc ?_
    rcases hp with hp | hq
    · exact Or.inl ⟨ihp hp hc, fun _ next => (reaches q next).map _⟩
    · exact Or.inr ⟨reaches p c, fun _ next hn => (ihq hq hn).map _⟩
  | first p q ihp ihq =>
    refine Ensures.andThen_beyond hc ?_
    rcases hp with hp | hq
    · exact Or.inl ⟨ihp hp hc, fun _ next => (reaches q next).map _⟩
    · exact Or.inr ⟨reaches p c, fun _ next hn => (ihq hq hn).map _⟩
  | second p q ihp ihq =>
    refine Ensures.andThen_beyond hc ?_
    rcases hp with hp | hq
    · exact Or.inl ⟨ihp hp hc, fun _ next => reaches q next⟩
    · exact Or.inr ⟨reaches p c, fun _ next hn => ihq hq hn⟩
  | choice p q ihp ihq =>
    refine (ihp hp.1 hc).handle (fun _ _ hn => ensures_success hn) (fun e he => ?_) fun _ => trivial
    obtain ⟨-, -, hn⟩ := he.ahead hc
    exact ((ihq hp.2 hn).beyond_of_reaches hc he).noting _
  | tagged p q ihp ihq =>
    refine (ihp hp.1 hc).handle (fun _ _ hn => ensures_success hn) (fun e he => ?_) fun _ => trivial
    obtain ⟨-, -, hn⟩ := he.ahead hc
    exact (((ihq hp.2 hn).beyond_of_reaches hc he).map _).noting _
  | wrapped p ih => exact ih hp hc
  | whole p ih => exact (ih hp hc).toEnd fun _ _ h => h.1
  | succeed _ | advance _ | recover _ _ _ | many _ _ | cell _ => exact hp.elim

end Parser

/-! ## Terminals and numbers -/

theorem consumes_literal {s : String} (hs : s ≠ "") : text.Consumes (.literal s) := by
  intro rest v n h
  change (if s.toList.isPrefixOf rest then some (Value.str s, s.toList.length) else none) = _ at h
  by_cases hp : s.toList.isPrefixOf rest = true
  · rw [if_pos hp] at h
    cases h
    rw [List.isPrefixOf_iff_prefix] at hp
    rw [← List.prefix_iff_eq_take.1 hp]
    exact fun h0 => hs (String.toList_eq_nil_iff.1 h0)
  · rw [if_neg hp] at h
    cases h

theorem consumes_pattern {s : String} {r : Regex} (hr : r.nullable = false) :
    text.Consumes (.pattern (.ofRegex s r)) := by
  intro rest v n h
  obtain ⟨m, hm, h'⟩ := Option.map_eq_some_iff.1 h
  cases h'
  rw [Pattern.ofRegex_matchLength] at hm
  have hspan := Regex.matchLength_spans hm
  have hpos := hspan.lt hr
  have hle := hspan.le_length (Nat.zero_le _)
  intro h0
  have hlen := congrArg List.length h0
  rw [List.length_take] at hlen
  simp only [List.length_nil] at hlen
  omega

/-- Every terminal of slices takes an element. -/
theorem consumes_slice {K : ElemKind} (t : SliceTerminal K) : (slice K).Consumes t := by
  intro rest v n h
  cases rest with
  | nil => cases h
  | cons x xs =>
    obtain ⟨w, -, h'⟩ := Option.map_eq_some_iff.1 h
    cases h'
    exact List.cons_ne_nil x []

namespace Number

theorem consuming_matching {s : String} {r : Regex} (hr : r.nullable = false) (message : String) :
    (matching (.ofRegex s r) message).Consuming := ⟨consumes_pattern hr, trivial⟩

/-- Digits, integers and decimal fractions consume, as texts and as numbers. -/
theorem consuming_numbers :
    ∀ p ∈ [digitText, digit, integerText, integer, floatText, float], p.Consuming := by
  have hd : digitText.Consuming := consuming_matching (by rfl) _
  have hi : integerText.Consuming := consuming_matching (by rfl) _
  have hf : floatText.Consuming := consuming_matching (by rfl) _
  simp only [List.forall_mem_cons, List.not_mem_nil, false_imp_iff, implies_true, and_true]
  exact ⟨hd, hd, hi, Or.inl hi, hf, Or.inl hf⟩

end Number

end GrammarEngine
