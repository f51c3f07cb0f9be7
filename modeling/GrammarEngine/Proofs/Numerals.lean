import GrammarEngine.Parser.Number
import GrammarEngine.Proofs.Search

/-!
# What the number patterns match

The patterns of the number parsers are made of three parts: a sign, a natural number without a
leading zero, and a fraction. Each part is described by the characters between the ends of its
spans, and from these descriptions follows what a number parser needs of its text: it is not empty,
and a decimal fraction can be read as a number (`binary64?_isSome`), however long it is.
-/

namespace GrammarEngine

/-! ## The characters of a span -/

/-- The characters from place `i` to place `j`. -/
def segment (text : List Char) (i j : Nat) : List Char := (text.drop i).take (j - i)

variable {text : List Char} {i j k : Nat}

@[simp] theorem segment_self : segment text i i = [] := by unfold segment; simp

theorem segment_zero : segment text 0 j = text.take j := rfl

theorem segment_append (hij : i ≤ j) (hjk : j ≤ k) :
    segment text i k = segment text i j ++ segment text j k := by
  unfold segment
  have h : text.drop j = (text.drop i).drop (j - i) := by
    rw [List.drop_drop, Nat.add_sub_cancel' hij]
  rw [h, show k - i = (j - i) + (k - j) by omega, List.take_add]

theorem segment_succ {c : Char} (h : text[i]? = some c) : segment text i (i + 1) = [c] := by
  unfold segment
  rw [Nat.add_sub_cancel_left, List.take_one, List.head?_drop, h]
  rfl

namespace Regex

/-- A set spans one of its characters. -/
theorem Spans.segment_set {s : CharSet} (h : (Regex.set s).Spans text i j) :
    ∃ c, segment text i j = [c] ∧ s.mem c = true := by
  cases h with
  | set hc hs => exact ⟨_, segment_succ hc, hs⟩

/-- Rounds of a set span characters of the set. -/
theorem Spans.mem_of_star {s : CharSet} {greedy : Bool}
    (h : (Regex.star greedy (.set s)).Spans text i j) :
    ∀ c ∈ segment text i j, s.mem c = true := by
  generalize hr : Regex.star greedy (.set s) = r at h
  induction h with
  | stop => simp
  | round hx hs _ ih =>
    cases hr
    obtain ⟨d, hd, hm⟩ := hx.segment_set
    intro c hc
    rw [segment_append hx.le hs.le, hd] at hc
    rcases List.mem_cons.1 hc with rfl | hc
    · exact hm
    · exact ih rfl c hc
  | _ => cases hr

end Regex

/-! ## Parts of numbers -/

namespace Number

open Regex

theorem mem_asciiDigit {c : Char} : CharSet.asciiDigit.mem c = c.isDigit := by
  rfl

theorem eq_of_mem_single {c d : Char} (h : (CharSet.single d).mem c = true) : c = d := by
  unfold CharSet.single CharSet.mem at h
  rw [Bool.and_eq_true, decide_eq_true_eq, decide_eq_true_eq] at h
  exact Char.toNat_inj.1 (Nat.le_antisymm h.2 h.1)

theorem sign_segment (h : signRegex.Spans text i j) :
    segment text i j = [] ∨ segment text i j = ['+'] ∨ segment text i j = ['-'] := by
  cases h with
  | left _ h =>
    obtain ⟨c, hc, hm⟩ := h.segment_set
    rcases Bool.or_eq_true_iff.1 hm with hm | hm
    · exact Or.inr (Or.inl (by rw [hc, eq_of_mem_single hm]))
    · exact Or.inr (Or.inr (by rw [hc, eq_of_mem_single hm]))
  | right _ h =>
    cases h
    exact Or.inl segment_self

/-- Digits and nothing else, and at least one. -/
def Digits (ds : List Char) : Prop := ds ≠ [] ∧ ∀ c ∈ ds, c.isDigit = true

theorem digits_cons {c : Char} {ds : List Char} (hc : c.isDigit = true)
    (hds : ∀ d ∈ ds, d.isDigit = true) : Digits (c :: ds) :=
  ⟨List.cons_ne_nil c ds, List.forall_mem_cons.2 ⟨hc, hds⟩⟩

theorem isDigit_of_mem_range {c : Char} (h : (CharSet.range '1' '9').mem c = true) :
    c.isDigit = true := by
  rw [← mem_asciiDigit]
  unfold CharSet.asciiDigit
  unfold CharSet.mem at h ⊢
  rw [Bool.and_eq_true, decide_eq_true_eq, decide_eq_true_eq] at h ⊢
  exact ⟨Nat.le_trans (by decide) h.1, h.2⟩

theorem natural_segment (h : naturalRegex.Spans text i j) : Digits (segment text i j) := by
  cases h with
  | left _ h =>
    obtain ⟨c, hc, hm⟩ := h.segment_set
    rw [hc, eq_of_mem_single hm]
    exact digits_cons (by decide) (by simp)
  | right _ h =>
    cases h with
    | cat ha hb =>
      obtain ⟨c, hc, hm⟩ := ha.segment_set
      rw [segment_append ha.le hb.le, hc]
      exact digits_cons (isDigit_of_mem_range hm) hb.mem_of_star

theorem fraction_segment (h : fractionRegex.Spans text i j) :
    segment text i j = [] ∨ ∃ ds, segment text i j = '.' :: ds ∧ Digits ds := by
  cases h with
  | left _ h =>
    cases h with
    | cat ha hb =>
      obtain ⟨c, hc, hm⟩ := ha.segment_set
      refine Or.inr ⟨_, by rw [segment_append ha.le hb.le, hc, eq_of_mem_single hm]; rfl, ?_⟩
      cases hb with
      | cat hx hs =>
        obtain ⟨d, hd, hm⟩ := hx.segment_set
        rw [segment_append hx.le hs.le, hd]
        exact digits_cons hm hs.mem_of_star
  | right _ h =>
    cases h
    exact Or.inl segment_self

/-! ## Reading a decimal fraction -/

theorem signed_digits {ds rest : List Char} (h : Digits ds) :
    Decimal.signed (ds ++ rest) = (false, ds ++ rest) := by
  obtain ⟨hne, hd⟩ := h
  cases ds with
  | nil => exact absurd rfl hne
  | cons d ds =>
    have hdd := hd d List.mem_cons_self
    unfold Decimal.signed
    split
    next heq => cases heq; cases hdd
    next heq => cases heq; cases hdd
    next => rfl

theorem natural?_digits {ds : List Char} (h : Digits ds) :
    Decimal.natural? ds = some (Decimal.value 0 ds) := by
  unfold Decimal.natural?
  rw [if_neg]
  have he : ds.isEmpty = false := List.isEmpty_eq_false_iff.2 h.1
  have ha : ds.all Char.isDigit = true := List.all_eq_true.2 h.2
  rw [he, ha]
  decide

/-- Digits, and possibly a point and more digits, can be read, whatever the sign before them. -/
theorem binary64?_isSome_of_parts {sign whole fraction : List Char}
    (hs : sign = [] ∨ sign = ['+'] ∨ sign = ['-']) (hw : Digits whole)
    (hf : fraction = [] ∨ ∃ ds, fraction = '.' :: ds ∧ Digits ds) :
    (Decimal.binary64? (sign ++ (whole ++ fraction))).isSome := by
  have hsigned : ∃ negative, Decimal.signed (sign ++ (whole ++ fraction)) =
      (negative, whole ++ fraction) := by
    rcases hs with rfl | rfl | rfl
    · rw [List.nil_append]
      exact ⟨false, signed_digits hw⟩
    · exact ⟨false, rfl⟩
    · exact ⟨true, rfl⟩
  obtain ⟨negative, hsigned⟩ := hsigned
  have htake : (whole ++ fraction).takeWhile Char.isDigit = whole := by
    rw [List.takeWhile_append_of_pos hw.2]
    rcases hf with rfl | ⟨ds, rfl, -⟩ <;> simp [List.takeWhile]
  have hdrop : (whole ++ fraction).dropWhile Char.isDigit = fraction := by
    rw [List.dropWhile_append_of_pos hw.2]
    rcases hf with rfl | ⟨ds, rfl, -⟩ <;> simp [List.dropWhile]
  unfold Decimal.binary64?
  rw [hsigned]
  dsimp only
  rw [htake, hdrop, natural?_digits hw]
  rcases hf with rfl | ⟨ds, rfl, hds⟩
  · rfl
  · simp [natural?_digits hds]

/-- **Every match of the pattern can be read as a number.** -/
theorem binary64?_isSome {n : Nat} (h : floatPattern.matchLength text = some n) :
    (Decimal.binary64? (text.take n)).isSome := by
  unfold floatPattern at h
  rw [Pattern.ofRegex_matchLength] at h
  -- the start of the text, a sign, a natural number and a fraction
  cases matchLength_spans h with
  | cat hlook hrest =>
    cases hlook
    cases hrest with
    | cat hsign hrest =>
      cases hrest with
      | cat hwhole hfraction =>
        rw [← segment_zero, segment_append hsign.le (Nat.le_trans hwhole.le hfraction.le),
          segment_append hwhole.le hfraction.le]
        exact binary64?_isSome_of_parts (sign_segment hsign) (natural_segment hwhole)
          (fraction_segment hfraction)

end Number

end GrammarEngine
