import GrammarEngine.Proofs.Integers

/-!
# Integers are read exactly

Whatever stands in front of a cursor, the parser of integers reads the longest integer literal there
and nothing else. Main statement: `integer_exact`.

1. `Leading` says that a literal is the longest that a text begins with. What `integerLength`
   measures is the leading literal (`leading_of_integerLength`), because no literal in front is
   longer (`Literal.le_integerLength`).
2. In front of the leading literal the outcome of the parser is its number or, out of range, a
   failure after it (`integer_endsIn_leading`).
3. The decimal text of a number is a literal with this value (`exists_decimal`), and it leads if no
   digit follows, or if it is `0` (`Literal.leading_append`).
-/

namespace GrammarEngine

open Outcome Cursor Run

/-! ## Longest texts -/

/-- The text begins with what is written for `b`, and with nothing longer that is written so. -/
structure Leading {β : Type} (write : β → List Char) (xs : List Char) (b : β) : Prop where
  stands : write b <+: xs
  longest : ∀ b', write b' <+: xs → (write b').length ≤ (write b).length

theorem Leading.unique {β : Type} {write : β → List Char} {xs : List Char} {b b' : β}
    (h : Leading write xs b) (h' : Leading write xs b') : write b = write b' := by
  have hlength : (write b).length = (write b').length :=
    Nat.le_antisymm (h'.longest b h.stands) (h.longest b' h'.stands)
  rw [List.prefix_iff_eq_take.1 h.stands, List.prefix_iff_eq_take.1 h'.stands, hlength]

namespace Number

variable {xs : List Char} {n : Nat}

/-! ## Leading literals -/

theorem Natural.le_naturalLength {ds : List Char} (h : Natural ds) (hp : ds <+: xs) :
    ∃ n, naturalLength xs = some n ∧ ds.length ≤ n := by
  obtain ⟨rest, rfl⟩ := hp
  cases h with
  | zero => exact ⟨1, rfl, Nat.le_refl 1⟩
  | @positive d ds hd h0 hds =>
    refine ⟨_, by rw [List.cons_append, naturalLength, if_neg h0, if_pos hd], ?_⟩
    rw [List.takeWhile_append_of_pos hds, List.length_append, List.length_cons]
    omega

/-- No literal in front of a text is longer than what is measured. -/
theorem Literal.le_integerLength (l : Literal) (hp : l.text <+: xs) :
    ∃ n, integerLength xs = some n ∧ l.text.length ≤ n := by
  obtain ⟨rest, rfl⟩ := hp
  obtain ⟨n, hn, hle⟩ := l.natural.le_naturalLength (List.prefix_append l.digits rest)
  have hsigned : ∀ sign, (sign :: l.digits).length ≤ 1 + n := by
    intro sign
    rw [List.length_cons]
    omega
  unfold Literal.text
  rw [List.append_assoc]
  cases l.sign with
  | none => exact ⟨n, (integerLength_natural l.natural rest).trans hn, hle⟩
  | plus => exact ⟨1 + n, congrArg (Option.map (1 + ·)) hn, hsigned '+'⟩
  | minus => exact ⟨1 + n, congrArg (Option.map (1 + ·)) hn, hsigned '-'⟩

/-- **What is measured is the leading literal.** -/
theorem leading_of_integerLength (h : integerLength xs = some n) :
    ∃ l : Literal, xs.take n = l.text ∧ Leading Literal.text xs l := by
  obtain ⟨l, hl⟩ := literal_of_integerLength h
  refine ⟨l, hl, hl ▸ List.take_prefix n xs, fun l' hl' => ?_⟩
  obtain ⟨m, hm, hle⟩ := l'.le_integerLength hl'
  rw [h] at hm
  cases hm
  rw [← hl, List.length_take]
  exact Nat.le_min.2 ⟨hle, hl'.length_le⟩

theorem integerLength_eq_none_iff :
    integerLength xs = none ↔ ∀ l : Literal, ¬ l.text <+: xs := by
  constructor
  · intro h l hl
    obtain ⟨n, hn, -⟩ := l.le_integerLength hl
    rw [h] at hn
    cases hn
  · intro h
    rcases hn : integerLength xs with _ | n
    · rfl
    · obtain ⟨l, -, hl⟩ := leading_of_integerLength hn
      exact (h l hl.stands).elim

/-- Where a literal is in front, one leads. -/
theorem exists_leading_literal {l : Literal} (h : l.text <+: xs) :
    ∃ l : Literal, Leading Literal.text xs l := by
  obtain ⟨n, hn, -⟩ := l.le_integerLength h
  obtain ⟨l', -, hl'⟩ := leading_of_integerLength hn
  exact ⟨l', hl'⟩

theorem integerLength_of_leading {l : Literal} (h : Leading Literal.text xs l) :
    ∃ n, integerLength xs = some n ∧ xs.take n = l.text := by
  obtain ⟨n, hn, -⟩ := l.le_integerLength h.stands
  obtain ⟨l', hl', hlead⟩ := leading_of_integerLength hn
  exact ⟨n, hn, hl'.trans (hlead.unique h)⟩

/-- A literal leads where no digit follows it. Behind a zero there may be digits. -/
theorem Literal.leading_append (l : Literal) {rest : List Char}
    (h : l.digits = ['0'] ∨ NoDigit rest) : Leading Literal.text (l.text ++ rest) l := by
  have hlength : integerLength (l.text ++ rest) = some l.text.length := by
    rcases h with h | h
    · unfold Literal.text
      rw [h]
      cases l.sign <;> rfl
    · exact integerLength_append l h
  obtain ⟨l', hl', hlead⟩ := leading_of_integerLength hlength
  rw [List.take_left] at hl'
  exact ⟨List.prefix_append _ _, hl' ▸ hlead.longest⟩

/-! ## Decimal texts -/

/-- The decimal digits of a positive number do not begin with a zero. -/
theorem toDigits_eq_cons (n : Nat) (hn : 0 < n) :
    ∃ d ds, Nat.toDigits 10 n = d :: ds ∧ d ≠ '0' := by
  induction n using Nat.strongRecOn with
  | ind n ih =>
    by_cases hlt : n < 10
    · refine ⟨n.digitChar, [], Nat.toDigits_of_lt_base hlt, fun h => ?_⟩
      have := Nat.digitChar_eq_zero.1 h
      omega
    · obtain ⟨d, ds, hd, h0⟩ := ih (n / 10) (by omega) (by omega)
      refine ⟨d, ds ++ [(n % 10).digitChar], ?_, h0⟩
      rw [Nat.toDigits_of_base_le (by decide) (by omega), hd, List.cons_append]

theorem natural_toDigits (n : Nat) : Natural (Nat.toDigits 10 n) := by
  rcases Nat.eq_zero_or_pos n with rfl | hn
  · exact .zero
  · obtain ⟨d, ds, hd, h0⟩ := toDigits_eq_cons n hn
    have hdigit : ∀ c ∈ d :: ds, c.isDigit = true := by
      intro c hc
      rw [← hd] at hc
      exact Nat.isDigit_of_mem_toDigits (by decide) (by decide) hc
    rw [hd]
    exact .positive (hdigit d List.mem_cons_self) h0 fun c hc =>
      hdigit c (List.mem_cons_of_mem d hc)

theorem ofDigits_toDigits (n : Nat) :
    Nat.ofDigits 10 ((Nat.toDigits 10 n).reverse.map Decimal.digit) = n := by
  rw [← value_eq_ofDigits]
  exact Nat.ofDigitChars_ten_toDigits

/-- **The decimal text of a number is a literal** that writes it. -/
theorem exists_decimal (n : Int) :
    ∃ l : Literal, l.text = (toString n).toList ∧ l.value = n ∧ (n = 0 → l.digits = ['0']) := by
  rw [Int.toString_eq_repr, Int.repr_eq_if]
  by_cases hn : 0 ≤ n
  · refine ⟨⟨.none, Nat.toDigits 10 n.toNat, natural_toDigits _⟩, ?_, ?_, ?_⟩
    · rw [if_pos hn, Nat.repr_eq_ofList_toDigits, String.toList_ofList]
      rfl
    · show ((Nat.ofDigits 10 _ : Nat) : Int) = n
      rw [ofDigits_toDigits, Int.toNat_of_nonneg hn]
    · rintro rfl
      rfl
  · refine ⟨⟨.minus, Nat.toDigits 10 (-n).toNat, natural_toDigits _⟩, ?_, ?_, fun h => ?_⟩
    · rw [if_neg hn, Nat.repr_eq_ofList_toDigits, String.toList_append, String.toList_ofList,
        String.toList_ofList]
      rfl
    · show -((Nat.ofDigits 10 _ : Nat) : Int) = n
      rw [ofDigits_toDigits, Int.toNat_of_nonneg (by omega), Int.neg_neg]
    · omega

/-! ## The parsers of integers -/

theorem word?_eq_some_iff {n : Int} {w : Int64} : Decimal.word? n = some w ↔ w.toInt = n := by
  unfold Decimal.word?
  rw [Int64.toInt_minValue, Int64.toInt_maxValue]
  constructor
  · intro h
    split at h
    next hn =>
      cases h
      exact Int64.toInt_ofInt_of_le hn.1 (by omega)
    next => cases h
  · rintro rfl
    have hmax := w.toInt_le
    rw [Int64.toInt_maxValue] at hmax
    rw [if_pos ⟨w.le_toInt, hmax⟩, Int64.ofInt_toInt]

theorem word?_eq_none_iff (n : Int) :
    Decimal.word? n = none ↔ ¬ (-2 ^ 63 ≤ n ∧ n ≤ 2 ^ 63 - 1) := by
  unfold Decimal.word?
  rw [Int64.toInt_minValue, Int64.toInt_maxValue]
  split <;> simp_all

variable {c : Cursor text} (enter : Cell → Cursor text → Run text Value)

/-- In front of a leading literal its text is read, and its number if that is one of 64 bits. -/
theorem integer_endsIn_leading (hc : c.Before xs) {l : Literal} (hl : Leading Literal.text xs l) :
    (integerText.evalWith enter c).EndsIn
        (.success (.str (String.ofList l.text)) (c.past l.text)) ∧
      (integer.evalWith enter c).EndsIn
        (match Decimal.word? l.value with
        | none => .failure ⟨"Integer out of range", c.past l.text⟩
        | some w => .success (.int w) (c.past l.text)) := by
  obtain ⟨n, hn, htake⟩ := integerLength_of_leading hl
  have htext := matching_endsIn enter integerPattern "Integer expected" hc
  have hinteger := integer_endsIn enter hc
  unfold integerOutcome Decimal.int64? at hinteger
  rw [matchLength_integer] at htext
  simp only [hn, htake] at htext hinteger
  rw [integer?_literal] at hinteger
  exact ⟨htext, hinteger⟩

/-- Where no literal stands, both parsers fail in place. -/
theorem integer_endsIn_failure (hc : c.Before xs) (h : ∀ l : Literal, ¬ l.text <+: xs) :
    (integerText.evalWith enter c).EndsIn (.failure ⟨"Integer expected", c⟩) ∧
      (integer.evalWith enter c).EndsIn (.failure ⟨"Integer expected", c⟩) := by
  have hn := integerLength_eq_none_iff.2 h
  have htext := matching_endsIn enter integerPattern "Integer expected" hc
  have hinteger := integer_endsIn enter hc
  unfold integerOutcome at hinteger
  rw [matchLength_integer] at htext
  simp only [hn] at htext hinteger
  exact ⟨htext, hinteger⟩

/-- **Integers are read exactly.** At every cursor of a text that 64-bit numbers can measure, the
parser of the text of integers succeeds if and only if a literal `[+-]?(0|[1-9][0-9]*)` is in front,
and then it yields the longest one and ends right behind it. The parser of integers yields its value
there if that is a number of 64 bits, and fails behind the literal if not. Where no literal stands,
both fail in place. So in front of the decimal text of a number, and any text after it that does not
begin with a digit, the number is read and the text after it remains; behind a zero it may be any
text. -/
theorem integer_exact {s : Source text} (hs : s.size < UInt64.size) {c : Cursor text}
    (hc : s.start.Reaches c) :
    ((∃ v d, (integerText.evalWith enter c).EndsIn (.success v d)) ↔
        ∃ l : Literal, l.text <+: c.remaining) ∧
      ((∃ l : Literal, l.text <+: c.remaining) → ∃ l, Leading Literal.text c.remaining l) ∧
      (∀ l, Leading Literal.text c.remaining l →
        (integerText.evalWith enter c).EndsIn
            (.success (.str (String.ofList l.text)) (c.past l.text)) ∧
          c.remaining = l.text ++ (c.past l.text).remaining ∧
          (-2 ^ 63 ≤ l.value ∧ l.value ≤ 2 ^ 63 - 1 → ∃ w : Int64, w.toInt = l.value ∧
            (integer.evalWith enter c).EndsIn (.success (.int w) (c.past l.text))) ∧
          (¬ (-2 ^ 63 ≤ l.value ∧ l.value ≤ 2 ^ 63 - 1) →
            (integer.evalWith enter c).EndsIn
              (.failure ⟨"Integer out of range", c.past l.text⟩))) ∧
      ((∀ l : Literal, ¬ l.text <+: c.remaining) →
        (integerText.evalWith enter c).EndsIn (.failure ⟨"Integer expected", c⟩) ∧
          (integer.evalWith enter c).EndsIn (.failure ⟨"Integer expected", c⟩)) ∧
      ∀ (w : Int64) (rest : List Char), c.remaining = (toString w.toInt).toList ++ rest →
        w = 0 ∨ NoDigit rest →
        (integer.evalWith enter c).EndsIn (.success (.int w) (c.past (toString w.toInt).toList)) ∧
          (c.past (toString w.toInt).toList).remaining = rest := by
  have hbefore := before_of_reaches hs hc
  refine ⟨⟨?_, ?_⟩, ?_, fun l hl => ?_, integer_endsIn_failure enter hbefore,
    fun w rest hr hw => ?_⟩
  · rintro ⟨v, d, hv⟩
    by_contra hno
    have hfail := (integer_endsIn_failure enter hbefore fun l hl => hno ⟨l, hl⟩).1
    cases hv.unique hfail
  · rintro ⟨l, hl⟩
    obtain ⟨l, hl⟩ := exists_leading_literal hl
    exact ⟨_, _, (integer_endsIn_leading enter hbefore hl).1⟩
  · rintro ⟨l, hl⟩
    exact exists_leading_literal hl
  · obtain ⟨htext, hinteger⟩ := integer_endsIn_leading enter hbefore hl
    obtain ⟨rest, hrest⟩ := hl.stands
    refine ⟨htext, ?_, fun hin => ?_, fun hout => ?_⟩
    · rw [← hrest] at hbefore
      rw [hbefore.past.remaining, hrest]
    · rcases hw : Decimal.word? l.value with _ | w
      · exact ((word?_eq_none_iff _).1 hw hin).elim
      · rw [hw] at hinteger
        exact ⟨w, word?_eq_some_iff.1 hw, hinteger⟩
    · rw [(word?_eq_none_iff _).2 hout] at hinteger
      exact hinteger
  · obtain ⟨l, hl, hvalue, hzero⟩ := exists_decimal w.toInt
    rw [← hl] at hr ⊢
    have hlead : Leading Literal.text c.remaining l := by
      rw [hr]
      refine l.leading_append (hw.imp_left fun h => hzero ?_)
      rw [h]
      rfl
    have hinteger := (integer_endsIn_leading enter hbefore hlead).2
    rw [hvalue, word?_eq_some_iff.2 rfl] at hinteger
    rw [hr] at hbefore
    exact ⟨hinteger, hbefore.past.remaining⟩

/-- A number behind a letter of two bytes, and none behind the number. -/
theorem integer_exact_after_accent :
    let s : Source text := ⟨0, ['é', '-', '1', '2', 'x']⟩
    let enter : Cell → Cursor text → Run text Value := fun _ _ => .endless
    s.size < UInt64.size ∧ s.start.Reaches ⟨s, 2⟩ ∧
      (integerText.evalWith enter ⟨s, 2⟩).EndsIn (.success (.str "-12") ⟨s, 5⟩) ∧
      (integer.evalWith enter ⟨s, 2⟩).EndsIn (.success (.int (-12)) ⟨s, 5⟩) ∧
      (integer.evalWith enter ⟨s, 5⟩).EndsIn (.failure ⟨"Integer expected", ⟨s, 5⟩⟩) := by
  intro s enter
  have hs : s.size < UInt64.size := by decide
  have hc : s.start.Reaches ⟨s, 2⟩ := Reaches.refl.forward (n := 2) rfl
  have hd : s.start.Reaches ⟨s, 5⟩ := hc.forward (n := 3) rfl
  have hremaining : (⟨s, 5⟩ : Cursor text).remaining = ['x'] := rfl
  let l : Literal := ⟨.minus, ['1', '2'], .positive rfl (by decide) (by simp)⟩
  have hx : NoDigit ['x'] := by simp [NoDigit]
  have hlead : Leading Literal.text (⟨s, 2⟩ : Cursor text).remaining l :=
    l.leading_append (Or.inr hx)
  obtain ⟨-, -, hleading, -, hdecimal⟩ := integer_exact enter hs hc
  obtain ⟨-, -, -, hnone, -⟩ := integer_exact enter hs hd
  refine ⟨hs, hc, (hleading l hlead).1, (hdecimal (-12) ['x'] rfl (Or.inr hx)).1, (hnone ?_).2⟩
  rw [hremaining, ← integerLength_eq_none_iff]
  rfl

end Number

end GrammarEngine
