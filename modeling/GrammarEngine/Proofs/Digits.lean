import GrammarEngine.Proofs.Literals

/-!
# Digits read one by one

Three parsers read the digits in front of a cursor: the one of a digit, repeated, which goes from
digit to digit; the one of the text of integers, which follows a pattern; and the one of integers,
which also makes a number of them. They agree. Main statement: `digits_agree`.

1. The parser of a digit yields the digit in front, or fails in place (`digit_endsIn`,
   `digit_fails`). So repeated it yields all the digits in front (`digits_endIn`).
2. These digits are a literal if they do not begin with `0`, and no digit follows them; so it is the
   leading one. If they do, the leading literal is the zero alone.
-/

namespace GrammarEngine.Number

open Outcome Cursor Run Thread

variable {c : Cursor text} {ds rest xs : List Char} (enter : Cell → Cursor text → Run text Value)

/-! ## One digit -/

/-- What the pattern of a digit follows. -/
def digitThreads : List Thread :=
  [[.cat (.look .start) digitRegex], [.look .start, digitRegex], [digitRegex]]

theorem explored_digit (after : Option Char) :
    exploreAll ⟨none, after⟩ [[.cat (.look .start) digitRegex]] = digitThreads := rfl

/-- The matcher finds a digit where one is in front. -/
theorem matchLength_digit (d : Char) (xs : List Char) :
    digitPattern.matchLength (d :: xs) = if d.isDigit then some 1 else none := by
  rw [digitPattern, Pattern.ofRegex_matchLength]
  show walk [[.cat (.look .start) digitRegex]] none 0 none (d :: xs) = _
  rw [walk_cons (explored_digit _) rfl]
  by_cases hd : d.isDigit = true <;>
    simp [digitThreads, unfinished, digitRegex, List.filterMap, advance, mem_asciiDigit, hd,
      walk_finished]

theorem matchLength_digit_eq_none (h : NoDigit xs) : digitPattern.matchLength xs = none := by
  cases xs with
  | nil => rfl
  | cons d xs => rw [matchLength_digit, if_neg (by simp [h d rfl])]

/-- A digit as a value. -/
def digitValue (d : Char) : Value := .int (Int64.ofNat (Decimal.digit d))

theorem digitSum_singleton {d : Char} (hd : d.isDigit = true) :
    digitSum (String.ofList [d]) = Int64.ofNat (Decimal.digit d) := by
  unfold digitSum
  rw [String.toList_ofList, List.filter_cons_of_pos hd, List.filter_nil, List.foldl_cons,
    List.foldl_nil, Nat.zero_add]

/-- In front of a digit it is read. -/
theorem digit_endsIn {d : Char} (hc : c.Before (d :: rest)) (hd : d.isDigit = true) :
    (digit.evalWith enter c).EndsIn (.success (digitValue d) (c.past [d])) := by
  have htext := matching_endsIn enter digitPattern "Digit expected" hc
  rw [matchLength_digit, if_pos hd] at htext
  have hvalue : (digit.evalWith enter c).EndsIn _ := htext.map_success _
  dsimp only [List.take_succ_cons, List.take_zero] at hvalue
  rw [digitSum_singleton hd] at hvalue
  exact hvalue

/-- Where no digit is in front, its parser fails in place. -/
theorem digit_fails (hc : c.Before xs) (h : NoDigit xs) :
    (digit.evalWith enter c).EndsIn (.failure ⟨"Digit expected", c⟩) := by
  have htext := matching_endsIn enter digitPattern "Digit expected" hc
  simp only [matchLength_digit_eq_none h] at htext
  exact htext.after_failure (endsIn_done _)

/-! ## All digits -/

/-- **One by one the digits in front are read,** up to what is no digit. -/
theorem digits_repeated (hc : c.Before (ds ++ rest)) (hds : ∀ d ∈ ds, d.isDigit = true)
    (hrest : NoDigit rest) {bound : Nat} (hb : ds.length < bound) :
    (repeated (digit.evalWith enter) bound c).EndsIn
      (.success (ds.map digitValue) (c.past ds)) := by
  induction ds generalizing c bound with
  | nil =>
    obtain ⟨bound, rfl⟩ := Nat.exists_eq_add_of_lt hb
    exact (digit_fails enter hc hrest).after_failure (endsIn_done _)
  | cons d ds ih =>
    obtain ⟨bound, rfl⟩ := Nat.exists_eq_add_of_lt hb
    obtain ⟨hd, hds⟩ := List.forall_mem_cons.1 hds
    have hmoves : (c.past [d]).offset ≠ c.offset := by
      have := d.utf8Size_pos
      show c.offset + (d.utf8Size + 0) ≠ c.offset
      omega
    have hlong : ds.length < (d :: ds).length + bound := by
      rw [List.length_cons]
      omega
    have hround := ih hc.past_cons hds hlong
    refine (digit_endsIn enter hc hd).after_success ?_
    rw [if_neg hmoves, ← List.singleton_append, past_append]
    exact hround.map_success _

theorem digits_endIn (hc : c.Before (ds ++ rest)) (hds : ∀ d ∈ ds, d.isDigit = true)
    (hrest : NoDigit rest) :
    ((Parser.many digit).evalWith enter c).EndsIn
      (.success (.list (ds.map digitValue)) (c.past ds)) := by
  have hlength := hc.length_le
  rw [List.length_append] at hlength
  exact (digits_repeated enter hc hds hrest (by omega)).map_success _

theorem noDigit_dropWhile (xs : List Char) : NoDigit (xs.dropWhile Char.isDigit) := by
  intro d hd
  have h := List.head?_dropWhile_not Char.isDigit xs
  rw [Option.mem_def.1 hd] at h
  simpa using h

/-! ## The parsers agree -/

/-- **Digits and integers agree.** At every cursor of a text that 64-bit numbers can measure, let
`ds` be all the ASCII digits in front, and `n` the number that their values write in base ten. The
parser of a digit, repeated, yields just these values, in order, and ends behind them. If they do
not begin with `0`, and there are any, the parser of the text of integers takes the same text, and
the parser of integers yields `n` at the same cursor if that is a number of 64 bits, and fails there
if not. If they begin with `0`, the parser of integers yields 0 behind the one byte of the zero. -/
theorem digits_agree {s : Source text} (hs : s.size < UInt64.size) {c : Cursor text}
    (hc : s.start.Reaches c) :
    let ds := c.remaining.takeWhile Char.isDigit
    let n : Nat := Nat.ofDigits 10 (ds.map Decimal.digit).reverse
    ((Parser.many digit).evalWith enter c).EndsIn
        (.success (.list (ds.map digitValue)) (c.past ds)) ∧
      (c.past ds).remaining = c.remaining.dropWhile Char.isDigit ∧
      (∀ d ∈ ds.head?, d ≠ '0' →
        (integerText.evalWith enter c).EndsIn (.success (.str (String.ofList ds)) (c.past ds)) ∧
          (n ≤ 2 ^ 63 - 1 → ∃ w : Int64, w.toInt = n ∧
            (integer.evalWith enter c).EndsIn (.success (.int w) (c.past ds))) ∧
          (2 ^ 63 - 1 < n →
            (integer.evalWith enter c).EndsIn (.failure ⟨"Integer out of range", c.past ds⟩))) ∧
      (ds.head? = some '0' →
        (integerText.evalWith enter c).EndsIn (.success (.str "0") ⟨c.source, c.offset + 1⟩) ∧
          (integer.evalWith enter c).EndsIn (.success (.int 0) ⟨c.source, c.offset + 1⟩)) := by
  intro ds n
  have hbefore := before_of_reaches hs hc
  have hsplit : ds ++ c.remaining.dropWhile Char.isDigit = c.remaining :=
    List.takeWhile_append_dropWhile
  have hds : ∀ d ∈ ds, d.isDigit = true := List.all_eq_true.1 List.all_takeWhile
  have hrest := noDigit_dropWhile c.remaining
  have hfront : c.Before (ds ++ c.remaining.dropWhile Char.isDigit) := by rwa [hsplit]
  refine ⟨digits_endIn enter hfront hds hrest, hfront.past.remaining, fun d hd h0 => ?_,
    fun h0 => ?_⟩
  · obtain ⟨ds', hds'⟩ := List.head?_eq_some_iff.1 hd
    have hnatural : Natural ds := by
      rw [hds'] at hds ⊢
      exact .positive (hds d List.mem_cons_self) h0 fun e he => hds e (List.mem_cons_of_mem d he)
    let l : Literal := ⟨.none, ds, hnatural⟩
    have hvalue : l.value = n := by
      show ((Nat.ofDigits 10 (ds.reverse.map Decimal.digit) : Nat) : Int) = n
      rw [List.map_reverse]
    have hlead := l.leading_append (Or.inr hrest)
    obtain ⟨htext, hinteger⟩ := integer_endsIn_leading enter hfront hlead
    refine ⟨htext, fun hin => ?_, fun hout => ?_⟩
    · rcases hw : Decimal.word? l.value with _ | w
      · rw [word?_eq_none_iff, hvalue] at hw
        omega
      · rw [hw] at hinteger
        exact ⟨w, (word?_eq_some_iff.1 hw).trans hvalue, hinteger⟩
    · have hw : Decimal.word? l.value = none := by
        rw [word?_eq_none_iff, hvalue]
        omega
      rw [hw] at hinteger
      exact hinteger
  · obtain ⟨ds', hds'⟩ := List.head?_eq_some_iff.1 h0
    let zero : Literal := ⟨.none, ['0'], .zero⟩
    have hzero : c.Before (zero.text ++ (ds' ++ c.remaining.dropWhile Char.isDigit)) := by
      rw [hds'] at hfront
      exact hfront
    exact integer_endsIn_leading enter hzero (zero.leading_append (Or.inl rfl))

/-- Digits behind a letter of two bytes, up to one that is not ASCII, and digits behind a zero. -/
theorem digits_agree_after_accent :
    let s : Source text := ⟨0, ['é', '4', '2', '٣', '0', '7']⟩
    let enter : Cell → Cursor text → Run text Value := fun _ _ => .endless
    s.size < UInt64.size ∧ s.start.Reaches ⟨s, 2⟩ ∧ s.start.Reaches ⟨s, 6⟩ ∧
      ((Parser.many digit).evalWith enter ⟨s, 2⟩).EndsIn
        (.success (.list [.int 4, .int 2]) ⟨s, 4⟩) ∧
      (∃ w : Int64, w.toInt = 42 ∧
        (integer.evalWith enter ⟨s, 2⟩).EndsIn (.success (.int w) ⟨s, 4⟩)) ∧
      ((Parser.many digit).evalWith enter ⟨s, 6⟩).EndsIn
        (.success (.list [.int 0, .int 7]) ⟨s, 8⟩) ∧
      (integer.evalWith enter ⟨s, 6⟩).EndsIn (.success (.int 0) ⟨s, 7⟩) := by
  intro s enter
  have hs : s.size < UInt64.size := by decide
  have hc : s.start.Reaches ⟨s, 2⟩ := Reaches.refl.forward (n := 2) rfl
  have hd : s.start.Reaches ⟨s, 6⟩ := hc.forward (n := 4) rfl
  obtain ⟨hdigits, -, hpositive, -⟩ := digits_agree enter hs hc
  obtain ⟨hdigits', -, -, hzero⟩ := digits_agree enter hs hd
  obtain ⟨-, hinteger, -⟩ := hpositive '4' rfl (by decide)
  exact ⟨hs, hc, hd, hdigits, hinteger (by decide), hdigits', (hzero rfl).2⟩

end GrammarEngine.Number
