import GrammarEngine.Proofs.Literals

/-!
# Decimal fractions are read exactly

A numeral is an integer literal, and possibly a point with digits after it. The parser of decimal
fractions reads the longest numeral in front of its cursor, and what it has read can always be made
a number. Main statement: `float_exact`.

1. The matcher takes a point only together with a digit after it: what it finds of a fraction is
   measured by `fractionLength`, behind one natural number (`walk_decimal`). So behind a sign it
   finds the integer and then the fraction (`matchLength_float`).
2. A numeral in front of a text is no longer than this: where it has a point, its literal is all of
   the integer in front (`Numeral.length_le`).
-/

namespace GrammarEngine

open Outcome Cursor Run

namespace Number

open Thread

variable {xs : List Char} {n : Nat}

/-! ## Walks over fractions -/

/-- The number of characters of the fraction in front of a text, which may be none. -/
def fractionLength : List Char → Nat
  | c :: d :: ds => if c = '.' ∧ d.isDigit = true then 2 + (ds.takeWhile Char.isDigit).length else 0
  | _ => 0

/-- The number of characters of the natural number and the fraction in front of a text. -/
def decimalLength (text : List Char) : Option Nat :=
  (naturalLength text).map fun n => n + fractionLength (text.drop n)

theorem fractionLength_of_ne {c : Char} (hc : c ≠ '.') (text : List Char) :
    fractionLength (c :: text) = 0 := by
  cases text with
  | nil => rfl
  | cons d ds => rw [fractionLength, if_neg fun h => hc h.1]

theorem walk_digits (before : Option Char) (n : Nat) (best : Option Nat) (text : List Char) :
    walk [[.star true digitRegex]] before n best text =
      some (n + (text.takeWhile Char.isDigit).length) :=
  walk_star_set .asciiDigit before n best text

/-- What a digit and more digits follow. -/
def plusThreads : List Thread := [[.plus true digitRegex], [digitRegex, .star true digitRegex]]

/-- What a fraction follows: a point and digits, or nothing. -/
def fractionThreads : List Thread :=
  [[fractionRegex], [.cat (.set (.single '.')) (.plus true digitRegex)],
    [.set (.single '.'), .plus true digitRegex], [.empty], []]

/-- What more digits and a fraction follow. -/
def digitsThreads : List Thread :=
  [.star true digitRegex, fractionRegex] :: [digitRegex, .star true digitRegex, fractionRegex] ::
    fractionThreads

/-- What a natural number and a fraction follow. -/
def decimalThreads : List Thread :=
  [[.cat naturalRegex fractionRegex], [naturalRegex, fractionRegex],
    [.set (.single '0'), fractionRegex],
    [.cat (.set (.range '1' '9')) (.star true digitRegex), fractionRegex],
    [.set (.range '1' '9'), .star true digitRegex, fractionRegex]]

theorem explored_decimal (here : Place) :
    exploreAll here [[.cat naturalRegex fractionRegex]] = decimalThreads := rfl

theorem explored_plus (here : Place) : exploreAll here [[.plus true digitRegex]] = plusThreads :=
  rfl

theorem explored_fraction (here : Place) : exploreAll here [[fractionRegex]] = fractionThreads :=
  rfl

theorem explored_digits (here : Place) :
    exploreAll here [[.star true digitRegex, fractionRegex]] = digitsThreads := rfl

theorem advance_plus (c : Char) : (unfinished plusThreads).filterMap (advance c) =
    if c.isDigit then [[.star true digitRegex]] else [] := by
  by_cases hc : c.isDigit = true <;>
    simp [plusThreads, unfinished, Regex.plus, digitRegex, List.filterMap, advance, mem_asciiDigit,
      hc]

/-- Of the fraction only a point goes on. -/
theorem advance_fraction (c : Char) : (unfinished fractionThreads).filterMap (advance c) =
    if c = '.' then [[.plus true digitRegex]] else [] := by
  by_cases hc : c = '.' <;>
    simp [fractionThreads, unfinished, fractionRegex, Regex.opt, List.filterMap, advance,
      mem_single, hc]

/-- Behind a point there must be a digit, or the match ends before the point. -/
theorem walk_point (n : Nat) (text : List Char) :
    walk [[.plus true digitRegex]] (some '.') (n + 1) (some n) text =
      some (n + fractionLength ('.' :: text)) := by
  cases text with
  | nil => rfl
  | cons d ds =>
    rw [walk_cons (explored_plus _) (advance_plus d), fractionLength]
    by_cases hd : d.isDigit = true
    · rw [if_pos hd, if_neg (by simp), walk_digits, if_pos ⟨rfl, hd⟩]
      congr 1
      omega
    · simp [hd, plusThreads]

/-- Where only a point goes on, what follows matches as a fraction. -/
theorem walk_of_point {ts live : List Thread} {before : Option Char} {c : Char}
    (hlive : exploreAll ⟨before, some c⟩ ts = live) (hmem : [] ∈ live)
    (hnext : (unfinished live).filterMap (advance c) =
      if c = '.' then [[.plus true digitRegex]] else [])
    (n : Nat) (best : Option Nat) (cs : List Char) :
    walk ts before n best (c :: cs) = some (n + fractionLength (c :: cs)) := by
  rw [walk_cons hlive hnext, if_pos hmem]
  by_cases hc : c = '.'
  · subst hc
    exact walk_point n cs
  · rw [if_neg hc, if_pos rfl, fractionLength_of_ne hc]
    rfl

theorem walk_fraction (before : Option Char) (n : Nat) (best : Option Nat) (text : List Char) :
    walk [[fractionRegex]] before n best text = some (n + fractionLength text) := by
  cases text with
  | nil => rfl
  | cons c cs =>
    exact walk_of_point (explored_fraction _) (by decide) (advance_fraction c) n best cs

/-- Digits and then a fraction. -/
theorem walk_digits_fraction (before : Option Char) (n : Nat) (best : Option Nat)
    (text : List Char) :
    walk [[.star true digitRegex, fractionRegex]] before n best text =
      some (n + (text.takeWhile Char.isDigit).length +
        fractionLength (text.drop (text.takeWhile Char.isDigit).length)) := by
  induction text generalizing before n best with
  | nil => rfl
  | cons c cs ih =>
    have hnext : (unfinished digitsThreads).filterMap (advance c) =
        ([digitRegex, .star true digitRegex, fractionRegex] :: unfinished fractionThreads).filterMap
          (advance c) := rfl
    by_cases hd : c.isDigit = true
    · -- another digit, which is no point
      have hc : c ≠ '.' := by
        rintro rfl
        cases hd
      have hround : advance c [digitRegex, .star true digitRegex, fractionRegex] =
          some [.star true digitRegex, fractionRegex] := if_pos hd
      rw [List.filterMap_cons_some hround, advance_fraction, if_neg hc] at hnext
      rw [walk_cons (explored_digits _) hnext, if_neg (by simp), ih, List.takeWhile_cons_of_pos hd,
        List.length_cons, List.drop_succ_cons]
      congr 2
      omega
    · have hround : advance c [digitRegex, .star true digitRegex, fractionRegex] = none := if_neg hd
      rw [List.filterMap_cons_none hround, advance_fraction] at hnext
      rw [List.takeWhile_cons_of_neg hd]
      exact walk_of_point (explored_digits _) (by decide) hnext n best cs

/-- **A natural number and then a fraction.** -/
theorem walk_decimal (before : Option Char) (n : Nat) (text : List Char) :
    walk [[.cat naturalRegex fractionRegex]] before n none text =
      (decimalLength text).map (n + ·) := by
  cases text with
  | nil => rfl
  | cons c cs =>
    unfold decimalLength naturalLength
    by_cases h0 : c = '0'
    · subst h0
      have hnext : (unfinished decimalThreads).filterMap (advance '0') = [[fractionRegex]] := rfl
      rw [walk_cons (explored_decimal _) hnext]
      simp [walk_fraction, Nat.add_assoc, decimalThreads]
    · rw [walk_cons (explored_decimal _) rfl]
      by_cases hd : c.isDigit = true
      · simp [decimalThreads, unfinished, List.filterMap, naturalRegex, advance, mem_nonzero,
          mem_single, h0, hd, walk_digits_fraction, Nat.add_assoc, Nat.add_comm 1]
      · simp [decimalThreads, unfinished, List.filterMap, naturalRegex, advance, mem_nonzero,
          mem_single, h0, hd]

/-- **The matcher finds the integer in front of a text and the fraction behind it.** -/
theorem matchLength_float (text : List Char) :
    floatPattern.matchLength text =
      (integerLength text).map fun n => n + fractionLength (text.drop n) := by
  have hmatch : floatPattern.matchLength text = signedLength decimalLength text := by
    rw [floatPattern, Pattern.ofRegex_matchLength]
    refine walk_signed walk_decimal (fun _ => rfl) (fun after c hc => ?_) text
    rw [explored_decimal]
    rcases hc with rfl | rfl <;> exact ⟨by decide, rfl⟩
  rw [hmatch, integerLength_eq]
  cases text with
  | nil => rfl
  | cons c cs =>
    rw [signedLength, signedLength]
    by_cases hc : c = '+' ∨ c = '-'
    · rw [if_pos hc, if_pos hc]
      simp [decimalLength, Function.comp_def, Nat.add_comm 1, Nat.add_right_comm]
    · rw [if_neg hc, if_neg hc]
      rfl

/-! ## Numerals -/

/-- The text begins with a point and a digit. -/
def PointDigit (xs : List Char) : Prop := ∃ d rest, xs = '.' :: d :: rest ∧ d.isDigit = true

/-- A point and digits, or nothing. -/
inductive Fraction : List Char → Prop
  | absent : Fraction []
  | digits {d : Char} {ds : List Char} (hd : d.isDigit = true) (hds : ∀ c ∈ ds, c.isDigit = true) :
    Fraction ('.' :: d :: ds)

/-- A decimal fraction: `[+-]?(0|[1-9][0-9]*)(\.[0-9]+)?`. -/
structure Numeral where
  literal : Literal
  fraction : List Char
  point : Fraction fraction

def Numeral.text (x : Numeral) : List Char := x.literal.text ++ x.fraction

theorem fractionLength_of_pointDigit {d : Char} {rest : List Char} (hd : d.isDigit = true) :
    fractionLength ('.' :: d :: rest) = 2 + (rest.takeWhile Char.isDigit).length :=
  if_pos ⟨rfl, hd⟩

theorem fractionLength_eq_zero (h : ¬ PointDigit xs) : fractionLength xs = 0 := by
  unfold fractionLength
  split
  next c d ds =>
    refine if_neg ?_
    rintro ⟨rfl, hd⟩
    exact h ⟨d, ds, rfl, hd⟩
  next => rfl

theorem fractionLength_eq_zero_iff : fractionLength xs = 0 ↔ ¬ PointDigit xs := by
  refine ⟨?_, fractionLength_eq_zero⟩
  rintro h ⟨d, rest, rfl, hd⟩
  rw [fractionLength_of_pointDigit hd] at h
  omega

/-- What is measured as a fraction is one. -/
theorem fraction_of_fractionLength (xs : List Char) : Fraction (xs.take (fractionLength xs)) := by
  by_cases h : PointDigit xs
  · obtain ⟨d, rest, rfl, hd⟩ := h
    rw [fractionLength_of_pointDigit hd, Nat.add_comm, List.take_succ_cons, List.take_succ_cons,
      ← List.prefix_iff_eq_take.1 (List.takeWhile_prefix _)]
    exact .digits hd (List.all_eq_true.1 List.all_takeWhile)
  · rw [fractionLength_eq_zero h]
    exact .absent

theorem Fraction.le_fractionLength {ds : List Char} (h : Fraction ds) (rest : List Char) :
    ds.length ≤ fractionLength (ds ++ rest) := by
  cases h with
  | absent => exact Nat.zero_le _
  | @digits d ds hd hds =>
    rw [List.cons_append, List.cons_append, fractionLength_of_pointDigit hd,
      List.takeWhile_append_of_pos hds, List.length_append, List.length_cons, List.length_cons]
    omega

/-- No numeral in front of a text is longer than the integer and the fraction measured there. -/
theorem Numeral.length_le (x : Numeral) (hp : x.text <+: xs) :
    ∃ n, integerLength xs = some n ∧ x.text.length ≤ n + fractionLength (xs.drop n) := by
  obtain ⟨rest, rfl⟩ := hp
  unfold Numeral.text
  rw [List.append_assoc, List.length_append]
  rcases hf : x.fraction with _ | ⟨c, ds⟩
  · obtain ⟨n, hn, hle⟩ := x.literal.le_integerLength (List.prefix_append _ ([] ++ rest))
    exact ⟨n, hn, Nat.le_trans hle (Nat.le_add_right _ _)⟩
  · -- the point is no digit, so the integer ends before it
    have hpoint : NoDigit (c :: ds ++ rest) := by
      have hfraction := x.point
      rw [hf] at hfraction
      cases hfraction
      rintro c ⟨⟩
      rfl
    refine ⟨_, integerLength_append x.literal hpoint, ?_⟩
    rw [List.drop_left]
    exact Nat.add_le_add_left ((hf ▸ x.point).le_fractionLength rest) _

/-- **What is measured is the leading numeral.** -/
theorem leading_numeral (h : integerLength xs = some n) :
    ∃ x : Numeral, xs.take (n + fractionLength (xs.drop n)) = x.text ∧
      Leading Numeral.text xs x := by
  obtain ⟨l, hl⟩ := literal_of_integerLength h
  let x : Numeral := ⟨l, _, fraction_of_fractionLength (xs.drop n)⟩
  have hx : xs.take (n + fractionLength (xs.drop n)) = x.text := by
    rw [List.take_add, hl]
    rfl
  refine ⟨x, hx, hx ▸ List.take_prefix _ xs, fun y hy => ?_⟩
  obtain ⟨m, hm, hle⟩ := y.length_le hy
  rw [h] at hm
  cases hm
  rw [← hx, List.length_take]
  exact Nat.le_min.2 ⟨hle, hy.length_le⟩

/-- Where a literal is in front, a numeral leads. -/
theorem exists_leading_numeral {l : Literal} (h : l.text <+: xs) :
    ∃ x : Numeral, Leading Numeral.text xs x := by
  obtain ⟨n, hn, -⟩ := l.le_integerLength h
  obtain ⟨x, -, hx⟩ := leading_numeral hn
  exact ⟨x, hx⟩

theorem Numeral.literal_stands (x : Numeral) (h : x.text <+: xs) : x.literal.text <+: xs :=
  (List.prefix_append _ _).trans h

theorem take_of_leading {x : Numeral} (h : Leading Numeral.text xs x) :
    ∃ n, integerLength xs = some n ∧ xs.take (n + fractionLength (xs.drop n)) = x.text := by
  obtain ⟨n, hn, -⟩ := x.length_le h.stands
  obtain ⟨y, hy, hlead⟩ := leading_numeral hn
  exact ⟨n, hn, hy.trans (hlead.unique h)⟩

/-- **The leading numeral extends the leading literal**, and is more than that if and only if a
point and a digit follow. -/
theorem leading_extends {l : Literal} {x : Numeral} {rest : List Char}
    (hl : Leading Literal.text (l.text ++ rest) l)
    (hx : Leading Numeral.text (l.text ++ rest) x) :
    l.text <+: x.text ∧ (l.text = x.text ↔ ¬ PointDigit rest) := by
  obtain ⟨n, hn, htake⟩ := integerLength_of_leading hl
  obtain ⟨m, hm, htext⟩ := take_of_leading hx
  rw [hn] at hm
  cases hm
  have hrest : (l.text ++ rest).drop n = rest := by
    have hsplit := List.take_append_drop n (l.text ++ rest)
    rw [htake] at hsplit
    exact List.append_cancel_left hsplit
  rw [List.take_add, htake, hrest] at htext
  have hzero : rest.take (fractionLength rest) = [] ↔ fractionLength rest = 0 := by
    rw [List.take_eq_nil_iff]
    refine ⟨?_, Or.inl⟩
    rintro (h | rfl)
    · exact h
    · rfl
  rw [← htext, ← fractionLength_eq_zero_iff, ← hzero, List.self_eq_append_right]
  exact ⟨List.prefix_append _ _, Iff.rfl⟩

/-! ## The parsers of decimal fractions -/

variable {c : Cursor text} (enter : Cell → Cursor text → Run text Value)

/-- In front of a leading numeral its text is read, and the number nearest to it. -/
theorem float_endsIn_leading (hc : c.Before xs) {x : Numeral} (hx : Leading Numeral.text xs x) :
    (floatText.evalWith enter c).EndsIn
        (.success (.str (String.ofList x.text)) (c.past x.text)) ∧
      ∃ b, Decimal.binary64? x.text = some b ∧
        (float.evalWith enter c).EndsIn (.success (.float b) (c.past x.text)) := by
  obtain ⟨n, hn, htake⟩ := take_of_leading hx
  have hmatch := matchLength_float xs
  rw [hn, Option.map_some] at hmatch
  have htext := matching_endsIn enter floatPattern "Number expected" hc
  simp only [hmatch, htake] at htext
  have hread := binary64?_isSome hmatch
  rw [htake] at hread
  obtain ⟨b, hb⟩ := Option.isSome_iff_exists.1 hread
  refine ⟨htext, b, hb, htext.after_success ?_⟩
  dsimp only [Value.text]
  rw [String.toList_ofList, hb]
  exact endsIn_done _

/-- Where no numeral stands, both parsers fail in place. -/
theorem float_endsIn_failure (hc : c.Before xs) (h : ∀ x : Numeral, ¬ x.text <+: xs) :
    (floatText.evalWith enter c).EndsIn (.failure ⟨"Number expected", c⟩) ∧
      (float.evalWith enter c).EndsIn (.failure ⟨"Number expected", c⟩) := by
  have hn : integerLength xs = none :=
    integerLength_eq_none_iff.2 fun l hl =>
      let ⟨x, hx⟩ := exists_leading_numeral hl
      h x hx.stands
  have htext := matching_endsIn enter floatPattern "Number expected" hc
  rw [matchLength_float, hn] at htext
  exact ⟨htext, htext.after_failure (endsIn_done _)⟩

/-- Either a numeral leads and both parsers succeed behind it, or both fail in place. -/
theorem float_cases (hc : c.Before xs) :
    (∃ x v w, Leading Numeral.text xs x ∧
      (floatText.evalWith enter c).EndsIn (.success v (c.past x.text)) ∧
      (float.evalWith enter c).EndsIn (.success w (c.past x.text))) ∨
    (∀ x : Numeral, ¬ x.text <+: xs) ∧
      (floatText.evalWith enter c).EndsIn (.failure ⟨"Number expected", c⟩) ∧
      (float.evalWith enter c).EndsIn (.failure ⟨"Number expected", c⟩) := by
  by_cases h : ∃ x : Numeral, x.text <+: xs
  · obtain ⟨y, hy⟩ := h
    obtain ⟨x, hx⟩ := exists_leading_numeral (y.literal_stands hy)
    obtain ⟨htext, b, -, hfloat⟩ := float_endsIn_leading enter hc hx
    exact Or.inl ⟨x, _, _, hx, htext, hfloat⟩
  · exact Or.inr ⟨not_exists.1 h, float_endsIn_failure enter hc (not_exists.1 h)⟩

theorem floatText_succeeds_iff (hc : c.Before xs) :
    (∃ v d, (floatText.evalWith enter c).EndsIn (.success v d)) ↔
      ∃ x : Numeral, x.text <+: xs := by
  rcases float_cases enter hc with ⟨x, v, -, hx, htext, -⟩ | ⟨hno, htext, -⟩
  · exact iff_of_true ⟨v, _, htext⟩ ⟨x, hx.stands⟩
  · refine iff_of_false ?_ (not_exists.2 hno)
    rintro ⟨v, d, hv⟩
    cases hv.unique htext

/-- No match is lost where it is made a number. -/
theorem float_succeeds_iff (hc : c.Before xs) (d : Cursor text) :
    (∃ v, (floatText.evalWith enter c).EndsIn (.success v d)) ↔
      ∃ v, (float.evalWith enter c).EndsIn (.success v d) := by
  rcases float_cases enter hc with ⟨x, v, w, -, htext, hfloat⟩ | ⟨-, htext, hfloat⟩
  · constructor
    · rintro ⟨v', hv⟩
      cases hv.unique htext
      exact ⟨w, hfloat⟩
    · rintro ⟨w', hw⟩
      cases hw.unique hfloat
      exact ⟨v, htext⟩
  · refine iff_of_false ?_ ?_
    · rintro ⟨v, hv⟩
      cases hv.unique htext
    · rintro ⟨w, hw⟩
      cases hw.unique hfloat

theorem float_fails (hc : c.Before xs) {e : Failure text}
    (he : (floatText.evalWith enter c).EndsIn (.failure e) ∨
      (float.evalWith enter c).EndsIn (.failure e)) : e = ⟨"Number expected", c⟩ := by
  rcases float_cases enter hc with ⟨x, v, w, -, htext, hfloat⟩ | ⟨-, htext, hfloat⟩
  · rcases he with he | he
    · cases he.unique htext
    · cases he.unique hfloat
  · rcases he with he | he
    · cases he.unique htext
      rfl
    · cases he.unique hfloat
      rfl

/-- **Decimal fractions are read exactly.** At every cursor of a text that 64-bit numbers can
measure, the parser of the text of decimal fractions succeeds if and only if a numeral
`[+-]?(0|[1-9][0-9]*)(\.[0-9]+)?` is in front, and then it yields the longest one and ends right
behind it. The parser of decimal fractions yields a number there, whatever the length: so it
succeeds at the same cursors. That is where the parser of the text of integers succeeds too. Its
text is the beginning of the numeral, and is all of it unless a point and a digit follow. Every
failure is the one in place. -/
theorem float_exact {s : Source text} (hs : s.size < UInt64.size) {c : Cursor text}
    (hc : s.start.Reaches c) :
    ((∃ v d, (floatText.evalWith enter c).EndsIn (.success v d)) ↔
        ∃ x : Numeral, x.text <+: c.remaining) ∧
      ((∃ x : Numeral, x.text <+: c.remaining) → ∃ x, Leading Numeral.text c.remaining x) ∧
      (∀ x, Leading Numeral.text c.remaining x →
        c.remaining = x.text ++ (c.past x.text).remaining ∧
          (floatText.evalWith enter c).EndsIn
            (.success (.str (String.ofList x.text)) (c.past x.text)) ∧
          ∃ b, Decimal.binary64? x.text = some b ∧
            (float.evalWith enter c).EndsIn (.success (.float b) (c.past x.text))) ∧
      ((∀ x : Numeral, ¬ x.text <+: c.remaining) →
        (floatText.evalWith enter c).EndsIn (.failure ⟨"Number expected", c⟩) ∧
          (float.evalWith enter c).EndsIn (.failure ⟨"Number expected", c⟩)) ∧
      ((∃ v d, (floatText.evalWith enter c).EndsIn (.success v d)) ↔
        ∃ v d, (integerText.evalWith enter c).EndsIn (.success v d)) ∧
      (∀ v d w e, (integerText.evalWith enter c).EndsIn (.success v d) →
        (floatText.evalWith enter c).EndsIn (.success w e) →
        ∃ t u, v = .str t ∧ w = .str u ∧ t.toList <+: u.toList ∧
          (t = u ↔ ¬ PointDigit d.remaining)) ∧
      (∀ d, (∃ v, (floatText.evalWith enter c).EndsIn (.success v d)) ↔
        ∃ v, (float.evalWith enter c).EndsIn (.success v d)) ∧
      ∀ e, (floatText.evalWith enter c).EndsIn (.failure e) ∨
        (float.evalWith enter c).EndsIn (.failure e) → e = ⟨"Number expected", c⟩ := by
  have hbefore := before_of_reaches hs hc
  have hsucceeds := floatText_succeeds_iff enter hbefore
  have hleads : (∃ x : Numeral, x.text <+: c.remaining) →
      ∃ x, Leading Numeral.text c.remaining x := by
    rintro ⟨x, hx⟩
    exact exists_leading_numeral (x.literal_stands hx)
  obtain ⟨hinteger, hlead, hleading, -, -⟩ := integer_exact enter hs hc
  refine ⟨hsucceeds, hleads, fun x hx => ⟨?_, float_endsIn_leading enter hbefore hx⟩,
    float_endsIn_failure enter hbefore, ?_, fun v d w e hv hw => ?_,
    float_succeeds_iff enter hbefore, fun e he => float_fails enter hbefore he⟩
  · obtain ⟨rest, hrest⟩ := hx.stands
    rw [← hrest] at hbefore
    rw [hbefore.past.remaining, hrest]
  · rw [hsucceeds, hinteger]
    constructor
    · rintro ⟨x, hx⟩
      exact ⟨x.literal, x.literal_stands hx⟩
    · rintro ⟨l, hl⟩
      obtain ⟨x, hx⟩ := exists_leading_numeral hl
      exact ⟨x, hx.stands⟩
  · obtain ⟨l, hl⟩ := hlead (hinteger.1 ⟨v, d, hv⟩)
    obtain ⟨x, hx⟩ := hleads (hsucceeds.1 ⟨w, e, hw⟩)
    obtain ⟨htext, hrest, -, -⟩ := hleading l hl
    cases hv.unique htext
    cases hw.unique (float_endsIn_leading enter hbefore hx).1
    rw [hrest] at hl hx
    refine ⟨_, _, rfl, rfl, ?_⟩
    rw [String.toList_ofList, String.toList_ofList, String.ofList_inj]
    exact leading_extends hl hx

/-- A fraction, and a number before a point that no ASCII digit follows. -/
theorem float_exact_points :
    let s : Source text := ⟨0, ['4', '.', '2', '7', '.', '٣']⟩
    let enter : Cell → Cursor text → Run text Value := fun _ _ => .endless
    s.size < UInt64.size ∧ s.start.Reaches ⟨s, 3⟩ ∧
      (floatText.evalWith enter s.start).EndsIn (.success (.str "4.27") ⟨s, 4⟩) ∧
      (∃ b, (float.evalWith enter s.start).EndsIn (.success (.float b) ⟨s, 4⟩)) ∧
      (floatText.evalWith enter ⟨s, 3⟩).EndsIn (.success (.str "7") ⟨s, 4⟩) := by
  intro s enter
  have hs : s.size < UInt64.size := by decide
  have hc : s.start.Reaches ⟨s, 3⟩ := Reaches.refl.forward (n := 3) rfl
  obtain ⟨-, -, hstart, -⟩ := float_exact enter hs (.refl : s.start.Reaches s.start)
  obtain ⟨-, -, hpoint, -⟩ := float_exact enter hs hc
  have hstartlength : integerLength s.start.remaining = some 1 := rfl
  have hpointlength : integerLength (⟨s, 3⟩ : Cursor text).remaining = some 1 := rfl
  obtain ⟨x, hx, hxlead⟩ := leading_numeral hstartlength
  obtain ⟨y, hy, hylead⟩ := leading_numeral hpointlength
  have hx' : x.text = ['4', '.', '2', '7'] := hx.symm
  have hy' : y.text = ['7'] := hy.symm
  obtain ⟨-, htext, b, -, hfloat⟩ := hstart x hxlead
  obtain ⟨-, htext', -⟩ := hpoint y hylead
  rw [hx'] at htext hfloat
  rw [hy'] at htext'
  exact ⟨hs, hc, htext, ⟨b, hfloat⟩, htext'⟩

end Number

end GrammarEngine
