import GrammarEngine.Proofs.Faults
import GrammarEngine.Proofs.Numerals
import Mathlib.Data.Nat.Digits.Defs

/-!
# Reading integers

An integer literal is an optional sign and a natural number in digits, without needless zeros in
front. `Literal` is such a text, with the number that it writes.

The pattern of integers has no choice in what it matches: `integerLength` reads the length off the
text, and `matchLength_integer` says that the matcher finds exactly that. So at a cursor with a
given text in front of it (`Cursor.Before`) the outcome of the parser of integers is known
(`integer_endsIn`), and in front of a literal that no digit follows it is the number, if that is
one of 64 bits, or a failure after the literal (`integerOutcome_literal`).
-/

namespace GrammarEngine

open Outcome Run

/-! ## In front of a text -/

theorem Units.length_le_size {α : Type} {width : α → Nat} (hw : ∀ x, 0 < width x) (xs : List α) :
    xs.length ≤ size width xs := by
  induction xs with
  | nil => exact Nat.zero_le _
  | cons x xs ih =>
    have := hw x
    rw [size, List.length_cons]
    omega

namespace Cursor

variable {M : Medium} {c : Cursor M} {front rest : List M.Elem}

/-- The cursor after so many elements. -/
def past (c : Cursor M) (front : List M.Elem) : Cursor M :=
  ⟨c.source, c.offset + Units.size M.width front⟩

theorem past_append (c : Cursor M) (xs ys : List M.Elem) :
    c.past (xs ++ ys) = (c.past xs).past ys := by
  unfold past
  rw [Units.size_append, Nat.add_assoc]

/-- The cursor stands before these elements, the last of a source that 64 bits can measure. -/
structure Before (c : Cursor M) (rest : List M.Elem) : Prop where
  placed : c.Placed
  size : c.source.size < UInt64.size
  remaining : c.remaining = rest

theorem Before.forward (h : c.Before (front ++ rest)) :
    c.forward (Units.size M.width front) = .ok (c.past front) :=
  (forward_of_remaining h.placed h.size h.remaining).1

theorem Before.past (h : c.Before (front ++ rest)) : (c.past front).Before rest where
  placed := (forward_eq_ok h.forward).2
  size := h.size
  remaining := (forward_of_remaining h.placed h.size h.remaining).2

theorem Before.past_cons {x : M.Elem} (h : c.Before (x :: rest)) : (c.past [x]).Before rest := by
  have h' : c.Before ([x] ++ rest) := h
  exact h'.past

theorem Before.length_le (h : c.Before rest) : rest.length ≤ c.length := by
  have hsize := h.placed.size_remaining
  have hunits := Units.length_le_size M.width_pos rest
  rw [h.remaining] at hsize
  unfold Cursor.length
  omega

theorem before_start {s : Source M} (h : s.size < UInt64.size) : s.start.Before s.elems := by
  refine ⟨placed_start s, h, ?_⟩
  unfold remaining Source.start
  dsimp only
  cases s.elems <;> rfl

/-- A cursor reached in such a source stands before what remains. -/
theorem before_of_reaches {s : Source M} (hs : s.size < UInt64.size) (h : s.start.Reaches c) :
    c.Before c.remaining := by
  obtain ⟨hsource, -, hc⟩ := h.ahead (placed_start s)
  have hsource' : c.source = s := hsource
  exact ⟨hc, by rw [hsource']; exact hs, rfl⟩

/-- Where something remains, the input is not at its end. -/
theorem isEmpty_eq_false (h : c.remaining ≠ []) : c.isEmpty = false := by
  have hp : c.Placed := by
    unfold Placed
    rw [Option.isSome_iff_ne_none]
    intro hn
    apply h
    unfold Cursor.remaining
    rw [hn]
    rfl
  have hsize := hp.size_remaining
  have hne : Units.size M.width c.remaining ≠ 0 := mt (Units.eq_nil_of_size M.width_pos) h
  unfold isEmpty length
  rw [beq_eq_false_iff_ne]
  omega

/-- At the end of a source its size is the offset. -/
theorem Before.eq_end (h : c.Before []) : c = ⟨c.source, c.source.size⟩ := by
  have hsize := h.placed.size_remaining
  rw [h.remaining] at hsize
  rw [← hsize]
  rfl

theorem Before.isEmpty (h : c.Before []) : c.isEmpty = true := by
  unfold Cursor.isEmpty length
  rw [h.eq_end]
  simp

theorem Before.isEmpty_iff (h : c.Before rest) : c.isEmpty = true ↔ rest = [] := by
  constructor
  · intro he
    by_contra hne
    rw [← h.remaining] at hne
    rw [isEmpty_eq_false hne] at he
    cases he
  · rintro rfl
    exact h.isEmpty

/-- A terminal that stands is accepted with what it takes. -/
theorem Before.accept (h : c.Before rest) {t : M.Terminal} {v : Value} {n : Nat}
    (ht : M.recognise t rest = some (v, n)) : c.accept t = .success v (c.past (rest.take n)) := by
  have hsplit : c.Before (rest.take n ++ rest.drop n) := by rwa [List.take_append_drop]
  rw [accept_eq, h.remaining, ht]
  dsimp only
  rw [hsplit.forward]
  rfl

/-- A terminal that does not stand fails where it is. -/
theorem accept_of_none {t : M.Terminal} (ht : M.recognise t c.remaining = none) :
    c.accept t = .failure ⟨M.expectation t, c⟩ := by
  rw [accept_eq, ht]

/-- A terminal that stands yields its value after what it takes. -/
theorem Before.terminal (h : c.Before rest) {t : M.Terminal} {v : Value} {n : Nat}
    (ht : M.recognise t rest = some (v, n)) (enter : Cell → Cursor M → Run M Value) :
    ((Parser.terminal t).evalWith enter c).EndsIn (.success v (c.past (rest.take n))) := by
  rw [← h.accept ht]
  exact endsIn_done _

theorem terminal_fails {t : M.Terminal} (ht : M.recognise t c.remaining = none)
    (enter : Cell → Cursor M → Run M Value) :
    ((Parser.terminal t).evalWith enter c).EndsIn (.failure ⟨M.expectation t, c⟩) := by
  rw [← accept_of_none ht]
  exact endsIn_done _

end Cursor

open Cursor

/-- In text a cursor moves by bytes. -/
theorem past_eq (c : Cursor text) (xs : List Char) :
    c.past xs = ⟨c.source, c.offset + (String.ofList xs).utf8ByteSize⟩ := by
  rw [utf8ByteSize_ofList]
  rfl

/-- A literal of one character stands where the character does. -/
theorem recognise_character {s : String} {ch : Char} (hs : s.toList = [ch]) (xs : List Char) :
    text.recognise (.literal s) xs = if xs.head? = some ch then some (.str s, 1) else none := by
  show (if s.toList.isPrefixOf xs then some (Value.str s, s.toList.length) else none) = _
  rw [hs]
  cases xs with
  | nil => rfl
  | cons x xs =>
    by_cases hx : x = ch
    · simp [hx]
    · simp [hx, Ne.symm hx]

/-- A pattern yields what it matches in front of the cursor. -/
theorem pattern_endsIn (enter : Cell → Cursor text → Run text Value) (p : Pattern)
    {c : Cursor text} {xs : List Char} (hc : c.Before xs) :
    ((.terminal (.pattern p) : Parser text).evalWith enter c).EndsIn
      (match p.matchLength xs with
      | none => .failure ⟨p.expectation, c⟩
      | some n => .success (.str (String.ofList (xs.take n))) (c.past (xs.take n))) := by
  have hmatch : text.recognise (.pattern p) xs =
      (p.matchLength xs).map fun n => (.str (String.ofList (xs.take n)), n) := rfl
  rcases hn : p.matchLength xs with _ | n
  · rw [hn, ← hc.remaining] at hmatch
    exact terminal_fails hmatch enter
  · rw [hn] at hmatch
    exact hc.terminal hmatch enter

/-! ## Walks -/

namespace Thread

variable {c : Char} {ts live next : List Thread} {before : Option Char} {n : Nat}
  {best : Option Nat} {cs : List Char}

/-- One character of a walk, for the threads explored and for those that go on. -/
theorem walk_cons (hlive : exploreAll ⟨before, some c⟩ ts = live)
    (hnext : (unfinished live).filterMap (advance c) = next) :
    walk ts before n best (c :: cs) =
      if next = [] then if [] ∈ live then some n else best
      else walk next (some c) (n + 1) (if [] ∈ live then some n else best) cs := by
  rw [walk, hlive, hnext]
  cases next <;> rfl

theorem walk_finished (before : Option Char) (n : Nat) (best : Option Nat) (text : List Char) :
    walk [[]] before n best text = some n := by
  cases text <;> rfl

/-- Greedy rounds of a set take all the characters of the set. -/
theorem walk_star_set (s : CharSet) (before : Option Char) (n : Nat) (best : Option Nat)
    (text : List Char) :
    walk [[.star true (.set s)]] before n best text = some (n + (text.takeWhile s.mem).length) := by
  have explored : ∀ here, exploreAll here [[.star true (.set s)]] =
      [[.star true (.set s)], [.set s, .star true (.set s)], []] := by
    intro here
    simp [exploreAll, explore, Regex.visit]
  induction text generalizing before n best with
  | nil =>
    unfold walk
    rw [explored]
    rfl
  | cons c cs ih =>
    rw [walk_cons (explored _) rfl]
    by_cases hc : s.mem c = true
    · simp only [unfinished, advance, hc, List.filterMap, List.takeWhile, List.length_cons,
        List.isEmpty, Bool.not_false, Bool.not_true, if_true, reduceCtorEq, if_false, ih]
      congr 1
      omega
    · simp [unfinished, advance, hc, List.filterMap]

end Thread

namespace Number

open Thread

/-! ## Lengths of matches -/

/-- The number of characters of the natural number in front of a text. -/
def naturalLength : List Char → Option Nat
  | [] => none
  | c :: cs =>
    if c = '0' then some 1
    else if c.isDigit then some (1 + (cs.takeWhile Char.isDigit).length)
    else none

/-- The number of characters of the integer in front of a text. -/
def integerLength : List Char → Option Nat
  | [] => none
  | c :: cs =>
    if c = '+' ∨ c = '-' then (naturalLength cs).map (1 + ·) else naturalLength (c :: cs)

theorem mem_single {c d : Char} : (CharSet.single d).mem c = (c == d) := by
  rw [Bool.eq_iff_iff, beq_iff_eq]
  constructor
  · exact eq_of_mem_single
  · rintro rfl
    simp [CharSet.single, CharSet.mem]

theorem mem_nonzero {c : Char} : (CharSet.range '1' '9').mem c = (c.isDigit && c != '0') := by
  have hzero : c = '0' ↔ c.toNat = 48 := Char.toNat_inj.symm
  rw [← mem_asciiDigit, Bool.eq_iff_iff, Bool.and_eq_true, bne_iff_ne, Ne, hzero]
  unfold CharSet.asciiDigit CharSet.mem
  simp only [Bool.and_eq_true, decide_eq_true_eq]
  show 49 ≤ c.toNat ∧ c.toNat ≤ 57 ↔ (48 ≤ c.toNat ∧ c.toNat ≤ 57) ∧ _
  omega

theorem explored_natural (here : Place) : exploreAll here [[naturalRegex]] =
    [[naturalRegex], [.set (.single '0')], [.cat (.set (.range '1' '9')) (.star true digitRegex)],
      [.set (.range '1' '9'), .star true digitRegex]] := rfl

theorem walk_natural (before : Option Char) (n : Nat) (text : List Char) :
    walk [[naturalRegex]] before n none text = (naturalLength text).map (n + ·) := by
  cases text with
  | nil => rfl
  | cons c cs =>
    rw [walk_cons (explored_natural _) rfl]
    have hdigits := walk_star_set .asciiDigit (some c) (n + 1) none cs
    by_cases h0 : c = '0'
    · subst h0
      exact walk_finished _ _ _ _
    · by_cases hd : c.isDigit = true
      · simp [unfinished, List.filterMap, naturalRegex, advance, mem_nonzero, mem_single, h0, hd,
          naturalLength, digitRegex, hdigits, Nat.add_assoc]
        rfl
      · simp [unfinished, List.filterMap, naturalRegex, advance, mem_nonzero, mem_single, h0, hd,
          naturalLength]

/-- The number of characters of a sign, if there is one, and of what `length` measures after it. -/
def signedLength (length : List Char → Option Nat) : List Char → Option Nat
  | [] => length []
  | c :: cs => if c = '+' ∨ c = '-' then (length cs).map (1 + ·) else length (c :: cs)

theorem integerLength_eq (text : List Char) :
    integerLength text = signedLength naturalLength text := by
  cases text <;> rfl

/-- What an expression with a sign follows before its second part: its sign, or none. -/
def signThreads (r : Regex) : List Thread :=
  [[.cat (.look .start) (.cat signRegex r)], [.look .start, .cat signRegex r], [.cat signRegex r],
    [signRegex, r], [.set (.union (.single '+') (.single '-')), r], [.empty, r]]

/-- **A sign in front.** The match of an expression after a sign is that of the expression, further
on, and without a sign it is that of the expression, if that does not itself begin with a sign. -/
theorem walk_signed {r : Regex} {length : List Char → Option Nat}
    (hwalk : ∀ before n text, walk [[r]] before n none text = (length text).map (n + ·))
    (hexplored : ∀ after, exploreAll ⟨none, after⟩ [[.cat (.look .start) (.cat signRegex r)]] =
      signThreads r ++ exploreAll ⟨none, after⟩ [[r]])
    (hsign : ∀ after c, c = '+' ∨ c = '-' → [] ∉ exploreAll ⟨none, after⟩ [[r]] ∧
      (unfinished (exploreAll ⟨none, after⟩ [[r]])).filterMap (advance c) = [])
    (text : List Char) :
    Regex.matchLength (.cat (.look .start) (.cat signRegex r)) text = signedLength length text := by
  show walk [[.cat (.look .start) (.cat signRegex r)]] none 0 none text = _
  have hmem : ∀ ts, [] ∈ signThreads r ++ ts ↔ [] ∈ ts := by
    intro ts
    simp [signThreads]
  have hnext : ∀ c ts, (unfinished (signThreads r ++ ts)).filterMap (advance c) =
      (signThreads r).filterMap (advance c) ++ (unfinished ts).filterMap (advance c) := by
    intro c ts
    rw [← List.filterMap_append]
    rfl
  cases text with
  | nil =>
    have hnone := hwalk none 0 []
    unfold walk at hnone ⊢
    simpa [hexplored, hmem, signedLength] using hnone
  | cons c cs =>
    rw [walk_cons (hexplored _) (hnext c _)]
    by_cases hc : c = '+' ∨ c = '-'
    · obtain ⟨hunfinished, hnone⟩ := hsign (some c) c hc
      have htaken : (signThreads r).filterMap (advance c) = [[r]] := by
        rcases hc with rfl | rfl <;> rfl
      rw [hnone, htaken, List.append_nil, if_neg (by simp), signedLength, if_pos hc]
      simp only [hmem, if_neg hunfinished]
      exact hwalk (some c) 1 cs
    · -- without a sign the threads that go on are those of the expression
      have htaken : (signThreads r).filterMap (advance c) = [] := by
        have hs : (CharSet.union (.single '+') (.single '-')).mem c = false := by
          simpa [CharSet.mem, mem_single] using hc
        simp [signThreads, List.filterMap, advance, hs, signRegex, Regex.opt]
      have hplain := hwalk none 0 (c :: cs)
      rw [walk_cons rfl rfl] at hplain
      rw [htaken, List.nil_append, signedLength, if_neg hc]
      simp only [hmem]
      simpa using hplain

/-- **The matcher finds the integer in front of a text.** -/
theorem matchLength_integer (text : List Char) :
    integerPattern.matchLength text = integerLength text := by
  rw [integerLength_eq, integerPattern, Pattern.ofRegex_matchLength]
  refine walk_signed walk_natural (fun _ => rfl) (fun after c hc => ?_) text
  rw [explored_natural]
  rcases hc with rfl | rfl <;> exact ⟨by decide, rfl⟩

/-! ## Literals -/

/-- The digits of a natural number, without needless zeros in front. -/
inductive Natural : List Char → Prop
  | zero : Natural ['0']
  | positive {d : Char} {ds : List Char} (hd : d.isDigit = true) (h0 : d ≠ '0')
    (hds : ∀ c ∈ ds, c.isDigit = true) : Natural (d :: ds)

theorem Natural.digits {ds : List Char} (h : Natural ds) : Digits ds := by
  cases h with
  | zero => exact digits_cons (by decide) (by simp)
  | positive hd _ hds => exact digits_cons hd hds

/-- What may stand before the digits of a literal. -/
inductive LiteralSign
  | none | plus | minus
deriving DecidableEq

def LiteralSign.text : LiteralSign → List Char
  | .none => []
  | .plus => ['+']
  | .minus => ['-']

/-- An integer literal: `[+-]?(0|[1-9][0-9]*)`. -/
structure Literal where
  sign : LiteralSign
  digits : List Char
  natural : Natural digits

namespace Literal

def text (l : Literal) : List Char := l.sign.text ++ l.digits

/-- The number without its sign. -/
def magnitude (l : Literal) : Nat := Nat.ofDigits 10 (l.digits.reverse.map Decimal.digit)

/-- The number that the literal writes. -/
def value (l : Literal) : Int :=
  match l.sign with
  | .none | .plus => l.magnitude
  | .minus => -l.magnitude

end Literal

/-- The text does not begin with a digit. -/
def NoDigit (rest : List Char) : Prop := ∀ c ∈ rest.head?, c.isDigit = false

theorem takeWhile_digits {ds rest : List Char} (hds : ∀ c ∈ ds, c.isDigit = true)
    (hrest : NoDigit rest) : (ds ++ rest).takeWhile Char.isDigit = ds := by
  rw [List.takeWhile_append_of_pos hds]
  cases rest with
  | nil => simp
  | cons c cs => simp [List.takeWhile, hrest c rfl]

theorem naturalLength_append {ds rest : List Char} (h : Natural ds) (hrest : NoDigit rest) :
    naturalLength (ds ++ rest) = some ds.length := by
  cases h with
  | zero => rfl
  | positive hd h0 hds =>
    rw [List.cons_append, naturalLength, if_neg h0, if_pos hd, takeWhile_digits hds hrest,
      List.length_cons, Nat.add_comm]

/-- The digits of a literal begin with no sign. -/
theorem integerLength_natural {ds : List Char} (h : Natural ds) (rest : List Char) :
    integerLength (ds ++ rest) = naturalLength (ds ++ rest) := by
  have hne : ∀ d : Char, d.isDigit = true → ¬ (d = '+' ∨ d = '-') := by
    rintro d hd (rfl | rfl)
    · cases hd
    · cases hd
  cases h with
  | zero => rfl
  | positive hd _ _ => rw [List.cons_append, integerLength, if_neg (hne _ hd)]

theorem integerLength_append (l : Literal) {rest : List Char} (hrest : NoDigit rest) :
    integerLength (l.text ++ rest) = some l.text.length := by
  have hnatural := naturalLength_append l.natural hrest
  unfold Literal.text
  rw [List.append_assoc]
  cases l.sign with
  | none => exact (integerLength_natural l.natural rest).trans hnatural
  | plus | minus =>
    show (naturalLength (l.digits ++ rest)).map (1 + ·) = _
    rw [hnatural, Option.map_some, Nat.add_comm]
    rfl

/-- What is measured as a natural number is one. -/
theorem natural_of_naturalLength {xs : List Char} {n : Nat} (h : naturalLength xs = some n) :
    Natural (xs.take n) := by
  cases xs with
  | nil => cases h
  | cons c cs =>
    rw [naturalLength] at h
    by_cases h0 : c = '0'
    · rw [if_pos h0] at h
      cases h
      rw [h0]
      exact .zero
    · rw [if_neg h0] at h
      by_cases hd : c.isDigit = true
      · rw [if_pos hd] at h
        cases h
        rw [Nat.add_comm, List.take_succ_cons,
          ← List.prefix_iff_eq_take.1 (List.takeWhile_prefix _)]
        exact .positive hd h0 (List.all_eq_true.1 List.all_takeWhile)
      · rw [if_neg hd] at h
        cases h

/-- What is measured as an integer is a literal. -/
theorem literal_of_integerLength {xs : List Char} {n : Nat} (h : integerLength xs = some n) :
    ∃ l : Literal, xs.take n = l.text := by
  cases xs with
  | nil => cases h
  | cons c cs =>
    rw [integerLength] at h
    by_cases hs : c = '+' ∨ c = '-'
    · rw [if_pos hs] at h
      obtain ⟨m, hm, rfl⟩ := Option.map_eq_some_iff.1 h
      have hn := natural_of_naturalLength hm
      rw [Nat.add_comm, List.take_succ_cons]
      rcases hs with rfl | rfl
      · exact ⟨⟨.plus, _, hn⟩, rfl⟩
      · exact ⟨⟨.minus, _, hn⟩, rfl⟩
    · rw [if_neg hs] at h
      exact ⟨⟨.none, _, natural_of_naturalLength h⟩, rfl⟩

theorem value_eq_ofDigits (ds : List Char) :
    Decimal.value 0 ds = Nat.ofDigits 10 (ds.reverse.map Decimal.digit) := by
  induction ds using List.reverseRecOn with
  | nil => rfl
  | append_singleton ds d ih =>
    rw [List.reverse_append, List.reverse_singleton, List.singleton_append, List.map_cons,
      Nat.ofDigits_cons, ← ih]
    unfold Decimal.value
    rw [List.foldl_append]
    simp [Nat.add_comm]

/-- **A literal is read as the number that it writes.** -/
theorem integer?_literal (l : Literal) : Decimal.integer? l.text = some l.value := by
  have hnatural : Decimal.natural? l.digits = some l.magnitude := by
    rw [natural?_digits l.natural.digits, value_eq_ofDigits]
    rfl
  unfold Decimal.integer? Literal.text Literal.value
  cases l.sign with
  | none =>
    have hsigned := @signed_digits l.digits [] l.natural.digits
    rw [List.append_nil] at hsigned
    simp [LiteralSign.text, hsigned, hnatural]
  | plus | minus => simp [LiteralSign.text, Decimal.signed, hnatural]

/-! ## The parser of integers -/

section Parser

variable {c : Cursor text} {xs : List Char} (enter : Cell → Cursor text → Run text Value)

/-- How the parser of integers ends in front of a text. -/
def integerOutcome (c : Cursor text) (xs : List Char) : Outcome text Value :=
  match integerLength xs with
  | none => .failure ⟨"Integer expected", c⟩
  | some n =>
    match Decimal.int64? (xs.take n) with
    | none => .failure ⟨"Integer out of range", c.past (xs.take n)⟩
    | some w => .success (.int w) (c.past (xs.take n))

/-- A pattern with its own message yields the same, and fails with that message. -/
theorem matching_endsIn (p : Pattern) (message : String) (hc : c.Before xs) :
    ((matching p message).evalWith enter c).EndsIn
      (match p.matchLength xs with
      | none => .failure ⟨message, c⟩
      | some n => .success (.str (String.ofList (xs.take n))) (c.past (xs.take n))) := by
  have hpattern := pattern_endsIn enter p hc
  rcases hn : p.matchLength xs with _ | n
  · rw [hn] at hpattern
    refine hpattern.after_failure (EndsIn.noting ?_ _)
    exact endsIn_done _
  · rw [hn] at hpattern
    exact hpattern.after_success (endsIn_done _)

/-- **The integer in front of the cursor.** -/
theorem integer_endsIn (hc : c.Before xs) :
    (integer.evalWith enter c).EndsIn (integerOutcome c xs) := by
  have htext := matching_endsIn enter integerPattern "Integer expected" hc
  rw [matchLength_integer] at htext
  unfold integerOutcome
  rcases hn : integerLength xs with _ | n
  · rw [hn] at htext
    exact htext.after_failure (endsIn_done _)
  · rw [hn] at htext
    refine htext.after_success ?_
    dsimp only [Value.text]
    rw [String.toList_ofList]
    rcases Decimal.int64? (xs.take n) with _ | w <;> exact endsIn_done _

/-- **In front of a literal that no digit follows** the parser of integers reads the literal: it
yields the number if that is one of 64 bits, and fails after the literal otherwise. -/
theorem integerOutcome_literal (l : Literal) {rest : List Char} (hrest : NoDigit rest) :
    integerOutcome c (l.text ++ rest) =
      match Decimal.word? l.value with
      | none => .failure ⟨"Integer out of range", c.past l.text⟩
      | some w => .success (.int w) (c.past l.text) := by
  unfold integerOutcome Decimal.int64?
  rw [integerLength_append l hrest]
  dsimp only
  rw [List.take_left, integer?_literal]
  rfl

end Parser

end Number

end GrammarEngine
