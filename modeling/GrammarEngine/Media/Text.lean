import GrammarEngine.Input.Medium
import GrammarEngine.Pattern.Basic

/-!
# Text

Text is a list of characters, measured in bytes of UTF-8. Its terminals are literals, patterns and
any single character.

A terminal is looked for in bytes: a literal has so many and they are to be peeked at, and the text
that a pattern has found has so many. `TextTerminal.look_eq` says that this comes to what the
terminal recognises in the characters.
-/

namespace GrammarEngine

theorem utf8ByteSize_ofList (xs : List Char) :
    (String.ofList xs).utf8ByteSize = Units.size Char.utf8Size xs := by
  induction xs with
  | nil => rfl
  | cons x xs ih =>
    rw [String.ofList_cons, String.utf8ByteSize_append, String.utf8ByteSize_singleton, ih]
    rfl

theorem utf8ByteSize_eq_size (s : String) :
    s.utf8ByteSize = Units.size Char.utf8Size s.toList := by
  rw [← utf8ByteSize_ofList, String.ofList_toList]

/-- What is recognised in text. -/
inductive TextTerminal
  | literal (s : String)
  | pattern (p : Pattern)
  /-- Any one character. -/
  | character

namespace TextTerminal

/-- The text that the terminal yields, and the number of bytes to move on by. -/
def look : TextTerminal → View Char → Option (Value × Nat)
  | .literal s, c =>
    let n := s.utf8ByteSize
    if n ≤ c.length ∧ c.peek n = some s.toList then some (.str s, n) else none
  | .pattern p, c =>
    ((p.find c.remaining).filter (·.start == 0)).map fun found =>
      let matched := String.ofList (found.piece c.remaining)
      (.str matched, matched.utf8ByteSize)
  | .character, c => c.remaining.head?.map fun ch => (.str ch.toString, ch.utf8Size)

/-- The text that the terminal yields and the number of its characters. -/
def recognise : TextTerminal → List Char → Option (Value × Nat)
  | .literal s, text => if s.toList.isPrefixOf text then some (.str s, s.toList.length) else none
  | .pattern p, text =>
    (p.matchLength text).map fun n => (.str (String.ofList (text.take n)), n)
  | .character, text => text.head?.map fun c => (.str c.toString, 1)

def expectation : TextTerminal → String
  | .literal s => "Expected string literal \"" ++ s ++ "\""
  | .pattern p => p.expectation
  | .character => "Character expected"

/-- The bytes of a literal can be peeked at exactly where its characters come next. -/
theorem peek_literal_iff {s : String} {rest : List Char} {length : Nat}
    (h : Units.size Char.utf8Size rest ≤ length) :
    s.utf8ByteSize ≤ length ∧ Units.take? Char.utf8Size s.utf8ByteSize rest = some s.toList ↔
      s.toList <+: rest := by
  rw [utf8ByteSize_eq_size, Units.take?_eq_some_iff Char.utf8Size_pos]
  constructor
  · rintro ⟨-, after, rfl, -⟩
    exact List.prefix_append _ _
  · rintro ⟨after, rfl⟩
    rw [Units.size_append] at h
    exact ⟨by omega, after, rfl, rfl⟩

/-- **What is looked for in bytes is recognised in characters.** -/
theorem look_eq (t : TextTerminal) (rest : List Char) (length : Nat)
    (h : Units.size Char.utf8Size rest ≤ length) :
    t.look ⟨rest, length, fun n => Units.take? Char.utf8Size n rest⟩ =
      (t.recognise rest).map fun (v, n) => (v, Units.size Char.utf8Size (rest.take n)) := by
  cases t with
  | literal s =>
    dsimp only [look, recognise]
    have hpeek := peek_literal_iff (s := s) h
    by_cases hs : s.toList <+: rest
    · rw [if_pos (hpeek.2 hs), if_pos (List.isPrefixOf_iff_prefix.2 hs), utf8ByteSize_eq_size]
      obtain ⟨after, rfl⟩ := hs
      rw [Option.map_some, List.take_left]
    · rw [if_neg (mt hpeek.1 hs), if_neg (mt List.isPrefixOf_iff_prefix.1 hs)]
      rfl
  | pattern p =>
    dsimp only [look, recognise, Pattern.matchLength]
    rcases hm : (p.find rest).filter (·.start == 0) with _ | found
    · rw [hm]
      rfl
    · -- what begins at the cursor is as long as it ends far
      have hstart : found.start = 0 := by simpa using (Option.filter_eq_some_iff.1 hm).2
      rw [hm]
      simp only [Option.map_some, Span.piece, hstart, List.drop_zero, utf8ByteSize_ofList]
  | character =>
    cases rest with
    | nil => rfl
    | cons c rest => rfl

end TextTerminal

/-- Text in UTF-8. -/
abbrev text : Medium where
  Elem := Char
  width := Char.utf8Size
  width_pos := Char.utf8Size_pos
  Terminal := TextTerminal
  look := TextTerminal.look
  recognise := TextTerminal.recognise
  look_eq := TextTerminal.look_eq
  expectation := TextTerminal.expectation
  piece cs := .str (String.ofList cs)
  written cs := Text.quoted (String.ofList cs)

end GrammarEngine
