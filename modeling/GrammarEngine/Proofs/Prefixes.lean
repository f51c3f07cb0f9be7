import GrammarEngine.Proofs.Desugar
import GrammarEngine.Proofs.Integers

/-!
# Literals are prefixes in bytes

A literal stands where its bytes are the next bytes of the input. It is looked for by characters; by
bytes the same is found, since a text whose bytes begin with those of a literal begins with the
literal: no character is encoded as the beginning of another, so a literal never ends inside one.
Main statement: `literal_exact`.

1. A text is known by its bytes, and its beginnings by theirs (`utf8_prefix_iff`). The bytes from a
   cursor on are those of what remains there (`utf8_drop_offset`).
2. A literal in front of the cursor is read (`Before.literal`), and anything else in front of it
   fails the literal at the cursor (`literal_of_not`).
-/

namespace GrammarEngine

open Outcome Cursor Run

/-! ## Texts in bytes -/

/-- The bytes of a text in UTF-8. -/
def Text.utf8 (cs : List Char) : List UInt8 := cs.flatMap String.utf8EncodeChar

open Text (utf8)

theorem utf8_cons (c : Char) (cs : List Char) :
    utf8 (c :: cs) = String.utf8EncodeChar c ++ utf8 cs := rfl

theorem utf8_append (xs ys : List Char) : utf8 (xs ++ ys) = utf8 xs ++ utf8 ys :=
  List.flatMap_append

theorem utf8_toList (w : String) : utf8 w.toList = w.toUTF8.data.toList := by
  rw [String.toUTF8_eq_toByteArray, ← String.utf8Encode_toList]
  exact List.toList_data_toByteArray.symm

theorem length_utf8 (cs : List Char) : (utf8 cs).length = Units.size Char.utf8Size cs := by
  induction cs with
  | nil => rfl
  | cons c cs ih => rw [utf8_cons, List.length_append, ih, String.length_utf8EncodeChar, Units.size]

/-- The first character can be decoded, whatever follows it. -/
theorem head_eq_of_utf8 {c d : Char} {bs ds : List UInt8}
    (h : String.utf8EncodeChar c ++ bs = String.utf8EncodeChar d ++ ds) : c = d := by
  have hc : ((String.utf8EncodeChar c).toByteArray ++ bs.toByteArray).utf8DecodeChar? 0 = some c :=
    ByteArray.utf8DecodeChar?_utf8EncodeChar_append
  have hd : ((String.utf8EncodeChar d).toByteArray ++ ds.toByteArray).utf8DecodeChar? 0 = some d :=
    ByteArray.utf8DecodeChar?_utf8EncodeChar_append
  rw [← List.toByteArray_append, h, List.toByteArray_append, hd] at hc
  exact (Option.some.inj hc).symm

/-- **Beginnings in bytes are beginnings in characters.** -/
theorem utf8_prefix_iff {xs ys : List Char} : utf8 ys <+: utf8 xs ↔ ys <+: xs := by
  constructor
  · intro h
    induction ys generalizing xs with
    | nil => exact List.nil_prefix
    | cons y ys ih =>
      obtain ⟨rest, hrest⟩ := h
      rw [utf8_cons, List.append_assoc] at hrest
      cases xs with
      | nil => exact (String.utf8EncodeChar_ne_nil (List.append_eq_nil_iff.1 hrest).1).elim
      | cons x xs =>
        rw [utf8_cons] at hrest
        obtain rfl := head_eq_of_utf8 hrest
        rw [List.cons_prefix_cons]
        exact ⟨rfl, ih ⟨rest, List.append_cancel_left hrest⟩⟩
  · rintro ⟨rest, rfl⟩
    rw [utf8_append]
    exact List.prefix_append _ _

/-- What remains at a cursor are the bytes from its offset on. -/
theorem utf8_drop_offset {c : Cursor text} (hc : c.Placed) :
    (utf8 c.source.elems).drop c.offset = utf8 c.remaining := by
  obtain ⟨front, hfront, hoffset⟩ := placed_iff.1 hc
  rw [hfront, utf8_append]
  exact List.drop_left' ((length_utf8 front).trans hoffset)

/-! ## Literals -/

namespace Parser

/-- The parser of a text that is given. -/
abbrev literal (w : String) : Parser text := .terminal (.literal w)

end Parser

section Literal

variable {c d : Cursor text} {rest : List Char} (enter : Cell → Cursor text → Run text Value)
  (w w' : String)

/-- A literal in front of the cursor is read. -/
theorem Cursor.Before.literal (h : c.Before (w.toList ++ rest)) :
    (Parser.literal w).evalWith enter c = .success (.str w) (c.past w.toList) := by
  have ht : text.recognise (.literal w) (w.toList ++ rest) = some (.str w, w.toList.length) :=
    if_pos (List.isPrefixOf_iff_prefix.2 (List.prefix_append _ _))
  show done (c.accept (.literal w)) = done _
  rw [h.accept ht, List.take_left]

/-- What does not begin with the literal fails it at the cursor. -/
theorem literal_of_not (h : ¬ w.toList <+: c.remaining) :
    (Parser.literal w).evalWith enter c =
      .failure ⟨"Expected string literal \"" ++ w ++ "\"", c⟩ := by
  have ht : text.recognise (.literal w) c.remaining = none :=
    if_neg (mt List.isPrefixOf_iff_prefix.1 h)
  show done (c.accept (.literal w)) = done _
  rw [accept_of_none ht]
  rfl

theorem success_ne_failure {M : Medium} {β : Type} (v : β) (d : Cursor M) (e : Failure M) :
    Run.success v d ≠ .failure e := by
  intro h
  cases congrFun h []

theorem literal_success_iff (hc : c.Before c.remaining) :
    (∃ v, (Parser.literal w).evalWith enter c = .success v d) ↔
      w.toList <+: c.remaining ∧ d = c.past w.toList := by
  by_cases hw : w.toList <+: c.remaining
  · obtain ⟨rest, hrest⟩ := hw
    rw [← hrest] at hc ⊢
    rw [hc.literal enter w]
    constructor
    · rintro ⟨v, hv⟩
      cases congrFun hv []
      exact ⟨List.prefix_append _ _, rfl⟩
    · rintro ⟨-, rfl⟩
      exact ⟨_, rfl⟩
  · rw [literal_of_not enter w hw]
    exact iff_of_false (fun ⟨v, hv⟩ => success_ne_failure v d _ hv.symm) fun h => hw h.1

/-- One literal and then the other are read where both stand in a row. -/
theorem both_success_iff (hc : c.Before c.remaining) :
    (∃ v, (Parser.both (.literal w) (.literal w')).evalWith enter c = .success v d) ↔
      w.toList ++ w'.toList <+: c.remaining ∧ d = c.past (w.toList ++ w'.toList) := by
  have hrun : (Parser.both (.literal w) (.literal w')).evalWith enter c =
      ((Parser.literal w).evalWith enter c).andThen fun v next =>
        ((Parser.literal w').evalWith enter next).map (Value.pair v) := rfl
  rw [hrun]
  by_cases hw : w.toList <+: c.remaining
  · obtain ⟨rest, hrest⟩ := hw
    rw [← hrest] at hc ⊢
    have hnext := hc.past
    rw [hc.literal enter w, andThen, handle_of_success, List.prefix_append_right_inj, past_append]
    by_cases hw' : w'.toList <+: rest
    · obtain ⟨rest', rfl⟩ := hw'
      rw [hnext.literal enter w', map_success]
      constructor
      · rintro ⟨v, hv⟩
        cases congrFun hv []
        exact ⟨List.prefix_append _ _, rfl⟩
      · rintro ⟨-, rfl⟩
        exact ⟨_, rfl⟩
    · rw [literal_of_not enter w' (by rwa [hnext.remaining]), map_failure]
      exact iff_of_false (fun ⟨v, hv⟩ => success_ne_failure v d _ hv.symm) fun h => hw' h.1
  · rw [literal_of_not enter w hw, andThen, handle_of_failure]
    refine iff_of_false (fun ⟨v, hv⟩ => success_ne_failure v d _ hv.symm) fun h => hw ?_
    exact (List.prefix_append _ _).trans h.1

/-- **A literal is read exactly where its bytes are the next ones.** Consider a cursor that is
reached from the beginning of a text that 64-bit numbers can measure. If the bytes from there on
begin with those of the literal, it is read: the value is the literal, the cursor is as many bytes
further on, and there the rest remains. Otherwise it fails at the cursor where it was tried, with
the message that names it, be it that too few bytes remain, that it would end inside a character, or
that the bytes that can be seen are others. So it is never a fault, and two texts in a row are read
by one literal exactly if they are by two, up to the same cursor. -/
theorem literal_exact {s : Source text} (hs : s.size < UInt64.size) (hc : s.start.Reaches c) :
    let next : Cursor text := ⟨s, c.offset + w.utf8ByteSize⟩
    let bytes := (utf8 s.elems).drop c.offset
    (utf8 w.toList <+: bytes →
        (Parser.literal w).evalWith enter c = .success (.str w) next ∧
          bytes = utf8 w.toList ++ utf8 next.remaining ∧
          c.remaining = w.toList ++ next.remaining) ∧
      (¬ utf8 w.toList <+: bytes →
        (Parser.literal w).evalWith enter c =
          .failure ⟨"Expected string literal \"" ++ w ++ "\"", c⟩) ∧
      (utf8 w.toList <+: bytes ↔ c.peek w.utf8ByteSize = some w.toList) ∧
      (c.peek w.utf8ByteSize = none ↔ c.length < w.utf8ByteSize ∨ ¬ next.Placed) ∧
      ∀ w' d, (∃ v, (Parser.literal (w ++ w')).evalWith enter c = .success v d) ↔
        ∃ v, (Parser.both (.literal w) (.literal w')).evalWith enter c = .success v d := by
  intro next bytes
  obtain ⟨hsource, -, hplaced⟩ := hc.ahead (placed_start s)
  have hsource' : c.source = s := hsource
  have hbefore : c.Before c.remaining := before_of_reaches hs hc
  have hbytes : bytes = utf8 c.remaining := by rw [← utf8_drop_offset hplaced, hsource']
  have hsize : Units.size Char.utf8Size w.toList = w.utf8ByteSize := by
    rw [← utf8ByteSize_ofList, String.ofList_toList]
  have hnext : c.past w.toList = next := by
    unfold Cursor.past
    rw [hsource', hsize]
  rw [hbytes, utf8_prefix_iff]
  refine ⟨?_, literal_of_not enter w, ⟨?_, ?_⟩, ?_, fun w' d => ?_⟩
  · rintro ⟨rest, hrest⟩
    rw [← hrest] at hbefore
    have hremaining : next.remaining = rest := by rw [← hnext, hbefore.past.remaining]
    refine ⟨by rw [hbefore.literal enter w, hnext], ?_, ?_⟩
    · rw [hremaining, ← hrest, utf8_append]
    · rw [hremaining, hrest]
  · rintro ⟨rest, hrest⟩
    exact (Units.take?_eq_some_iff text.width_pos).2 ⟨rest, hrest.symm, hsize⟩
  · intro hpeek
    obtain ⟨rest, hrest, -⟩ := (Units.take?_eq_some_iff text.width_pos).1 hpeek
    exact ⟨rest, hrest.symm⟩
  · rw [hplaced.peek_eq_none_iff, hsource']
  · rw [literal_success_iff enter _ hbefore, both_success_iff enter w w' hbefore,
      String.toList_append]

end Literal

/-- At the `€` of `a€x`, which is three bytes long, `€` is read, and before an `x` too. `ab`, of two
bytes, would end inside it. -/
theorem literal_exact_inside :
    let s : Source text := ⟨0, ['a', '€', 'x']⟩
    let c : Cursor text := ⟨s, 1⟩
    let enter : Cell → Cursor text → Run text Value := fun _ _ => .endless
    s.size < UInt64.size ∧ s.start.Reaches c ∧
      utf8 "€".toList <+: (utf8 s.elems).drop 1 ∧
      (Parser.literal "€").evalWith enter c = .success (.str "€") ⟨s, 4⟩ ∧
      (∃ v, (Parser.both (.literal "€") (.literal "x")).evalWith enter c = .success v ⟨s, 5⟩) ∧
      c.peek 2 = none ∧ ¬ utf8 "ab".toList <+: (utf8 s.elems).drop 1 ∧
      (Parser.literal "ab").evalWith enter c =
        .failure ⟨"Expected string literal \"ab\"", c⟩ := by
  intro s c enter
  have hs : s.size < UInt64.size := by decide
  have hc : s.start.Reaches c := Reaches.refl.forward (n := 1) rfl
  have heuro : utf8 "€".toList <+: (utf8 s.elems).drop 1 := by decide
  have hab : ¬ utf8 "ab".toList <+: (utf8 s.elems).drop 1 := by decide
  obtain ⟨hread, -, -, -, hboth⟩ := literal_exact enter "€" hs hc
  obtain ⟨-, hfails, -⟩ := literal_exact enter "ab" hs hc
  exact ⟨hs, hc, heuro, (hread heuro).1, (hboth "x" ⟨s, 5⟩).1 ⟨_, rfl⟩, rfl, hab, hfails hab⟩

end GrammarEngine
