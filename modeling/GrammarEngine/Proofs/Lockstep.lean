import GrammarEngine.Media.Slice
import GrammarEngine.Proofs.Failures
import GrammarEngine.Proofs.Integers

/-!
# Text and slices of characters

A grammar over text whose terminals are single characters can be written out for slices of
characters, with a token for each literal. The two are run in lockstep: on the same characters both
succeed, or both fail, at the same character, though the one counts bytes and the other characters.
Main statement: `parse_lockstep`.

`Run.Lockstep` relates two runs over different media, up to what is to hold of their values and of
their failures. A `Transcript` is a text with the slice of its characters, and `Transcribed` says of
two parsers that the second is the first with tokens for literals. A failure has one of three
causes, a parser that fails, a character that does not stand or input left over, and
`Transcript.Blames` says that two failures have the same: both runs have come to run corresponding
parsers, at the same character, that fail so.

1. Cursors that stand before the same character have the same in front of them, so a literal of one
   character stands where the token does (`agree_terminal`).
2. Runs in lockstep can be followed by runs in lockstep (`Lockstep.handle`, `agree_handle`). A
   repetition has different bounds on its rounds in the two, and reaches neither
   (`lockstep_repeated`).
3. Given the same bound on the cells inside one another, the parsers agree (`agree_eval`). The
   bounds that are really set differ, but no bound matters where a run ends (`agree_parse`).
-/

namespace GrammarEngine

open Outcome Cursor Run

/-! ## Runs in lockstep -/

section Lockstep

variable {M M' : Medium} {α α' β β' : Type}

/-- Both are values, or both are failures, and the relation for them holds. -/
inductive Outcome.Pairs (S : α → Cursor M → α' → Cursor M' → Prop)
    (F : Failure M → Failure M' → Prop) : Outcome M α → Outcome M' α' → Prop
  | success {v : α} {next : Cursor M} {v' : α'} {next' : Cursor M'} (h : S v next v' next') :
    Pairs S F (.success v next) (.success v' next')
  | failure {e : Failure M} {e' : Failure M'} (h : F e e') : Pairs S F (.failure e) (.failure e')

theorem Outcome.Pairs.imp {S S₁ : α → Cursor M → α' → Cursor M' → Prop}
    {F F₁ : Failure M → Failure M' → Prop} {o : Outcome M α} {o' : Outcome M' α'}
    (h : o.Pairs S F o') (hS : ∀ v next v' next', S v next v' next' → S₁ v next v' next')
    (hF : ∀ e e', F e e' → F₁ e e') : o.Pairs S₁ F₁ o' := by
  cases h with
  | success h => exact .success (hS _ _ _ _ h)
  | failure h => exact .failure (hF _ _ h)

/-- What is known of each outcome is known of the pair. -/
theorem Outcome.Pairs.knowing {S : α → Cursor M → α' → Cursor M' → Prop}
    {F : Failure M → Failure M' → Prop} {o : Outcome M α} {o' : Outcome M' α'}
    {P : Outcome M α → Prop} {P' : Outcome M' α' → Prop} (h : o.Pairs S F o') (ho : P o)
    (ho' : P' o') :
    o.Pairs
      (fun v next v' next' => S v next v' next' ∧ P (.success v next) ∧ P' (.success v' next'))
      (fun e e' => F e e' ∧ P (.failure e) ∧ P' (.failure e')) o' := by
  cases h with
  | success h => exact .success ⟨h, ho, ho'⟩
  | failure h => exact .failure ⟨h, ho, ho'⟩

namespace Run

/-- Whatever cells are built before, both runs end, and in outcomes that are paired, or neither
ends. -/
def Lockstep (S : α → Cursor M → α' → Cursor M' → Prop) (F : Failure M → Failure M' → Prop)
    (run : Run M α) (run' : Run M' α') : Prop :=
  ∀ built built',
    Option.Rel (fun s s' => s.outcome.Pairs S F s'.outcome) (run built) (run' built')

variable {S : α → Cursor M → α' → Cursor M' → Prop} {F : Failure M → Failure M' → Prop}
  {S' : β → Cursor M → β' → Cursor M' → Prop} {F' : Failure M → Failure M' → Prop}
  {run : Run M α} {run' : Run M' α'}

theorem EndsIn.lockstep {o : Outcome M α} {o' : Outcome M' α'} (h : run.EndsIn o)
    (h' : run'.EndsIn o') (ho : o.Pairs S F o') : Lockstep S F run run' := by
  intro built built'
  obtain ⟨s, hs, rfl⟩ := h built
  obtain ⟨s', hs', rfl⟩ := h' built'
  rw [hs, hs']
  exact .some ho

theorem lockstep_success {v : α} {next : Cursor M} {v' : α'} {next' : Cursor M'}
    (h : S v next v' next') : Lockstep S F (success v next) (success v' next') :=
  (endsIn_done _).lockstep (endsIn_done _) (.success h)

theorem lockstep_failure {e : Failure M} {e' : Failure M'} (h : F e e') :
    Lockstep S F (failure e) (failure e') :=
  (endsIn_done _).lockstep (endsIn_done _) (.failure h)

theorem lockstep_endless : Lockstep S F endless endless := fun _ _ => .none

/-- What was logged before does not matter. -/
theorem rel_after {x : Option (Finish M α)} {x' : Option (Finish M' α')}
    (h : Option.Rel (fun s s' => s.outcome.Pairs S F s'.outcome) x x') (l l' : List Record) :
    Option.Rel (fun s s' => s.outcome.Pairs S F s'.outcome) (x.map (Finish.after l))
      (x'.map (Finish.after l')) := by
  cases h with
  | none => exact .none
  | some h => exact .some h

theorem Lockstep.noting (h : Lockstep S F run run') (r r' : Record) :
    Lockstep S F (noting r run) (noting r' run') :=
  fun built built' => rel_after (h built built') [r] [r']

/-- Marking a cell changes what is built before a run and what has been logged. -/
theorem exists_building (k : Cell) (notes : List Record) (run : Run M α) (built : List Cell) :
    ∃ b l, building k notes run built = (run b).map (Finish.after l) := by
  unfold Run.building
  by_cases hk : k ∈ built
  · rw [if_pos hk]
    exact ⟨built, [], Option.map_id'.symm⟩
  · rw [if_neg hk]
    exact ⟨k :: built, .building :: notes, rfl⟩

theorem Lockstep.building (h : Lockstep S F run run') (k k' : Cell) (notes notes' : List Record) :
    Lockstep S F (building k notes run) (building k' notes' run') := by
  intro built built'
  obtain ⟨b, l, hb⟩ := exists_building k notes run built
  obtain ⟨b', l', hb'⟩ := exists_building k' notes' run' built'
  rw [hb, hb']
  exact rel_after (h b b') l l'

theorem Lockstep.imp (h : Lockstep S F run run')
    {S₁ : α → Cursor M → α' → Cursor M' → Prop} {F₁ : Failure M → Failure M' → Prop}
    (hS : ∀ v next v' next', S v next v' next' → S₁ v next v' next')
    (hF : ∀ e e', F e e' → F₁ e e') : Lockstep S₁ F₁ run run' := by
  intro built built'
  have hb := h built built'
  generalize run built = x at hb ⊢
  generalize run' built' = x' at hb ⊢
  cases hb with
  | none => exact .none
  | some hp => exact .some (hp.imp hS hF)

/-- What each run ensures is known of the pair. -/
theorem Lockstep.knowing (h : Lockstep S F run run') {P : Outcome M α → Prop}
    {P' : Outcome M' α' → Prop} (hP : run.Ensures P) (hP' : run'.Ensures P') :
    Lockstep
      (fun v next v' next' => S v next v' next' ∧ P (.success v next) ∧ P' (.success v' next'))
      (fun e e' => F e e' ∧ P (.failure e) ∧ P' (.failure e')) run run' := by
  intro built built'
  have hb := h built built'
  have hr := hP built
  have hr' := hP' built'
  generalize run built = x at hb hr ⊢
  generalize run' built' = x' at hb hr' ⊢
  cases hb with
  | none => exact .none
  | @some s s' hp => exact .some (hp.knowing (hr s rfl) (hr' s' rfl))

/-- **Sequencing.** Both runs go on from their values, or both from their failures. -/
theorem Lockstep.handle (h : Lockstep S F run run') {onSuccess : α → Cursor M → Run M β}
    {onSuccess' : α' → Cursor M' → Run M' β'} {onFailure : Failure M → Run M β}
    {onFailure' : Failure M' → Run M' β'}
    (hs : ∀ v next v' next', S v next v' next' →
      Lockstep S' F' (onSuccess v next) (onSuccess' v' next'))
    (hf : ∀ e e', F e e' → Lockstep S' F' (onFailure e) (onFailure' e')) :
    Lockstep S' F' (run.handle onSuccess onFailure) (run'.handle onSuccess' onFailure') := by
  intro built built'
  have hb := h built built'
  unfold Run.handle
  generalize run built = x at hb ⊢
  generalize run' built' = x' at hb ⊢
  cases hb with
  | none => exact .none
  | @some s s' hp =>
    obtain ⟨o, b, log⟩ := s
    obtain ⟨o', b', log'⟩ := s'
    cases hp with
    | success hv => exact rel_after (hs _ _ _ _ hv b b') log log'
    | failure he => exact rel_after (hf _ _ he b b') log log'

theorem Lockstep.map (h : Lockstep S F run run') {f : α → β} {f' : α' → β'}
    (hf : ∀ v next v' next', S v next v' next' → S' (f v) next (f' v') next') :
    Lockstep S' F (run.map f) (run'.map f') :=
  h.handle (fun _ _ _ _ hv => lockstep_success (hf _ _ _ _ hv)) fun _ _ he => lockstep_failure he

end Run

end Lockstep

/-! ## Text and its characters -/

/-- Characters that are yielded as the function says. -/
abbrev ElemKind.charactersAs (value : Char → Value) : ElemKind where
  Elem := Char
  decEq := inferInstance
  value := value
  number? _ := none
  written := Text.quotedChar

/-- Slices of such characters. -/
abbrev charSlice (value : Char → Value) : Medium := slice (.charactersAs value)

variable {value : Char → Value}

/-- The parser of one character of a text, as a literal. -/
abbrev Parser.letter (c : Char) : Parser text := .terminal (.literal c.toString)

/-- The parser of one character of a slice, as a token. -/
abbrev Parser.token (value : Char → Value) (c : Char) : Parser (charSlice value) :=
  .terminal (.token c)

theorem recognise_letter (c : Char) (xs : List Char) :
    text.recognise (.literal c.toString) xs =
      if xs.head? = some c then some (.str c.toString, 1) else none :=
  recognise_character (String.toList_singleton c) xs

theorem recognise_token (c : Char) (xs : List Char) :
    (charSlice value).recognise (.token c) xs =
      if xs.head? = some c then some (value c, 1) else none := by
  cases xs with
  | nil => rfl
  | cons x xs =>
    show (if x = c then some (value x) else none).map (fun v => (v, 1)) = _
    by_cases hx : x = c
    · simp [hx]
    · simp [hx]

/-- A text and the slice of its characters. -/
structure Transcript (value : Char → Value) where
  bytes : Source text
  chars : Source (charSlice value)
  elems_eq : chars.elems = bytes.elems

namespace Transcript

variable (T : Transcript value)

/-- The number of characters. -/
def length : Nat := T.bytes.elems.length

/-- The cursor in the text after `k` characters: its offset is their length in UTF-8. -/
def byteCursor (k : Nat) : Cursor text :=
  ⟨T.bytes, Units.size Char.utf8Size (T.bytes.elems.take k)⟩

/-- The cursor in the slice after `k` characters. -/
def charCursor (k : Nat) : Cursor (charSlice value) := ⟨T.chars, k⟩

variable {T} {j k : Nat}

theorem byteCursor_before (hs : T.bytes.size < UInt64.size) (k : Nat) :
    (T.byteCursor k).Before (T.bytes.elems.drop k) := by
  have h := before_start hs
  rw [← List.take_append_drop k T.bytes.elems] at h
  have hpast := h.past
  rw [Cursor.past, Source.start, Nat.zero_add] at hpast
  exact hpast

theorem charCursor_before (hs : T.bytes.size < UInt64.size) (hk : k ≤ T.length) :
    (T.charCursor k).Before (T.bytes.elems.drop k) := by
  have hsize : T.chars.size < UInt64.size := by
    unfold Source.size
    rw [Units.size_one, T.elems_eq]
    exact Nat.lt_of_le_of_lt (Units.length_le_size Char.utf8Size_pos _) hs
  have h := before_start hsize
  rw [T.elems_eq, ← List.take_append_drop k T.bytes.elems] at h
  have hpast := h.past
  rw [Cursor.past, Source.start, Nat.zero_add, Units.size_one, List.length_take_of_le hk] at hpast
  exact hpast

theorem byteCursor_past {x : Char} {rest : List Char} (h : T.bytes.elems.drop k = x :: rest) :
    (T.byteCursor k).past [x] = T.byteCursor (k + 1) := by
  unfold byteCursor Cursor.past
  rw [List.take_add, h, Units.size_append]
  rfl

/-- Different characters are at different offsets. -/
theorem byteCursor_offset_inj (hs : T.bytes.size < UInt64.size) (hj : j ≤ T.length)
    (hk : k ≤ T.length) : (T.byteCursor j).offset = (T.byteCursor k).offset ↔ j = k := by
  refine ⟨fun h => ?_, fun h => h ▸ rfl⟩
  have hcursor : T.byteCursor j = T.byteCursor k := congrArg (Cursor.mk T.bytes) h
  have hdrop : T.bytes.elems.drop j = T.bytes.elems.drop k := by
    rw [← (byteCursor_before hs j).remaining, hcursor, (byteCursor_before hs k).remaining]
  have hlength := congrArg List.length hdrop
  rw [List.length_drop, List.length_drop] at hlength
  unfold length at hj hk
  omega

theorem byteCursor_isEmpty (hs : T.bytes.size < UInt64.size) :
    (T.byteCursor k).isEmpty = true ↔ T.length ≤ k :=
  (byteCursor_before hs k).isEmpty_iff.trans List.drop_eq_nil_iff

theorem charCursor_isEmpty (hs : T.bytes.size < UInt64.size) (hk : k ≤ T.length) :
    (T.charCursor k).isEmpty = true ↔ T.length ≤ k :=
  (charCursor_before hs hk).isEmpty_iff.trans List.drop_eq_nil_iff

end Transcript

/-! ## Values and parsers that correspond -/

/-- Values that are the same but for the characters in them, which stand as texts of one character
in the first. -/
inductive Alike (value : Char → Value) : Value → Value → Prop
  | char (c : Char) : Alike value (.str c.toString) (value c)
  | unit : Alike value .unit .unit
  | bool (b : Bool) : Alike value (.bool b) (.bool b)
  | int (n : Int64) : Alike value (.int n) (.int n)
  | float (x : Binary64) : Alike value (.float x) (.float x)
  | str (s : String) : Alike value (.str s) (.str s)
  | nil : Alike value (.list []) (.list [])
  | cons {v v' : Value} {vs vs' : List Value} (h : Alike value v v')
    (hs : Alike value (.list vs) (.list vs')) : Alike value (.list (v :: vs)) (.list (v' :: vs'))
  | pair {a a' b b' : Value} (ha : Alike value a a') (hb : Alike value b b') :
    Alike value (.pair a b) (.pair a' b')
  | absent : Alike value .absent .absent
  | present {v v' : Value} (h : Alike value v v') : Alike value (.present v) (.present v')
  | left {v v' : Value} (h : Alike value v v') : Alike value (.left v) (.left v')
  | right {v v' : Value} (h : Alike value v v') : Alike value (.right v) (.right v')
  | token (t : Token) : Alike value (.token t) (.token t)

theorem Alike.list {vs vs' : List Value} (h : List.Forall₂ (Alike value) vs vs') :
    Alike value (.list vs) (.list vs') := by
  induction h with
  | nil => exact .nil
  | cons h _ ih => exact .cons h ih

mutual

theorem Alike.refl : ∀ v, Alike value v v
  | .unit => .unit
  | .bool b => .bool b
  | .int n => .int n
  | .float x => .float x
  | .str s => .str s
  | .list vs => Alike.refl_list vs
  | .pair a b => .pair (Alike.refl a) (Alike.refl b)
  | .absent => .absent
  | .present v => .present (Alike.refl v)
  | .left v => .left (Alike.refl v)
  | .right v => .right (Alike.refl v)
  | .token t => .token t

theorem Alike.refl_list : ∀ vs, Alike value (.list vs) (.list vs)
  | [] => .nil
  | v :: vs => .cons (Alike.refl v) (Alike.refl_list vs)

end

/-- Where characters are yielded as texts too, alike is the same. -/
theorem alike_iff_eq {v v' : Value} : Alike (fun c => .str c.toString) v v' ↔ v = v' := by
  constructor
  · intro h
    induction h with
    | cons _ _ ih ihs => cases ihs; rw [ih]
    | pair _ _ iha ihb => rw [iha, ihb]
    | present _ ih | left _ ih | right _ ih => rw [ih]
    | _ => rfl
  · rintro rfl
    exact .refl v

/-- The second parser is the first, with a token in the place of each literal. Its functions take
alike values to alike values, and do not look at messages. -/
inductive Transcribed (value : Char → Value) :
    Parser text → Parser (charSlice value) → Prop
  | succeed {v v' : Value} (h : Alike value v v') : Transcribed value (.succeed v) (.succeed v')
  | fail (message : String) : Transcribed value (.fail message) (.fail message)
  | terminal (c : Char) : Transcribed value (.letter c) (.token value c)
  | map {p q} {f f' : Value → Value} (h : Transcribed value p q)
    (hf : ∀ v v', Alike value v v' → Alike value (f v) (f' v')) :
    Transcribed value (p.map f) (q.map f')
  | recover {p q} {f f' : String → Value} (h : Transcribed value p q)
    (hf : ∀ m m', Alike value (f m) (f' m')) : Transcribed value (p.recover f) (q.recover f')
  | both {p q p' q'} (h : Transcribed value p q) (h' : Transcribed value p' q') :
    Transcribed value (p.both p') (q.both q')
  | first {p q p' q'} (h : Transcribed value p q) (h' : Transcribed value p' q') :
    Transcribed value (p.first p') (q.first q')
  | second {p q p' q'} (h : Transcribed value p q) (h' : Transcribed value p' q') :
    Transcribed value (p.second p') (q.second q')
  | choice {p q p' q'} (h : Transcribed value p q) (h' : Transcribed value p' q') :
    Transcribed value (p.choice p') (q.choice q')
  | tagged {p q p' q'} (h : Transcribed value p q) (h' : Transcribed value p' q') :
    Transcribed value (p.tagged p') (q.tagged q')
  | many {p q} (h : Transcribed value p q) : Transcribed value p.many q.many
  | cell (k : Cell) : Transcribed value (.cell k) (.cell k)
  | wrapped {p q} (h : Transcribed value p q) : Transcribed value p.wrapped q.wrapped
  | whole {p q} (h : Transcribed value p q) : Transcribed value p.whole q.whole

theorem Transcribed.opt {p q} (h : Transcribed value p q) : Transcribed value p.opt q.opt :=
  .recover (.map h fun _ _ => .present) fun _ _ => .absent

namespace Transcript

/-! ## Outcomes that correspond -/

variable {β β' : Type} (T : Transcript value) (g : Grammar text) (g' : Grammar (charSlice value))

/-- Corresponding values, at the same character, from `k` on. -/
def Reads (V : β → β' → Prop) (k : Nat) (v : β) (next : Cursor text) (v' : β')
    (next' : Cursor (charSlice value)) : Prop :=
  ∃ j, k ≤ j ∧ j ≤ T.length ∧ next = T.byteCursor j ∧ next' = T.charCursor j ∧ V v v'

/-- From `p` and `q` at character `k` both runs come to run `a` and `b`, at character `j`. -/
structure Comes (k : Nat) (p : Parser text) (q : Parser (charSlice value)) (j : Nat)
    (a : Parser text) (b : Parser (charSlice value)) : Prop where
  le : k ≤ j
  le_length : j ≤ T.length
  bytes : g.Runs p (T.byteCursor k) a (T.byteCursor j)
  chars : g'.Runs q (T.charCursor k) b (T.charCursor j)

/-- The failures have one cause. -/
inductive Blames (k : Nat) (p : Parser text) (q : Parser (charSlice value)) :
    Failure text → Failure (charSlice value) → Prop
  /-- Both runs come to a parser that fails. -/
  | fail {j : Nat} {message : String} (h : T.Comes g g' k p q j (.fail message) (.fail message)) :
    Blames k p q ⟨message, T.byteCursor j⟩ ⟨message, T.charCursor j⟩
  /-- Both runs come to a character that does not stand there. -/
  | terminal {j : Nat} {c : Char} (h : T.Comes g g' k p q j (.letter c) (.token value c))
    (hc : T.bytes.elems[j]? ≠ some c) :
    Blames k p q ⟨text.expectation (.literal c.toString), T.byteCursor j⟩
      ⟨(charSlice value).expectation (.token c), T.charCursor j⟩
  /-- Both runs come to parsers of the whole input, whose values are there before its end. -/
  | leftover {i j : Nat} {a : Parser text} {b : Parser (charSlice value)} {v v' : Value}
    (h : T.Comes g g' k p q i a.whole b.whole) (hij : i ≤ j) (hj : j < T.length)
    (hv : g.Gives a (T.byteCursor i) (.success v (T.byteCursor j)))
    (hv' : g'.Gives b (T.charCursor i) (.success v' (T.charCursor j))) :
    Blames k p q ⟨leftoverMessage, T.byteCursor j⟩ ⟨leftoverMessage, T.charCursor j⟩

variable {T g g'} {V : β → β' → Prop} {i j k : Nat} {p p₁ : Parser text}
  {q q₁ : Parser (charSlice value)} {e : Failure text} {e' : Failure (charSlice value)}

theorem Comes.refl (hk : k ≤ T.length) : T.Comes g g' k p q k p q :=
  ⟨Nat.le_refl k, hk, .refl _ _, .refl _ _⟩

theorem Comes.call {a : Parser text} {b : Parser (charSlice value)} (hkj : k ≤ j)
    (hp : g.Calls p (T.byteCursor k) p₁ (T.byteCursor j))
    (hq : g'.Calls q (T.charCursor k) q₁ (T.charCursor j)) (h : T.Comes g g' j p₁ q₁ i a b) :
    T.Comes g g' k p q i a b :=
  ⟨Nat.le_trans hkj h.le, h.le_length, .call hp h.bytes, .call hq h.chars⟩

theorem Blames.call (hkj : k ≤ j) (hp : g.Calls p (T.byteCursor k) p₁ (T.byteCursor j))
    (hq : g'.Calls q (T.charCursor k) q₁ (T.charCursor j)) (h : T.Blames g g' j p₁ q₁ e e') :
    T.Blames g g' k p q e e' := by
  cases h with
  | fail h => exact .fail (h.call hkj hp hq)
  | terminal h hc => exact .terminal (h.call hkj hp hq) hc
  | leftover h hij hj hv hv' => exact .leftover (h.call hkj hp hq) hij hj hv hv'

/-- Both failures are at the same character. -/
theorem Blames.next (h : T.Blames g g' k p q e e') :
    ∃ j, k ≤ j ∧ j ≤ T.length ∧ e.next = T.byteCursor j ∧ e'.next = T.charCursor j := by
  cases h with
  | fail h => exact ⟨_, h.le, h.le_length, rfl, rfl⟩
  | terminal h => exact ⟨_, h.le, h.le_length, rfl, rfl⟩
  | leftover h hij hj => exact ⟨_, Nat.le_trans h.le hij, Nat.le_of_lt hj, rfl, rfl⟩

/-! ## Runs of parsers that correspond -/

variable (T g g')

/-- The runs end in corresponding outcomes, as runs of `p` and `q` at character `k`. -/
abbrev Agree (V : β → β' → Prop) (k : Nat) (p : Parser text) (q : Parser (charSlice value)) :
    Run text β → Run (charSlice value) β' → Prop :=
  Lockstep (T.Reads V k) (T.Blames g g' k p q)

variable {T g g'} {run : Run text β} {run' : Run (charSlice value) β'}

theorem agree_success {v : β} {v' : β'} (hkj : k ≤ j) (hj : j ≤ T.length) (hv : V v v') :
    T.Agree g g' V k p q (success v (T.byteCursor j)) (success v' (T.charCursor j)) :=
  lockstep_success ⟨j, hkj, hj, rfl, rfl, hv⟩

theorem Agree.map_value {γ γ' : Type} {W : γ → γ' → Prop} (h : T.Agree g g' V k p q run run')
    {f : β → γ} {f' : β' → γ'} (hf : ∀ v v', V v v' → W (f v) (f' v')) :
    T.Agree g g' W k p q (run.map f) (run'.map f') :=
  h.map fun v _ v' _ ⟨j, hkj, hj, hn, hn', hv⟩ => ⟨j, hkj, hj, hn, hn', hf v v' hv⟩

/-- A part that both runs come to run, at the same character. -/
theorem Agree.call (hkj : k ≤ j) (hp : g.Calls p (T.byteCursor k) p₁ (T.byteCursor j))
    (hq : g'.Calls q (T.charCursor k) q₁ (T.charCursor j)) (h : T.Agree g g' V j p₁ q₁ run run') :
    T.Agree g g' V k p q run run' :=
  h.imp (fun _ _ _ _ ⟨i, hji, hi⟩ => ⟨i, Nat.le_trans hkj hji, hi⟩) fun _ _ => .call hkj hp hq

/-- A literal of one character stands where the token does, and takes one character. -/
theorem agree_terminal (hs : T.bytes.size < UInt64.size) (hk : k ≤ T.length) (c : Char)
    (enter : Cell → Cursor text → Run text Value)
    (enter' : Cell → Cursor (charSlice value) → Run (charSlice value) Value) :
    T.Agree g g' (Alike value) k (.letter c) (.token value c)
      ((Parser.letter c).evalWith enter (T.byteCursor k))
      ((Parser.token value c).evalWith enter' (T.charCursor k)) := by
  have hbytes := byteCursor_before hs k
  have hchars := charCursor_before hs hk
  by_cases hc : T.bytes.elems[k]? = some c
  · obtain ⟨hlt, hget⟩ := List.getElem?_eq_some_iff.1 hc
    have hdrop : T.bytes.elems.drop k = c :: T.bytes.elems.drop (k + 1) := by
      rw [List.drop_eq_getElem_cons hlt, hget]
    rw [hdrop] at hbytes hchars
    have hstands := hbytes.terminal ((recognise_letter c _).trans (if_pos rfl)) enter
    have hstands' := hchars.terminal ((recognise_token c _).trans (if_pos rfl)) enter'
    refine hstands.lockstep hstands' (.success ?_)
    exact ⟨k + 1, Nat.le_succ k, hlt, byteCursor_past hdrop, rfl, .char c⟩
  · have hhead : (T.bytes.elems.drop k).head? ≠ some c := by rwa [List.head?_drop]
    have hnone : text.recognise (.literal c.toString) (T.byteCursor k).remaining = none := by
      rw [hbytes.remaining, recognise_letter, if_neg hhead]
    have hnone' : (charSlice value).recognise (.token c) (T.charCursor k).remaining = none := by
      rw [hchars.remaining, recognise_token, if_neg hhead]
    exact (terminal_fails hnone enter).lockstep (terminal_fails hnone' enter')
      (.failure (.terminal (.refl hk) hc))

/-- Both runs have come to the end of the input, or neither has. -/
theorem agree_atEnd (hs : T.bytes.size < UInt64.size) (hk : k ≤ T.length) (hkj : k ≤ j)
    (hj : j ≤ T.length) {v v' : Value} (hv : Alike value v v')
    (hp : g.Gives p (T.byteCursor k) (.success v (T.byteCursor j)))
    (hq : g'.Gives q (T.charCursor k) (.success v' (T.charCursor j))) :
    T.Agree g g' (Alike value) k p.whole q.whole
      (if (T.byteCursor j).isEmpty then success v (T.byteCursor j)
        else noting (.leftover (T.byteCursor j).length (T.byteCursor j).offset)
          (failure ⟨leftoverMessage, T.byteCursor j⟩))
      (if (T.charCursor j).isEmpty then success v' (T.charCursor j)
        else noting (.leftover (T.charCursor j).length (T.charCursor j).offset)
          (failure ⟨leftoverMessage, T.charCursor j⟩)) := by
  by_cases he : T.length ≤ j
  · rw [if_pos ((byteCursor_isEmpty hs).2 he), if_pos ((charCursor_isEmpty hs hj).2 he)]
    exact agree_success hkj hj hv
  · rw [if_neg (mt (byteCursor_isEmpty hs).1 he), if_neg (mt (charCursor_isEmpty hs hj).1 he)]
    exact (lockstep_failure (.leftover (.refl hk) hkj (Nat.not_le.1 he) hp hq)).noting _ _

/-- The rounds of two repetitions agree, whatever bounds above the number of characters are set. -/
theorem lockstep_repeated (hs : T.bytes.size < UInt64.size) {step : Cursor text → Run text Value}
    {step' : Cursor (charSlice value) → Run (charSlice value) Value}
    (h : ∀ j, j ≤ T.length → Lockstep (T.Reads (Alike value) j) (fun _ _ => True)
      (step (T.byteCursor j)) (step' (T.charCursor j))) {bound bound' : Nat} (hk : k ≤ T.length)
    (hb : T.length - k < bound) (hb' : T.length - k < bound') :
    Lockstep (T.Reads (List.Forall₂ (Alike value)) k) (fun _ _ => False)
      (repeated step bound (T.byteCursor k)) (repeated step' bound' (T.charCursor k)) := by
  induction bound generalizing k bound' with
  | zero => omega
  | succ bound ih =>
    obtain ⟨bound', rfl⟩ : ∃ n, bound' = n + 1 := ⟨bound' - 1, by omega⟩
    have stop : Lockstep (T.Reads (List.Forall₂ (Alike value)) k) (fun _ _ => False)
        (success [] (T.byteCursor k)) (success [] (T.charCursor k)) :=
      lockstep_success ⟨k, Nat.le_refl k, hk, rfl, rfl, .nil⟩
    refine (h k hk).handle ?_ fun _ _ _ => stop
    rintro v _ v' _ ⟨j, hkj, hj, rfl, rfl, hv⟩
    have hoffset := byteCursor_offset_inj hs hj hk
    have hoffset' : (T.charCursor j).offset = (T.charCursor k).offset ↔ j = k := Iff.rfl
    by_cases hjk : j = k
    · rw [if_pos (hoffset.2 hjk), if_pos (hoffset'.2 hjk)]
      exact stop
    · rw [if_neg (mt hoffset.1 hjk), if_neg (mt hoffset'.1 hjk)]
      refine (ih hj (by omega) (by omega)).map ?_
      rintro vs _ vs' _ ⟨i, hji, hi, rfl, rfl, hvs⟩
      exact ⟨i, Nat.le_trans hkj hji, hi, rfl, rfl, .cons hv hvs⟩

/-- **Sequencing.** Both runs go on from their values, or both from their failures, at the same
character. -/
theorem agree_handle {n : Nat} (hp : g.Calls p (T.byteCursor k) p₁ (T.byteCursor k))
    (hq : g'.Calls q (T.charCursor k) q₁ (T.charCursor k))
    (h : T.Agree g g' (Alike value) k p₁ q₁ (p₁.evalWith (g.enter n) (T.byteCursor k))
      (q₁.evalWith (g'.enter n) (T.charCursor k)))
    {onSuccess : Value → Cursor text → Run text β}
    {onSuccess' : Value → Cursor (charSlice value) → Run (charSlice value) β'}
    {onFailure : Failure text → Run text β}
    {onFailure' : Failure (charSlice value) → Run (charSlice value) β'}
    (hs : ∀ j v v', k ≤ j → j ≤ T.length → Alike value v v' →
      g.Gives p₁ (T.byteCursor k) (.success v (T.byteCursor j)) →
      g'.Gives q₁ (T.charCursor k) (.success v' (T.charCursor j)) →
      T.Agree g g' V k p q (onSuccess v (T.byteCursor j)) (onSuccess' v' (T.charCursor j)))
    (hf : ∀ j m m', k ≤ j → j ≤ T.length →
      T.Blames g g' k p q ⟨m, T.byteCursor j⟩ ⟨m', T.charCursor j⟩ →
      g.Gives p₁ (T.byteCursor k) (.failure ⟨m, T.byteCursor j⟩) →
      g'.Gives q₁ (T.charCursor k) (.failure ⟨m', T.charCursor j⟩) →
      T.Agree g g' V k p q (onFailure ⟨m, T.byteCursor j⟩) (onFailure' ⟨m', T.charCursor j⟩)) :
    T.Agree g g' V k p q
      ((p₁.evalWith (g.enter n) (T.byteCursor k)).handle onSuccess onFailure)
      ((q₁.evalWith (g'.enter n) (T.charCursor k)).handle onSuccess' onFailure') := by
  refine (h.knowing (p₁.evalWith_gives n _) (q₁.evalWith_gives n _)).handle ?_ ?_
  · rintro v _ v' _ ⟨⟨j, hkj, hj, rfl, rfl, hv⟩, hg, hg'⟩
    exact hs j v v' hkj hj hv hg hg'
  · rintro ⟨m, _⟩ ⟨m', _⟩ ⟨he, hg, hg'⟩
    obtain ⟨j, hkj, hj, rfl, rfl⟩ := he.next
    exact hf j m m' hkj hj (he.call (Nat.le_refl k) hp hq) hg hg'

/-- Parsers that correspond agree, if the cells that they enter do. -/
theorem agree_evalWith (hs : T.bytes.size < UInt64.size) {n : Nat}
    (henter : ∀ a k, k ≤ T.length → T.Agree g g' (Alike value) k (.cell a) (.cell a)
      (g.enter n a (T.byteCursor k)) (g'.enter n a (T.charCursor k)))
    (h : Transcribed value p q) (hk : k ≤ T.length) :
    T.Agree g g' (Alike value) k p q (p.evalWith (g.enter n) (T.byteCursor k))
      (q.evalWith (g'.enter n) (T.charCursor k)) := by
  induction h generalizing k with
  | succeed hv => exact agree_success (Nat.le_refl k) hk hv
  | fail message => exact lockstep_failure (.fail (.refl hk))
  | terminal c => exact agree_terminal hs hk c _ _
  | cell a => exact henter a k hk
  | wrapped _ ih => exact (ih hk).call (Nat.le_refl k) .wrapped .wrapped
  | whole _ ih =>
    exact agree_handle .whole .whole (ih hk)
      (fun j v v' hkj hj hv hg hg' => agree_atEnd hs hk hkj hj hv hg hg')
      fun _ _ _ _ _ he _ _ => lockstep_failure he
  | map _ hf ih => exact ((ih hk).call (Nat.le_refl k) .map .map).map_value hf
  | recover _ hf ih =>
    exact agree_handle .recover .recover (ih hk)
      (fun j v v' hkj hj hv _ _ => agree_success hkj hj hv)
      fun j m m' hkj hj _ _ _ => agree_success hkj hj (hf m m')
  | both _ _ ih ih' =>
    refine agree_handle .both .both (ih hk) (fun j v v' hkj hj hv hg hg' => ?_)
      fun _ _ _ _ _ he _ _ => lockstep_failure he
    exact ((ih' hj).call hkj (.bothSecond hg) (.bothSecond hg')).map_value fun _ _ => .pair hv
  | first _ _ ih ih' =>
    refine agree_handle .first .first (ih hk) (fun j v v' hkj hj hv hg hg' => ?_)
      fun _ _ _ _ _ he _ _ => lockstep_failure he
    exact ((ih' hj).call hkj (.firstSecond hg) (.firstSecond hg')).map_value fun _ _ _ => hv
  | second _ _ ih ih' =>
    exact agree_handle .second .second (ih hk)
      (fun j v v' hkj hj _ hg hg' => (ih' hj).call hkj (.secondSecond hg) (.secondSecond hg'))
      fun _ _ _ _ _ he _ _ => lockstep_failure he
  | choice _ _ ih ih' =>
    refine agree_handle .choice .choice (ih hk)
      (fun j v v' hkj hj hv _ _ => agree_success hkj hj hv) fun j m m' hkj hj _ hg hg' => ?_
    exact ((ih' hj).call hkj (.choiceSecond hg) (.choiceSecond hg')).noting _ _
  | tagged _ _ ih ih' =>
    refine agree_handle .tagged .tagged (ih hk)
      (fun j v v' hkj hj hv _ _ => agree_success hkj hj hv.left) fun j m m' hkj hj _ hg hg' => ?_
    exact (((ih' hj).call hkj (.taggedSecond hg) (.taggedSecond hg')).map_value
      fun _ _ => .right).noting _ _
  | many _ ih =>
    -- the one bound counts the bytes that are left, the other the characters
    have hbytes := (byteCursor_before hs k).length_le
    have hchars := (charCursor_before hs hk).length_le
    rw [List.length_drop] at hbytes hchars
    have hrounds := lockstep_repeated hs
      (fun j hj => (ih hj).imp (fun _ _ _ _ hv => hv) fun _ _ _ => trivial) hk
      (Nat.lt_succ_of_le hbytes) (Nat.lt_succ_of_le hchars)
    exact Agree.map_value (hrounds.imp (fun _ _ _ _ hv => hv) fun _ _ he => he.elim)
      fun _ _ => Alike.list

/-- Parsers that correspond agree, if the cells of the grammars hold such parsers. -/
theorem agree_eval (hs : T.bytes.size < UInt64.size)
    (hg : ∀ a, Transcribed value (g.target a) (g'.target a)) (n : Nat)
    (h : Transcribed value p q) (hk : k ≤ T.length) :
    T.Agree g g' (Alike value) k p q (p.eval g n (T.byteCursor k))
      (q.eval g' n (T.charCursor k)) := by
  rw [Grammar.eval_eq_evalWith, Grammar.eval_eq_evalWith]
  induction n generalizing p q k with
  | zero => exact agree_evalWith hs (fun _ _ _ => lockstep_endless) h hk
  | succ n ih =>
    refine agree_evalWith hs (fun a k hk => Lockstep.building ?_ a a _ _) h hk
    rw [Grammar.eval_eq_evalWith, Grammar.eval_eq_evalWith]
    exact (ih (hg a) hk).call (Nat.le_refl k) .cell .cell

theorem agree_parse (hs : T.bytes.size < UInt64.size)
    (hg : ∀ a, Transcribed value (g.target a) (g'.target a)) (h : Transcribed value p q)
    (hk : k ≤ T.length) :
    T.Agree g g' (Alike value) k p q (g.parse p (T.byteCursor k))
      (g'.parse q (T.charCursor k)) := by
  intro built built'
  have hbytes := (byteCursor_before hs k).placed
  have hchars := (charCursor_before hs hk).placed
  -- one bound on the depth is as good as another, so both runs may be given the same
  have hrel := fun n => agree_eval hs hg n h hk built built'
  rcases hr : g.parse p (T.byteCursor k) built with _ | s
  · rcases hr' : g'.parse q (T.charCursor k) built' with _ | s'
    · exact .none
    · obtain ⟨n, hn'⟩ := (Grammar.parse_eq_some_iff hchars).1 hr'
      have hn := hrel n
      rw [hn'] at hn
      rcases he : p.eval g n (T.byteCursor k) built with _ | s
      · rw [he] at hn
        cases hn
      · rw [(Grammar.parse_eq_some_iff hbytes).2 ⟨n, he⟩] at hr
        cases hr
  · obtain ⟨n, he⟩ := (Grammar.parse_eq_some_iff hbytes).1 hr
    have hn := hrel n
    rw [he] at hn
    rcases he' : q.eval g' n (T.charCursor k) built' with _ | s'
    · rw [he'] at hn
      cases hn
    · rw [(Grammar.parse_eq_some_iff hchars).2 ⟨n, he'⟩, ← he']
      exact hn

/-- Slices of characters yield texts of one character, so there the values are the same. -/
theorem parse_characters {T : Transcript fun c => .str c.toString}
    (hs : T.bytes.size < UInt64.size) {g : Grammar text} {g' : Grammar (slice .characters)}
    (hg : ∀ a, Transcribed _ (g.target a) (g'.target a)) {p : Parser text}
    {q : Parser (slice .characters)} (h : Transcribed _ p q) (hk : k ≤ T.length)
    {built built' : List Cell} {s : Finish text Value} {v : Value} {next : Cursor text}
    (hr : g.parse p (T.byteCursor k) built = some s) (ho : s.outcome = .success v next) :
    ∃ s' j, g'.parse q (T.charCursor k) built' = some s' ∧
      s'.outcome = .success v (T.charCursor j) ∧ next = T.byteCursor j := by
  have hrel := agree_parse hs hg h hk built built'
  rw [hr] at hrel
  rcases hr' : g'.parse q (T.charCursor k) built' with _ | s'
  · rw [hr'] at hrel
    cases hrel
  · rw [hr'] at hrel
    cases hrel with
    | some hp =>
      rw [ho] at hp
      generalize ho' : s'.outcome = o' at hp
      cases hp with
      | success h =>
        obtain ⟨j, -, -, hn, hn', hv⟩ := h
        exact ⟨s', j, rfl, by rw [ho', alike_iff_eq.1 hv, hn'], hn⟩

end Transcript

/-- **Text and slices of characters are parsed in lockstep.** Let the parsers of one grammar be
those of another with tokens for literals of one character, and functions that take alike values to
alike values and do not look at messages. From any character of a text that 64-bit numbers can
measure, both parsers end or neither does, and they end alike: in alike values before the same
character, or in failures at the same character that have one cause. So the offset in the text is
always the length in UTF-8 of as many characters as the offset in the slice says. The same holds of
runs to the end of the input. -/
theorem Grammar.parse_lockstep {T : Transcript value} (hs : T.bytes.size < UInt64.size)
    {g : Grammar text} {g' : Grammar (charSlice value)}
    (hg : ∀ a, Transcribed value (g.target a) (g'.target a)) {p : Parser text}
    {q : Parser (charSlice value)} (h : Transcribed value p q) {k : Nat}
    (hk : k ≤ T.length) :
    T.Agree g g' (Alike value) k p q (g.parse p (T.byteCursor k)) (g'.parse q (T.charCursor k)) ∧
      T.Agree g g' (Alike value) k p.whole q.whole (g.parseAll p (T.byteCursor k))
        (g'.parseAll q (T.charCursor k)) :=
  ⟨Transcript.agree_parse hs hg h hk, Transcript.agree_parse hs hg h.whole hk⟩

/-- Accented letters and a full stop, read through a cell. In the slice characters are yielded as
words. -/
theorem Grammar.parse_lockstep_accents :
    let value : Char → Value := fun c => .token (.word c.toString)
    let T : Transcript value := ⟨⟨0, ['a', 'é', 'é', '.']⟩, ⟨1, ['a', 'é', 'é', '.']⟩, rfl⟩
    let g : Grammar text := ⟨#[.yields (.choice (.both (.letter 'é') (.cell 0)) (.letter '.'))]⟩
    let g' : Grammar (charSlice value) :=
      ⟨#[.yields (.choice (.both (.token value 'é') (.cell 0)) (.token value '.'))]⟩
    let v : Value := .pair (.str "é") (.pair (.str "é") (.str "."))
    T.bytes.size < UInt64.size ∧ (∀ a, Transcribed value (g.target a) (g'.target a)) ∧
      Transcribed value (.cell 0) (.cell 0) ∧ 1 ≤ T.length ∧
      (g.parseAll (.cell 0) (T.byteCursor 1) []).map Finish.outcome =
        some (.success v (T.byteCursor 4)) ∧
      ∃ s', g'.parseAll (.cell 0) (T.charCursor 1) [] = some s' ∧
        (Outcome.success v (T.byteCursor 4)).Pairs (T.Reads (Alike value) 1)
          (T.Blames g g' 1 (.whole (.cell 0)) (.whole (.cell 0))) s'.outcome := by
  intro value T g g' v
  have hs : T.bytes.size < UInt64.size := by decide
  have hg : ∀ a, Transcribed value (g.target a) (g'.target a) := by
    intro a
    cases a with
    | zero => exact .choice (.both (.terminal 'é') (.cell 0)) (.terminal '.')
    | succ a => exact .fail _
  have hk : 1 ≤ T.length := by decide
  have hv : (g.parseAll (.cell 0) (T.byteCursor 1) []).map Finish.outcome =
      some (.success v (T.byteCursor 4)) := by
    unfold g v T value
    rfl
  refine ⟨hs, hg, .cell 0, hk, hv, ?_⟩
  have hagree := (parse_lockstep hs hg (.cell 0) hk).2 [] []
  obtain ⟨s, hr, ho⟩ := Option.map_eq_some_iff.1 hv
  rw [hr] at hagree
  rcases hr' : g'.parseAll (.cell 0) (T.charCursor 1) [] with _ | s'
  · rw [hr'] at hagree
    cases hagree
  · rw [hr'] at hagree
    cases hagree with
    | some hp => exact ⟨s', rfl, ho ▸ hp⟩

end GrammarEngine
