import Mathlib.Data.List.Forall2
import GrammarEngine.Proofs.Faults

/-!
# What has been read is never looked at

Put something in front of a source and start behind it: everything goes on as from the beginning of
the source alone, only further on. A `Shift` is such a pair of sources; `S.Cursors c d` says that
`c` is where `d` is, behind what was put in front. The two cursors have the same in front of them
(`remaining_eq`), so a terminal does the same at both.

The functions of a parser are given cursors and could tell them apart. `S.Parsers p q` is the
relation of parsers whose functions do not, as far down as their answers go, and `evalWith_agree`
says that related parsers agree. Only a fault of the longer source can come between, where a
position is too large for 64 bits; so agreement is stated up to that, and `parse_shift` rules it
out.
-/

namespace GrammarEngine

open Outcome Run

variable {M : Medium} {α β : Type} {g : Grammar M}

/-! ## Cursors behind a front -/

/-- Two sources, of which the first has something in front of the second. -/
structure Shift (M : Medium) where
  long : Source M
  short : Source M
  front : List M.Elem
  long_elems : long.elems = front ++ short.elems

theorem Units.drop?_append {width : α → Nat} (hw : ∀ x, 0 < width x) (front rest : List α)
    (n : Nat) : drop? width (size width front + n) (front ++ rest) = drop? width n rest := by
  induction front with
  | nil => rw [size, Nat.zero_add, List.nil_append]
  | cons x front ih =>
    have := hw x
    rw [List.cons_append, drop?, size, if_neg (by omega), if_pos (by omega),
      show width x + size width front + n - width x = size width front + n by omega, ih]

namespace Shift

variable (S : Shift M)

/-- How far the positions are shifted. -/
def size : Nat := Units.size M.width S.front

theorem size_long : S.long.size = S.size + S.short.size := by
  unfold Source.size size
  rw [S.long_elems, Units.size_append]

/-- The first cursor is behind the front where the second is. -/
def Cursors (c d : Cursor M) : Prop := c = ⟨S.long, S.size + d.offset⟩ ∧ d.source = S.short

theorem cursors_start : S.Cursors ⟨S.long, S.size⟩ S.short.start := ⟨rfl, rfl⟩

variable {S} {c d : Cursor M}

theorem drop?_long (n : Nat) : Units.drop? M.width (S.size + n) S.long.elems =
    Units.drop? M.width n S.short.elems := by
  rw [S.long_elems]
  exact Units.drop?_append M.width_pos _ _ n

theorem placed_long : (⟨S.long, S.size⟩ : Cursor M).Placed := by
  unfold Cursor.Placed
  rw [← Nat.add_zero S.size, drop?_long]
  exact Cursor.placed_start S.short

theorem Cursors.offset_eq (h : S.Cursors c d) : c.offset = S.size + d.offset := by rw [h.1]

theorem Cursors.remaining_eq (h : S.Cursors c d) : c.remaining = d.remaining := by
  obtain ⟨rfl, hd⟩ := h
  unfold Cursor.remaining
  dsimp only
  rw [drop?_long, hd]

theorem Cursors.length_eq (h : S.Cursors c d) : c.length = d.length := by
  obtain ⟨rfl, hd⟩ := h
  unfold Cursor.length
  dsimp only
  rw [S.size_long, hd]
  omega

theorem Cursors.isEmpty_eq (h : S.Cursors c d) : c.isEmpty = d.isEmpty := by
  unfold Cursor.isEmpty
  rw [h.length_eq]

theorem Cursors.peek_eq (h : S.Cursors c d) (n : Nat) : c.peek n = d.peek n := by
  unfold Cursor.peek
  rw [h.remaining_eq]

/-! ## Outcomes, records and runs -/

variable (S)

/-- The same outcome, further on. -/
inductive Outcomes : Outcome M β → Outcome M β → Prop
  | success {c d : Cursor M} (v : β) (h : S.Cursors c d) (hr : c.remaining = d.remaining) :
    Outcomes (.success v c) (.success v d)
  | failure {c d : Cursor M} (message : String) (h : S.Cursors c d)
    (hr : c.remaining = d.remaining) : Outcomes (.failure ⟨message, c⟩) (.failure ⟨message, d⟩)
  | split (n position : Nat) :
    Outcomes (.fault (.split n (S.size + position))) (.fault (.split n position))

/-- The same record, about a place further on. -/
inductive Records : Record → Record → Prop
  | building : Records .building .building
  | compiling (pattern : String) : Records (.compiling pattern) (.compiling pattern)
  | leftover (length offset : Nat) :
    Records (.leftover length (S.size + offset)) (.leftover length offset)
  | fallback (offset : Nat) (message : String) :
    Records (.fallback (S.size + offset) message) (.fallback offset message)
  | leftFallback (offset : Nat) (message : String) :
    Records (.leftFallback (S.size + offset) message) (.leftFallback offset message)

/-- The same end, further on: the same outcome, the same cells and the same records. -/
structure Finishes (s t : Finish M β) : Prop where
  outcome : S.Outcomes s.outcome t.outcome
  built : s.built = t.built
  log : List.Forall₂ S.Records s.log t.log

/-- Both end, in the same way, or neither ends; or the first comes to too large a position. -/
inductive Ends : Option (Finish M β) → Option (Finish M β) → Prop
  | endless : Ends none none
  | finished {s t : Finish M β} (h : S.Finishes s t) : Ends (some s) (some t)
  | overflow (b : List Cell) (log : List Record) (t : Option (Finish M β)) :
    Ends (some ⟨.fault .overflow, b, log⟩) t

/-- The runs end in the same way from the same cells. -/
def Agree (run run' : Run M β) : Prop := ∀ built, S.Ends (run built) (run' built)

variable {S}

theorem Ends.after {x y : Option (Finish M β)} (h : S.Ends x y) {l l' : List Record}
    (hl : List.Forall₂ S.Records l l') :
    S.Ends (x.map (Finish.after l)) (y.map (Finish.after l')) := by
  cases h with
  | endless => exact .endless
  | finished h => exact .finished ⟨h.outcome, h.built, List.rel_append hl h.log⟩
  | overflow b log t => exact .overflow b (l ++ log) _

theorem Ends.rel {x y : Option (Finish M β)} (h : S.Ends x y)
    (hx : ∀ s, x = some s → s.outcome ≠ .fault .overflow) : Option.Rel S.Finishes x y := by
  cases h with
  | endless => exact .none
  | finished h => exact .some h
  | overflow b log t => exact (hx _ rfl rfl).elim

theorem agree_done {o o' : Outcome M β} (h : S.Outcomes o o') : S.Agree (done o) (done o') :=
  fun _ => .finished ⟨h, rfl, .nil⟩

theorem agree_success (v : β) (h : S.Cursors c d) : S.Agree (success v c) (success v d) :=
  agree_done (.success v h h.remaining_eq)

theorem agree_failure (message : String) (h : S.Cursors c d) :
    S.Agree (failure ⟨message, c⟩ : Run M β) (failure ⟨message, d⟩) :=
  agree_done (.failure message h h.remaining_eq)

theorem agree_endless : S.Agree (endless : Run M β) endless := fun _ => .endless

theorem Agree.noting {run run' : Run M β} (h : S.Agree run run') {r r' : Record}
    (hr : S.Records r r') : S.Agree (noting r run) (noting r' run') :=
  fun built => (h built).after (.cons hr .nil)

/-- The records of the building of a cell are about no place. -/
theorem records_building (g : Grammar M) (k : Cell) :
    List.Forall₂ S.Records (.building :: g.notes k) (.building :: g.notes k) := by
  refine .cons .building (List.forall₂_same.2 ?_)
  exact g.forall_notes (P := fun r => S.Records r r) Records.compiling k

theorem Agree.building {run run' : Run M β} (h : S.Agree run run') (g : Grammar M) (k : Cell) :
    S.Agree (building k (g.notes k) run) (building k (g.notes k) run') := by
  intro built
  unfold Run.building
  by_cases hk : k ∈ built
  · rw [if_pos hk, if_pos hk]
    exact h built
  · rw [if_neg hk, if_neg hk]
    exact (h (k :: built)).after (records_building g k)

/-- **Sequencing.** Both runs go on from the same value or the same message, at cursors that are
shifted. -/
theorem Agree.handle {run run' : Run M α} (h : S.Agree run run')
    {onSuccess onSuccess' : α → Cursor M → Run M β} {onFailure onFailure' : Failure M → Run M β}
    (hs : ∀ v c d, S.Cursors c d → S.Agree (onSuccess v c) (onSuccess' v d))
    (hf : ∀ m c d, S.Cursors c d → S.Agree (onFailure ⟨m, c⟩) (onFailure' ⟨m, d⟩)) :
    S.Agree (run.handle onSuccess onFailure) (run'.handle onSuccess' onFailure') := by
  intro built
  have hb := h built
  unfold Run.handle
  generalize run built = x at hb ⊢
  generalize run' built = y at hb ⊢
  cases hb with
  | endless => exact .endless
  | overflow b log t => exact .overflow b log _
  | @finished s t h =>
    obtain ⟨o, b, log⟩ := s
    obtain ⟨o', b', log'⟩ := t
    obtain ⟨ho, hb, hl⟩ := h
    dsimp only at ho hb hl
    subst hb
    cases ho with
    | success v hc => exact (hs v _ _ hc b).after hl
    | failure m hc => exact (hf m _ _ hc b).after hl
    | split n position => exact .finished ⟨.split n position, rfl, hl⟩

theorem Agree.map {run run' : Run M α} (h : S.Agree run run') (f : α → β) :
    S.Agree (run.map f) (run'.map f) :=
  h.handle (fun v _ _ hc => agree_success (f v) hc) fun m _ _ hc => agree_failure m hc

theorem Agree.toEnd {run run' : Run M Value} (h : S.Agree run run') :
    S.Agree run.toEnd run'.toEnd := by
  refine h.handle (fun v c d hc => ?_) fun m _ _ hc => agree_failure m hc
  rw [hc.isEmpty_eq]
  by_cases he : d.isEmpty = true
  · rw [if_pos he, if_pos he]
    exact agree_success v hc
  · rw [if_neg he, if_neg he, hc.length_eq, hc.offset_eq]
    exact (agree_failure _ hc).noting (.leftover _ _)

theorem Agree.repeated {step step' : Cursor M → Run M α}
    (h : ∀ c d, S.Cursors c d → S.Agree (step c) (step' d)) (bound : Nat) (hc : S.Cursors c d) :
    S.Agree (repeated step bound c) (repeated step' bound d) := by
  induction bound generalizing c d with
  | zero => exact agree_endless
  | succ bound ih =>
    refine (h c d hc).handle (fun v c' d' hc' => ?_) fun _ _ _ _ => agree_success [] hc
    have ho : c'.offset = c.offset ↔ d'.offset = d.offset := by
      rw [hc'.offset_eq, hc.offset_eq]
      exact Nat.add_left_cancel_iff
    by_cases hd : d'.offset = d.offset
    · rw [if_pos (ho.2 hd), if_pos hd]
      exact agree_success [] hc
    · rw [if_neg (mt ho.1 hd), if_neg hd]
      exact (ih hc').map _

/-- A move goes equally far behind the front, or to a position that is too large. -/
theorem agree_forward (v : β) (n : Nat) (hc : S.Cursors c d) :
    S.Agree (done (.ofForward v (c.forward n))) (done (.ofForward v (d.forward n))) := by
  obtain ⟨rfl, hd⟩ := hc
  unfold Cursor.forward
  dsimp only
  by_cases hn : UInt64.size ≤ S.size + d.offset + n
  · rw [if_pos hn]
    exact fun built => .overflow built [] _
  · have hmin : min (S.size + d.offset + n) S.long.size =
        S.size + min (d.offset + n) d.source.size := by
      rw [S.size_long, hd]
      omega
    have hn' : ¬ UInt64.size ≤ d.offset + n := by omega
    rw [if_neg hn, if_neg hn', hmin, drop?_long, hd]
    by_cases hp : (Units.drop? M.width (min (d.offset + n) S.short.size) S.short.elems).isSome
    · rw [if_pos hp, if_pos hp]
      exact agree_success v ⟨rfl, rfl⟩
    · rw [if_neg hp, if_neg hp]
      exact agree_done (.split n d.offset)

theorem agree_accept (t : M.Terminal) (hc : S.Cursors c d) :
    S.Agree (done (c.accept t)) (done (d.accept t)) := by
  rw [Cursor.accept_eq, Cursor.accept_eq, hc.remaining_eq]
  split
  next v n h => exact agree_forward v _ hc
  next => exact agree_failure _ hc

/-! ## Parsers -/

variable (S)

/-- Parsers whose functions answer alike, at the one cursor and at the other. -/
inductive Parsers : Parser M → Parser M → Prop
  | succeed (v : Value) : Parsers (.succeed v) (.succeed v)
  | fail (message : String) : Parsers (.fail message) (.fail message)
  | terminal (t : M.Terminal) : Parsers (.terminal t) (.terminal t)
  | advance (n : Nat) : Parsers (.advance n) (.advance n)
  | map {p q : Parser M} (h : Parsers p q) (f : Value → Value) : Parsers (p.map f) (q.map f)
  | tryMap {p q : Parser M} {f f' : Value → Cursor M → Parser M} (h : Parsers p q)
    (hf : ∀ v c d, S.Cursors c d → Parsers (f v c) (f' v d)) : Parsers (p.tryMap f) (q.tryMap f')
  | recover {p q : Parser M} (h : Parsers p q) (f : String → Value) :
    Parsers (p.recover f) (q.recover f)
  | tryRecover {p q : Parser M} {f f' : Failure M → Parser M} (h : Parsers p q)
    (hf : ∀ m c d, S.Cursors c d → Parsers (f ⟨m, c⟩) (f' ⟨m, d⟩)) :
    Parsers (p.tryRecover f) (q.tryRecover f')
  | both {p q p' q' : Parser M} (h : Parsers p q) (h' : Parsers p' q') :
    Parsers (p.both p') (q.both q')
  | first {p q p' q' : Parser M} (h : Parsers p q) (h' : Parsers p' q') :
    Parsers (p.first p') (q.first q')
  | second {p q p' q' : Parser M} (h : Parsers p q) (h' : Parsers p' q') :
    Parsers (p.second p') (q.second q')
  | choice {p q p' q' : Parser M} (h : Parsers p q) (h' : Parsers p' q') :
    Parsers (p.choice p') (q.choice q')
  | tagged {p q p' q' : Parser M} (h : Parsers p q) (h' : Parsers p' q') :
    Parsers (p.tagged p') (q.tagged q')
  | many {p q : Parser M} (h : Parsers p q) : Parsers p.many q.many
  | cell (k : Cell) : Parsers (.cell k) (.cell k)
  | wrapped {p q : Parser M} (h : Parsers p q) : Parsers p.wrapped q.wrapped
  | whole {p q : Parser M} (h : Parsers p q) : Parsers p.whole q.whole

variable {S}

theorem evalWith_agree {enter enter' : Cell → Cursor M → Run M Value}
    (henter : ∀ k c d, S.Cursors c d → S.Agree (enter k c) (enter' k d)) {p q : Parser M}
    (h : S.Parsers p q) (hc : S.Cursors c d) :
    S.Agree (p.evalWith enter c) (q.evalWith enter' d) := by
  have keep : ∀ (v : Value) (c d : Cursor M), S.Cursors c d → S.Agree (success v c) (success v d) :=
    fun v _ _ hc => agree_success v hc
  have stay : ∀ (m : String) (c d : Cursor M), S.Cursors c d →
      S.Agree (failure ⟨m, c⟩ : Run M Value) (failure ⟨m, d⟩) := fun m _ _ hc => agree_failure m hc
  induction h generalizing c d with
  | succeed v => exact keep v c d hc
  | fail message => exact stay message c d hc
  | terminal t => exact agree_accept t hc
  | advance n => exact agree_forward _ n hc
  | map _ f ih => exact (ih hc).map f
  | tryMap _ _ ih ihf => exact (ih hc).handle (fun v c' d' hc' => ihf v c' d' hc' hc') stay
  | recover _ f ih => exact (ih hc).handle keep fun m c' d' hc' => keep (f m) c' d' hc'
  | tryRecover _ _ ih ihf => exact (ih hc).handle keep fun m c' d' hc' => ihf m c' d' hc' hc'
  | both _ _ ih ih' => exact (ih hc).handle (fun v _ _ hc' => (ih' hc').map _) stay
  | first _ _ ih ih' => exact (ih hc).handle (fun v _ _ hc' => (ih' hc').map _) stay
  | second _ _ ih ih' => exact (ih hc).handle (fun _ _ _ hc' => ih' hc') stay
  | choice _ _ ih ih' =>
    refine (ih hc).handle keep fun m c' d' hc' => ?_
    rw [hc'.offset_eq]
    exact (ih' hc').noting (.fallback _ m)
  | tagged _ _ ih ih' =>
    refine (ih hc).handle (fun v c' d' hc' => keep (.left v) c' d' hc') fun m c' d' hc' => ?_
    rw [hc'.offset_eq]
    exact ((ih' hc').map _).noting (.leftFallback _ m)
  | many _ ih =>
    unfold Parser.evalWith
    rw [hc.length_eq]
    exact (Agree.repeated (fun _ _ hc' => ih hc') _ hc).map _
  | cell k => exact henter k c d hc
  | wrapped _ ih => exact ih hc
  | whole _ ih => exact (ih hc).toEnd

end Shift

/-- The functions of the parser do not tell a cursor from the same place behind a front. -/
def Parser.Relative (p : Parser M) : Prop := ∀ S : Shift M, S.Parsers p p

/-- No check reads the position of its cursor. -/
theorem Check.parsers {S : Shift M} (f : Check) (v : Value) {c d : Cursor M} (hc : S.Cursors c d) :
    S.Parsers (f.parser v c) (f.parser v d) := by
  cases f with
  | forward n => exact .map (.advance n) _
  | fail message n => exact .second (.advance n) (.fail message)
  | reject values message =>
    dsimp only [parser]
    split
    · exact .fail _
    · exact .succeed v
  | range lo hi message =>
    dsimp only [parser]
    split
    next n =>
      split
      · exact .fail message
      · exact .succeed _
    next => exact .succeed v
  | take =>
    dsimp only [parser]
    rw [hc.length_eq]
    split
    next n =>
      rw [hc.peek_eq]
      split
      · exact .fail _
      · split
        · exact .map (.advance _) _
        · exact .fail _
    next => exact .fail _
  | atEnd =>
    dsimp only [parser]
    rw [hc.isEmpty_eq]
    split
    · exact .succeed v
    · exact .fail _
  | chain =>
    dsimp only [parser]
    split
    · exact .succeed _
    · exact .fail _

theorem Number.relative_digit : digit.Relative := fun _ => .map (.choice (.terminal _) (.fail _)) _

namespace Grammar

variable {S : Shift M}

theorem eval_agree (hg : ∀ f ∈ g.cells, f.parser.Relative) (n : Nat) {p q : Parser M}
    (h : S.Parsers p q) {c d : Cursor M} (hc : S.Cursors c d) :
    S.Agree (p.eval g n c) (q.eval g n d) := by
  induction n generalizing p q c d with
  | zero => exact Shift.evalWith_agree (fun _ _ _ _ => Shift.agree_endless) h hc
  | succ n ih =>
    refine Shift.evalWith_agree (fun k c' d' hc' => ?_) h hc
    exact (ih (forall_target hg (fun m S => .fail m) k S) hc').building g k

/-- A move to a position that is no 64-bit number is the only way to such a position. -/
theorem eval_ne_overflow {p : Parser M} {c : Cursor M} (hc : c.Placed)
    (hsize : c.source.size < UInt64.size)
    (hover : ∀ n d, g.Runs p c (.advance n) d → d.offset + n < UInt64.size) {n : Nat}
    {built : List Cell} {s : Finish M Value} (hs : p.eval g n c built = some s) :
    s.outcome ≠ .fault .overflow := by
  intro ho
  obtain ⟨m, d, hd, hf⟩ := fault_of_advance hc hsize hs ho
  have hlt := hover m d hd
  unfold Cursor.forward at hf
  rw [if_neg (by omega)] at hf
  dsimp only at hf
  split at hf <;> cases hf

/-- **What has been read is never looked at.** Let the functions of a parser, and of the cells of
its grammar, not tell a cursor from the same place behind a front, and let them ask for no position
that is too large. Then the runs from behind the front of a longer source and from the beginning of
the shorter one end in the same way or not at all: with the same value or message and the same input
remaining, the same cells and the same records, where every cursor and every place is as much
further on as the front is long. The same holds of the runs that ask for the end of the input. -/
theorem parse_shift (hg : ∀ f ∈ g.cells, f.parser.Relative) {p : Parser M} (hp : p.Relative)
    (S : Shift M) (hsize : S.long.size < UInt64.size)
    (hover : ∀ n d, g.Runs p ⟨S.long, S.size⟩ (.advance n) d → d.offset + n < UInt64.size)
    (built : List Cell) :
    Option.Rel S.Finishes (g.parse p ⟨S.long, S.size⟩ built) (g.parse p S.short.start built) ∧
      Option.Rel S.Finishes (g.parseAll p ⟨S.long, S.size⟩ built)
        (g.parseAll p S.short.start built) := by
  have hc := S.cursors_start
  have hplaced : (⟨S.long, S.size⟩ : Cursor M).Placed := Shift.placed_long
  have hdepth : g.depth ⟨S.long, S.size⟩ = g.depth S.short.start := by
    unfold depth
    rw [hc.length_eq]
  have hwhole : ∀ n d, g.Runs p.whole ⟨S.long, S.size⟩ (.advance n) d →
      d.offset + n < UInt64.size := by
    intro n d hd
    rcases runs_whole hd with hq | hd
    · cases hq
    · exact hover n d hd
  unfold parseAll parse
  rw [hdepth]
  constructor
  · exact (eval_agree hg _ (hp S) hc built).rel fun _ => eval_ne_overflow hplaced hsize hover
  · exact (eval_agree hg _ (.whole (hp S)) hc built).rel fun _ =>
      eval_ne_overflow hplaced hsize hwhole

/-- Digits, each with as many bytes after it and each at the beginning of a word. Behind `aé` the
first digit is in the middle of one. -/
theorem parse_shift_counted :
    let boundary : Pattern :=
      .ofRegex "^(?:\\b)" (.cat (.look .start) (.look (.edge .boundary (.property .word))))
    let counted : Parser text := .tryMap Number.digit fun v next => Check.take.parser v next
    let item : Parser text := .second (.terminal (.pattern boundary)) counted
    let g : Grammar text := ⟨#[.yields (.choice (.both item (.cell 0)) (.succeed .unit))]⟩
    let S : Shift text := ⟨⟨0, ['a', 'é', '2', 'é', '1']⟩, ⟨1, ['2', 'é', '1']⟩, ['a', 'é'], rfl⟩
    (∀ f ∈ g.cells, f.parser.Relative) ∧ (Parser.cell 0 : Parser text).Relative ∧
      S.long.size < UInt64.size ∧
      (∀ n d, g.Runs (.cell 0) ⟨S.long, S.size⟩ (.advance n) d → d.offset + n < UInt64.size) ∧
      Option.Rel S.Finishes (g.parse (.cell 0) ⟨S.long, S.size⟩ [])
        (g.parse (.cell 0) S.short.start []) := by
  intro boundary counted item g S
  have hitem : item.Relative := fun S =>
    .second (.terminal _)
      (.tryMap (Number.relative_digit S) fun v _ _ hc => Check.take.parsers v hc)
  have hg : ∀ f ∈ g.cells, f.parser.Relative := by
    intro f hf S
    rw [Array.mem_singleton.1 hf]
    exact .choice (.both (hitem S) (.cell 0)) (.succeed _)
  have hpeek : ∀ f ∈ g.cells, ∀ d, f.parser.PeeksAt d := by
    intro f hf d
    rw [Array.mem_singleton.1 hf]
    have hcounted : ∀ d, counted.PeeksAt d := fun d =>
      ⟨Number.peeksAt_numbers d _ (by simp), fun v next => Check.peeksAt (by simp) (by simp) v next⟩
    exact ⟨⟨⟨trivial, hcounted⟩, fun _ => trivial⟩, fun _ => trivial⟩
  have hsize : S.long.size < UInt64.size := by decide
  have hover : ∀ n d, g.Runs (.cell 0) ⟨S.long, S.size⟩ (.advance n) d →
      d.offset + n < UInt64.size := by
    intro n d hd
    obtain ⟨hsource, -, hplaced⟩ := hd.reaches.ahead Shift.placed_long
    have hle := hplaced.offset_add_le (hd.peeksAt hpeek trivial)
    rw [hsource] at hle
    exact Nat.lt_of_le_of_lt hle hsize
  exact ⟨hg, fun _ => .cell 0, hsize, hover,
    (parse_shift hg (fun _ => .cell 0) S hsize hover []).1⟩

end Grammar

end GrammarEngine
