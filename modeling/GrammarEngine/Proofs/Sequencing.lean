import GrammarEngine.Media.Text
import GrammarEngine.Proofs.Desugar
import GrammarEngine.Proofs.Limits

/-!
# Parsers one after the other

A sequence of several parsers is written as a tree of sequences of two, each of which keeps both
values or one of them. However the tree is bracketed, its leaves are run from left to right, the
first where the sequence starts and each other one at the cursor of the value before it. If one
yields no value, the sequence ends there as this one does; if all yield their values, it ends at the
last cursor. Only the value tells of the tree: it is the tree of the values without the sides that
are skipped. Main statement: `sequence_in_turn`.

1. The three sequences of two differ in the value and in nothing else (`parse_join`).
2. By induction on the tree: if all the leaves yield values, so does the tree (`parse_of_stages`),
   and if one yields none, the tree ends as this leaf does (`parse_of_noValue`). One of the two is
   the case (`exists_stages`).
3. What is kept is put together by pairs, from left to right (`Sequence.nested`).
-/

namespace GrammarEngine

open Outcome Cursor Run

variable {M : Medium} {α β : Type}

/-! ## Trees of sequences -/

/-- What a sequence of two keeps. -/
inductive Keep
  | both | first | second

namespace Keep

/-- The sequence of two parsers. -/
def parser : Keep → Parser M → Parser M → Parser M
  | both => .both
  | first => .first
  | second => .second

/-- What is kept of two values. -/
def value : Keep → Value → Value → Value
  | both, v, w => .pair v w
  | first, v, _ => v
  | second, _, w => w

/-- Which leaves are kept of those that the two sides keep. -/
def marks : Keep → List Bool → List Bool → List Bool
  | both, l, r => l ++ r
  | first, l, r => l ++ r.map fun _ => false
  | second, l, r => l.map (fun _ => false) ++ r

end Keep

/-- Leaves in a row, joined two by two. -/
inductive Sequence (α : Type)
  | leaf (x : α)
  | join (k : Keep) (a b : Sequence α)

namespace Sequence

/-- The leaves from left to right. -/
def leaves : Sequence α → List α
  | leaf x => [x]
  | join _ a b => a.leaves ++ b.leaves

/-- The tree without what stands at its leaves. -/
def shape : Sequence α → Sequence Unit
  | leaf _ => .leaf ()
  | join k a b => .join k a.shape b.shape

/-- For each leaf from left to right, whether no sequence around it skips it. -/
def kept : Sequence α → List Bool
  | leaf _ => [true]
  | join k a b => k.marks a.kept b.kept

/-- The tree of sequences of two parsers. -/
def parser : Sequence (Parser M) → Parser M
  | leaf p => p
  | join k a b => k.parser a.parser b.parser

/-- The values at the leaves without the sides that are skipped. -/
def value : Sequence Value → Value
  | leaf v => v
  | join k a b => k.value a.value b.value

theorem length_leaves_shape (a : Sequence α) : a.shape.leaves.length = a.leaves.length := by
  induction a with
  | leaf x => rfl
  | join k a b iha ihb => simp only [shape, leaves, List.length_append, iha, ihb]

/-- A tree is known by its shape and its leaves. -/
theorem eq_of_shape_of_leaves {a a' : Sequence α} (hs : a.shape = a'.shape)
    (hl : a.leaves = a'.leaves) : a = a' := by
  induction a generalizing a' with
  | leaf x =>
    cases a' with
    | leaf y =>
      cases hl
      rfl
    | join => cases hs
  | join k l r ihl ihr =>
    cases a' with
    | leaf => cases hs
    | join k' l' r' =>
      obtain ⟨rfl, hsl, hsr⟩ := Sequence.join.inj hs
      have hlength : l.leaves.length = l'.leaves.length := by
        rw [← l.length_leaves_shape, hsl, l'.length_leaves_shape]
      obtain ⟨hll, hlr⟩ := List.append_inj hl hlength
      rw [ihl hsl hll, ihr hsr hlr]

theorem kept_shape (a : Sequence α) : a.shape.kept = a.kept := by
  induction a with
  | leaf x => rfl
  | join k a b iha ihb => rw [shape, kept, kept, iha, ihb]

theorem length_kept (a : Sequence α) : a.kept.length = a.leaves.length := by
  induction a with
  | leaf x => rfl
  | join k a b iha ihb =>
    cases k <;>
      simp only [kept, leaves, Keep.marks, List.length_append, List.length_map, iha, ihb]

end Sequence

/-- The elements that are marked. -/
def marked (marks : List Bool) (xs : List α) : List α :=
  ((marks.zip xs).filter fun x => x.1).map fun x => x.2

theorem marked_append {marks marks' : List Bool} {xs ys : List α}
    (h : marks.length = xs.length) :
    marked (marks ++ marks') (xs ++ ys) = marked marks xs ++ marked marks' ys := by
  unfold marked
  rw [List.zip_append h, List.filter_append, List.map_append]

theorem marked_none (marks : List Bool) (xs : List α) :
    marked (marks.map fun _ => false) xs = [] := by
  unfold marked
  rw [List.map_eq_nil_iff, List.filter_eq_nil_iff]
  rintro ⟨m, x⟩ hx
  obtain ⟨m', -, rfl⟩ := List.mem_map.1 (List.of_mem_zip hx).1
  exact Bool.false_ne_true

/-- The value is put together by pairs from these, in this order. -/
inductive Nested : List Value → Value → Prop
  | one (v : Value) : Nested [v] v
  | pair {vs ws : List Value} {v w : Value} (h : Nested vs v) (h' : Nested ws w) :
    Nested (vs ++ ws) (.pair v w)

/-- **What is kept is nested in pairs.** -/
theorem Sequence.nested (t : Sequence Value) : Nested (marked t.kept t.leaves) t.value := by
  induction t with
  | leaf v => exact .one v
  | join k a b iha ihb =>
    cases k with
    | both =>
      show Nested (marked (a.kept ++ b.kept) (a.leaves ++ b.leaves)) (.pair a.value b.value)
      rw [marked_append a.length_kept]
      exact .pair iha ihb
    | first =>
      show Nested (marked (a.kept ++ b.kept.map fun _ => false) (a.leaves ++ b.leaves)) a.value
      rw [marked_append a.length_kept, marked_none, List.append_nil]
      exact iha
    | second =>
      show Nested (marked (a.kept.map (fun _ => false) ++ b.kept) (a.leaves ++ b.leaves)) b.value
      rw [marked_append (by rw [List.length_map, a.length_kept]), marked_none, List.nil_append]
      exact ihb

/-! ## Sequences of two -/

namespace Run

/-- From these cells the run yields no value: it fails, ends in a fault or does not end. -/
def NoValue (run : Run M β) (built : List Cell) : Prop :=
  ∀ v next b log, run built ≠ some ⟨.success v next, b, log⟩

/-- A run that yields no value is not gone on from. -/
theorem andThen_of_noValue {run : Run M α} {built : List Cell} (h : run.NoValue built)
    (go : α → Cursor M → Run M α) : run.andThen go built = run built :=
  handle_eq_self (fun v next b log hr => (h v next b log hr).elim) fun _ _ _ _ => rfl

/-- Earlier records yield no value either. -/
theorem NoValue.of_after {run run' : Run M β} {built b : List Cell} {log : List Record}
    (h : run.NoValue built) (heq : run' b = (run built).map (Finish.after log)) :
    run'.NoValue b := by
  intro v next b' log' hr
  rw [heq] at hr
  obtain ⟨⟨o, b'', log''⟩, hs, ht⟩ := Option.map_eq_some_iff.1 hr
  cases ht
  exact h v next _ log'' hs

theorem toEnd_andThen (run : Run M α) (go : α → Cursor M → Run M Value) :
    (run.andThen go).toEnd = run.andThen fun v next => (go v next).toEnd := by
  unfold toEnd andThen
  rw [handle_handle]
  simp only [handle_of_failure]

/-- The end of the input does not depend on the value. -/
theorem toEnd_map (run : Run M Value) (f : Value → Value) :
    (run.map f).toEnd = run.toEnd.map f := by
  unfold toEnd andThen
  rw [map_handle, handle_map]
  congr 1
  funext v next
  split
  · exact (map_success v next f).symm
  · show noting _ (failure _) = (noting _ (failure _)).map f
    rw [noting_map, map_failure]

theorem Limit.toEnd {R : Nat → Run M Value} {run : Run M Value} (h : Limit R run) :
    Limit (fun n => (R n).toEnd) run.toEnd :=
  h.handle run.ensures_true (fun _ _ _ => limit_const _) fun _ _ => limit_const _

end Run

namespace Grammar

variable {g : Grammar M} {c : Cursor M}

/-- **A sequence of two** is parsed as its first part and then, at the cursor of its value, as its
second. -/
theorem parse_join (k : Keep) (p q : Parser M) (hc : c.Placed) :
    g.parse (k.parser p q) c = (g.parse p c).andThen fun v next =>
      (g.parse q next).map (k.value v) := by
  refine (limit_parse (k.parser p q) hc).unique ?_
  have heval : ∀ n, (k.parser p q).eval g n c = (p.eval g n c).andThen fun v next =>
      (q.eval g n next).map (k.value v) := by
    intro n
    simp only [eval_eq_evalWith]
    cases k with
    | both | first => rfl
    | second =>
      show (p.evalWith (g.enter n) c).andThen (fun _ next => q.evalWith (g.enter n) next) =
        (p.evalWith (g.enter n) c).andThen fun _ next =>
          (q.evalWith (g.enter n) next).map fun w => w
      simp only [map_id]
  simp only [heval]
  exact (limit_parse p hc).handle (parse_ensures_placed p hc)
    (fun v next hn => (limit_parse q hn).map _) fun _ _ => limit_const _

theorem parse_whole (p : Parser M) (hc : c.Placed) :
    g.parse p.whole c = (g.parse p c).toEnd := by
  refine (limit_parse p.whole hc).unique ?_
  have heval : ∀ n, p.whole.eval g n c = (p.eval g n c).toEnd := by
    intro n
    simp only [eval_eq_evalWith]
    rfl
  simp only [heval]
  exact (limit_parse p hc).toEnd

/-- The end of the input may as well be asked for after the second part. -/
theorem parseAll_join (k : Keep) (p q : Parser M) (hc : c.Placed) :
    g.parseAll (k.parser p q) c = g.parse (k.parser p q.whole) c := by
  unfold parseAll
  rw [parse_whole _ hc, parse_join _ _ _ hc, parse_join _ _ _ hc, toEnd_andThen]
  refine (parse_ensures_placed p hc).handle_congr (fun v next hn => ?_) fun _ _ => rfl
  rw [toEnd_map, parse_whole q hn]

end Grammar

/-! ## Rows -/

/-- A parser of a row that has yielded its value, with the records of its run. -/
structure Stage where
  value : Value
  log : List Record

namespace Grammar

variable (g : Grammar M)

/-- All the parsers yield their values one after the other, each at the cursor of the value before
it, the first at `c` with the cells `built`; then the run is at `d` with the cells `b`. -/
inductive Stages : List (Parser M) → Cursor M → List Cell → List Stage → Cursor M → List Cell → Prop
  | nil (c : Cursor M) (built : List Cell) : Stages [] c built [] c built
  | cons {p : Parser M} {ps : List (Parser M)} {c next d : Cursor M} {built b b' : List Cell}
    {t : Stage} {ts : List Stage}
    (h : g.parse p c built = some ⟨.success t.value next, b', t.log⟩)
    (hs : Stages ps next b' ts d b) : Stages (p :: ps) c built (t :: ts) d b

variable {g} {p : Parser M} {ps qs front rest : List (Parser M)} {c d : Cursor M}
  {built b : List Cell} {ts : List Stage}

theorem Stages.placed (h : g.Stages ps c built ts d b) (hc : c.Placed) : d.Placed := by
  induction h with
  | nil => exact hc
  | cons h _ ih => exact ih (parse_ensures_placed _ hc _ _ h)

theorem Stages.split (h : g.Stages (ps ++ qs) c built ts d b) :
    ∃ ts₁ ts₂ e b', ts = ts₁ ++ ts₂ ∧ g.Stages ps c built ts₁ e b' ∧ g.Stages qs e b' ts₂ d b := by
  induction ps generalizing c built ts with
  | nil => exact ⟨[], ts, c, built, rfl, .nil c built, h⟩
  | cons p ps ih =>
    cases h with
    | @cons _ _ _ next _ _ _ b' t ts h hs =>
      obtain ⟨ts₁, ts₂, e, b'', rfl, h₁, h₂⟩ := ih hs
      exact ⟨t :: ts₁, ts₂, e, b'', rfl, .cons h h₁, h₂⟩

/-- All the parsers of a row yield their values, or there is a first that does not. -/
theorem exists_stages (ps : List (Parser M)) (c : Cursor M) (built : List Cell) :
    (∃ ts d b, g.Stages ps c built ts d b) ∨
      ∃ front p rest ts d b, ps = front ++ p :: rest ∧ g.Stages front c built ts d b ∧
        (g.parse p d).NoValue b := by
  induction ps generalizing c built with
  | nil => exact Or.inl ⟨[], c, built, .nil c built⟩
  | cons p ps ih =>
    by_cases hp : (g.parse p c).NoValue built
    · exact Or.inr ⟨[], p, ps, [], c, built, rfl, .nil c built, hp⟩
    · unfold NoValue at hp
      push Not at hp
      obtain ⟨v, next, b, log, hv⟩ := hp
      have ht : g.parse p c built = some ⟨.success (Stage.mk v log).value next, b, _⟩ := hv
      rcases ih next b with ⟨ts, d, b', hs⟩ | ⟨front, q, rest, ts, d, b', rfl, hs, hq⟩
      · exact Or.inl ⟨⟨v, log⟩ :: ts, d, b', .cons ht hs⟩
      · exact Or.inr ⟨p :: front, q, rest, ⟨v, log⟩ :: ts, d, b', rfl, .cons ht hs, hq⟩

/-! ## Trees and their rows -/

/-- **If all the leaves yield values,** the tree yields the tree of them. -/
theorem parse_of_stages (a : Sequence (Parser M)) (hc : c.Placed)
    (h : g.Stages a.leaves c built ts d b) :
    ∃ t : Sequence Value, t.shape = a.shape ∧ t.leaves = ts.map Stage.value ∧
      g.parse a.parser c built = some ⟨.success t.value d, b, ts.flatMap Stage.log⟩ := by
  induction a generalizing c built ts d b with
  | leaf p =>
    cases h with
    | @cons _ _ _ next _ _ _ b' t ts h hs =>
      cases hs
      refine ⟨.leaf t.value, rfl, rfl, ?_⟩
      show g.parse p c built = some ⟨.success t.value d, b, t.log ++ []⟩
      rw [List.append_nil]
      exact h
  | join k l r ihl ihr =>
    obtain ⟨ts₁, ts₂, e, b', rfl, h₁, h₂⟩ := h.split
    obtain ⟨t₁, hs₁, hl₁, hp₁⟩ := ihl hc h₁
    obtain ⟨t₂, hs₂, hl₂, hp₂⟩ := ihr (h₁.placed hc) h₂
    refine ⟨.join k t₁ t₂, ?_, ?_, ?_⟩
    · rw [Sequence.shape, Sequence.shape, hs₁, hs₂]
    · rw [Sequence.leaves, hl₁, hl₂, List.map_append]
    · show g.parse (k.parser l.parser r.parser) c built = _
      rw [parse_join _ _ _ hc, andThen, handle_success hp₁, Run.map, andThen, handle_success hp₂,
        List.flatMap_append]
      show some (Finish.mk _ b (_ ++ (_ ++ []))) = _
      rw [List.append_nil]
      rfl

/-- **If one of the leaves yields no value,** the tree ends as the first such leaf does. -/
theorem parse_of_noValue {a : Sequence (Parser M)} (ha : a.leaves = front ++ p :: rest)
    (hc : c.Placed) (h : g.Stages front c built ts d b) (hp : (g.parse p d).NoValue b) :
    g.parse a.parser c built =
      (g.parse p d b).map (Finish.after (ts.flatMap Stage.log)) := by
  induction a generalizing front rest c built ts with
  | leaf q =>
    obtain ⟨rfl, hqs⟩ | ⟨-, hnil⟩ := List.append_eq_singleton_iff.1 ha.symm
    · cases hqs
      cases h
      exact ((Option.map_congr fun s _ => s.after_nil).trans Option.map_id').symm
    · cases hnil
  | join k l r ihl ihr =>
    show g.parse (k.parser l.parser r.parser) c built = _
    rw [parse_join _ _ _ hc]
    -- the leaf without a value is in the right side, behind all of the left, or in the left side
    have behind : ∀ front', front = l.leaves ++ front' → r.leaves = front' ++ p :: rest →
        ((g.parse l.parser c).andThen fun v next => (g.parse r.parser next).map (k.value v)) built =
          (g.parse p d b).map (Finish.after (ts.flatMap Stage.log)) := by
      rintro front' rfl hr
      obtain ⟨ts₁, ts₂, e, b', rfl, h₁, h₂⟩ := h.split
      obtain ⟨t₁, -, -, hl⟩ := parse_of_stages l hc h₁
      have hr := ihr hr (h₁.placed hc) h₂
      rw [andThen, handle_success hl]
      show (((g.parse r.parser e).andThen _) b').map _ = _
      rw [andThen_of_noValue (hp.of_after hr), hr, Option.map_map, List.flatMap_append]
      exact Option.map_congr fun s _ => s.after_after _ _
    obtain ⟨front', hfront, hr⟩ | ⟨rest', hl, hrest⟩ := List.append_eq_append_iff.1 ha
    · exact behind front' hfront hr
    · cases rest' with
      | nil => exact behind [] (by rw [hl, List.append_nil, List.append_nil]) hrest.symm
      | cons q rest' =>
        obtain ⟨rfl, -⟩ := List.cons_eq_cons.1 hrest
        have hl := ihl hl hc h
        rw [andThen_of_noValue (hp.of_after hl), hl]

/-- **Parsers are run one after the other.** Let parsers be joined into a sequence in any shape. The
sequence yields a value exactly if its leaves do one after the other, each at the cursor of the one
before it; then it ends at the last cursor, with the cells and the records of these runs, and its
value is the tree of their values without the sides that are skipped. Otherwise there is a first
leaf that yields no value, and after those before it the sequence ends as this one does there, in
the same failure or fault, or like this one does not end; what stands behind it is never run, since
any other row of leaves behind it makes the same run. So all shapes of the same row make the same
run but for the value, which nests the kept values in pairs. And the end of the input may as well be
asked for after the second part of a sequence. -/
theorem sequence_in_turn (g : Grammar M) (a : Sequence (Parser M)) {s : Source M} {c : Cursor M}
    (hc : s.start.Reaches c) (built : List Cell) :
    (∀ w d b log, g.parse a.parser c built = some ⟨.success w d, b, log⟩ ↔
        ∃ ts, ∃ t : Sequence Value, g.Stages a.leaves c built ts d b ∧ t.shape = a.shape ∧
          t.leaves = ts.map Stage.value ∧ w = t.value ∧ log = ts.flatMap Stage.log) ∧
      (∀ front p rest ts d b, a.leaves = front ++ p :: rest → g.Stages front c built ts d b →
        (g.parse p d).NoValue b →
          g.parse a.parser c built = (g.parse p d b).map (Finish.after (ts.flatMap Stage.log)) ∧
          ∀ (a' : Sequence (Parser M)) rest', a'.leaves = front ++ p :: rest' →
            g.parse a'.parser c built = g.parse a.parser c built) ∧
      ((∃ ts d b, g.Stages a.leaves c built ts d b) ∨
        ∃ front p rest ts d b, a.leaves = front ++ p :: rest ∧ g.Stages front c built ts d b ∧
          (g.parse p d).NoValue b) ∧
      (∀ (a' : Sequence (Parser M)) w d b log, a'.leaves = a.leaves →
        g.parse a.parser c built = some ⟨.success w d, b, log⟩ →
          ∃ w' ts, g.parse a'.parser c built = some ⟨.success w' d, b, log⟩ ∧
            g.Stages a.leaves c built ts d b ∧ Nested (marked a.kept (ts.map Stage.value)) w ∧
            Nested (marked a'.kept (ts.map Stage.value)) w') ∧
      ∀ (k : Keep) (p q : Parser M),
        g.parseAll (k.parser p q) c = g.parse (k.parser p q.whole) c := by
  obtain ⟨-, -, hplaced⟩ := hc.ahead (placed_start s)
  have yields : ∀ (a : Sequence (Parser M)) w d b log,
      g.parse a.parser c built = some ⟨.success w d, b, log⟩ →
      ∃ ts, ∃ t : Sequence Value, g.Stages a.leaves c built ts d b ∧ t.shape = a.shape ∧
        t.leaves = ts.map Stage.value ∧ w = t.value ∧ log = ts.flatMap Stage.log := by
    intro a w d b log hw
    rcases exists_stages (g := g) a.leaves c built with ⟨ts, d', b', h⟩ |
      ⟨front, p, rest, ts, d', b', ha, h, hp⟩
    · obtain ⟨t, hshape, hleaves, ht⟩ := parse_of_stages a hplaced h
      rw [hw] at ht
      cases ht
      exact ⟨ts, t, h, hshape, hleaves, rfl, rfl⟩
    · exact (hp.of_after (parse_of_noValue ha hplaced h hp) _ _ _ _ hw).elim
  refine ⟨fun w d b log => ⟨yields a w d b log, ?_⟩, fun front p rest ts d b ha h hp => ?_,
    exists_stages a.leaves c built, fun a' w d b log ha' hw => ?_,
    fun k p q => parseAll_join k p q hplaced⟩
  · rintro ⟨ts, t, h, hshape, hleaves, rfl, rfl⟩
    obtain ⟨t', hshape', hleaves', ht'⟩ := parse_of_stages a hplaced h
    rw [ht', Sequence.eq_of_shape_of_leaves (hshape.trans hshape'.symm)
      (hleaves.trans hleaves'.symm)]
  · have ended := parse_of_noValue ha hplaced h hp
    refine ⟨ended, fun a' rest' ha' => ?_⟩
    rw [ended, parse_of_noValue ha' hplaced h hp]
  · obtain ⟨ts, t, h, hshape, hleaves, rfl, rfl⟩ := yields a w d b log hw
    rw [← ha'] at h
    obtain ⟨t', hshape', hleaves', ht'⟩ := parse_of_stages a' hplaced h
    rw [ha'] at h
    refine ⟨t'.value, ts, ht', h, ?_, ?_⟩
    · rw [← hleaves, ← a.kept_shape, ← hshape, t.kept_shape]
      exact t.nested
    · rw [← hleaves', ← a'.kept_shape, ← hshape', t'.kept_shape]
      exact t'.nested

/-- The letters of `abc`, the second in a cell, bracketed to the left and to the right. -/
theorem sequence_in_turn_letters :
    let g : Grammar text := ⟨#[.yields (.terminal (.literal "b"))]⟩
    let s : Source text := ⟨0, ['a', 'b', 'c']⟩
    let p : Parser text := .terminal (.literal "a")
    let q : Parser text := .terminal (.literal "c")
    let l : Sequence (Parser text) :=
      .join .both (.join .both (.leaf p) (.leaf (.cell 0))) (.leaf q)
    let r : Sequence (Parser text) :=
      .join .both (.leaf p) (.join .both (.leaf (.cell 0)) (.leaf q))
    let ts : List Stage := [⟨.str "a", []⟩, ⟨.str "b", [.building]⟩, ⟨.str "c", []⟩]
    s.start.Reaches s.start ∧ r.leaves = l.leaves ∧
      g.Stages l.leaves s.start [] ts ⟨s, 3⟩ [0] ∧
      g.parse l.parser s.start [] =
        some ⟨.success (.pair (.pair (.str "a") (.str "b")) (.str "c")) ⟨s, 3⟩, [0], [.building]⟩ ∧
      g.parse r.parser s.start [] =
        some ⟨.success (.pair (.str "a") (.pair (.str "b") (.str "c"))) ⟨s, 3⟩,
          [0], [.building]⟩ := by
  intro g s p q l r ts
  have hc : s.start.Reaches s.start := .refl
  have hp : g.parse p s.start [] = some ⟨.success (.str "a") ⟨s, 1⟩, [], []⟩ := rfl
  have hcell : g.parse (.cell 0) ⟨s, 1⟩ [] =
      some ⟨.success (.str "b") ⟨s, 2⟩, [0], [.building]⟩ := rfl
  have hq : g.parse q ⟨s, 2⟩ [0] = some ⟨.success (.str "c") ⟨s, 3⟩, [0], []⟩ := rfl
  have hstages : g.Stages l.leaves s.start [] ts ⟨s, 3⟩ [0] :=
    .cons hp (.cons hcell (.cons hq (.nil _ _)))
  refine ⟨hc, rfl, hstages, ?_, ?_⟩
  · exact ((sequence_in_turn g l hc []).1 _ _ _ _).2 ⟨ts, .join .both
      (.join .both (.leaf (.str "a")) (.leaf (.str "b"))) (.leaf (.str "c")),
      hstages, rfl, rfl, rfl, rfl⟩
  · exact ((sequence_in_turn g r hc []).1 _ _ _ _).2 ⟨ts, .join .both (.leaf (.str "a"))
      (.join .both (.leaf (.str "b")) (.leaf (.str "c"))), hstages, rfl, rfl, rfl, rfl⟩

end Grammar

end GrammarEngine
