import GrammarEngine.Media.Slice
import GrammarEngine.Proofs.Retry

/-!
# Values made of the input

A parser that only puts pieces of its input together, from terminals that yield what they take
(`Parser.Copying`), invents nothing and yields nothing twice: the leaves of its value, from left to
right, are pieces of segments that lie one behind the other in what it has read.

Something read may be missing in the value, but only where a choice or an optional parser goes on
from a failure beyond its start. If what they try first stays where it is when it fails
(`Grammar.Stays`), the segments are all that has been read.

Main statement: `pieces_of_success`.

1. `c.Between xs d` says that the elements `xs` stand from one cursor to the other; every cursor
   that is reached is reached over some (`Reaches.between`).
2. `Picks` puts segments in a list, with gaps; segments with gaps can be put one behind the other.
3. `Copied` is what is known of a value, its start and its end. It is kept where parsers follow one
   another, and a terminal begins with it (`accept_copied`).
-/

namespace GrammarEngine

open Outcome Cursor Run

variable {M : Medium} {g : Grammar M}

/-! ## From one cursor to another -/

namespace Cursor

variable {c d e : Cursor M} {xs ys : List M.Elem}

/-- From the first cursor to the second, over the same source, stand these elements. -/
structure Between (c : Cursor M) (xs : List M.Elem) (d : Cursor M) : Prop where
  source : d.source = c.source
  offset : d.offset = c.offset + Units.size M.width xs
  remaining : c.remaining = xs ++ d.remaining
  placed : d.Placed

theorem Placed.between_self (hc : c.Placed) : c.Between [] c := ⟨rfl, rfl, rfl, hc⟩

theorem Between.trans (h : c.Between xs d) (h' : d.Between ys e) : c.Between (xs ++ ys) e where
  source := h'.source.trans h.source
  offset := by rw [h'.offset, h.offset, Units.size_append, Nat.add_assoc]
  remaining := by rw [h.remaining, h'.remaining, List.append_assoc]
  placed := h'.placed

/-- What is reached is reached over some elements. -/
theorem Reaches.between (h : c.Reaches d) (hc : c.Placed) : ∃ xs, c.Between xs d := by
  obtain ⟨hs, hle, hd⟩ := h.ahead hc
  obtain ⟨front, hf, ho⟩ := placed_iff.1 hc
  obtain ⟨front', hf', ho'⟩ := placed_iff.1 hd
  rw [hs, hf] at hf'
  obtain ⟨xs, rfl, hxs⟩ := Units.exists_of_append_eq M.width_pos hf' (by omega)
  rw [Units.size_append] at ho'
  exact ⟨xs, hs, by omega, hxs, hd⟩

/-- A terminal that stands has taken what it recognised. -/
theorem accept_between (hc : c.Placed) (t : M.Terminal) :
    (c.accept t).Meets (fun v d => ∃ n, M.recognise t c.remaining = some (v, n) ∧
      c.Between (c.remaining.take n) d) (·.next = c) := by
  rw [accept_eq]
  split
  next v n h =>
    rcases hf : c.forward (Units.size M.width (c.remaining.take n)) with f | d
    · trivial
    · refine ⟨n, h, ?_⟩
      obtain ⟨rfl, hd⟩ := forward_eq_ok hf
      have hsize := hc.size_remaining
      rw [← List.take_append_drop n c.remaining, Units.size_append] at hsize
      obtain ⟨xs, hxs⟩ := (Reaches.refl.forward hf).between hc
      have ho : min (c.offset + Units.size M.width (c.remaining.take n)) c.source.size =
        c.offset + Units.size M.width xs := hxs.offset
      have hsplit := (List.take_append_drop n c.remaining).trans hxs.remaining
      obtain ⟨zs, hzs, -⟩ := Units.exists_of_append_eq M.width_pos hsplit (by omega)
      have hnil : zs = [] := by
        refine Units.eq_nil_of_size M.width_pos ?_
        rw [hzs, Units.size_append] at ho
        omega
      rw [hnil, List.append_nil] at hzs
      rw [hzs] at hxs
      exact hxs
  next => rfl

end Cursor

/-! ## Segments -/

/-- The segments lie in the list one behind the other, with any gaps. -/
inductive Picks {α : Type} : List (List α) → List α → Prop
  | nil (gap : List α) : Picks [] gap
  | cons (gap segment : List α) {segments : List (List α)} {rest : List α}
    (h : Picks segments rest) : Picks (segment :: segments) (gap ++ segment ++ rest)

namespace Picks

variable {α : Type} {segments segments' : List (List α)} {xs ys : List α}

theorem skip (h : Picks segments xs) (gap : List α) : Picks segments (gap ++ xs) := by
  cases h with
  | nil gap' => exact .nil _
  | cons gap' segment h =>
    rw [← List.append_assoc, ← List.append_assoc]
    exact .cons _ segment h

theorem append (h : Picks segments xs) (h' : Picks segments' ys) :
    Picks (segments ++ segments') (xs ++ ys) := by
  induction h with
  | nil gap => exact h'.skip gap
  | cons gap segment _ ih =>
    rw [List.append_assoc]
    exact .cons gap segment ih

theorem whole (xs : List α) : Picks [xs] xs := by
  have h := Picks.cons [] xs (.nil [])
  rwa [List.append_nil] at h

/-- Segments with gaps are what is left of the list without the gaps. -/
theorem sublist (h : Picks segments xs) : segments.flatten.Sublist xs := by
  induction h with
  | nil gap => exact List.nil_sublist gap
  | cons gap segment _ ih =>
    rw [List.flatten_cons]
    exact List.Sublist.append (List.sublist_append_right gap segment) ih

end Picks

/-! ## Leaves of values -/

namespace Value

mutual

/-- The values that pairs, lists, optional and tagged values are made of, in order. -/
def leaves : Value → List Value
  | .list vs => leavesOfList vs
  | .pair a b => leaves a ++ leaves b
  | .absent => []
  | .present v | .left v | .right v => leaves v
  | v => [v]

def leavesOfList : List Value → List Value
  | [] => []
  | v :: vs => leaves v ++ leavesOfList vs

end

mutual

/-- The text of a value is that of its leaves. -/
theorem toList_text : ∀ v : Value, v.text.toList = v.leaves.flatMap fun w => w.text.toList
  | .list vs => by simp [text, leaves, toList_textOfList vs]
  | .pair a b => by simp [text, leaves, toList_text a, toList_text b]
  | .absent => by simp [text, leaves]
  | .present v | .left v | .right v => by simp [text, leaves, toList_text v]
  | .unit | .bool _ | .int _ | .float _ | .str _ | .token _ => by simp [leaves]

theorem toList_textOfList : ∀ vs : List Value,
    (textOfList vs).toList = (leavesOfList vs).flatMap fun w => w.text.toList
  | [] => by simp [textOfList, leavesOfList]
  | v :: vs => by simp [textOfList, leavesOfList, toList_text v, toList_textOfList vs]

end

theorem leavesOfList_append (vs ws : List Value) :
    leavesOfList (vs ++ ws) = leavesOfList vs ++ leavesOfList ws := by
  induction vs with
  | nil => rfl
  | cons v vs ih => simp [leavesOfList, ih]

end Value

/-- The leaves of pieces of these elements. -/
def Medium.pieces (M : Medium) (segments : List (List M.Elem)) : List Value :=
  segments.flatMap fun xs => (M.piece xs).leaves

/-- In text, values made of pieces have the text of the segments. -/
theorem toList_text_of_pieces {v : Value} {segments : List (List Char)}
    (h : v.leaves = text.pieces segments) : v.text.toList = segments.flatten := by
  rw [Value.toList_text, h]
  unfold Medium.pieces
  rw [List.flatMap_assoc]
  simp [Value.leaves, Value.text, List.flatMap_id']

/-- In a slice, values made of pieces have the elements of the segments for leaves. -/
theorem leaves_of_pieces {K : ElemKind} {v : Value} {segments : List (List K.Elem)}
    (h : v.leaves = (slice K).pieces segments) :
    v.leaves = Value.leavesOfList (segments.flatten.map K.value) := by
  rw [h]
  unfold Medium.pieces
  clear h
  induction segments with
  | nil => rfl
  | cons xs segments ih =>
    rw [List.flatMap_cons, ih, List.flatten_cons, List.map_append, Value.leavesOfList_append]
    rfl

/-! ## Copying parsers -/

/-- The terminal yields what it takes. -/
def Medium.Copies (M : Medium) (t : M.Terminal) : Prop :=
  ∀ rest v n, M.recognise t rest = some (v, n) → v.leaves = (M.piece (rest.take n)).leaves

/-- The terminals of text yield the text that they take. -/
theorem copies_text (t : TextTerminal) : text.Copies t := by
  intro rest v n h
  cases t with
  | literal s =>
    change (if s.toList.isPrefixOf rest then some (Value.str s, s.toList.length) else none) = _ at h
    by_cases hp : s.toList.isPrefixOf rest = true
    · rw [if_pos hp] at h
      cases h
      rw [List.isPrefixOf_iff_prefix] at hp
      rw [← List.prefix_iff_eq_take.1 hp]
      show [Value.str s] = [Value.str (String.ofList s.toList)]
      rw [String.ofList_toList]
    · rw [if_neg hp] at h
      cases h
  | pattern p =>
    obtain ⟨m, -, h'⟩ := Option.map_eq_some_iff.1 h
    cases h'
    rfl
  | character =>
    cases rest with
    | nil => cases h
    | cons x xs => cases h; rfl

/-- Tokens yield themselves. -/
theorem copies_token {K : ElemKind} (e : K.Elem) : (slice K).Copies (.token e) := by
  intro rest v n h
  cases rest with
  | nil => cases h
  | cons x xs =>
    obtain ⟨w, hw, h'⟩ := Option.map_eq_some_iff.1 h
    cases h'
    unfold SliceTerminal.value? at hw
    dsimp only at hw
    split at hw
    · cases hw
      exact (List.append_nil _).symm
    · cases hw

/-- The parser is made of terminals that yield what they take, and puts their values in pairs and
lists, optional or tagged. `L` holds of what a choice or an optional parser tries first. -/
inductive Parser.Copying (L : Parser M → Prop) : Parser M → Prop
  | terminal {t : M.Terminal} (ht : M.Copies t) : Copying L (.terminal t)
  | fail (message : String) : Copying L (.fail message)
  | both {p q : Parser M} (hp : Copying L p) (hq : Copying L q) : Copying L (.both p q)
  | choice {p q : Parser M} (hl : L p) (hp : Copying L p) (hq : Copying L q) :
    Copying L (.choice p q)
  | tagged {p q : Parser M} (hl : L p) (hp : Copying L p) (hq : Copying L q) :
    Copying L (.tagged p q)
  | many {p : Parser M} (hp : Copying L p) : Copying L (.many p)
  | opt {p : Parser M} (hl : L p) (hp : Copying L p) : Copying L p.opt
  | cell (k : Cell) : Copying L (.cell k)
  | wrapped {p : Parser M} (hp : Copying L p) : Copying L (.wrapped p)
  | whole {p : Parser M} (hp : Copying L p) : Copying L (.whole p)

theorem Parser.Copying.imp {L L' : Parser M → Prop} {p : Parser M} (h : p.Copying L)
    (hL : ∀ q, L q → L' q) : p.Copying L' := by
  induction h with
  | terminal ht => exact .terminal ht
  | fail message => exact .fail message
  | both _ _ ihp ihq => exact .both ihp ihq
  | choice hl _ _ ihp ihq => exact .choice (hL _ hl) ihp ihq
  | tagged hl _ _ ihp ihq => exact .tagged (hL _ hl) ihp ihq
  | many _ ih => exact .many ih
  | opt hl _ ih => exact .opt (hL _ hl) ih
  | cell k => exact .cell k
  | wrapped _ ih => exact .wrapped ih
  | whole _ ih => exact .whole ih

/-- The texts of digits, integers and decimal fractions are copied. -/
theorem Number.copying_texts {L : Parser text → Prop} (hL : ∀ t, L (.terminal t)) :
    ∀ p ∈ [digitText, integerText, floatText], p.Copying L := by
  have hm : ∀ p message, (matching p message).Copying L :=
    fun p message => .choice (hL _) (.terminal (copies_text _)) (.fail message)
  simp only [List.forall_mem_cons, List.not_mem_nil, false_imp_iff, implies_true, and_true]
  exact ⟨hm _ _, hm _ _, hm _ _⟩

/-- Where the parser fails, it fails at the cursor where it was tried. -/
def Grammar.Stays (g : Grammar M) (p : Parser M) : Prop :=
  ∀ n c, (p.eval g n c).Ensures (FailsAt c)

/-- Parsers that fail in place, as their form shows, do so. -/
theorem Parser.InPlace.stays {p : Parser M} (h : p.InPlace g) : g.Stays p := by
  intro n c
  rw [Grammar.eval_eq_evalWith]
  exact h.failsAt n c

/-! ## Pieces of what is read -/

/-- The values are made of pieces of what stands between the cursors, in order: of all of it, if
`exact` holds. -/
def Copied (exact : Prop) (c d : Cursor M) (leaves : List Value) : Prop :=
  ∃ xs segments, c.Between xs d ∧ leaves = M.pieces segments ∧ Picks segments xs ∧
    (exact → segments.flatten = xs)

/-- A value of the outcome is made of what has been read from the cursor on. -/
abbrev Outcome.Copies (exact : Prop) (c : Cursor M) : Outcome M Value → Prop :=
  Meets (fun v d => Copied exact c d v.leaves) fun _ => True

section Copied

variable {exact : Prop} {c d e : Cursor M} {vs ws : List Value}

theorem copied_nil (hc : c.Placed) : Copied exact c c [] :=
  ⟨[], [], hc.between_self, rfl, .nil [], fun _ => rfl⟩

theorem Copied.placed (h : Copied exact c d vs) : d.Placed := by
  obtain ⟨xs, segments, hb, -⟩ := h
  exact hb.placed

theorem Copied.append (h : Copied exact c d vs) (h' : Copied exact d e ws) :
    Copied exact c e (vs ++ ws) := by
  obtain ⟨xs, segments, hb, rfl, hp, hx⟩ := h
  obtain ⟨ys, segments', hb', rfl, hp', hy⟩ := h'
  refine ⟨xs ++ ys, segments ++ segments', hb.trans hb', ?_, hp.append hp', fun he => ?_⟩
  · exact List.flatMap_append.symm
  · rw [List.flatten_append, hx he, hy he]

/-- What is passed over before is missing, if it is anything. -/
theorem Copied.skip (h : Copied exact d e vs) (hc : c.Placed) (hd : c.Reaches d)
    (hx : exact → d = c) : Copied exact c e vs := by
  obtain ⟨xs, hb⟩ := hd.between hc
  have hskip : Copied exact c d [] := by
    refine ⟨xs, [], hb, rfl, .nil xs, fun he => ?_⟩
    have hs := hb.offset
    rw [hx he] at hs
    exact (Units.eq_nil_of_size M.width_pos (by omega)).symm
  exact hskip.append h

/-- A terminal yields what it takes. -/
theorem accept_copied (hc : c.Placed) {t : M.Terminal} (ht : M.Copies t) :
    (c.accept t).Copies exact c := by
  refine (accept_between hc t).imp (fun v d hv => ?_) fun _ _ => trivial
  obtain ⟨n, h, hb⟩ := hv
  refine ⟨c.remaining.take n, [c.remaining.take n], hb, ?_, .whole _, fun _ => ?_⟩
  · rw [ht _ v n h]
    exact (List.append_nil _).symm
  · exact List.append_nil _

/-- The values of a repetition are those of its rounds. -/
theorem ensures_repeated_copied {step : Cursor M → Run M Value}
    (h : ∀ d, d.Placed → (step d).Ensures (Copies exact d)) (bound : Nat) (hc : c.Placed) :
    (repeated step bound c).Ensures
      (Meets (fun vs d => Copied exact c d (Value.leavesOfList vs)) fun _ => False) := by
  induction bound generalizing c with
  | zero => exact ensures_endless
  | succ bound ih =>
    refine (h c hc).handle (fun v next hv => ?_) (fun _ _ => ensures_success (copied_nil hc))
      fun _ => trivial
    by_cases ho : next.offset = c.offset
    · rw [if_pos ho]
      exact ensures_success (copied_nil hc)
    · rw [if_neg ho]
      exact Ensures.map_value ((ih hv.placed).imp_value fun vs d hvs => hv.append hvs)

end Copied

namespace Parser

/-- What is tried first fails at a cursor that it reaches, and at its start if it has to stay. -/
theorem tried {exact : Prop} {n : Nat} {p : Parser M} {c : Cursor M} {S : Value → Cursor M → Prop}
    (hl : exact → g.Stays p) (h : (p.evalWith (g.enter n) c).Ensures (Meets S fun _ => True)) :
    (p.evalWith (g.enter n) c).Ensures
      (Meets S fun e => c.Reaches e.next ∧ (exact → e.next = c)) := by
  have hstays : (p.evalWith (g.enter n) c).Ensures fun o => exact → o.FailsAt c := by
    rw [← Grammar.eval_eq_evalWith]
    exact fun built s hs he => hl he n c built s hs
  refine ((h.and (p.evalWith_reaches (g.enter_reaches n) c)).and hstays).imp fun o ho => ?_
  obtain ⟨⟨hmeets, hreach⟩, hstay⟩ := ho
  cases o with
  | success v d => exact hmeets
  | failure e => exact ⟨hreach, hstay⟩
  | fault f => trivial

/-- Where a failure is gone on from, what lies before it is missing. -/
theorem copies_of_failure {exact : Prop} {run : Run M Value} {c : Cursor M} {e : Failure M}
    (hc : c.Placed) (he : c.Reaches e.next ∧ (exact → e.next = c))
    (h : e.next.Placed → run.Ensures (Copies exact e.next)) : run.Ensures (Copies exact c) := by
  obtain ⟨-, -, hp⟩ := he.1.ahead hc
  exact (h hp).imp_value fun v d hv => hv.skip hc he.1 he.2

/-- A copying parser copies what it reads, if the cells do that it enters. -/
theorem Copying.evalWith {exact : Prop} {n : Nat}
    (henter : ∀ k c, c.Placed → (g.enter n k c).Ensures (Copies exact c)) {p : Parser M}
    (h : p.Copying fun q => exact → g.Stays q) {c : Cursor M} (hc : c.Placed) :
    (p.evalWith (g.enter n) c).Ensures (Copies exact c) := by
  induction h generalizing c with
  | terminal ht => exact ensures_done (accept_copied hc ht)
  | fail message => exact ensures_failure trivial
  | both _ _ ihp ihq =>
    exact (ihp hc).andThen fun v next hv =>
      Ensures.map_value ((ihq hv.placed).imp_value fun w d hw => hv.append hw)
  | choice hl _ _ ihp ihq =>
    exact (tried hl (ihp hc)).handle (fun v next hv => ensures_success hv)
      (fun e he => (copies_of_failure hc he ihq).noting _) fun _ => trivial
  | tagged hl _ _ ihp ihq =>
    exact (tried hl (ihp hc)).handle (fun v next hv => ensures_success hv)
      (fun e he => (Ensures.map_value (copies_of_failure hc he ihq)).noting _) fun _ => trivial
  | many _ ih =>
    exact Ensures.map_value
      ((ensures_repeated_copied (fun d hd => ih hd) _ hc).imp fun o ho => ho.imp
        (fun _ _ hvs => hvs) fun _ he => he.elim)
  | opt hl _ ih =>
    have hpresent := Ensures.map_value (f := Value.present)
      (S := fun v d => Copied exact c d (Value.leaves v)) (tried hl (ih hc))
    refine hpresent.handle (fun v next hv => ensures_success hv) (fun e he => ?_) fun _ => trivial
    have hp : e.next.Placed := (he.1.ahead hc).2.2
    exact ensures_success ((copied_nil hp).skip hc he.1 he.2)
  | cell k => exact henter k c hc
  | wrapped _ ih => exact ih hc
  | whole _ ih => exact (ih hc).toEnd fun _ _ _ => trivial

/-- **A copying parser copies what it reads.** -/
theorem Copying.eval {exact : Prop}
    (hg : ∀ f ∈ g.cells, f.parser.Copying fun q => exact → g.Stays q) (n : Nat) {p : Parser M}
    (h : p.Copying fun q => exact → g.Stays q) {c : Cursor M} (hc : c.Placed) :
    (p.eval g n c).Ensures (Copies exact c) := by
  rw [Grammar.eval_eq_evalWith]
  induction n generalizing p c with
  | zero => exact h.evalWith (n := 0) (fun _ _ _ => ensures_endless) hc
  | succ n ih =>
    refine h.evalWith (n := n + 1) (fun k d hd => Ensures.building ?_ k _) hc
    rw [Grammar.eval_eq_evalWith]
    exact ih (Grammar.forall_target hg (fun _ => .fail _) k) hd

end Parser

namespace Grammar

/-- **Nothing is invented, yielded twice or lost.** A copying parser over copying cells, started at
a cursor reached from the beginning of a source, has read the elements `xs` when it yields a value,
and the leaves of the value are those of pieces of `xs`, one behind the other. So put together the
segments are `xs` with gaps left out. There are no gaps if whatever a choice or an optional parser
tries first fails only at the cursor where it was tried. -/
theorem pieces_of_success (g : Grammar M) (hg : ∀ f ∈ g.cells, f.parser.Copying fun _ => True)
    {p : Parser M} (hp : p.Copying fun _ => True) {s : Source M} {c d : Cursor M}
    (hc : s.start.Reaches c) {n : Nat} {built : List Cell} {t : Finish M Value} {v : Value}
    (ht : p.eval g n c built = some t) (hv : t.outcome = .success v d) :
    ∃ xs segments, c.Between xs d ∧ v.leaves = M.pieces segments ∧ Picks segments xs ∧
      segments.flatten.Sublist xs ∧
      (((∀ f ∈ g.cells, f.parser.Copying g.Stays) ∧ p.Copying g.Stays) →
        segments.flatten = xs) := by
  obtain ⟨-, -, hcp⟩ := hc.ahead (placed_start s)
  have heval : (p.eval g n c).Ensures
      (Copies ((∀ f ∈ g.cells, f.parser.Copying g.Stays) ∧ p.Copying g.Stays) c) := by
    by_cases hexact : (∀ f ∈ g.cells, f.parser.Copying g.Stays) ∧ p.Copying g.Stays
    · exact Parser.Copying.eval (fun q hq => (hexact.1 q hq).imp fun _ hs _ => hs) n
        (hexact.2.imp fun _ hs _ => hs) hcp
    · exact Parser.Copying.eval (fun q hq => (hg q hq).imp fun _ _ he => (hexact he).elim) n
        (hp.imp fun _ _ he => (hexact he).elim) hcp
  have hcopied := heval built t ht
  rw [hv] at hcopied
  obtain ⟨xs, segments, hb, hl, hpicks, hx⟩ := hcopied
  exact ⟨xs, segments, hb, hl, hpicks, hpicks.sublist, hx⟩

/-- An `x` in brackets, and a `y` after them. -/
theorem pieces_of_success_brackets :
    let bracket : Parser text := .both (.terminal (.literal "("))
      (.both (.cell 0) (.terminal (.literal ")")))
    let g : Grammar text := ⟨#[.yields (.choice (.terminal (.literal "x")) bracket)]⟩
    let p : Parser text := .both (.cell 0) (.opt (.terminal (.literal "y")))
    let s : Source text := ⟨0, ['(', 'x', ')', 'y', 'z']⟩
    let v : Value := .pair (.pair (.str "(") (.pair (.str "x") (.str ")"))) (.present (.str "y"))
    ∃ t, p.eval g 2 s.start [] = some t ∧ t.outcome = .success v ⟨s, 4⟩ ∧
      v.text.toList = ['(', 'x', ')', 'y'] := by
  intro bracket g p s v
  have literal : ∀ (L : Parser text → Prop) w,
      (Parser.terminal (.literal w) : Parser text).Copying L :=
    fun L w => .terminal (copies_text _)
  have hcells : ∀ (L : Parser text → Prop), (∀ w, L (.terminal (.literal w))) →
      (∀ f ∈ g.cells, f.parser.Copying L) ∧ p.Copying L := by
    intro L hL
    refine ⟨fun f hf => ?_, .both (.cell 0) (.opt (hL "y") (literal L "y"))⟩
    obtain rfl : f = .yields (.choice (.terminal (.literal "x")) bracket) := by simpa [g] using hf
    exact .choice (hL "x") (literal L "x") (.both (literal L "(") (.both (.cell 0) (literal L ")")))
  obtain ⟨hg, hp⟩ := hcells (fun _ => True) fun _ => trivial
  let log : List Record := [.building, .fallback 0 "Expected string literal \"x\""]
  have ht : p.eval g 2 s.start [] = some ⟨.success v ⟨s, 4⟩, [0], log⟩ := by
    subst log v s p g bracket
    exact rfl
  obtain ⟨xs, segments, hb, hl, -, -, hexact⟩ := pieces_of_success g hg hp .refl ht rfl
  have hsplit : ['(', 'x', ')', 'y'] ++ ['z'] = xs ++ ['z'] := hb.remaining
  have hxs : xs = ['(', 'x', ')', 'y'] := (List.append_cancel_right hsplit).symm
  refine ⟨_, ht, rfl, ?_⟩
  rw [toList_text_of_pieces hl, hexact (hcells _ fun w => (Parser.InPlace.terminal _).stays), hxs]

/-- What the left side of a choice has read before it failed is missing: after `ac` the value is
`c`. -/
example :
    let p : Parser text := .choice (.both (.terminal (.literal "a")) (.terminal (.literal "b")))
      (.terminal (.literal "c"))
    let s : Source text := ⟨0, ['a', 'c']⟩
    p.eval ⟨#[]⟩ 0 s.start [] = some ⟨.success (.str "c") ⟨s, 2⟩, [],
      [.fallback 1 "Expected string literal \"b\""]⟩ :=
  rfl

end Grammar

end GrammarEngine
