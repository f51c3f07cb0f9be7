import GrammarEngine.Parser.Number
import GrammarEngine.Proofs.Calls

/-!
# Where failures come from

A failure is dropped by a repetition, replaced by a choice, turned into a value by a recovery and
passed on by everything else. Nothing changes it on its way: the failure in which a run ends has
been reported, message and cursor together, by a parser of the grammar that the run has come to run
(`failure_reported`).

1. `Parser.OwnMessage` lists the leaves of grammars, the number parsers among them, with the
   messages that they fail with; `Leaf.own` proves that they fail with no other.
2. `g.Reports q d e` says who reports a failure: a leaf at `d`, a function of `tryMap` or
   `tryRecover` in its answer, or a parser for the whole input that leaves some of it.
3. What has been reported in a part has been reported in the whole (`Reported.call`), so by
   induction on the parser, and then on the bound, every failure has been reported (`eval_traced`).
-/

namespace GrammarEngine

open Outcome Cursor Run

variable {M : Medium} {g : Grammar M}

/-! ## Leaves and their messages -/

/-- The leaf fails with the message, as far as its form shows. -/
inductive Parser.OwnMessage : {M : Medium} → Parser M → String → Prop
  | fail {M : Medium} (message : String) : OwnMessage (.fail message : Parser M) message
  | terminal {M : Medium} (t : M.Terminal) : OwnMessage (.terminal t) (M.expectation t)
  | digitText : OwnMessage Number.digitText "Digit expected"
  | digit : OwnMessage Number.digit "Digit expected"
  | integerText : OwnMessage Number.integerText "Integer expected"
  | integer : OwnMessage Number.integer "Integer expected"
  | outOfRange : OwnMessage Number.integer "Integer out of range"
  | floatText : OwnMessage Number.floatText "Number expected"
  | float : OwnMessage Number.float "Number expected"

/-- A leaf that can fail. -/
def Parser.Leaf (p : Parser M) : Prop := ∃ message, p.OwnMessage message

theorem Parser.not_leaf_cell (k : Cell) : ¬ (.cell k : Parser M).Leaf := by
  rintro ⟨message, h⟩
  cases h

namespace Number

variable (enter : Cell → Cursor text → Run text Value) (c : Cursor text)

theorem matching_message (p : Pattern) (message : String) :
    ((matching p message).evalWith enter c).Ensures
      (Meets (fun _ _ => True) fun e => e.message = message) := by
  refine (ensures_true _).handle (fun _ _ _ => ensures_success trivial)
    (fun e _ => Ensures.noting ?_ _) fun _ => trivial
  exact ensures_failure rfl

theorem integer_message : (integer.evalWith enter c).Ensures (Meets (fun _ _ => True)
    fun e => e.message = "Integer expected" ∨ e.message = "Integer out of range") := by
  refine (matching_message enter c integerPattern "Integer expected").handle (fun v next _ => ?_)
    (fun e he => ensures_failure (Or.inl he)) fun _ => trivial
  dsimp only
  split
  · exact ensures_success trivial
  · exact ensures_failure (Or.inr rfl)

theorem float_message : (float.evalWith enter c).Ensures
    (Meets (fun _ _ => True) fun e => e.message = "Number expected") := by
  refine (matching_message enter c floatPattern "Number expected").handle (fun v next _ => ?_)
    (fun e he => ensures_failure he) fun _ => trivial
  dsimp only
  split
  · exact ensures_success trivial
  · exact ensures_failure rfl

end Number

/-- A leaf fails with a message of its own. -/
theorem Parser.Leaf.own {p : Parser M} (h : p.Leaf) (enter : Cell → Cursor M → Run M Value)
    (c : Cursor M) :
    (p.evalWith enter c).Ensures (Meets (fun _ _ => True) fun e => p.OwnMessage e.message) := by
  have same : ∀ {p : Parser M} {message : String}, p.OwnMessage message →
      (p.evalWith enter c).Ensures (Meets (fun _ _ => True) fun e => e.message = message) →
      (p.evalWith enter c).Ensures (Meets (fun _ _ => True) fun e => p.OwnMessage e.message) :=
    fun ho h => h.imp fun _ hm => hm.imp (fun _ _ h => h) fun _ he => he ▸ ho
  obtain ⟨message, h⟩ := h
  cases h with
  | fail message => exact ensures_failure (.fail message)
  | terminal t =>
    refine ensures_done ?_
    unfold accept
    split
    next v n h => rcases c.forward n with f | d <;> trivial
    next => exact .terminal t
  | digitText => exact same .digitText (Number.matching_message enter c _ _)
  | digit => exact same .digit ((Number.matching_message enter c _ _).map _)
  | integerText => exact same .integerText (Number.matching_message enter c _ _)
  | integer | outOfRange =>
    refine (Number.integer_message enter c).imp fun _ hm => hm.imp (fun _ _ h => h) ?_
    rintro e (he | he)
    · exact he ▸ .integer
    · exact he ▸ .outOfRange
  | floatText => exact same .floatText (Number.matching_message enter c _ _)
  | float => exact same .float (Number.float_message enter c)

/-! ## Reports -/

/-- The parser may fail with what no leaf says: a function of it, that is not one of a leaf, may
answer so, or it may find input left over. -/
def Parser.Judges : Parser M → Prop
  | tryMap p f => ¬ (tryMap p f).Leaf
  | tryRecover _ _ | whole _ => True
  | _ => False

/-- The parsers that a parser is made of. What its functions answer is not among them. -/
def Parser.parts (g : Grammar M) : Parser M → List (Parser M)
  | succeed _ | fail _ | terminal _ | advance _ => []
  | map p _ | tryMap p _ | recover p _ | tryRecover p _ | many p | wrapped p | whole p => [p]
  | both p q | first p q | second p q | choice p q | tagged p q => [p, q]
  | cell k => [g.target k]

namespace Grammar

/-- The second parser is the first, or stands in it as the grammar is written. Leaves are not looked
into. -/
inductive Mentions (g : Grammar M) : Parser M → Parser M → Prop
  | refl (p : Parser M) : Mentions g p p
  | part {p q r : Parser M} (hl : ¬ p.Leaf) (hq : q ∈ p.parts g) (h : Mentions g q r) :
    Mentions g p r

/-- The failure is reported where the parser is run at the cursor. -/
inductive Reports (g : Grammar M) : Parser M → Cursor M → Failure M → Prop
  /-- A leaf fails, with a message of its own. -/
  | leaf {p : Parser M} {c : Cursor M} {e : Failure M} (h : g.Gives p c (.failure e))
    (ho : p.OwnMessage e.message) : Reports g p c e
  /-- A function answers a value with the failure, and is not that of a leaf. -/
  | onValue {p : Parser M} {f : Value → Cursor M → Parser M} {c next : Cursor M} {v : Value}
    {e : Failure M} (hl : ¬ (p.tryMap f).Leaf) (hv : g.Gives p c (.success v next))
    (he : g.Gives (f v next) next (.failure e)) : Reports g (.tryMap p f) c e
  /-- A function answers a failure with another. -/
  | onFailure {p : Parser M} {f : Failure M → Parser M} {c : Cursor M} {e' e : Failure M}
    (he' : g.Gives p c (.failure e')) (he : g.Gives (f e') e'.next (.failure e)) :
    Reports g (.tryRecover p f) c e
  /-- A parser for the whole input ends before the input does. -/
  | leftover {p : Parser M} {c next : Cursor M} {v : Value} (hv : g.Gives p c (.success v next))
    (hn : next.isEmpty = false) : Reports g (.whole p) c ⟨leftoverMessage, next⟩

/-- The failure is reported by a parser of the grammar that the run comes to run. -/
def Reported (g : Grammar M) (p : Parser M) (c : Cursor M) (e : Failure M) : Prop :=
  ∃ q d, g.Mentions p q ∧ g.Runs p c q d ∧ g.Reports q d e

theorem Gives.within {p : Parser M} {c : Cursor M} {o : Outcome M Value} (h : g.Gives p c o) :
    o.Within c.Reaches := by
  obtain ⟨n, s, hs, rfl⟩ := h
  exact p.eval_reaches g n c [] s hs

/-- A failure is not reported before it is looked for. -/
theorem Reports.reaches {p : Parser M} {c : Cursor M} {e : Failure M} (h : g.Reports p c e) :
    c.Reaches e.next := by
  cases h with
  | leaf h => exact h.within
  | onValue _ hv he => exact Reaches.trans hv.within he.within
  | onFailure he' he => exact Reaches.trans he'.within he.within
  | leftover hv => exact hv.within

/-- Where no other can, a leaf reports the failure. -/
theorem Reports.own {p : Parser M} {c : Cursor M} {e : Failure M} (h : g.Reports p c e)
    (hp : ¬ p.Judges) : g.Gives p c (.failure e) ∧ p.OwnMessage e.message := by
  cases h with
  | leaf h ho => exact ⟨h, ho⟩
  | onValue hl => exact (hp hl).elim
  | onFailure | leftover => exact (hp trivial).elim

theorem Reports.reported {p : Parser M} {c : Cursor M} {e : Failure M} (h : g.Reports p c e) :
    g.Reported p c e := ⟨p, c, .refl p, .refl p c, h⟩

/-- What is reported in a part is reported in the whole. -/
theorem Reported.call {p q : Parser M} {c d : Cursor M} {e : Failure M} (hl : ¬ p.Leaf)
    (hq : q ∈ p.parts g) (hc : g.Calls p c q d) (h : g.Reported q d e) : g.Reported p c e := by
  obtain ⟨r, d', hm, hr, he⟩ := h
  exact ⟨r, d', .part hl hq hm, .call hc hr, he⟩

end Grammar

/-! ## Every failure has been reported -/

/-- The failure, if it is one, has been reported. -/
abbrev Outcome.Traced (g : Grammar M) (p : Parser M) (c : Cursor M) : Outcome M Value → Prop :=
  Meets (fun _ _ => True) (g.Reported p c)

namespace Parser

theorem evalWith_gives (n : Nat) (p : Parser M) (c : Cursor M) :
    (p.evalWith (g.enter n) c).Ensures (g.Gives p c) := by
  rw [← Grammar.eval_eq_evalWith]
  exact Grammar.eval_ensures_gives n p c

/-- A failure that only the answer of a function can be is reported as such. -/
theorem traced_of_gives {n : Nat} {p q : Parser M} {c d : Cursor M}
    (h : ∀ e, g.Gives q d (.failure e) → g.Reports p c e) :
    (q.evalWith (g.enter n) d).Ensures (Traced g p c) := by
  refine (q.evalWith_gives n d).imp fun o ho => ?_
  cases o with
  | failure e => exact (h e ho).reported
  | success | fault => trivial

/-- A leaf reports its failures itself. -/
theorem Leaf.traced {p : Parser M} (hl : p.Leaf) (n : Nat) (c : Cursor M) :
    (p.evalWith (g.enter n) c).Ensures (Traced g p c) := by
  refine ((p.evalWith_gives n c).and (hl.own (g.enter n) c)).imp fun o ho => ?_
  cases o with
  | failure e => exact Grammar.Reports.reported (.leaf ho.1 ho.2)
  | success | fault => trivial

/-- So only the others have to be looked into. -/
theorem traced_of_not_leaf {p : Parser M} {n : Nat} {c : Cursor M}
    (h : ¬ p.Leaf → (p.evalWith (g.enter n) c).Ensures (Traced g p c)) :
    (p.evalWith (g.enter n) c).Ensures (Traced g p c) := by
  by_cases hl : p.Leaf
  · exact hl.traced n c
  · exact h hl

/-- What a part ends in is known, and its failure is reported as one of the whole. -/
theorem part_traced {n : Nat} {p q : Parser M} {c d : Cursor M} (hl : ¬ p.Leaf)
    (hq : q ∈ p.parts g) (hc : g.Calls p c q d)
    (h : (q.evalWith (g.enter n) d).Ensures (Traced g q d)) :
    (q.evalWith (g.enter n) d).Ensures fun o => g.Gives q d o ∧ o.Traced g p c :=
  (q.evalWith_gives n d).and
    (h.imp fun _ ho => ho.imp (fun _ _ h => h) fun _ he => he.call hl hq hc)

theorem last_traced {n : Nat} {p q : Parser M} {c d : Cursor M} (hl : ¬ p.Leaf)
    (hq : q ∈ p.parts g) (hc : g.Calls p c q d)
    (h : (q.evalWith (g.enter n) d).Ensures (Traced g q d)) :
    (q.evalWith (g.enter n) d).Ensures (Traced g p c) :=
  (part_traced hl hq hc h).imp fun _ ho => ho.2

/-- A parser's failures have been reported, if those of the cells that it enters have been. -/
theorem evalWith_traced {n : Nat}
    (henter : ∀ k c, (g.enter n k c).Ensures (Traced g (.cell k) c)) (p : Parser M) (c : Cursor M) :
    (p.evalWith (g.enter n) c).Ensures (Traced g p c) := by
  induction p generalizing c with
  | fail message => exact Leaf.traced ⟨_, .fail message⟩ n c
  | terminal t => exact Leaf.traced ⟨_, .terminal t⟩ n c
  | cell k => exact henter k c
  | succeed v => exact ensures_success trivial
  | advance n =>
    refine ensures_done ?_
    rcases c.forward n with f | d <;> trivial
  | many p ih =>
    exact (ensures_repeated (fun _ _ => ensures_within_true _) _ trivial).handle
      (fun _ _ _ => ensures_success trivial) (fun _ he => he.elim) fun _ => trivial
  | recover p f ih =>
    exact (ensures_true _).handle (fun _ _ _ => ensures_success trivial)
      (fun _ _ => ensures_success trivial) fun _ => trivial
  | tryRecover p f ih _ =>
    exact (p.evalWith_gives n c).handle (fun _ _ _ => ensures_success trivial)
      (fun e' he' => traced_of_gives fun e he => .onFailure he' he) fun _ => trivial
  | map p f ih =>
    exact traced_of_not_leaf fun hl => (last_traced hl (.head _) .map (ih c)).map f
  | tryMap p f ih _ =>
    exact traced_of_not_leaf fun hl => (part_traced hl (.head _) .tryMap (ih c)).handle
      (fun v next hv => traced_of_gives fun e he => .onValue hl hv.1 he)
      (fun e he => ensures_failure he.2) fun _ => trivial
  | both p q ihp ihq =>
    exact traced_of_not_leaf fun hl => (part_traced hl (.head _) .both (ihp c)).handle
      (fun v next hv => (last_traced hl (.tail _ (.head _)) (.bothSecond hv.1) (ihq next)).map _)
      (fun e he => ensures_failure he.2) fun _ => trivial
  | first p q ihp ihq =>
    exact traced_of_not_leaf fun hl => (part_traced hl (.head _) .first (ihp c)).handle
      (fun v next hv => (last_traced hl (.tail _ (.head _)) (.firstSecond hv.1) (ihq next)).map _)
      (fun e he => ensures_failure he.2) fun _ => trivial
  | second p q ihp ihq =>
    exact traced_of_not_leaf fun hl => (part_traced hl (.head _) .second (ihp c)).handle
      (fun v next hv => last_traced hl (.tail _ (.head _)) (.secondSecond hv.1) (ihq next))
      (fun e he => ensures_failure he.2) fun _ => trivial
  | choice p q ihp ihq =>
    -- the failure of the first part is dropped, and only says where the second is run
    exact traced_of_not_leaf fun hl => (p.evalWith_gives n c).handle
      (fun _ _ _ => ensures_success trivial)
      (fun e he => (last_traced hl (.tail _ (.head _)) (.choiceSecond he) (ihq e.next)).noting _)
      fun _ => trivial
  | tagged p q ihp ihq =>
    exact traced_of_not_leaf fun hl => (p.evalWith_gives n c).handle
      (fun _ _ _ => ensures_success trivial)
      (fun e he =>
        ((last_traced hl (.tail _ (.head _)) (.taggedSecond he) (ihq e.next)).map _).noting _)
      fun _ => trivial
  | wrapped p ih =>
    exact traced_of_not_leaf fun hl =>
      last_traced (p := p.wrapped) (q := p) hl (.head _) .wrapped (ih c)
  | whole p ih =>
    refine traced_of_not_leaf fun hl => (part_traced hl (.head _) .whole (ih c)).handle
      (fun v next hv => ?_) (fun e he => ensures_failure he.2) fun _ => trivial
    by_cases hn : next.isEmpty = true
    · rw [if_pos hn]; exact ensures_success trivial
    · rw [if_neg hn]
      have hn' : next.isEmpty = false := Bool.eq_false_iff.2 hn
      exact (ensures_failure (Grammar.Reports.leftover hv.1 hn').reported).noting _

/-- **Every failure has been reported**, by a parser of the grammar that the run has come to run. -/
theorem eval_traced (n : Nat) (p : Parser M) (c : Cursor M) :
    (p.eval g n c).Ensures (Traced g p c) := by
  rw [Grammar.eval_eq_evalWith]
  induction n generalizing p c with
  | zero => exact evalWith_traced (n := 0) (fun _ _ => ensures_endless) p c
  | succ n ih =>
    refine evalWith_traced (n := n + 1) (fun k d => Ensures.building ?_ k _) p c
    rw [Grammar.eval_eq_evalWith]
    exact last_traced (p := .cell k) (not_leaf_cell k) (.head _) .cell (ih (g.target k) d)

end Parser

namespace Grammar

/-- What holds of a parser and of the parts of whatever it holds of, holds of all it mentions. -/
theorem Mentions.all {P : Parser M → Prop} (hP : ∀ p, P p → ¬ p.Leaf → ∀ q ∈ p.parts g, P q)
    {p q : Parser M} (h : g.Mentions p q) (hp : P p) : P q := by
  induction h with
  | refl => exact hp
  | part hl hq _ ih => exact ih (hP _ hp hl _ hq)

/-- **Where a failure comes from.** The failure in which a run ends, its message and its cursor, is
the failure of one parser that stands in the grammar. The run has come to run that parser at a
cursor between its own and the failure's, and it is a leaf that fails so, or has a function that
answers so, or ends before the end of the input where it is to end there. If none but leaves have
failures of their own, it is a leaf, and the message is one of the leaf's. -/
theorem failure_reported (g : Grammar M) (p : Parser M) {s : Source M} {c : Cursor M}
    (hc : s.start.Reaches c) {n : Nat} {built : List Cell} {t : Finish M Value} {e : Failure M}
    (ht : p.eval g n c built = some t) (he : t.outcome = .failure e) :
    ∃ q d, g.Mentions p q ∧ g.Runs p c q d ∧ d.source = s ∧ e.next.source = s ∧
      c.offset ≤ d.offset ∧ d.offset ≤ e.next.offset ∧ g.Reports q d e ∧
      ((∀ r, g.Mentions p r → ¬ r.Judges) →
        g.Gives q d (.failure e) ∧ q.OwnMessage e.message) := by
  have htraced := p.eval_traced (g := g) n c built t ht
  rw [he] at htraced
  obtain ⟨q, d, hm, hr, hq⟩ := htraced
  obtain ⟨hcs, -, hcp⟩ := hc.ahead (placed_start s)
  obtain ⟨hds, hcd, hdp⟩ := hr.reaches.ahead hcp
  obtain ⟨hes, hde, -⟩ := hq.reaches.ahead hdp
  have hs : d.source = s := hds.trans hcs
  exact ⟨q, d, hm, hr, hs, hes.trans hs, hcd, hde, hq, fun hj => hq.own (hj q hm)⟩

/-- An `x` is missing inside a bracket. -/
theorem failure_reported_brackets :
    let bracket : Parser text := .second (.terminal (.literal "(")) (.cell 0)
    let g : Grammar text := ⟨#[.yields (.choice bracket (.terminal (.literal "x")))]⟩
    let s : Source text := ⟨0, ['(', 'y']⟩
    let e : Failure text := ⟨"Expected string literal \"x\"", ⟨s, 1⟩⟩
    ∃ t, (Parser.cell 0).eval g 2 s.start [] = some t ∧ t.outcome = .failure e ∧
      ∃ q d, g.Runs (.cell 0) s.start q d ∧ d.offset ≤ 1 ∧ g.Gives q d (.failure e) ∧
        q.OwnMessage "Expected string literal \"x\"" := by
  intro bracket g s e
  have hg : ∀ r, g.Mentions (.cell 0) r → ¬ r.Judges := by
    intro r hr
    have hmem : r ∈ [.cell 0, g.target 0, bracket, .terminal (.literal "("),
        .terminal (.literal "x")] := by
      refine hr.all (P := (· ∈ _)) (fun p hp _ q hq => ?_) (.head _)
      simp only [List.mem_cons, List.not_mem_nil, or_false] at hp
      rcases hp with rfl | rfl | rfl | rfl | rfl <;>
        simp [Parser.parts, g, bracket, target, Factory.yields] at hq ⊢ <;> tauto
    simp only [List.mem_cons, List.not_mem_nil, or_false] at hmem
    rcases hmem with rfl | rfl | rfl | rfl | rfl <;> exact id
  let log : List Record := [.building, .fallback 1 "Expected string literal \"(\"",
    .fallback 1 e.message]
  have ht : (Parser.cell 0).eval g 2 s.start [] = some ⟨.failure e, [0], log⟩ := rfl
  obtain ⟨q, d, -, hr, -, -, -, hd, -, how⟩ := failure_reported g (.cell 0) .refl ht rfl
  exact ⟨_, ht, rfl, q, d, hr, hd, how hg⟩

end Grammar

end GrammarEngine
