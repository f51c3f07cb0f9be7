import GrammarEngine.Media.Text
import GrammarEngine.Proofs.Desugar
import GrammarEngine.Proofs.Limits

/-!
# Alternatives are tried in turn

A choice between several parsers is written as a tree of choices between two. However the tree is
bracketed, its leaves are tried from left to right, the first where the choice starts and each other
one where the one before it has failed, and the first that does not fail decides. The tree shows in
nothing else: not in the value, the message or the cursor, not in the cells that are built and not
in the log. Main statement: `alternatives_in_turn`.

1. A choice is parsed as its first part and then, from the failure, as its second (`parse_choice`).
2. By the associativity of sequencing a tree of choices is parsed as its row of leaves
   (`parse_alternatives`).
3. A row is tried up to its first parser that does not fail (`parseRow_of_trials`), and there is
   one, or its last has failed too (`exists_trials`).
-/

namespace GrammarEngine

open Outcome Cursor Run

variable {M : Medium} {α β : Type}

/-! ## Choices -/

namespace Run

/-- **Going on from failures is associative.** -/
theorem orElse_orElse (run : Run M α) (onFailure onFailure' : Failure M → Run M α) :
    (run.orElse onFailure).orElse onFailure' =
      run.orElse fun e => (onFailure e).orElse onFailure' := by
  unfold orElse
  rw [handle_handle]
  simp only [handle_of_success]

/-- A run that does not fail is not gone on from. -/
theorem orElse_of_not_failure {run : Run M α} {built : List Cell}
    (h : ∀ e b log, run built ≠ some ⟨.failure e, b, log⟩) (onFailure : Failure M → Run M α) :
    run.orElse onFailure built = run built :=
  handle_eq_self (fun _ _ _ _ _ => rfl) fun e b log hr => (h e b log hr).elim

end Run

namespace Grammar

variable {g : Grammar M} {c : Cursor M}

/-- **A choice** is parsed as its first part and then, from the failure, as its second. -/
theorem parse_choice (p q : Parser M) (hc : c.Placed) :
    g.parse (.choice p q) c = (g.parse p c).orElse fun e =>
      noting (.fallback e.next.offset e.message) (g.parse q e.next) := by
  refine (limit_parse (.choice p q) hc).unique ?_
  have heval : ∀ n, (Parser.choice p q).eval g n c = (p.eval g n c).orElse fun e =>
      noting (.fallback e.next.offset e.message) (q.eval g n e.next) := by
    intro n
    simp only [eval_eq_evalWith]
    rfl
  simp only [heval]
  exact (limit_parse p hc).handle (parse_ensures_placed p hc) (fun _ _ _ => limit_const _)
    fun e he => (limit_parse q he).noting _

end Grammar

/-! ## Trees of choices -/

/-- Parsers to choose between, joined two by two. -/
inductive Alternatives (M : Medium)
  | leaf (p : Parser M)
  | join (a b : Alternatives M)

namespace Alternatives

/-- The tree of choices. -/
def parser : Alternatives M → Parser M
  | leaf p => p
  | join a b => .choice a.parser b.parser

/-- The parsers from left to right. -/
def leaves : Alternatives M → List (Parser M)
  | leaf p => [p]
  | join a b => a.leaves ++ b.leaves

theorem leaves_ne_nil (a : Alternatives M) : a.leaves ≠ [] := by
  induction a with
  | leaf p => exact List.cons_ne_nil p []
  | join a b iha _ => exact fun h => iha (List.append_eq_nil_iff.1 h).1

end Alternatives

namespace Grammar

variable (g : Grammar M)

/-- Try the parsers of a row, each from the failure of the one before it. -/
def parseRow : List (Parser M) → Cursor M → Run M Value
  | [], _ => .endless
  | [p], c => g.parse p c
  | p :: q :: ps, c => (g.parse p c).orElse fun e =>
      noting (.fallback e.next.offset e.message) (parseRow (q :: ps) e.next)

variable {g} {c : Cursor M}

theorem parseRow_cons (p : Parser M) {ps : List (Parser M)} (hps : ps ≠ []) (c : Cursor M) :
    g.parseRow (p :: ps) c = (g.parse p c).orElse fun e =>
      noting (.fallback e.next.offset e.message) (g.parseRow ps e.next) := by
  cases ps with
  | nil => exact (hps rfl).elim
  | cons q qs => rfl

theorem parseRow_append {ps qs : List (Parser M)} (hps : ps ≠ []) (hqs : qs ≠ [])
    (c : Cursor M) :
    g.parseRow (ps ++ qs) c = (g.parseRow ps c).orElse fun e =>
      noting (.fallback e.next.offset e.message) (g.parseRow qs e.next) := by
  induction ps generalizing c with
  | nil => exact (hps rfl).elim
  | cons p ps ih =>
    rw [List.cons_append, parseRow_cons p (by simp [hqs])]
    by_cases hnil : ps = []
    · subst hnil
      rfl
    · rw [parseRow_cons p hnil, orElse_orElse]
      simp only [ih hnil, orElse, noting_handle]

/-- **A tree of choices is parsed as the row of its leaves.** -/
theorem parse_alternatives (a : Alternatives M) (hc : c.Placed) :
    g.parse a.parser c = g.parseRow a.leaves c := by
  induction a generalizing c with
  | leaf p => rfl
  | join a b iha ihb =>
    show g.parse (.choice a.parser b.parser) c = g.parseRow (a.leaves ++ b.leaves) c
    rw [parse_choice _ _ hc, parseRow_append a.leaves_ne_nil b.leaves_ne_nil, ← iha hc]
    exact (parse_ensures_placed _ hc).handle_congr (fun _ _ _ => rfl) fun e he => by rw [ihb he]

end Grammar

/-! ## Trials -/

/-- A parser of a row that has failed: its failure and the records of its run. -/
structure Trial (M : Medium) where
  failure : Failure M
  log : List Record

/-- The records of the trial, and the one that the next parser is tried. -/
def Trial.records (t : Trial M) : List Record :=
  t.log ++ [.fallback t.failure.next.offset t.failure.message]

namespace Grammar

variable (g : Grammar M)

/-- All the parsers fail one after the other, each tried where the one before it has failed, the
first at `c` with the cells `built`; then the next is to be tried at `d` with the cells `b`. -/
inductive Trials : List (Parser M) → Cursor M → List Cell → List (Trial M) → Cursor M → List Cell →
    Prop
  | nil (c : Cursor M) (built : List Cell) : Trials [] c built [] c built
  | cons {p : Parser M} {ps : List (Parser M)} {c d : Cursor M} {built b b' : List Cell}
    {t : Trial M} {ts : List (Trial M)}
    (h : g.parse p c built = some ⟨.failure t.failure, b', t.log⟩)
    (hs : Trials ps t.failure.next b' ts d b) : Trials (p :: ps) c built (t :: ts) d b

variable {g} {p : Parser M} {ps qs : List (Parser M)} {c d : Cursor M} {built b : List Cell}
  {ts : List (Trial M)}

theorem Trials.length_eq (h : g.Trials ps c built ts d b) : ts.length = ps.length := by
  induction h with
  | nil => rfl
  | cons _ _ ih => rw [List.length_cons, List.length_cons, ih]

/-- **After the trials the row goes on as its next parser,** if this does not fail or is last. -/
theorem parseRow_of_trials (h : g.Trials ps c built ts d b)
    (hp : qs = [] ∨ ∀ e b' log, g.parse p d b ≠ some ⟨.failure e, b', log⟩) :
    g.parseRow (ps ++ p :: qs) c built =
      (g.parse p d b).map (Finish.after (ts.flatMap Trial.records)) := by
  induction h with
  | nil c built =>
    have hnil : (g.parse p c built).map (Finish.after []) = g.parse p c built :=
      (Option.map_congr fun s _ => s.after_nil).trans Option.map_id'
    show g.parseRow (p :: qs) c built = (g.parse p c built).map (Finish.after [])
    rw [hnil]
    by_cases hqs : qs = []
    · rw [hqs]
      rfl
    · rw [parseRow_cons p hqs, orElse_of_not_failure (hp.resolve_left hqs)]
  | @cons q ps c d built b b' t ts h _ ih =>
    rw [List.cons_append, parseRow_cons q (by simp), orElse, handle_failure h]
    show ((g.parseRow (ps ++ p :: qs) t.failure.next b').map (Finish.after [_])).map
      (Finish.after t.log) = _
    rw [ih hp, Option.map_map, Option.map_map]
    refine Option.map_congr fun s _ => ?_
    show ((s.after _).after [_]).after t.log = _
    rw [Finish.after_after, Finish.after_after, List.flatMap_cons]
    rfl

/-- A row has a parser that does not fail, or its last is tried. -/
theorem exists_trials (hps : ps ≠ []) (c : Cursor M) (built : List Cell) :
    ∃ front p rest ts d b, ps = front ++ p :: rest ∧ g.Trials front c built ts d b ∧
      (rest = [] ∨ ∀ e b' log, g.parse p d b ≠ some ⟨.failure e, b', log⟩) := by
  induction ps generalizing c built with
  | nil => exact (hps rfl).elim
  | cons p ps ih =>
    by_cases hdone : ps = [] ∨ ∀ e b' log, g.parse p c built ≠ some ⟨.failure e, b', log⟩
    · exact ⟨[], p, ps, [], c, built, rfl, .nil c built, hdone⟩
    · push Not at hdone
      obtain ⟨hne, e, b', log, hfail⟩ := hdone
      obtain ⟨front, q, rest, ts, d, b, rfl, htrials, hq⟩ := ih hne e.next b'
      exact ⟨p :: front, q, rest, ⟨e, log⟩ :: ts, d, b, rfl, .cons hfail htrials, hq⟩

/-- **Alternatives are tried in turn.** Let the alternatives be joined in any shape, and let all
those before one of them fail, each tried where the one before it has failed. If this one does not
fail, or is the last, then the whole choice ends as this one does there, or like this one does not
end: in the same outcome and with the same cells, after the records of the trials in order, where
one record of the failure follows each. There is always such a one. So all shapes of the same row
make the same run, and an alternative behind the one that decides is never run: the choice without
it is the same. -/
theorem alternatives_in_turn (g : Grammar M) (a : Alternatives M) {s : Source M} {c : Cursor M}
    (hc : s.start.Reaches c) (built : List Cell) :
    (∀ front p rest ts d b, a.leaves = front ++ p :: rest → g.Trials front c built ts d b →
        (rest = [] ∨ ∀ e b' log, g.parse p d b ≠ some ⟨.failure e, b', log⟩) →
        ts.length = front.length ∧
          g.parse a.parser c built =
            (g.parse p d b).map (Finish.after (ts.flatMap Trial.records)) ∧
          ∀ (a' : Alternatives M) rest', a'.leaves = front ++ p :: rest' →
            (rest' = [] ∨ ∀ e b' log, g.parse p d b ≠ some ⟨.failure e, b', log⟩) →
            g.parse a'.parser c built = g.parse a.parser c built) ∧
      (∃ front p rest ts d b, a.leaves = front ++ p :: rest ∧ g.Trials front c built ts d b ∧
        (rest = [] ∨ ∀ e b' log, g.parse p d b ≠ some ⟨.failure e, b', log⟩)) ∧
      ∀ a' : Alternatives M, a'.leaves = a.leaves →
        g.parse a'.parser c built = g.parse a.parser c built := by
  obtain ⟨-, -, hplaced⟩ := hc.ahead (placed_start s)
  have decided : ∀ (a : Alternatives M) front p rest ts d b, a.leaves = front ++ p :: rest →
      g.Trials front c built ts d b →
      (rest = [] ∨ ∀ e b' log, g.parse p d b ≠ some ⟨.failure e, b', log⟩) →
      g.parse a.parser c built =
        (g.parse p d b).map (Finish.after (ts.flatMap Trial.records)) := by
    intro a front p rest ts d b ha htrials hp
    rw [parse_alternatives a hplaced, ha]
    exact parseRow_of_trials htrials hp
  refine ⟨fun front p rest ts d b ha htrials hp => ⟨htrials.length_eq, ?_, ?_⟩,
    exists_trials a.leaves_ne_nil c built, fun a' ha' => ?_⟩
  · exact decided a front p rest ts d b ha htrials hp
  · intro a' rest' ha' hp'
    rw [decided a front p rest ts d b ha htrials hp,
      decided a' front p rest' ts d b ha' htrials hp']
  · rw [parse_alternatives a hplaced, parse_alternatives a' hplaced, ha']

/-- In `ac` the `a` is read before the first alternative fails, so the second one, in a cell, begins
behind it. The third is not tried. -/
theorem alternatives_in_turn_resumed :
    let g : Grammar text := ⟨#[.yields (.terminal (.literal "c"))]⟩
    let s : Source text := ⟨0, ['a', 'c']⟩
    let ab : Parser text := .second (.terminal (.literal "a")) (.terminal (.literal "b"))
    let d : Parser text := .terminal (.literal "d")
    let a : Alternatives text := .join (.join (.leaf ab) (.leaf (.cell 0))) (.leaf d)
    let e : Failure text := ⟨"Expected string literal \"b\"", ⟨s, 1⟩⟩
    s.start.Reaches s.start ∧ a.leaves = [ab] ++ .cell 0 :: [d] ∧
      g.Trials [ab] s.start [] [⟨e, []⟩] ⟨s, 1⟩ [] ∧
      g.parse (.cell 0) ⟨s, 1⟩ [] = some ⟨.success (.str "c") ⟨s, 2⟩, [0], [.building]⟩ ∧
      g.parse a.parser s.start [] =
        some ⟨.success (.str "c") ⟨s, 2⟩, [0], [.fallback 1 e.message, .building]⟩ := by
  intro g s ab d a e
  have hc : s.start.Reaches s.start := .refl
  have htrials : g.Trials [ab] s.start [] [⟨e, []⟩] ⟨s, 1⟩ [] := .cons rfl (.nil _ _)
  have hcell : g.parse (.cell 0) ⟨s, 1⟩ [] =
      some ⟨.success (.str "c") ⟨s, 2⟩, [0], [.building]⟩ := rfl
  have hp : ∀ e b' log, g.parse (.cell 0) ⟨s, 1⟩ [] ≠ some ⟨.failure e, b', log⟩ := by
    intro e b' log h
    rw [hcell] at h
    cases h
  obtain ⟨-, hparse, -⟩ :=
    (alternatives_in_turn g a hc []).1 [ab] (.cell 0) [d] _ _ _ rfl htrials (Or.inr hp)
  rw [hcell] at hparse
  exact ⟨hc, rfl, htrials, hcell, hparse⟩

end Grammar

end GrammarEngine
