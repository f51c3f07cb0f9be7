import GrammarEngine.Grammar.Session
import GrammarEngine.Proofs.Desugar

/-!
# Functions on values move through combinators

Whether a function is applied to the values of the parts or, in the right place, to the value of the
whole makes no difference, and not only to the value: the run is the same, with its cells and its
records. A grammar may be rewritten so at any number of places, inside its recursive rules too.
Main statement: `map_commutes`.

1. Runs obey the laws (`repeated_map` for the rounds of a repetition, and for the rest the laws of
   sequencing).
2. `Parser.Moves` are the five laws, from the one side to the other, and `Parser.Rewrites` what they
   make of a parser at any places. By induction on it the runs are the same, if they are those of
   the same cells (`evalWith_rewrites`).
3. By induction on the bound the cells that are rewritten make the same runs (`eval_rewrites`).
-/

namespace GrammarEngine

open Run

variable {M : Medium} {α β : Type}

/-! ## Functions inside values -/

namespace Value

/-- Apply the function to each element of a list. -/
def onEach (f : Value → Value) : Value → Value
  | .list vs => .list (vs.map f)
  | v => v

/-- Apply the function to the value that is present. -/
def onPresent (f : Value → Value) : Value → Value
  | .present v => .present (f v)
  | v => v

/-- Apply the first function to a left value and the second to a right one. -/
def onSides (f f' : Value → Value) : Value → Value
  | .left v => .left (f v)
  | .right v => .right (f' v)
  | v => v

/-- Apply the first function to the first part and the second to the second. -/
def onParts (f f' : Value → Value) : Value → Value
  | .pair v w => .pair (f v) (f' w)
  | v => v

end Value

open Value

/-! ## Laws -/

/-- The rounds go on in the same way, whatever is made of their values. -/
theorem Run.repeated_map (step : Cursor M → Run M α) (f : α → β) (bound : Nat) (c : Cursor M) :
    repeated (fun d => (step d).map f) bound c = (repeated step bound c).map (List.map f) := by
  induction bound generalizing c with
  | zero => rfl
  | succ bound ih =>
    unfold repeated
    rw [map_handle, handle_map]
    congr 1
    funext v next
    split
    · exact (map_success [] c (List.map f)).symm
    · rw [ih, map_map, map_map]
      rfl

namespace Parser

/-- An optional parser goes on from the value or the failure of the parser in it. -/
theorem evalWith_opt (enter : Cell → Cursor M → Run M Value) (p : Parser M) (c : Cursor M) :
    p.opt.evalWith enter c =
      (p.evalWith enter c).handle (fun v next => .success (.present v) next)
        fun e => .success .absent e.next := by
  simp only [opt, evalWith, orElse]
  exact map_handle _ _

/-- A function that is applied to the values of the parts, and the same parser with a function that
is applied to the value of the whole. -/
inductive Moves : Parser M → Parser M → Prop
  | many (p : Parser M) (f : Value → Value) : Moves (p.map f).many (p.many.map (onEach f))
  | choice (p q : Parser M) (f : Value → Value) :
    Moves ((p.map f).choice (q.map f)) ((p.choice q).map f)
  | opt (p : Parser M) (f : Value → Value) : Moves (p.map f).opt (p.opt.map (onPresent f))
  | tagged (p q : Parser M) (f f' : Value → Value) :
    Moves ((p.map f).tagged (q.map f')) ((p.tagged q).map (onSides f f'))
  | both (p q : Parser M) (f f' : Value → Value) :
    Moves ((p.map f).both (q.map f')) ((p.both q).map (onParts f f'))

/-- **Moving a function makes the same run.** -/
theorem evalWith_moves {p q : Parser M} (h : p.Moves q) (enter : Cell → Cursor M → Run M Value) :
    p.evalWith enter = q.evalWith enter := by
  funext c
  cases h with
  | many p f =>
    simp only [evalWith]
    rw [repeated_map, map_map, map_map]
    rfl
  | choice p q f =>
    simp only [evalWith, orElse]
    rw [map_handle, handle_map]
    simp only [map_success, noting_map]
  | opt p f =>
    show (p.map f).opt.evalWith enter c = (p.opt.evalWith enter c).map (onPresent f)
    rw [evalWith_opt, evalWith_opt, handle_map]
    simp only [evalWith, map_handle, map_success, onPresent]
  | tagged p q f f' =>
    simp only [evalWith]
    rw [map_handle, handle_map]
    simp only [map_success, noting_map, map_map, onSides]
  | both p q f f' =>
    simp only [evalWith, andThen]
    rw [map_handle, handle_map]
    simp only [map_map, map_failure, onParts]

/-- One parser becomes the other where functions are moved, to and fro, at any places in it: in its
parts, and in the parsers that its functions answer with. -/
inductive Rewrites : Parser M → Parser M → Prop
  | moves {p q} (h : Moves p q) : Rewrites p q
  | refl (p) : Rewrites p p
  | symm {p q} (h : Rewrites p q) : Rewrites q p
  | trans {p q r} (h : Rewrites p q) (h' : Rewrites q r) : Rewrites p r
  | map {p q} (h : Rewrites p q) (f : Value → Value) : Rewrites (p.map f) (q.map f)
  | tryMap {p q} {f f' : Value → Cursor M → Parser M} (h : Rewrites p q)
    (hf : ∀ v next, Rewrites (f v next) (f' v next)) : Rewrites (p.tryMap f) (q.tryMap f')
  | recover {p q} (h : Rewrites p q) (f : String → Value) : Rewrites (p.recover f) (q.recover f)
  | tryRecover {p q} {f f' : Failure M → Parser M} (h : Rewrites p q)
    (hf : ∀ e, Rewrites (f e) (f' e)) : Rewrites (p.tryRecover f) (q.tryRecover f')
  | both {p q p' q'} (h : Rewrites p q) (h' : Rewrites p' q') : Rewrites (p.both p') (q.both q')
  | first {p q p' q'} (h : Rewrites p q) (h' : Rewrites p' q') : Rewrites (p.first p') (q.first q')
  | second {p q p' q'} (h : Rewrites p q) (h' : Rewrites p' q') :
    Rewrites (p.second p') (q.second q')
  | choice {p q p' q'} (h : Rewrites p q) (h' : Rewrites p' q') :
    Rewrites (p.choice p') (q.choice q')
  | tagged {p q p' q'} (h : Rewrites p q) (h' : Rewrites p' q') :
    Rewrites (p.tagged p') (q.tagged q')
  | many {p q} (h : Rewrites p q) : Rewrites p.many q.many
  | wrapped {p q} (h : Rewrites p q) : Rewrites p.wrapped q.wrapped
  | whole {p q} (h : Rewrites p q) : Rewrites p.whole q.whole

theorem Rewrites.opt {p q : Parser M} (h : p.Rewrites q) : p.opt.Rewrites q.opt :=
  (h.map _).recover _

/-- **Rewriting a parser makes the same run** over the same cells. -/
theorem evalWith_rewrites {p q : Parser M} (h : p.Rewrites q)
    (enter : Cell → Cursor M → Run M Value) : p.evalWith enter = q.evalWith enter := by
  induction h with
  | moves h => exact evalWith_moves h enter
  | refl p => rfl
  | symm _ ih => exact ih.symm
  | trans _ _ ih ih' => exact ih.trans ih'
  | tryMap _ _ ih ihf | tryRecover _ _ ih ihf =>
    funext c
    simp only [evalWith, ih, ihf]
  | map _ _ ih | recover _ _ ih | many _ ih | wrapped _ ih | whole _ ih =>
    funext c
    simp only [evalWith, ih]
  | both _ _ ih ih' | first _ _ ih ih' | second _ _ ih ih' | choice _ _ ih ih'
  | tagged _ _ ih ih' =>
    funext c
    simp only [evalWith, ih, ih']

end Parser

/-! ## Rewritten grammars -/

/-- The same number of cells, whose factories write the same records and yield parsers that are
rewritten. -/
structure Grammar.Rewrites (g g' : Grammar M) : Prop where
  size : g.cells.size = g'.cells.size
  target : ∀ k, (g.target k).Rewrites (g'.target k)
  notes : ∀ k, g.notes k = g'.notes k

variable {g g' : Grammar M} {p p' : Parser M}

/-- **Rewriting a grammar makes the same runs.** -/
theorem Parser.eval_rewrites (hg : g.Rewrites g') (hp : p.Rewrites p') (n : Nat) :
    p.eval g n = p'.eval g' n := by
  induction n generalizing p p' with
  | zero => exact evalWith_rewrites hp _
  | succ n ih =>
    have henter : (fun k c => building k (g.notes k) (Parser.eval g n (g.target k) c)) =
        fun k c => building k (g'.notes k) (Parser.eval g' n (g'.target k) c) := by
      funext k c
      rw [ih (hg.target k), hg.notes k]
    show p.evalWith (fun k c => building k (g.notes k) (Parser.eval g n (g.target k) c)) =
      p'.evalWith fun k c => building k (g'.notes k) (Parser.eval g' n (g'.target k) c)
    rw [henter, evalWith_rewrites hp]

namespace Grammar

theorem parse_rewrites (hg : g.Rewrites g') (hp : p.Rewrites p') (c : Cursor M) :
    g.parse p c = g'.parse p' c := by
  unfold parse depth
  rw [Parser.eval_rewrites hg hp, hg.size]

theorem run_rewrites (hg : g.Rewrites g') (hp : p.Rewrites p') (r : Request M) :
    g.run p r = g'.run p' r := by
  unfold run parseAll
  simp only [parse_rewrites hg hp, parse_rewrites hg hp.whole]

theorem session_rewrites (hg : g.Rewrites g') (hp : p.Rewrites p') (built : List Cell)
    (rs : List (Request M)) : g.session p built rs = g'.session p' built rs := by
  induction rs generalizing built with
  | nil => rfl
  | cons r rs ih =>
    unfold session
    rw [run_rewrites hg hp]
    simp only [ih]

/-- **Functions on values move through combinators.** A repetition of mapped values is the mapped
repetition, a choice is mapped by mapping its parts, and so an optional parser, a tagged choice and
a sequence: from every cursor and whatever cells are built before, both sides make the same run,
with the same value or failure, cursor, cells and records, or both do not end. And if a grammar is
rewritten by these laws, at any places in the parser to begin with and in those of the cells, then
every run of it and every session is the same. -/
theorem map_commutes (hg : g.Rewrites g') (hp : p.Rewrites p') :
    (∀ (enter : Cell → Cursor M → Run M Value) (q r : Parser M) (f f' : Value → Value)
        (c : Cursor M),
      (q.map f).many.evalWith enter c = (q.many.map (onEach f)).evalWith enter c ∧
        ((q.choice r).map f).evalWith enter c =
          ((q.map f).choice (r.map f)).evalWith enter c ∧
        (q.map f).opt.evalWith enter c = (q.opt.map (onPresent f)).evalWith enter c ∧
        ((q.map f).tagged (r.map f')).evalWith enter c =
          ((q.tagged r).map (onSides f f')).evalWith enter c ∧
        ((q.map f).both (r.map f')).evalWith enter c =
          ((q.both r).map (onParts f f')).evalWith enter c) ∧
      (∀ n c, p.eval g n c = p'.eval g' n c) ∧
      (∀ c, g.parse p c = g'.parse p' c ∧ g.parseAll p c = g'.parseAll p' c) ∧
      ∀ built rs, g.session p built rs = g'.session p' built rs := by
  refine ⟨fun enter q r f f' c => ⟨?_, ?_, ?_, ?_, ?_⟩, fun n c => ?_, fun c => ⟨?_, ?_⟩,
    session_rewrites hg hp⟩
  · rw [Parser.evalWith_moves (.many q f)]
  · rw [Parser.evalWith_moves (.choice q r f)]
  · rw [Parser.evalWith_moves (.opt q f)]
  · rw [Parser.evalWith_moves (.tagged q r f f')]
  · rw [Parser.evalWith_moves (.both q r f f')]
  · rw [Parser.eval_rewrites hg hp]
  · exact parse_rewrites hg hp c
  · exact parse_rewrites hg hp.whole c

/-- Brackets inside one another, as many as there are. In the rule, which refers to itself, the
function is moved out of the optional parser. -/
theorem map_commutes_brackets :
    let open_ : Parser text := .terminal (.literal "(")
    let close : Parser text := .terminal (.literal ")")
    let inside : Parser text := .first (.second open_ (.cell 0)) close
    let g : Grammar text := ⟨#[.yields (inside.map .left).opt]⟩
    let g' : Grammar text := ⟨#[.yields (inside.opt.map (onPresent .left))]⟩
    let s : Source text := ⟨0, ['(', '(', ')', ')']⟩
    let v : Value := .present (.left (.present (.left .absent)))
    g.Rewrites g' ∧ (Parser.cell 0 : Parser text).Rewrites (.cell 0) ∧
      g.parse (.cell 0) s.start [] = some ⟨.success v ⟨s, 4⟩, [0], [.building]⟩ ∧
      g'.parse (.cell 0) s.start [] = some ⟨.success v ⟨s, 4⟩, [0], [.building]⟩ := by
  intro open_ close inside g g' s v
  have hg : g.Rewrites g' := by
    refine ⟨rfl, fun k => ?_, fun k => ?_⟩
    · cases k with
      | zero => exact .moves (.opt inside .left)
      | succ k => exact .refl _
    · cases k <;> rfl
  have hp : (Parser.cell 0 : Parser text).Rewrites (.cell 0) := .refl _
  have hparse : g.parse (.cell 0) s.start [] =
      some ⟨.success v ⟨s, 4⟩, [0], [.building]⟩ := by
    subst v s g g' inside close open_
    exact rfl
  refine ⟨hg, hp, hparse, ?_⟩
  rw [← ((map_commutes hg hp).2.2.1 s.start).1]
  exact hparse

end Grammar

end GrammarEngine
