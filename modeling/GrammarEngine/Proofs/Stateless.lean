import GrammarEngine.Grammar.Session
import GrammarEngine.Proofs.Follows

/-!
# Runs do not depend on earlier runs

The cells that earlier runs have built are the only thing that a run can tell of them. `evalEager`
is the evaluation without cells: each is replaced by the parser it holds, so that nothing is built
and nothing remembered. An evaluation follows the eager one and the eager one follows it, whatever
cells are built before (`eval_follows_eager`, `evalEager_follows`), if the records of the building
of cells are left out: those that a cell is built, and those of the patterns that its factory
compiles.
-/

namespace GrammarEngine

open Outcome Run

variable {M : Medium} {β : Type}

/-- The log without the records of the building of cells. -/
def Record.visible (log : List Record) : List Record := log.filter (!·.ofBuilding)

open Record (visible)

theorem visible_nil : visible [] = [] := rfl

theorem visible_append (a b : List Record) : visible (a ++ b) = visible a ++ visible b := by
  unfold visible
  exact List.filter_append a b

theorem visible_singleton {r : Record} (hr : r.ofBuilding = false) : visible [r] = [r] := by
  unfold visible
  rw [List.filter_cons_of_pos (by simp [hr])]
  rfl

/-- Nothing is seen of the building of a cell. -/
theorem visible_building (g : Grammar M) (k : Cell) (log : List Record) :
    visible (.building :: g.notes k ++ log) = visible log := by
  have hnotes : visible (g.notes k) = [] := by
    refine List.filter_eq_nil_iff.2 (g.forall_notes (fun _ => ?_) k)
    exact Bool.false_ne_true
  rw [visible_append, show visible (.building :: g.notes k) = visible (g.notes k) from rfl, hnotes,
    List.nil_append]

namespace Comparison

/-- Any cells, and on the second side the log without the building of cells. -/
def erasing : Comparison where
  cells _ _ := True
  log l l' := l' = visible l
  log_nil := visible_nil.symm
  log_append := by
    rintro a _ b _ rfl rfl
    exact (visible_append a b).symm
  log_record _ hr := (visible_singleton hr).symm

/-- Any cells, and on the first side the log without the building of cells. -/
def restoring : Comparison where
  cells _ _ := True
  log l l' := l = visible l'
  log_nil := visible_nil.symm
  log_append := by
    rintro _ a _ b rfl rfl
    exact (visible_append a b).symm
  log_record _ hr := (visible_singleton hr).symm

end Comparison

/-! ## One evaluation -/

namespace Parser

/-- Run a parser with the cells replaced by the parsers they hold, at most `bound` of them inside
one another. -/
def evalEager (g : Grammar M) : Nat → Parser M → Cursor M → Run M Value
  | 0 => evalWith fun _ _ => .endless
  | bound + 1 => evalWith fun k c => evalEager g bound (g.target k) c

end Parser

theorem Run.Follows.building_left {run run' : Run M β} (h : Follows .erasing run run')
    (g : Grammar M) (k : Cell) : Follows .erasing (building k (g.notes k) run) run' := by
  intro built built' s _ hs
  unfold building at hs
  by_cases hk : k ∈ built
  · rw [if_pos hk] at hs
    exact h built built' s trivial hs
  · rw [if_neg hk] at hs
    obtain ⟨t, ht, rfl⟩ := Option.map_eq_some_iff.1 hs
    obtain ⟨t', ht', ho, hc, hl⟩ := h _ built' t trivial ht
    exact ⟨t', ht', ho, hc, hl.trans (visible_building g k t.log).symm⟩

theorem Run.Follows.building_right {run run' : Run M β} (h : Follows .restoring run run')
    (g : Grammar M) (k : Cell) : Follows .restoring run (building k (g.notes k) run') := by
  intro built built' s _ hs
  unfold building
  by_cases hk : k ∈ built'
  · rw [if_pos hk]
    exact h built built' s trivial hs
  · rw [if_neg hk]
    obtain ⟨t', ht', ho, hc, hl⟩ := h built (k :: built') s trivial hs
    refine ⟨t'.after (.building :: g.notes k), ?_, ho, hc,
      hl.trans (visible_building g k t'.log).symm⟩
    rw [ht']
    rfl

namespace Parser

theorem eval_follows_eager (g : Grammar M) (bound : Nat) (p : Parser M) (c : Cursor M) :
    Follows .erasing (p.eval g bound c) (p.evalEager g bound c) := by
  induction bound generalizing p c with
  | zero => exact p.evalWith_follows_all (fun _ _ => follows_endless) c
  | succ bound ih =>
    exact p.evalWith_follows_all (fun k d => (ih (g.target k) d).building_left g k) c

theorem evalEager_follows (g : Grammar M) (bound : Nat) (p : Parser M) (c : Cursor M) :
    Follows .restoring (p.evalEager g bound c) (p.eval g bound c) := by
  induction bound generalizing p c with
  | zero => exact p.evalWith_follows_all (fun _ _ => follows_endless) c
  | succ bound ih =>
    exact p.evalWith_follows_all (fun k d => (ih (g.target k) d).building_right g k) c

/-- **An evaluation and the eager one.** They end alike or not at all, whatever cells are built
before either of them. -/
theorem eval_map_visible (g : Grammar M) (bound : Nat) (p : Parser M) (c : Cursor M)
    (built built' : List Cell) :
    (p.eval g bound c built).map (fun s => (s.outcome, visible s.log)) =
      (p.evalEager g bound c built').map fun s => (s.outcome, s.log) := by
  rcases h : p.eval g bound c built with _ | s
  · rcases h' : p.evalEager g bound c built' with _ | s'
    · rfl
    · obtain ⟨s, hs, -⟩ := p.evalEager_follows g bound c built' built s' trivial h'
      rw [h] at hs
      cases hs
  · obtain ⟨s', hs', ho, -, hl⟩ := p.eval_follows_eager g bound c built built' s trivial h
    rw [hs', Option.map_some, Option.map_some, ho, hl]

end Parser

/-! ## Requests -/

namespace Grammar

variable (g : Grammar M) (p : Parser M)

/-- Make the run with the cells replaced by the parsers they hold. -/
def runEager (r : Request M) : Run M Value :=
  match r.source.start.forward r.position with
  | .ok c => (if r.whole then p.whole else p).evalEager g (g.depth c) c
  | .error f => .done (.fault f)

theorem run_map_visible (r : Request M) (built built' : List Cell) :
    (g.run p r built).map (fun s => (s.outcome, visible s.log)) =
      (g.runEager p r built').map fun s => (s.outcome, s.log) := by
  unfold run runEager
  rcases r.source.start.forward r.position with f | c
  · rfl
  · by_cases hw : r.whole = true
    · simp only [hw, if_true]
      exact p.whole.eval_map_visible g _ c built built'
    · simp only [hw]
      exact p.eval_map_visible g _ c built built'

end Grammar

end GrammarEngine
