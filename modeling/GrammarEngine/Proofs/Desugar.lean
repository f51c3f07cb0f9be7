import GrammarEngine.Proofs.Motion

/-!
# Two combinators are enough

Every combinator that goes on from a value is a case of `tryMap`, and every one that goes on from a
failure is a case of `tryRecover`. `Parser.desugar` writes a parser so, under any nesting, in the
answers of its functions too, and leaves out the handles; `Grammar.desugar` does it in the cells.

Main statement: `parse_desugar`. The desugared parser over the desugared grammar makes the same run:
it ends in the same outcome, with the same cells built and the same log but for the records of
choices that fall back, or does not end either.

1. Runs that are put together by `Run.handle` obey the laws of sequencing (`handle_handle`).
2. `Run.quiet` leaves the records of choices out of a run, and keeps to how runs are put together.
3. By induction on the parser, desugaring makes the run quiet (`evalWith_desugar`), and by induction
   on the bound so it does through the cells (`eval_desugar`).
-/

namespace GrammarEngine

open Run

variable {M : Medium} {α β γ : Type}

/-! ## Laws of sequencing -/

namespace Finish

theorem after_nil (s : Finish M β) : s.after [] = s := rfl

theorem after_after (l l' : List Record) (s : Finish M β) :
    (s.after l').after l = s.after (l ++ l') := by
  unfold after
  rw [List.append_assoc]

end Finish

namespace Run

variable {onSuccess : α → Cursor M → Run M β} {onFailure : Failure M → Run M β}

theorem handle_of_success (v : α) (next : Cursor M) :
    (success v next).handle onSuccess onFailure = onSuccess v next := by
  funext built
  have h : (success v next : Run M α) built = some ⟨.success v next, built, []⟩ := rfl
  rw [handle_success h]
  exact (Option.map_congr fun s _ => s.after_nil).trans Option.map_id'

theorem handle_of_failure (e : Failure M) :
    (failure e : Run M α).handle onSuccess onFailure = onFailure e := by
  funext built
  have h : (failure e : Run M α) built = some ⟨.failure e, built, []⟩ := rfl
  rw [handle_failure h]
  exact (Option.map_congr fun s _ => s.after_nil).trans Option.map_id'

/-- Where a run goes on as another does after earlier records, so does everything that goes on from
it. -/
theorem handle_after {run run' : Run M α} {built b : List Cell} {log : List Record}
    (h : run built = (run' b).map (Finish.after log)) :
    run.handle onSuccess onFailure built =
      (run'.handle onSuccess onFailure b).map (Finish.after log) := by
  rcases hr : run' b with _ | ⟨o, b', log'⟩
  · rw [hr] at h
    unfold handle
    rw [h, hr]
    rfl
  · rw [hr] at h
    cases o with
    | success v next =>
      rw [handle_success h, handle_success hr, Option.map_map]
      exact Option.map_congr fun s _ => (s.after_after log log').symm
    | failure e =>
      rw [handle_failure h, handle_failure hr, Option.map_map]
      exact Option.map_congr fun s _ => (s.after_after log log').symm
    | fault f => rw [handle_fault h, handle_fault hr]; rfl

/-- **Sequencing is associative.** -/
theorem handle_handle (run : Run M α) {onSuccess' : β → Cursor M → Run M γ}
    {onFailure' : Failure M → Run M γ} :
    (run.handle onSuccess onFailure).handle onSuccess' onFailure' =
      run.handle (fun v next => (onSuccess v next).handle onSuccess' onFailure')
        fun e => (onFailure e).handle onSuccess' onFailure' := by
  funext built
  rcases hr : run built with _ | ⟨o, b, log⟩
  · unfold handle
    rw [hr]
  · cases o with
    | success v next =>
      rw [handle_after (handle_success hr), handle_success hr]
    | failure e =>
      rw [handle_after (handle_failure hr), handle_failure hr]
    | fault f => rw [handle_fault (handle_fault hr), handle_fault hr]

theorem map_handle (run : Run M α) (f : α → β) {onSuccess : β → Cursor M → Run M γ}
    {onFailure : Failure M → Run M γ} :
    (run.map f).handle onSuccess onFailure =
      run.handle (fun v next => onSuccess (f v) next) onFailure := by
  unfold map andThen
  rw [handle_handle]
  simp only [handle_of_success, handle_of_failure]

theorem handle_map (run : Run M α) (f : β → γ) :
    (run.handle onSuccess onFailure).map f =
      run.handle (fun v next => (onSuccess v next).map f) fun e => (onFailure e).map f :=
  run.handle_handle

theorem map_map (run : Run M α) (f : α → β) (f' : β → γ) :
    (run.map f).map f' = run.map fun v => f' (f v) := run.map_handle f

/-- Where a run is gone on from only as it has ended, it stays what it is. -/
theorem handle_eq_self {run : Run M α} {onSuccess : α → Cursor M → Run M α}
    {onFailure : Failure M → Run M α} {built : List Cell}
    (hs : ∀ v next b log, run built = some ⟨.success v next, b, log⟩ →
      onSuccess v next = success v next)
    (hf : ∀ e b log, run built = some ⟨.failure e, b, log⟩ → onFailure e = failure e) :
    run.handle onSuccess onFailure built = run built := by
  rcases hr : run built with _ | ⟨o, b, log⟩
  · unfold handle
    rw [hr]
  · have hlog : log ++ [] = log := List.append_nil log
    cases o with
    | success v next =>
      rw [handle_success hr, hs v next b log hr]
      show some (Finish.mk _ _ (log ++ [])) = _
      rw [hlog]
    | failure e =>
      rw [handle_failure hr, hf e b log hr]
      show some (Finish.mk _ _ (log ++ [])) = _
      rw [hlog]
    | fault f => rw [handle_fault hr]

theorem map_id (run : Run M α) : (run.map fun v => v) = run := by
  funext built
  exact handle_eq_self (fun _ _ _ _ _ => rfl) fun _ _ _ _ => rfl

theorem map_success (v : α) (next : Cursor M) (f : α → β) :
    (success v next).map f = success (f v) next := by
  unfold map andThen
  exact handle_of_success v next

theorem map_failure (e : Failure M) (f : α → β) : (failure e : Run M α).map f = failure e := by
  unfold map andThen
  exact handle_of_failure e

/-- An earlier record stays before everything that goes on from the run. -/
theorem noting_handle (r : Record) (run : Run M α) :
    (noting r run).handle onSuccess onFailure = noting r (run.handle onSuccess onFailure) := by
  funext built
  have h : noting r run built = (run built).map (Finish.after [r]) := rfl
  exact handle_after h

theorem noting_map (run : Run M α) (r : Record) (f : α → β) :
    (noting r run).map f = noting r (run.map f) := noting_handle r run

end Run

/-! ## Without the records of choices -/

namespace Record

/-- A first alternative has failed and the second is tried. -/
def isFallback (r : Record) : Bool := r.topic = .choice ∨ r.topic = .tagged

theorem isFallback_fallback (offset : Nat) (message : String) :
    (fallback offset message).isFallback = true := rfl

theorem isFallback_leftFallback (offset : Nat) (message : String) :
    (leftFallback offset message).isFallback = true := rfl

/-- The log without the records of choices. -/
def quiet (log : List Record) : List Record := log.filter fun r => !r.isFallback

theorem quiet_append (l l' : List Record) : quiet (l ++ l') = quiet l ++ quiet l' :=
  List.filter_append l l'

end Record

/-- The same end, the records of choices left out. -/
def Finish.quiet (s : Finish M β) : Finish M β := { s with log := Record.quiet s.log }

theorem Finish.quiet_after (log : List Record) (s : Finish M β) :
    (s.after log).quiet = s.quiet.after (Record.quiet log) := by
  unfold Finish.quiet Finish.after
  rw [Record.quiet_append]

namespace Run

/-- The same run, the records of choices left out. -/
def quiet (run : Run M β) : Run M β := fun built => (run built).map Finish.quiet

theorem quiet_endless : (endless : Run M β).quiet = endless := rfl

theorem quiet_handle (run : Run M α) (onSuccess : α → Cursor M → Run M β)
    (onFailure : Failure M → Run M β) :
    (run.handle onSuccess onFailure).quiet =
      run.quiet.handle (fun v next => (onSuccess v next).quiet) fun e => (onFailure e).quiet := by
  have after : ∀ (x : Option (Finish M β)) log, (x.map (Finish.after log)).map Finish.quiet =
      (x.map Finish.quiet).map (Finish.after (Record.quiet log)) := by
    intro x log
    rw [Option.map_map, Option.map_map]
    exact Option.map_congr fun s _ => s.quiet_after log
  funext built
  show (run.handle onSuccess onFailure built).map Finish.quiet = _
  rcases hr : run built with _ | ⟨o, b, log⟩
  · unfold handle quiet
    rw [hr]
    rfl
  · have hq : run.quiet built = some ⟨o, b, Record.quiet log⟩ := by
      unfold quiet
      rw [hr]
      rfl
    cases o with
    | success v next => rw [handle_success hr, handle_success hq]; exact after _ _
    | failure e => rw [handle_failure hr, handle_failure hq]; exact after _ _
    | fault f => rw [handle_fault hr, handle_fault hq]; rfl

theorem quiet_andThen (run : Run M α) (onSuccess : α → Cursor M → Run M β) :
    (run.andThen onSuccess).quiet = run.quiet.andThen fun v next => (onSuccess v next).quiet :=
  run.quiet_handle _ _

theorem quiet_orElse (run : Run M α) (onFailure : Failure M → Run M α) :
    (run.orElse onFailure).quiet = run.quiet.orElse fun e => (onFailure e).quiet :=
  run.quiet_handle _ _

theorem quiet_map (run : Run M α) (f : α → β) : (run.map f).quiet = run.quiet.map f :=
  run.quiet_handle _ _

/-- A record of a choice is left out. -/
theorem quiet_noting {r : Record} (hr : r.isFallback = true) (run : Run M β) :
    (noting r run).quiet = run.quiet := by
  funext built
  show ((run built).map (Finish.after [r])).map Finish.quiet = (run built).map Finish.quiet
  rw [Option.map_map]
  refine Option.map_congr fun s _ => ?_
  show (s.after [r]).quiet = s.quiet
  rw [Finish.quiet_after]
  unfold Record.quiet
  rw [List.filter_cons_of_neg (by simp [hr])]
  rfl

/-- Any other record stays. -/
theorem quiet_noting_of_not {r : Record} (hr : r.isFallback = false) (run : Run M β) :
    (noting r run).quiet = noting r run.quiet := by
  funext built
  show ((run built).map (Finish.after [r])).map Finish.quiet =
    ((run built).map Finish.quiet).map (Finish.after [r])
  rw [Option.map_map, Option.map_map]
  refine Option.map_congr fun s _ => ?_
  show (s.after [r]).quiet = s.quiet.after [r]
  rw [Finish.quiet_after]
  unfold Record.quiet
  rw [List.filter_cons_of_pos (by simp [hr])]
  rfl

/-- All records of the building of a cell stay. -/
theorem quiet_building (g : Grammar M) (k : Cell) (run : Run M β) :
    (building k (g.notes k) run).quiet = building k (g.notes k) run.quiet := by
  have hquiet : Record.quiet (.building :: g.notes k) = .building :: g.notes k := by
    refine List.filter_eq_self.2 (List.forall_mem_cons.2 ⟨rfl, ?_⟩)
    exact g.forall_notes (fun _ => rfl) k
  funext built
  show (building k (g.notes k) run built).map Finish.quiet = building k (g.notes k) run.quiet built
  unfold building
  by_cases hk : k ∈ built
  · rw [if_pos hk, if_pos hk]
    rfl
  · rw [if_neg hk, if_neg hk, Option.map_map]
    show _ = ((run (k :: built)).map Finish.quiet).map _
    rw [Option.map_map]
    refine Option.map_congr fun s _ => ?_
    show (s.after _).quiet = s.quiet.after _
    rw [Finish.quiet_after, hquiet]

theorem quiet_repeated (step : Cursor M → Run M α) (bound : Nat) (c : Cursor M) :
    (repeated step bound c).quiet = repeated (fun d => (step d).quiet) bound c := by
  induction bound generalizing c with
  | zero => rfl
  | succ bound ih =>
    unfold repeated
    rw [quiet_handle]
    congr 1
    funext v next
    split
    · rfl
    · rw [quiet_map, ih]

theorem quiet_toEnd (run : Run M Value) : run.toEnd.quiet = run.quiet.toEnd := by
  unfold toEnd andThen
  rw [quiet_handle]
  congr 1
  funext v next
  split
  · rfl
  · exact quiet_noting_of_not (by rfl) _

end Run

/-! ## Desugaring -/

namespace Parser

/-- The parser with every combinator written by `tryMap` and `tryRecover`. -/
def desugar : Parser M → Parser M
  | succeed v => .succeed v
  | fail message => .fail message
  | terminal t => .terminal t
  | advance n => .advance n
  | map p f => .tryMap p.desugar fun v _ => .succeed (f v)
  | tryMap p f => .tryMap p.desugar fun v next => (f v next).desugar
  | recover p f => .tryRecover p.desugar fun e => .succeed (f e.message)
  | tryRecover p f => .tryRecover p.desugar fun e => (f e).desugar
  | both p q => .tryMap p.desugar fun v _ => .tryMap q.desugar fun w _ => .succeed (.pair v w)
  | first p q => .tryMap p.desugar fun v _ => .tryMap q.desugar fun _ _ => .succeed v
  | second p q => .tryMap p.desugar fun _ _ => q.desugar
  | choice p q => .tryRecover p.desugar fun _ => q.desugar
  | tagged p q =>
    .tryRecover (.tryMap p.desugar fun v _ => .succeed (.left v)) fun _ =>
      .tryMap q.desugar fun v _ => .succeed (.right v)
  | many p => .many p.desugar
  | cell k => .cell k
  | wrapped p => p.desugar
  | whole p => .whole p.desugar

end Parser

namespace Grammar

/-- The grammar with the parsers of its cells desugared. -/
def desugar (g : Grammar M) : Grammar M := ⟨g.cells.map (Factory.map Parser.desugar)⟩

theorem target_desugar (g : Grammar M) (k : Cell) :
    g.desugar.target k = (g.target k).desugar := by
  unfold target desugar
  rw [Array.getElem?_map]
  rcases g.cells[k]? with _ | f <;> rfl

theorem notes_desugar (g : Grammar M) (k : Cell) : g.desugar.notes k = g.notes k := by
  unfold notes desugar
  rw [Array.getElem?_map]
  rcases g.cells[k]? with _ | f <;> rfl

theorem depth_desugar (g : Grammar M) (c : Cursor M) : g.desugar.depth c = g.depth c := by
  unfold depth desugar
  rw [Array.size_map]

end Grammar

namespace Parser

/-- No combinator but `tryMap` and `tryRecover`, the repetition and the end of the input. -/
def Sugarless : Parser M → Prop
  | succeed _ | fail _ | terminal _ | advance _ | cell _ => True
  | many p | whole p => p.Sugarless
  | tryMap p f => p.Sugarless ∧ ∀ v next, (f v next).Sugarless
  | tryRecover p f => p.Sugarless ∧ ∀ e, (f e).Sugarless
  | map _ _ | recover _ _ | both _ _ | first _ _ | second _ _ | choice _ _ | tagged _ _
  | wrapped _ => False

theorem sugarless_desugar (p : Parser M) : p.desugar.Sugarless := by
  induction p with
  | succeed | fail | terminal | advance | cell => trivial
  | many p ih | wrapped p ih | whole p ih => exact ih
  | map p f ih => exact ⟨ih, fun _ _ => trivial⟩
  | recover p f ih => exact ⟨ih, fun _ => trivial⟩
  | tryMap p f ih ihf | tryRecover p f ih ihf => exact ⟨ih, ihf⟩
  | both p q ihp ihq | first p q ihp ihq => exact ⟨ihp, fun _ _ => ⟨ihq, fun _ _ => trivial⟩⟩
  | second p q ihp ihq => exact ⟨ihp, fun _ _ => ihq⟩
  | choice p q ihp ihq => exact ⟨ihp, fun _ => ihq⟩
  | tagged p q ihp ihq =>
    exact ⟨⟨ihp, fun _ _ => trivial⟩, fun _ => ⟨ihq, fun _ _ => trivial⟩⟩

/-- **Desugaring makes a run quiet,** if it makes the cells so. -/
theorem evalWith_desugar {enter enter' : Cell → Cursor M → Run M Value}
    (h : ∀ k c, enter' k c = (enter k c).quiet) (p : Parser M) (c : Cursor M) :
    p.desugar.evalWith enter' c = (p.evalWith enter c).quiet := by
  induction p generalizing c with
  | succeed | fail | terminal | advance => rfl
  | cell k => exact h k c
  | wrapped p ih => exact ih c
  | many p ih =>
    unfold desugar evalWith
    rw [quiet_map, quiet_repeated, funext ih]
  | whole p ih =>
    unfold desugar evalWith
    rw [ih, quiet_toEnd]
  | map p f ih =>
    unfold desugar evalWith
    rw [ih, quiet_map]
    rfl
  | tryMap p f ih ihf =>
    unfold desugar evalWith
    rw [ih, quiet_andThen]
    simp only [ihf]
  | tryRecover p f ih ihf =>
    unfold desugar evalWith
    rw [ih, quiet_orElse]
    simp only [ihf]
  | recover p f ih =>
    unfold desugar evalWith
    rw [ih, quiet_orElse]
    rfl
  | both p q ihp ihq | first p q ihp ihq =>
    unfold desugar evalWith
    rw [ihp, quiet_andThen]
    simp only [quiet_map, ← ihq]
    rfl
  | second p q ihp ihq =>
    unfold desugar evalWith
    rw [ihp, quiet_andThen]
    simp only [ihq]
  | choice p q ihp ihq =>
    unfold desugar evalWith
    rw [ihp, quiet_orElse]
    simp only [ihq, quiet_noting (Record.isFallback_fallback _ _)]
  | tagged p q ihp ihq =>
    -- the left value is tagged before the failure is handled, and not in its place
    unfold desugar evalWith
    rw [quiet_handle]
    simp only [quiet_noting (Record.isFallback_leftFallback _ _), quiet_map, ← ihp, ← ihq]
    exact map_handle _ _

/-- **Desugaring makes every evaluation quiet.** -/
theorem eval_desugar (g : Grammar M) (n : Nat) (p : Parser M) (c : Cursor M) :
    p.desugar.eval g.desugar n c = (p.eval g n c).quiet := by
  induction n generalizing p c with
  | zero => exact p.evalWith_desugar (fun _ _ => quiet_endless.symm) c
  | succ n ih =>
    refine p.evalWith_desugar (fun k d => ?_) c
    rw [quiet_building, Grammar.target_desugar, Grammar.notes_desugar, ih]

/-- A tagged choice is a choice whose value tells its side. -/
theorem eval_tagged_inner (g : Grammar M) (n : Nat) (p q : Parser M) (c : Cursor M) :
    (((p.tagged q).map Value.inner).eval g n c).quiet = ((p.choice q).eval g n c).quiet := by
  rw [Grammar.eval_eq_evalWith, Grammar.eval_eq_evalWith]
  simp only [evalWith]
  rw [handle_map, quiet_handle, quiet_orElse]
  simp only [noting_map, map_map, map_success, Value.inner, map_id,
    quiet_noting (Record.isFallback_fallback _ _),
    quiet_noting (Record.isFallback_leftFallback _ _)]
  rfl

theorem eval_opt_ne_failure (g : Grammar M) (n : Nat) (p : Parser M) (c : Cursor M) :
    (p.opt.eval g n c).Ensures fun o => o.isFailure = false := by
  rw [Grammar.eval_eq_evalWith]
  exact (ensures_true _).handle (fun _ _ _ => ensures_success rfl) (fun _ _ => ensures_success rfl)
    fun _ => rfl

end Parser

namespace Grammar

/-- **Two combinators are enough.** Written by `tryMap` and `tryRecover` alone, a parser makes the
same run over a grammar whose cells are written so: from any cells built before, it ends in the same
outcome, with the same cells built and the same log but for the records of choices that fall back,
or it does not end either. So a tagged choice whose tag is dropped is a choice, and an optional
parser does not fail. -/
theorem parse_desugar (g : Grammar M) (p : Parser M) (c : Cursor M) (built : List Cell) :
    (p.desugar.Sugarless ∧ ∀ f ∈ g.desugar.cells, f.parser.Sugarless) ∧
      (∀ n, p.desugar.eval g.desugar n c built = (p.eval g n c built).map Finish.quiet) ∧
      g.desugar.parse p.desugar c built = (g.parse p c built).map Finish.quiet ∧
      g.desugar.parseAll p.desugar c built = (g.parseAll p c built).map Finish.quiet ∧
      (∀ q n, (((p.tagged q).map Value.inner).eval g n c built).map Finish.quiet =
        ((p.choice q).eval g n c built).map Finish.quiet) ∧
      ∀ n, (p.opt.eval g n c).Ensures fun o => o.isFailure = false := by
  have heval : ∀ n (q : Parser M),
      q.desugar.eval g.desugar n c built = (q.eval g n c built).map Finish.quiet :=
    fun n q => congrFun (q.eval_desugar g n c) built
  refine ⟨⟨p.sugarless_desugar, fun f hf => ?_⟩, fun n => heval n p, ?_, ?_, fun q n => ?_,
    fun n => p.eval_opt_ne_failure g n c⟩
  · obtain ⟨f, -, rfl⟩ := Array.mem_map.1 hf
    exact f.parser.sugarless_desugar
  · unfold parse
    rw [depth_desugar]
    exact heval _ p
  · unfold parseAll parse
    rw [depth_desugar]
    exact heval _ p.whole
  · exact congrFun (p.eval_tagged_inner g n q c) built

end Grammar

end GrammarEngine
