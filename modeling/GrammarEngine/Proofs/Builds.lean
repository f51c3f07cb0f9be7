import Mathlib.Data.List.Perm.Basic
import GrammarEngine.Proofs.Calls

/-!
# Cells are built once

The cells, their number and the log are three accounts of what has been built. `Effect.accounts`
says that they agree over every run, also one that ends in a failure or in a fault: cells are only
added, none twice, and each with a record.

Which cells a run adds is read off its calls. A run applies a cell if it comes to run it; a part
that is passed over applies nothing (`applies_sequence_of_failure`, `applies_choice_of_success`).
The cells after a run are those before it and those that it applies (`mem_built_iff`), and this does
not depend on the order of runs.
-/

namespace GrammarEngine

open Outcome Cursor Run

variable {M : Medium} {α β : Type} {g : Grammar M}

/-! ## The accounts of a run -/

namespace Effect

/-- Cells are only added, none twice, and each with a record. -/
def accounts : Effect where
  holds b b' l _ := b <:+ b' ∧ b'.length = b.length + l.count .building ∧ (b.Nodup → b'.Nodup)
  refl b := ⟨List.suffix_refl b, rfl, id⟩
  trans := by
    rintro a b c l l' f ⟨hs, hl, hn⟩ ⟨hs', hl', hn'⟩
    refine ⟨hs.trans hs', ?_, hn' ∘ hn⟩
    rw [List.count_append]
    omega
  record b r hr := by
    have hne : r ≠ .building := fun h => by rw [h] at hr; cases hr
    exact ⟨List.suffix_refl b, by rw [List.count_cons_of_ne hne]; rfl, id⟩

/-- Only cells of the set are added. -/
def adding (S : Cell → Prop) : Effect where
  holds b b' _ _ := ∀ k ∈ b', k ∈ b ∨ S k
  refl _ _ hk := Or.inl hk
  trans := by
    intro a b c l l' f h h' k hk
    rcases h' k hk with hb | hk
    · exact h k hb
    · exact Or.inr hk
  record _ _ _ _ hk := Or.inl hk

end Effect

/-- What a factory writes is not the record that its cell is built. -/
theorem Grammar.count_notes (g : Grammar M) (k : Cell) : (g.notes k).count .building = 0 := by
  refine List.count_eq_zero.2 fun h => ?_
  exact g.forall_notes (P := (· ≠ .building)) (fun _ heq => by cases congrArg Record.topic heq)
    k _ h rfl

open Grammar in
theorem Parser.eval_accounts (n : Nat) (p : Parser M) (c : Cursor M) :
    (p.eval g n c).Has .accounts := by
  refine p.eval_has n ⟨fun _ _ _ _ _ b => ?_, fun _ _ _ _ _ b => ?_, fun k _ _ b hk => ?_⟩
  · exact Effect.accounts.refl b
  · exact Effect.accounts.refl b
  · refine ⟨List.suffix_cons k b, ?_, fun hb => List.nodup_cons.2 ⟨hk, hb⟩⟩
    rw [List.count_cons_self, count_notes, List.length_cons, Nat.zero_add]

namespace Run

/-- The first part of a handled run that ended has ended, with no cells that are not there in the
end. -/
theorem handle_ends {run : Run M α} {onSuccess : α → Cursor M → Run M β}
    {onFailure : Failure M → Run M β} {built : List Cell} {s : Finish M β}
    (h : run.handle onSuccess onFailure built = some s)
    (hs : ∀ v next, (onSuccess v next).Has .accounts) (hf : ∀ e, (onFailure e).Has .accounts) :
    ∃ t, run built = some t ∧ t.built <:+ s.built := by
  rcases handle_cases h with ⟨v, next, b, log, t, hr, ht, rfl⟩ | ⟨e, b, log, t, hr, ht, rfl⟩ |
    ⟨f, b, log, hr, rfl⟩
  · exact ⟨_, hr, (hs v next b t ht).1⟩
  · exact ⟨_, hr, (hf e b t ht).1⟩
  · exact ⟨_, hr, List.suffix_refl b⟩

/-- Where the outcome of the first part is known, the run has gone on from it. -/
theorem handle_goes_on {run : Run M α} {onSuccess : α → Cursor M → Run M β}
    {onFailure : Failure M → Run M β} {built : List Cell} {s : Finish M β}
    (h : run.handle onSuccess onFailure built = some s) {o : Outcome M α}
    (ho : run.Ensures (· = o)) :
    ∃ b t, t.built = s.built ∧ some t =
      match o with
      | .success v next => onSuccess v next b
      | .failure e => onFailure e b
      | .fault _ => some s := by
  rcases handle_cases h with ⟨v, next, b, log, t, hr, ht, rfl⟩ | ⟨e, b, log, t, hr, ht, rfl⟩ |
    ⟨f, b, log, hr, rfl⟩
  · cases ho _ _ hr
    exact ⟨b, t, rfl, ht.symm⟩
  · cases ho _ _ hr
    exact ⟨b, t, rfl, ht.symm⟩
  · cases ho _ _ hr
    exact ⟨b, _, rfl, rfl⟩

theorem map_ends {run : Run M α} {f : α → β} {built : List Cell} {s : Finish M β}
    (h : run.map f built = some s) : ∃ t, run built = some t ∧ t.built = s.built := by
  rcases handle_cases h with ⟨v, next, b, log, t, hr, ht, rfl⟩ | ⟨e, b, log, t, hr, ht, rfl⟩ |
    ⟨f, b, log, hr, rfl⟩
  · cases ht
    exact ⟨_, hr, rfl⟩
  · cases ht
    exact ⟨_, hr, rfl⟩
  · exact ⟨_, hr, rfl⟩

theorem noting_ends {run : Run M α} {r : Record} {built : List Cell} {s : Finish M α}
    (h : noting r run built = some s) : ∃ t, run built = some t ∧ t.built = s.built := by
  obtain ⟨t, ht, rfl⟩ := Option.map_eq_some_iff.1 h
  exact ⟨t, ht, rfl⟩

end Run

/-! ## The cells that a run applies -/

namespace Grammar

/-- A run of the parser at the cursor comes to run the cell. -/
def Applies (g : Grammar M) (p : Parser M) (c : Cursor M) (k : Cell) : Prop :=
  ∃ d, g.Runs p c (.cell k) d

theorem Applies.of_call {p q : Parser M} {c d : Cursor M} {k : Cell} (h : g.Calls p c q d) :
    g.Applies q d k → g.Applies p c k := by
  rintro ⟨e, he⟩
  exact ⟨e, .call h he⟩

/-- A cell that a run has added was applied. -/
theorem applies_of_mem_built {n : Nat} {p : Parser M} {c : Cursor M} {built : List Cell}
    {s : Finish M Value} (hs : p.eval g n c built = some s) {k : Cell} (hk : k ∈ s.built) :
    k ∈ built ∨ g.Applies p c k := by
  have h : (Effect.adding (g.Applies p c)).Allows g p c := by
    refine ⟨fun _ _ _ _ _ b => ?_, fun _ _ _ _ _ b => ?_, fun k d hd b _ j hj => ?_⟩
    · exact (Effect.adding _).refl b
    · exact (Effect.adding _).refl b
    · rcases List.mem_cons.1 hj with rfl | hj
      · exact Or.inr ⟨d, hd⟩
      · exact Or.inl hj
  exact p.eval_has n h built s hs k hk

theorem enter_ends {n : Nat} {k : Cell} {c : Cursor M} {built : List Cell} {s : Finish M Value}
    (hs : g.enter n k c built = some s) :
    ∃ m b t, (g.target k).eval g m c b = some t ∧ t.built = s.built ∧ k ∈ b := by
  cases n with
  | zero => cases hs
  | succ n =>
    change building k (g.notes k) ((g.target k).eval g n c) built = some s at hs
    unfold building at hs
    by_cases hk : k ∈ built
    · rw [if_pos hk] at hs
      exact ⟨n, built, s, hs, rfl, hk⟩
    · rw [if_neg hk] at hs
      obtain ⟨t, ht, rfl⟩ := Option.map_eq_some_iff.1 hs
      exact ⟨n, k :: built, t, ht, rfl, List.mem_cons_self⟩

theorem Rounds.ends {p : Parser M} {c d : Cursor M} (h : g.Rounds p c d) {n bound : Nat}
    {built : List Cell} {s : Finish M (List Value)}
    (hs : repeated (p.eval g n) bound c built = some s) :
    ∃ b t, p.eval g n d b = some t ∧ t.built <:+ s.built := by
  have accounts : ∀ bound c, (repeated (p.eval g n) bound c).Has .accounts := fun bound c =>
    has_repeated (fun d _ => p.eval_accounts n d) (eval_ensures_gives n p) bound
  induction h generalizing bound built s with
  | refl c =>
    cases bound with
    | zero => cases hs
    | succ bound =>
      obtain ⟨t, ht, hb⟩ : ∃ t, p.eval g n c built = some t ∧ t.built <:+ s.built := by
        refine handle_ends hs (fun v next => ?_) fun _ => has_success [] c
        by_cases ho : next.offset = c.offset
        · rw [if_pos ho]; exact has_success [] c
        · rw [if_neg ho]; exact (accounts bound next).map _
      exact ⟨built, t, ht, hb⟩
  | @round c next d v hv hn _ ih =>
    cases bound with
    | zero => cases hs
    | succ bound =>
      obtain ⟨b, t, hb, ht⟩ := handle_goes_on hs (hv.ensures n)
      dsimp only at ht
      rw [if_neg hn] at ht
      obtain ⟨t', ht', hb'⟩ := map_ends ht.symm
      obtain ⟨b'', t'', ht'', hb''⟩ := ih ht'
      exact ⟨b'', t'', ht'', by rw [← hb, ← hb']; exact hb''⟩

/-- **A call ends with its run.** What a run calls ends if the run does, and the cells that it
builds are there in the end. -/
theorem Calls.ends {p q : Parser M} {c d : Cursor M} (h : g.Calls p c q d) {n : Nat}
    {built : List Cell} {s : Finish M Value} (hs : p.eval g n c built = some s) :
    ∃ m b t, q.eval g m d b = some t ∧ t.built <:+ s.built := by
  rw [eval_eq_evalWith] at hs
  have accounts : ∀ (p : Parser M) (c : Cursor M), (p.evalWith (g.enter n) c).Has .accounts := by
    intro p c
    rw [← eval_eq_evalWith]
    exact p.eval_accounts n c
  have gives : ∀ {p : Parser M} {o : Outcome M Value}, g.Gives p c o →
      (p.evalWith (g.enter n) c).Ensures (· = o) := by
    intro p o ho
    rw [← eval_eq_evalWith]
    exact ho.ensures n
  have ended : ∀ {q : Parser M} {d : Cursor M} {b : List Cell} {t : Finish M Value},
      q.evalWith (g.enter n) d b = some t → t.built <:+ s.built →
      ∃ m b t, q.eval g m d b = some t ∧ t.built <:+ s.built := by
    intro q d b t ht hb
    rw [← eval_eq_evalWith] at ht
    exact ⟨n, b, t, ht, hb⟩
  -- the part that runs first, whatever comes after it
  have head : ∀ {p : Parser M} {onSuccess : Value → Cursor M → Run M Value}
      {onFailure : Failure M → Run M Value},
      (p.evalWith (g.enter n) c).handle onSuccess onFailure built = some s →
      (∀ v next, (onSuccess v next).Has .accounts) → (∀ e, (onFailure e).Has .accounts) →
      ∃ m b t, p.eval g m c b = some t ∧ t.built <:+ s.built := by
    intro p onSuccess onFailure h hS hF
    obtain ⟨t, ht, hb⟩ := handle_ends h hS hF
    exact ended ht hb
  cases h with
  | map => exact head hs (fun _ next => has_success _ next) has_failure
  | tryMap => exact head hs (fun v next => accounts _ next) has_failure
  | onValue hv =>
    obtain ⟨b, t, hb, ht⟩ := handle_goes_on hs (gives hv)
    exact ended ht.symm (hb ▸ List.suffix_refl _)
  | recover => exact head hs has_success fun e => has_success _ e.next
  | tryRecover => exact head hs has_success fun e => accounts _ e.next
  | onFailure he =>
    obtain ⟨b, t, hb, ht⟩ := handle_goes_on hs (gives he)
    exact ended ht.symm (hb ▸ List.suffix_refl _)
  | both | first => exact head hs (fun _ next => (accounts _ next).map _) has_failure
  | second => exact head hs (fun _ next => accounts _ next) has_failure
  | bothSecond hv | firstSecond hv =>
    obtain ⟨b, t, hb, ht⟩ := handle_goes_on hs (gives hv)
    obtain ⟨t', ht', hb'⟩ := map_ends ht.symm
    exact ended ht' (by rw [hb', hb])
  | secondSecond hv =>
    obtain ⟨b, t, hb, ht⟩ := handle_goes_on hs (gives hv)
    exact ended ht.symm (hb ▸ List.suffix_refl _)
  | choice =>
    exact head hs has_success fun e =>
      (accounts _ e.next).noting rfl
  | choiceSecond he =>
    obtain ⟨b, t, hb, ht⟩ := handle_goes_on hs (gives he)
    obtain ⟨t', ht', hb'⟩ := noting_ends ht.symm
    exact ended ht' (by rw [hb', hb])
  | tagged =>
    exact head hs (fun _ next => has_success _ next) fun e =>
      ((accounts _ e.next).map _).noting rfl
  | taggedSecond he =>
    obtain ⟨b, t, hb, ht⟩ := handle_goes_on hs (gives he)
    obtain ⟨t', ht', hb'⟩ := noting_ends ht.symm
    obtain ⟨t'', ht'', hb''⟩ := map_ends ht'
    exact ended ht'' (by rw [hb'', hb', hb])
  | many hr =>
    obtain ⟨t, ht, hb⟩ := map_ends hs
    have step : q.evalWith (g.enter n) = q.eval g n :=
      funext fun c => (eval_eq_evalWith n q c).symm
    rw [step] at ht
    obtain ⟨b, t', ht', hb'⟩ := hr.ends ht
    exact ⟨n, b, t', ht', hb ▸ hb'⟩
  | cell =>
    obtain ⟨m, b, t, ht, hb, -⟩ := enter_ends hs
    exact ⟨m, b, t, ht, hb ▸ List.suffix_refl _⟩
  | wrapped => exact ended hs (List.suffix_refl _)
  | whole => exact head hs has_atEnd has_failure

theorem Runs.ends {p q : Parser M} {c d : Cursor M} (h : g.Runs p c q d) {n : Nat}
    {built : List Cell} {s : Finish M Value} (hs : p.eval g n c built = some s) :
    ∃ m b t, q.eval g m d b = some t ∧ t.built <:+ s.built := by
  induction h generalizing n built s with
  | refl => exact ⟨n, built, s, hs, List.suffix_refl _⟩
  | call hc _ ih =>
    obtain ⟨m, b, t, ht, hb⟩ := hc.ends hs
    obtain ⟨m', b', t', ht', hb'⟩ := ih ht
    exact ⟨m', b', t', ht', hb'.trans hb⟩

/-- **The cells after a run** are those before it and those that it applies. -/
theorem mem_built_iff {n : Nat} {p : Parser M} {c : Cursor M} {built : List Cell}
    {s : Finish M Value} (hs : p.eval g n c built = some s) {k : Cell} :
    k ∈ s.built ↔ k ∈ built ∨ g.Applies p c k := by
  constructor
  · exact applies_of_mem_built hs
  · rintro (hk | ⟨d, hd⟩)
    · exact (p.eval_accounts n c built s hs).1.subset hk
    · obtain ⟨m, b, t, ht, hb⟩ := hd.ends hs
      rw [eval_eq_evalWith] at ht
      obtain ⟨m', b', t', ht', hb', hk⟩ := enter_ends ht
      exact hb.subset (hb' ▸ ((g.target k).eval_accounts m' d b' t' ht').1.subset hk)

/-! ## Parts that are passed over -/

/-- The second part of a sequence whose first part fails applies no cell. -/
theorem applies_sequence_of_failure {p q r : Parser M} {c : Cursor M} {e : Failure M} {k : Cell}
    (h : g.Gives p c (.failure e)) (hr : r ∈ [p.both q, p.first q, p.second q]) :
    g.Applies r c k ↔ g.Applies p c k := by
  have passed : ∀ {v next}, ¬ g.Gives p c (.success v next) := fun hv => by cases h.unique hv
  simp only [List.mem_cons, List.not_mem_nil, or_false] at hr
  constructor
  · rintro ⟨d, hd⟩
    rcases hr with rfl | rfl | rfl
    · cases hd with
      | call hc hd =>
        cases hc with
        | both => exact ⟨d, hd⟩
        | bothSecond hv => exact (passed hv).elim
    · cases hd with
      | call hc hd =>
        cases hc with
        | first => exact ⟨d, hd⟩
        | firstSecond hv => exact (passed hv).elim
    · cases hd with
      | call hc hd =>
        cases hc with
        | second => exact ⟨d, hd⟩
        | secondSecond hv => exact (passed hv).elim
  · rcases hr with rfl | rfl | rfl
    · exact .of_call .both
    · exact .of_call .first
    · exact .of_call .second

/-- The second of two alternatives applies no cell if the first stands. -/
theorem applies_choice_of_success {p q r : Parser M} {c next : Cursor M} {v : Value} {k : Cell}
    (h : g.Gives p c (.success v next)) (hr : r ∈ [p.choice q, p.tagged q]) :
    g.Applies r c k ↔ g.Applies p c k := by
  have passed : ∀ {e}, ¬ g.Gives p c (.failure e) := fun he => by cases h.unique he
  simp only [List.mem_cons, List.not_mem_nil, or_false] at hr
  constructor
  · rintro ⟨d, hd⟩
    rcases hr with rfl | rfl
    · cases hd with
      | call hc hd =>
        cases hc with
        | choice => exact ⟨d, hd⟩
        | choiceSecond he => exact (passed he).elim
    · cases hd with
      | call hc hd =>
        cases hc with
        | tagged => exact ⟨d, hd⟩
        | taggedSecond he => exact (passed he).elim
  · rcases hr with rfl | rfl
    · exact .of_call .choice
    · exact .of_call .tagged

end Grammar

/-! ## Sessions -/

/-- The parser that the request runs. -/
def Request.parser (r : Request M) (p : Parser M) : Parser M := if r.whole then p.whole else p

namespace Grammar

variable (g) (p : Parser M)

/-- The run of a request applies the cell. -/
def AppliesIn (r : Request M) (k : Cell) : Prop :=
  ∃ c, r.source.start.forward r.position = .ok c ∧ g.Applies (r.parser p) c k

/-- The cells built after the runs, from those built before. -/
def builtAfter : List Cell → List (Request M) → List Cell
  | built, [] => built
  | built, r :: rs =>
    match g.run p r built with
    | none => builtAfter built rs
    | some s => builtAfter s.built rs

variable {g p}

theorem run_eq_eval {r : Request M} {c : Cursor M}
    (hc : r.source.start.forward r.position = .ok c) :
    g.run p r = (r.parser p).eval g (g.depth c) c := by
  unfold run Request.parser
  rw [hc]
  by_cases hw : r.whole = true
  · simp only [hw, if_true]; rfl
  · simp only [hw]; rfl

/-- The accounts of one run of a session. -/
theorem run_accounts {r : Request M} {built : List Cell} {s : Finish M Value}
    (hs : g.run p r built = some s) :
    s.built.length = built.length + s.log.count .building ∧ (built.Nodup → s.built.Nodup) ∧
      ∀ k, k ∈ s.built ↔ k ∈ built ∨ g.AppliesIn p r k := by
  rcases hc : r.source.start.forward r.position with f | c
  · have hr : g.run p r = .done (.fault f) := by unfold run; rw [hc]
    rw [hr] at hs
    cases hs
    refine ⟨rfl, id, fun k => ⟨Or.inl, ?_⟩⟩
    rintro (hk | ⟨c, hc', -⟩)
    · exact hk
    · rw [hc] at hc'; cases hc'
  · rw [run_eq_eval hc] at hs
    obtain ⟨-, hl, hn⟩ := (r.parser p).eval_accounts _ c built s hs
    refine ⟨hl, hn, fun k => ?_⟩
    rw [mem_built_iff hs]
    refine or_congr_right ⟨fun hk => ⟨c, hc, hk⟩, ?_⟩
    rintro ⟨d, hd, hk⟩
    rw [hc] at hd
    cases hd
    exact hk

theorem builtAfter_cons {r : Request M} {built : List Cell} {s : Finish M Value}
    (hs : g.run p r built = some s) (rs : List (Request M)) :
    g.builtAfter p built (r :: rs) = g.builtAfter p s.built rs := by
  rw [builtAfter, hs]

theorem session_cons {r : Request M} {built : List Cell} {s : Finish M Value}
    (hs : g.run p r built = some s) (rs : List (Request M)) :
    g.session p built (r :: rs) =
      ⟨some s.outcome, s.built.length, s.log⟩ :: g.session p s.built rs := by
  rw [session, hs]

theorem run_isSome_eq (r : Request M) (built built' : List Cell) :
    (g.run p r built).isSome = (g.run p r built').isSome := by
  rw [← Option.isSome_map, g.run_map_visible p r built [], ← g.run_map_visible p r built' [],
    Option.isSome_map]

section Runs

variable {rs : List (Request M)} (hrs : ∀ r ∈ rs, (g.run p r []).isSome)

include hrs

theorem mem_builtAfter (built : List Cell) (k : Cell) :
    k ∈ g.builtAfter p built rs ↔ k ∈ built ∨ ∃ r ∈ rs, g.AppliesIn p r k := by
  induction rs generalizing built with
  | nil => simp [builtAfter]
  | cons r rs ih =>
    have hr := hrs r List.mem_cons_self
    rw [run_isSome_eq r [] built] at hr
    obtain ⟨s, hs⟩ := Option.isSome_iff_exists.1 hr
    obtain ⟨-, -, hk⟩ := run_accounts hs
    rw [builtAfter_cons hs, ih (fun r hr => hrs r (List.mem_cons_of_mem _ hr)), hk, or_assoc]
    simp only [List.exists_mem_cons_iff]

omit hrs in
theorem nodup_builtAfter {built : List Cell} (hb : built.Nodup) :
    (g.builtAfter p built rs).Nodup := by
  induction rs generalizing built with
  | nil => exact hb
  | cons r rs ih =>
    unfold builtAfter
    rcases hs : g.run p r built with _ | s
    · exact ih hb
    · exact ih ((run_accounts hs).2.1 hb)

/-- The counter after each run is the number of cells and the number of records by then. -/
theorem session_accounts (built : List Cell) {i : Nat} {report : Report M}
    (hi : (g.session p built rs)[i]? = some report) :
    report.builds = (g.builtAfter p built (rs.take (i + 1))).length ∧
      report.builds = built.length +
        (((g.session p built rs).take (i + 1)).flatMap (·.log)).count .building := by
  induction rs generalizing built i with
  | nil => simp [session] at hi
  | cons r rs ih =>
    have hr := hrs r List.mem_cons_self
    rw [run_isSome_eq r [] built] at hr
    obtain ⟨s, hs⟩ := Option.isSome_iff_exists.1 hr
    obtain ⟨hl, -, -⟩ := run_accounts hs
    rw [session_cons hs] at hi ⊢
    rw [List.take_succ_cons, List.take_succ_cons, List.flatMap_cons, List.count_append,
      builtAfter_cons hs]
    cases i with
    | zero =>
      cases hi
      exact ⟨rfl, hl⟩
    | succ i =>
      rw [List.getElem?_cons_succ] at hi
      obtain ⟨hb, hc⟩ := ih (fun r hr => hrs r (List.mem_cons_of_mem _ hr)) s.built hi
      exact ⟨hb, by dsimp only; omega⟩

theorem builds_pairwise (built : List Cell) :
    ((g.session p built rs).map (·.builds)).Pairwise (· ≤ ·) := by
  rw [List.pairwise_map, List.pairwise_iff_getElem]
  intro i j hi hj hij
  obtain ⟨-, h⟩ := session_accounts hrs built (List.getElem?_eq_getElem hi)
  obtain ⟨-, h'⟩ := session_accounts hrs built (List.getElem?_eq_getElem hj)
  rw [h, h']
  have hsub : ((g.session p built rs).take (i + 1)).Sublist ((g.session p built rs).take (j + 1)) :=
    (List.take_prefix_take_left (by omega)).sublist
  exact Nat.add_le_add_left ((hsub.flatMap (·.log)).count_le _) _

end Runs

/-- What is to be said of the building of cells over the runs of a session. -/
structure BuildsOnce (g : Grammar M) (p : Parser M) (rs : List (Request M)) : Prop where
  /-- No cell is built twice. -/
  nodup : (g.builtAfter p [] rs).Nodup
  /-- Every evaluation, from whatever cells, adds the cells that it applies and no others. -/
  evaluation : ∀ {n : Nat} {q : Parser M} {c : Cursor M} {built : List Cell} {s : Finish M Value},
    q.eval g n c built = some s → ∀ k, k ∈ s.built ↔ k ∈ built ∨ g.Applies q c k
  /-- The second part of a sequence applies no cell if the first fails. -/
  sequence : ∀ {q q' r : Parser M} {c : Cursor M} {e : Failure M}, g.Gives q c (.failure e) →
    r ∈ [q.both q', q.first q', q.second q'] → ∀ k, g.Applies r c k ↔ g.Applies q c k
  /-- The second of two alternatives applies no cell if the first stands. -/
  alternative : ∀ {q q' r : Parser M} {c next : Cursor M} {v : Value},
    g.Gives q c (.success v next) → r ∈ [q.choice q', q.tagged q'] →
    ∀ k, g.Applies r c k ↔ g.Applies q c k
  /-- After each run, the built cells are those that the runs so far have applied. -/
  applied : ∀ i k, k ∈ g.builtAfter p [] (rs.take i) ↔ ∃ r ∈ rs.take i, g.AppliesIn p r k
  /-- The counter never falls. -/
  monotone : ((g.session p [] rs).map (·.builds)).Pairwise (· ≤ ·)
  /-- After each run, the counter is the number of built cells and the number of records of their
  building. -/
  counter : ∀ {i : Nat} {report : Report M}, (g.session p [] rs)[i]? = some report →
    report.builds = (g.builtAfter p [] (rs.take (i + 1))).length ∧
      report.builds = (((g.session p [] rs).take (i + 1)).flatMap (·.log)).count .building
  /-- The cells built in the end are those that the runs build alone, each on a fresh grammar. -/
  union : ∀ k, k ∈ g.builtAfter p [] rs ↔ ∃ r ∈ rs, k ∈ g.builtAfter p [] [r]
  /-- In every order of the runs the same cells are built, and as many. -/
  order : ∀ {rs' : List (Request M)}, rs'.Perm rs →
    (∀ k, k ∈ g.builtAfter p [] rs' ↔ k ∈ g.builtAfter p [] rs) ∧
      (g.builtAfter p [] rs').length = (g.builtAfter p [] rs).length

/-- **Cells are built once,** when they are first applied, over all runs of a session that end. -/
theorem session_builds_once {rs : List (Request M)} (hrs : ∀ r ∈ rs, (g.run p r []).isSome) :
    g.BuildsOnce p rs := by
  -- the cells after any of the runs, in any order
  have applied : ∀ {rs'}, (∀ r ∈ rs', r ∈ rs) → ∀ k,
      k ∈ g.builtAfter p [] rs' ↔ ∃ r ∈ rs', g.AppliesIn p r k := by
    intro rs' h k
    rw [mem_builtAfter (fun r hr => hrs r (h r hr))]
    simp only [List.not_mem_nil, false_or]
  refine ⟨nodup_builtAfter List.nodup_nil, fun hs _ => mem_built_iff hs,
    fun he hr _ => applies_sequence_of_failure he hr,
    fun hv hr _ => applies_choice_of_success hv hr,
    fun i => applied fun r hr => List.mem_of_mem_take hr, builds_pairwise hrs [],
    fun hi => ?_, fun k => ?_, fun {rs'} hperm => ?_⟩
  · simpa only [List.length_nil, Nat.zero_add] using session_accounts hrs [] hi
  · rw [applied (fun _ => id)]
    refine exists_congr fun r => and_congr_right fun hr => ?_
    rw [applied (by simpa using hr)]
    simp only [List.mem_singleton, exists_eq_left]
  · have hmem : ∀ k, k ∈ g.builtAfter p [] rs' ↔ k ∈ g.builtAfter p [] rs := by
      intro k
      rw [applied (fun r hr => hperm.mem_iff.1 hr), applied (fun _ => id)]
      simp only [hperm.mem_iff]
    refine ⟨hmem, List.Perm.length_eq ?_⟩
    exact (List.perm_ext_iff_of_nodup (nodup_builtAfter List.nodup_nil)
      (nodup_builtAfter List.nodup_nil)).2 hmem

/-- Nested brackets around an `x`. Of the runs the first fails before it comes to a cell, the second
builds both cells, and the third is a fault inside a character. -/
theorem session_builds_once_brackets :
    let bracket : Parser text :=
      .second (.terminal (.literal "(")) (.first (.cell 0) (.terminal (.literal ")")))
    let g : Grammar text :=
      ⟨#[.yields (.choice bracket (.cell 1)), .yields (.terminal (.literal "x"))]⟩
    let rs : List (Request text) := [⟨⟨0, ['x']⟩, 0, true⟩,
      ⟨⟨1, ['(', '(', 'x', ')', ')']⟩, 0, true⟩, ⟨⟨2, ['é']⟩, 1, false⟩]
    (∀ r ∈ rs, (g.run bracket r []).isSome) ∧ g.BuildsOnce bracket rs ∧
      (g.session bracket [] rs).map (·.builds) = [0, 2, 2] := by
  intro bracket g rs
  have hrs : ∀ r ∈ rs, (g.run bracket r []).isSome := by decide
  exact ⟨hrs, session_builds_once hrs, by decide⟩

end Grammar

end GrammarEngine
