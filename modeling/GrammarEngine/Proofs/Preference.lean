import GrammarEngine.Proofs.Spans
import Mathlib.Data.List.Lex
import Mathlib.Data.List.TakeWhile
import Mathlib.Data.Nat.Find

/-!
# Which match is preferred

An expression may match a text in many ways. A way is the list of decisions that a matcher makes
which tries one thread at a time: at alternatives which to take, at a repetition whether to make a
round. What is tried first has the number 0, so a matcher that goes back to its latest decision when
it gets stuck finds the first way in the order of the dictionary. On a way nothing is tried twice at
one place, or a repetition of what may be empty would go round forever.

Main statement: `matchLength_eq_some_iff`. The matcher, which follows all threads at once and keeps
no decisions, finds the end of the first way. So its match is the preferred one, and it finds a
match wherever there is one (`exists_preferred`).

1. Exploring threads is a search: `Explores` says what it comes across, in order.
2. All that can be tried from what has been come across is come across (`Explores.closed`). So where
   nothing that goes on is come across, there is no way (`goes_of_way`), and the first of what goes
   on that is come across begins the first way (`Explores.first`).
3. By induction on the text the walk finds the end of the first way (`walk_first`).
4. What an expression spans it matches in a way: the shortest one tries nothing twice
   (`way_of_steps`).
-/

namespace GrammarEngine

/-! ## Ways -/

namespace Thread

/-- By these decisions the thread matches the text from the first place to the second, where `met`
has been tried at the first place already. -/
inductive Way (text : List Char) : List Thread → Thread → Nat → List Nat → Nat → Prop
  | done (met : List Thread) (i : Nat) : Way text met [] i [] i
  | read {met : List Thread} {t k : Thread} {c : Char} {i j : Nat} {ds : List Nat}
    (hc : text[i]? = some c) (ht : advance c t = some k) (hw : Way text [] k (i + 1) ds j) :
    Way text met t i ds j
  | move {met : List Thread} {t u : Thread} {d i j : Nat} {ds : List Nat}
    (hu : (t.moves (.inText text i))[d]? = some u) (hm : u ∉ t :: met)
    (hw : Way text (t :: met) u i ds j) : Way text met t i (d :: ds) j

end Thread

/-- No other decisions with the property come before these in the order of the dictionary. -/
def First (P : List Nat → Nat → Prop) (ds : List Nat) (j : Nat) : Prop :=
  P ds j ∧ ∀ ds' j', P ds' j' → ¬ List.Lex (· < ·) ds' ds

theorem First.congr {P Q : List Nat → Nat → Prop} {ds : List Nat} {j : Nat}
    (h : First P ds j) (hPQ : ∀ ds j, P ds j ↔ Q ds j) : First Q ds j :=
  ⟨(hPQ ds j).1 h.1, fun ds' j' hq => h.2 ds' j' ((hPQ ds' j').2 hq)⟩

/-- The match from `i` to `j` is the one that is preferred among all matches from `i`. -/
def Regex.Preferred (r : Regex) (text : List Char) (i j : Nat) : Prop :=
  ∃ ds, First (Thread.Way text [] [r] i) ds j

namespace Thread

variable {text : List Char} {here : Place} {i j : Nat} {t u : Thread} {ts : List Thread}
  {met seen seen' : List Thread}

/-! ## Exploring as a search -/

/-- Following the threads in order, and nothing that has been seen, adds to what has been seen. The
latest comes first. -/
inductive Explores (here : Place) : List Thread → List Thread → List Thread → Prop
  | nil (seen : List Thread) : Explores here [] seen seen
  | seen {t : Thread} {ts seen seen' : List Thread} (ht : t ∈ seen)
    (hs : Explores here ts seen seen') : Explores here (t :: ts) seen seen'
  | fresh {t : Thread} {ts seen seen' seen'' : List Thread} (ht : t ∉ seen)
    (hm : Explores here (t.moves here) (t :: seen) seen')
    (hs : Explores here ts seen' seen'') : Explores here (t :: ts) seen seen''

theorem Explores.suffix (h : Explores here ts seen seen') : seen <:+ seen' := by
  induction h with
  | nil => exact List.suffix_refl _
  | seen _ _ ih => exact ih
  | fresh _ _ _ ihm ihs => exact ((List.suffix_cons _ _).trans ihm).trans ihs

theorem Explores.mem (h : Explores here ts seen seen') : ∀ t ∈ ts, t ∈ seen' := by
  induction h with
  | nil => simp
  | seen ht hs ih => exact List.forall_mem_cons.2 ⟨hs.suffix.subset ht, ih⟩
  | fresh _ hm hs _ ih =>
    exact List.forall_mem_cons.2 ⟨hs.suffix.subset (hm.suffix.subset List.mem_cons_self), ih⟩

theorem Explores.cons {seen'' : List Thread} (h : Explores here [t] seen seen')
    (hs : Explores here ts seen' seen'') : Explores here (t :: ts) seen seen'' := by
  cases h with
  | seen ht h => cases h; exact .seen ht hs
  | fresh ht hm h => cases h; exact .fresh ht hm hs

/-- A thread that has been seen is not followed again. -/
theorem explores_unless_seen (h : Explores here (t.moves here) (t :: seen) seen') :
    Explores here [t] seen (if t ∈ seen then seen else seen') := by
  by_cases ht : t ∈ seen
  · rw [if_pos ht]
    exact .seen ht (.nil seen)
  · rw [if_neg ht]
    exact .fresh ht h (.nil seen')

end Thread

open Thread

/-- Visiting an expression before a thread explores the two together, if the thread is explored
after it. -/
theorem Regex.explores_visit {here : Place} (r : Regex) {k : Thread}
    {rest : List Thread → List Thread} {seen : List Thread}
    (hrest : ∀ seen', seen <:+ seen' → Explores here [k] seen' (rest seen')) :
    Explores here [r :: k] seen (r.visit here k rest seen) := by
  have hself : seen <:+ (r :: k) :: seen := List.suffix_cons _ _
  induction r generalizing k rest seen with
  | empty =>
    rw [visit]
    exact explores_unless_seen (hrest _ hself)
  | set s =>
    rw [visit]
    exact explores_unless_seen (.nil _)
  | look l =>
    rw [visit]
    refine explores_unless_seen ?_
    show Explores here (if l.holds here then [k] else []) _ _
    by_cases hl : l.holds here = true
    · rw [if_pos hl, if_pos hl]
      exact hrest _ hself
    · rw [if_neg hl, if_neg hl]
      exact .nil _
  | cat a b iha ihb =>
    rw [visit]
    refine explores_unless_seen (iha (fun seen' hs => ?_) (List.suffix_cons _ _))
    exact ihb (fun seen'' hs' => hrest seen'' ((hself.trans hs).trans hs')) (List.suffix_cons _ _)
  | alt a b iha ihb =>
    rw [visit]
    have ha := iha (fun seen' hs => hrest seen' (hself.trans hs)) (List.suffix_cons _ _)
    refine explores_unless_seen (ha.cons (ihb (fun seen' hs => ?_) (List.suffix_cons _ _)))
    exact hrest seen' ((hself.trans ha.suffix).trans hs)
  | star greedy x ih =>
    -- a round that has read nothing comes back to the repetition, which has been seen
    have hround : ∀ seen', .star greedy x :: k ∈ seen' →
        Explores here [x :: .star greedy x :: k] seen'
          (x.visit here (.star greedy x :: k) id seen') := by
      intro seen' hmem
      exact ih (fun seen'' hs => .seen (hs.subset hmem) (.nil _)) (List.suffix_cons _ _)
    cases greedy with
    | true =>
      rw [visit]
      have hx := hround _ (List.mem_cons_self (a := .star true x :: k) (l := seen))
      exact explores_unless_seen (hx.cons (hrest _ (hself.trans hx.suffix)))
    | false =>
      rw [visit]
      have hk := hrest _ hself
      exact explores_unless_seen (hk.cons (hround _ (hk.suffix.subset List.mem_cons_self)))

namespace Thread

variable {text : List Char} {here : Place} {i j : Nat} {t u : Thread} {ts : List Thread}
  {met seen seen' : List Thread}

theorem explores_explore (here : Place) (t : Thread) (seen : List Thread) :
    Explores here [t] seen (explore here t seen) := by
  induction t generalizing seen with
  | nil =>
    rw [explore]
    split
    next h => exact .seen h (.nil _)
    next h => exact .fresh h (.nil _) (.nil _)
  | cons r k ih => exact r.explores_visit fun seen' _ => ih seen'

theorem explores_exploreAll (here : Place) (ts : List Thread) :
    Explores here ts [] (exploreAll here ts).reverse := by
  unfold exploreAll
  rw [List.reverse_reverse]
  generalize ([] : List Thread) = seen
  induction ts generalizing seen with
  | nil => exact .nil seen
  | cons t ts ih => exact (explores_explore here t seen).cons (ih _)

/-! ## What is come across -/

/-- All that can be followed to from what has been seen has been seen, apart from what is still
being followed. -/
def Closed (here : Place) (met seen : List Thread) : Prop :=
  ∀ u ∈ seen, u ∉ met → ∀ v ∈ u.moves here, v ∈ seen

theorem Closed.cons (h : Closed here met seen) (t : Thread) :
    Closed here (t :: met) (t :: seen) := by
  intro u hu hn v hv
  rcases List.mem_cons.1 hu with rfl | hu
  · exact (hn List.mem_cons_self).elim
  · exact List.mem_cons_of_mem t (h u hu (fun hm => hn (List.mem_cons_of_mem t hm)) v hv)

theorem Explores.closed (h : Explores here ts seen seen') (hs : Closed here met seen) :
    Closed here met seen' := by
  induction h generalizing met with
  | nil => exact hs
  | seen _ _ ih => exact ih hs
  | @fresh t ts seen seen' seen'' _ hm _ ihm ihs =>
    refine ihs fun u hu hn v hv => ?_
    by_cases hut : u = t
    · subst hut
      exact hm.mem v hv
    · exact ihm (hs.cons t) u hu (fun hmem => (List.mem_cons.1 hmem).elim hut hn) v hv

/-- The thread is at its end, or reads the next character and matches from there by these
decisions. -/
def Goes (text : List Char) (i : Nat) (t : Thread) (ds : List Nat) (j : Nat) : Prop :=
  (t = [] ∧ ds = [] ∧ j = i) ∨
    ∃ c k, text[i]? = some c ∧ advance c t = some k ∧ Way text [] k (i + 1) ds j

/-- A thread that goes on by a character is followed to nothing without one. -/
theorem moves_of_goes (here : Place) {ds : List Nat} (h : Goes text i t ds j) :
    t.moves here = [] := by
  rcases h with ⟨rfl, -, -⟩ | ⟨c, k, -, ht, -⟩
  · rfl
  · unfold advance at ht
    split at ht
    next => rfl
    next => cases ht

/-- **The first step of a way.** -/
theorem way_iff {ds : List Nat} : Way text met t i ds j ↔ Goes text i t ds j ∨
    ∃ d ds' u, ds = d :: ds' ∧ (t.moves (.inText text i))[d]? = some u ∧ u ∉ t :: met ∧
      Way text (t :: met) u i ds' j := by
  constructor
  · intro h
    cases h with
    | done => exact Or.inl (Or.inl ⟨rfl, rfl, rfl⟩)
    | read hc ht hw => exact Or.inl (Or.inr ⟨_, _, hc, ht, hw⟩)
    | move hu hm hw => exact Or.inr ⟨_, _, _, rfl, hu, hm, hw⟩
  · rintro ((⟨rfl, rfl, rfl⟩ | ⟨c, k, hc, ht, hw⟩) | ⟨d, ds', u, rfl, hu, hm, hw⟩)
    · exact .done met j
    · exact .read hc ht hw
    · exact .move hu hm hw

/-- **A way from what has been seen** comes to a thread that has been seen and goes on. -/
theorem goes_of_way {met' : List Thread} {ds : List Nat}
    (hs : Closed (.inText text i) met seen) (h : Way text met' t i ds j) (hsub : met ⊆ met')
    (ht : t ∈ seen) (hn : t ∉ met) : ∃ u ∈ seen, ∃ ds j, Goes text i u ds j := by
  induction h with
  | done met' i => exact ⟨[], ht, [], i, Or.inl ⟨rfl, rfl, rfl⟩⟩
  | @read _ t k c i j ds hc hk hw => exact ⟨t, ht, ds, j, Or.inr ⟨c, k, hc, hk, hw⟩⟩
  | @move met' t u d i j ds hu hm _ ih =>
    refine ih hs (fun v hv => List.mem_cons_of_mem t (hsub hv)) ?_ fun hmem => ?_
    · exact hs t ht hn u (List.mem_of_getElem? hu)
    · exact hm (List.mem_cons_of_mem t (hsub hmem))

/-! ## The first way -/

/-- A way from one of the threads: its number and the decisions from there on. -/
def WayFrom (text : List Char) (met ts : List Thread) (i : Nat) (ds : List Nat) (j : Nat) : Prop :=
  ∃ d ds' t, ds = d :: ds' ∧ ts[d]? = some t ∧ t ∉ met ∧ Way text met t i ds' j

theorem no_wayFrom_nil (ds : List Nat) (j : Nat) : ¬ WayFrom text met [] i ds j := by
  rintro ⟨d, _, t, -, ht, -⟩
  cases ht

theorem not_lex_cons {d : Nat} {ds ds' : List Nat} :
    ¬ List.Lex (· < ·) (d :: ds) (d :: ds') ↔ ¬ List.Lex (· < ·) ds ds' := by
  rw [List.cons_lex_cons_iff]
  simp

/-- Where no way begins with the first thread, the first way is that of the other threads. -/
theorem first_skip {ds : List Nat} (ht : t ∈ met ∨ ∀ ds j, ¬ Way text met t i ds j)
    (h : First (WayFrom text met ts i) ds j) : ∃ ds, First (WayFrom text met (t :: ts) i) ds j := by
  obtain ⟨⟨d, ds', u, rfl, hd, hn, hw⟩, hleast⟩ := h
  refine ⟨(d + 1) :: ds', ⟨d + 1, ds', u, rfl, hd, hn, hw⟩, ?_⟩
  rintro _ j' ⟨_ | d', ds'', v, rfl, hd', hn', hw'⟩ hlex
  · cases hd'
    rcases ht with hmem | hno
    · exact hn' hmem
    · exact hno _ _ hw'
  · refine hleast (d' :: ds'') j' ⟨d', ds'', v, rfl, hd', hn', hw'⟩ ?_
    rw [List.cons_lex_cons_iff] at hlex ⊢
    simpa using hlex

/-- Where a way begins with the first thread, so does the first way. -/
theorem first_take {ds : List Nat} (ht : t ∉ met) (h : First (Way text met t i) ds j) :
    First (WayFrom text met (t :: ts) i) (0 :: ds) j := by
  obtain ⟨hw, hleast⟩ := h
  refine ⟨⟨0, ds, t, rfl, rfl, ht, hw⟩, ?_⟩
  rintro _ j' ⟨_ | d', ds', u, rfl, hd', -, hw'⟩
  · cases hd'
    exact not_lex_cons.2 (hleast ds' j' hw')
  · rw [List.cons_lex_cons_iff]
    simp

/-- **The first thread come across that goes on begins the first way.** -/
theorem Explores.first {g : Thread} {before after : List Thread} {ds : List Nat}
    (h : Explores (.inText text i) ts seen seen') (hs : Closed (.inText text i) met seen)
    (hmet : met ⊆ seen) (hseen : ∀ u ∈ seen, ∀ ds j, ¬ Goes text i u ds j)
    (heq : seen' = after ++ g :: before) (hbefore : ∀ u ∈ before, ∀ ds j, ¬ Goes text i u ds j)
    (hg : First (Goes text i g) ds j) : ∃ ds, First (WayFrom text met ts i) ds j := by
  induction h generalizing met after with
  | nil seen =>
    exact (hseen g (by rw [heq]; simp) _ _ hg.1).elim
  | @seen t ts seen seen' ht _ ih =>
    obtain ⟨ds', hfirst⟩ := ih hs hmet hseen heq
    refine first_skip ?_ hfirst
    by_cases hmem : t ∈ met
    · exact Or.inl hmem
    · refine Or.inr fun ds j hw => ?_
      obtain ⟨u, hu, ds, j, hgoes⟩ := goes_of_way hs hw (fun _ => id) ht hmem
      exact hseen u hu ds j hgoes
  | @fresh t ts seen seen' seen'' ht hm hr ihm ihs =>
    have hnot : t ∉ met := fun hmem => ht (hmet hmem)
    have htseen : t ∈ seen' := hm.suffix.subset List.mem_cons_self
    by_cases hgoal : ∃ u ∈ seen', ∃ ds j, Goes text i u ds j
    · -- something that goes on is come across under the first thread
      obtain ⟨after', heq'⟩ : ∃ after', seen' = after' ++ g :: before := by
        obtain ⟨later, hlater⟩ := hr.suffix
        rw [heq] at hlater
        rcases List.append_eq_append_iff.1 hlater with ⟨a, rfl, ha⟩ | ⟨a, rfl, ha⟩
        · exact ⟨a, ha⟩
        · obtain ⟨u, hu, ds', j', hgoes⟩ := hgoal
          rcases a with _ | ⟨v, a⟩
          · exact ⟨[], ha.symm⟩
          · injection ha with _ ha
            exact (hbefore u (by rw [ha]; exact List.mem_append_right _ hu) _ _ hgoes).elim
      suffices hway : ∃ ds, First (Way text met t i) ds j by
        obtain ⟨ds, hfirst⟩ := hway
        exact ⟨0 :: ds, first_take hnot hfirst⟩
      by_cases hself : ∃ ds j, Goes text i t ds j
      · -- the first thread goes on itself, and nothing is come across under it
        obtain ⟨_, _, hself⟩ := hself
        have hmoves := moves_of_goes (.inText text i) hself
        rw [hmoves] at hm
        cases hm
        rcases after' with _ | ⟨u, after'⟩
        · injection heq' with hg'
          subst hg'
          refine ⟨ds, hg.congr fun ds j => ?_⟩
          simp [way_iff (t := t), hmoves]
        · injection heq' with _ heq'
          exact (hseen g (by rw [heq']; simp) _ _ hg.1).elim
      · have hself' : ∀ ds j, ¬ Goes text i t ds j := fun ds j h => hself ⟨ds, j, h⟩
        obtain ⟨ds', hfirst⟩ := ihm (hs.cons t)
          (List.cons_subset_cons t hmet) (List.forall_mem_cons.2 ⟨hself', hseen⟩) heq'
        refine ⟨ds', hfirst.congr fun ds j => ?_⟩
        rw [way_iff]
        exact ⟨fun h => Or.inr h, fun h => h.resolve_left (hself' ds j)⟩
    · have hno : ∀ u ∈ seen', ∀ ds j, ¬ Goes text i u ds j :=
        fun u hu ds j hgoes => hgoal ⟨u, hu, ds, j, hgoes⟩
      have hclosed : Closed (.inText text i) met seen' :=
        (Explores.fresh ht hm (.nil seen')).closed hs
      have hmet' : met ⊆ seen' := fun v hv => hm.suffix.subset (List.mem_cons_of_mem t (hmet hv))
      obtain ⟨ds', hfirst⟩ := ihs hclosed hmet' hno heq
      refine first_skip (Or.inr fun ds j hw => ?_) hfirst
      exact hgoal (goes_of_way hclosed hw (fun _ => id) htseen hnot)

/-- The thread with which the first way begins. -/
theorem first_split {ds : List Nat} (h : First (WayFrom text [] ts i) ds j) :
    ∃ ls t rs ds', ts = ls ++ t :: rs ∧ (∀ u ∈ ls, ∀ ds j, ¬ Way text [] u i ds j) ∧
      First (Way text [] t i) ds' j := by
  obtain ⟨⟨d, ds', t, rfl, hd, -, hw⟩, hleast⟩ := h
  obtain ⟨hlt, rfl⟩ := List.getElem?_eq_some_iff.1 hd
  refine ⟨ts.take d, ts[d], ts.drop (d + 1), ds', ?_, fun u hu ds'' j' hu' => ?_, hw, ?_⟩
  · rw [← List.drop_eq_getElem_cons hlt, List.take_append_drop]
  · -- a way from an earlier thread would come first
    obtain ⟨d', hd', rfl⟩ := List.getElem_of_mem hu
    rw [List.length_take] at hd'
    rw [List.getElem_take] at hu'
    refine hleast (d' :: ds'') j' ⟨d', ds'', _, rfl, List.getElem?_eq_getElem _, nofun, hu'⟩ ?_
    exact .rel (by omega)
  · intro ds'' j' hw' hlex
    exact hleast (d :: ds'') j' ⟨d, ds'', _, rfl, hd, nofun, hw'⟩ (.cons hlex)

/-! ## The walk -/

/-- What is come across at a place from nothing, in order of preference. -/
theorem explores_inText (text : List Char) (ts : List Thread) (n : Nat) :
    Explores (.inText text n) ts [] (exploreAll (.inText text n) ts).reverse :=
  explores_exploreAll (.inText text n) ts

theorem closed_nil (here : Place) : Closed here [] [] := nofun

/-- The first live thread that goes on begins the first way. -/
theorem first_of_live {g : Thread} {ls rs : List Thread} {ds : List Nat}
    (hlive : exploreAll (.inText text i) ts = ls ++ g :: rs)
    (hls : ∀ u ∈ ls, ∀ ds j, ¬ Goes text i u ds j) (hg : First (Goes text i g) ds j) :
    ∃ ds, First (WayFrom text [] ts i) ds j := by
  have hseen : (exploreAll (.inText text i) ts).reverse = rs.reverse ++ g :: ls.reverse := by
    rw [hlive]
    simp
  exact (explores_inText text ts i).first (closed_nil _) (List.nil_subset _) nofun hseen
    (fun u hu => hls u (List.mem_reverse.1 hu)) hg

/-- Where no live thread goes on there is no way. -/
theorem no_way_of_live (hlive : ∀ u ∈ exploreAll (.inText text i) ts, ∀ ds j, ¬ Goes text i u ds j)
    (ds : List Nat) (j : Nat) : ¬ WayFrom text [] ts i ds j := by
  rintro ⟨d, ds', t, -, hd, -, hw⟩
  have ht := (explores_inText text ts i).mem t (List.mem_of_getElem? hd)
  have hclosed := (explores_inText text ts i).closed (closed_nil _)
  obtain ⟨u, hu, ds'', j', hgoes⟩ := goes_of_way hclosed hw (List.nil_subset _) ht nofun
  exact hlive u (List.mem_reverse.1 hu) ds'' j' hgoes

theorem first_finished (text : List Char) (i : Nat) : First (Goes text i []) [] i :=
  ⟨Or.inl ⟨rfl, rfl, rfl⟩, fun _ _ _ => nofun⟩

/-- A thread with something left goes on by the next character. -/
theorem goes_iff {c : Char} {ds : List Nat} (hc : text[i]? = some c) (ht : t ≠ []) :
    Goes text i t ds j ↔ ∃ k, advance c t = some k ∧ Way text [] k (i + 1) ds j := by
  constructor
  · rintro (⟨rfl, -, -⟩ | ⟨c', k, hc', hk, hw⟩)
    · exact (ht rfl).elim
    · rw [hc] at hc'
      cases hc'
      exact ⟨k, hk, hw⟩
  · rintro ⟨k, hk, hw⟩
    exact Or.inr ⟨c, k, hc, hk, hw⟩

theorem ne_nil_of_unfinished (h : t ∈ unfinished ts) : t ≠ [] := by
  rintro rfl
  exact absurd (List.mem_takeWhile_imp h) (by simp)

theorem unfinished_of_split {ls rs : List Thread} (h : ts = ls ++ [] :: rs) (hls : [] ∉ ls) :
    unfinished ts = ls := by
  unfold unfinished
  rw [h, List.takeWhile_append_of_pos, List.takeWhile_cons_of_neg (by simp), List.append_nil]
  intro t ht
  cases t with
  | nil => exact (hls ht).elim
  | cons => rfl

theorem unfinished_of_not_mem (h : [] ∉ ts) : unfinished ts = ts := by
  refine List.takeWhile_eq_self_iff.2 fun t ht => ?_
  cases t with
  | nil => exact (h ht).elim
  | cons => rfl

/-- Where nothing preferred to a finished thread goes on, the first way ends here, if a thread is
finished at all. -/
theorem first_here (hno : ∀ u ∈ unfinished (exploreAll (.inText text i) ts), ∀ ds j,
      ¬ Goes text i u ds j) :
    ([] ∈ exploreAll (.inText text i) ts ∧ ∃ ds, First (WayFrom text [] ts i) ds i) ∨
      ([] ∉ exploreAll (.inText text i) ts ∧ ∀ ds j, ¬ WayFrom text [] ts i ds j) := by
  by_cases hd : [] ∈ exploreAll (.inText text i) ts
  · obtain ⟨ls, rs, hlive, hls⟩ := List.eq_append_cons_of_mem hd
    rw [unfinished_of_split hlive hls] at hno
    exact Or.inl ⟨hd, first_of_live hlive hno (first_finished text i)⟩
  · rw [unfinished_of_not_mem hd] at hno
    exact Or.inr ⟨hd, no_way_of_live hno⟩

/-- What is left of the threads after a character. -/
def onward (text : List Char) (ts : List Thread) (i : Nat) (c : Char) : List Thread :=
  (unfinished (exploreAll (.inText text i) ts)).filterMap (advance c)

/-- A first way from what is left after the next character goes on from the first way to it. -/
theorem first_of_onward {c : Char} {ds : List Nat} (hc : text[i]? = some c)
    (h : First (WayFrom text [] (onward text ts i c) (i + 1)) ds j) :
    ∃ ds, First (WayFrom text [] ts i) ds j := by
  obtain ⟨_, k, _, ds', hnext, hbefore, hk, hleast⟩ := first_split h
  obtain ⟨l₁, l₂, hlive, rfl, hl₂⟩ := List.filterMap_eq_append_iff.1 hnext
  obtain ⟨m₁, g, m₂, rfl, hm₁, hg, -⟩ := List.filterMap_eq_cons_iff.1 hl₂
  have hne : ∀ u ∈ l₁ ++ (m₁ ++ g :: m₂), u ≠ [] := fun u hu => ne_nil_of_unfinished (hlive ▸ hu)
  obtain ⟨rs, hrs⟩ := List.takeWhile_prefix (l := exploreAll (.inText text i) ts) (!·.isEmpty)
  have hlive' : exploreAll (.inText text i) ts = (l₁ ++ m₁) ++ g :: (m₂ ++ rs) := by
    rw [← hrs]
    show unfinished _ ++ rs = _
    rw [hlive]
    simp
  have hfirst : First (Goes text i g) ds' j := by
    refine ⟨(goes_iff hc (hne g (by simp))).2 ⟨k, hg, hk⟩, fun ds j hg' => ?_⟩
    obtain ⟨k', hk', hw⟩ := (goes_iff hc (hne g (by simp))).1 hg'
    rw [hg] at hk'
    cases hk'
    exact hleast ds j hw
  refine first_of_live hlive' (fun u hu ds j hu' => ?_) hfirst
  rcases List.mem_append.1 hu with hu | hu
  · obtain ⟨k', hk', hw⟩ := (goes_iff hc (hne u (by simp [hu]))).1 hu'
    exact hbefore k' (List.mem_filterMap.2 ⟨u, hu, hk'⟩) ds j hw
  · obtain ⟨k', hk', -⟩ := (goes_iff hc (hne u (by simp [hu]))).1 hu'
    rw [hm₁ u hu] at hk'
    cases hk'

/-- Where there is no way from what is left after the next character, no thread goes on by it. -/
theorem no_goes_of_onward {c : Char} (hc : text[i]? = some c)
    (h : ∀ ds j, ¬ WayFrom text [] (onward text ts i c) (i + 1) ds j) :
    ∀ u ∈ unfinished (exploreAll (.inText text i) ts), ∀ ds j, ¬ Goes text i u ds j := by
  intro u hu ds j hgoes
  obtain ⟨k, hk, hw⟩ := (goes_iff hc (ne_nil_of_unfinished hu)).1 hgoes
  obtain ⟨d, hd, hdk⟩ := List.getElem_of_mem (List.mem_filterMap.2 ⟨u, hu, hk⟩)
  exact h (d :: ds) j ⟨d, ds, k, rfl, hdk ▸ List.getElem?_eq_getElem hd, nofun, hw⟩

/-- **The walk finds the end of the first way,** and the best match so far where there is none. -/
theorem walk_first {rest : List Char} {n : Nat} (ts : List Thread) (best : Option Nat)
    (hrest : rest = text.drop n) :
    (∃ ds j, First (WayFrom text [] ts n) ds j ∧
        walk ts (text.take n).getLast? n best rest = some j) ∨
      ((∀ ds j, ¬ WayFrom text [] ts n ds j) ∧
        walk ts (text.take n).getLast? n best rest = best) := by
  induction rest generalizing ts n best with
  | nil =>
    have hn : text[n]? = none := List.getElem?_eq_none (List.drop_eq_nil_iff.1 hrest.symm)
    have hp : (⟨(text.take n).getLast?, none⟩ : Place) = .inText text n := by
      unfold Place.inText
      rw [hn]
    have hno : ∀ u ∈ unfinished (exploreAll (.inText text n) ts), ∀ ds j,
        ¬ Goes text n u ds j := by
      rintro u hu ds j (⟨rfl, -, -⟩ | ⟨c, _, hc, -, -⟩)
      · exact ne_nil_of_unfinished hu rfl
      · rw [hn] at hc
        cases hc
    unfold walk
    rw [hp]
    rcases first_here hno with ⟨hd, ds, hfirst⟩ | ⟨hd, hnone⟩
    · exact Or.inl ⟨ds, n, hfirst, if_pos hd⟩
    · exact Or.inr ⟨hnone, if_neg hd⟩
  | cons c cs ih =>
    have hc : text[n]? = some c := by rw [← List.head?_drop, ← hrest]; rfl
    have hp : (⟨(text.take n).getLast?, some c⟩ : Place) = .inText text n := by
      unfold Place.inText
      rw [hc]
    have hlast : some c = (text.take (n + 1)).getLast? := by
      rw [List.take_add_one, hc]
      simp
    have hcs : cs = text.drop (n + 1) := by rw [← List.tail_drop, ← hrest]; rfl
    have hstep : (∃ ds j, First (WayFrom text [] (onward text ts n c) (n + 1)) ds j ∧
          walk ts (text.take n).getLast? n best (c :: cs) = some j) ∨
        ((∀ ds j, ¬ WayFrom text [] (onward text ts n c) (n + 1) ds j) ∧
          walk ts (text.take n).getLast? n best (c :: cs) =
            if [] ∈ exploreAll (.inText text n) ts then some n else best) := by
      unfold walk onward
      rw [hp]
      dsimp only
      split
      next hnil => exact Or.inr ⟨by rw [hnil]; exact no_wayFrom_nil, rfl⟩
      next => rw [hlast]; exact ih _ _ hcs
    rcases hstep with ⟨ds, j, hfirst, hout⟩ | ⟨hnone, hout⟩
    · obtain ⟨ds', hfirst'⟩ := first_of_onward hc hfirst
      exact Or.inl ⟨ds', j, hfirst', hout⟩
    · rw [hout]
      rcases first_here (no_goes_of_onward hc hnone) with ⟨hd, ds, hfirst⟩ | ⟨hd, hnone'⟩
      · exact Or.inl ⟨ds, n, hfirst, if_pos hd⟩
      · exact Or.inr ⟨hnone', if_neg hd⟩

/-! ## Ways and spans -/

/-- The same decisions lead to the same place. -/
theorem Way.deterministic {ds : List Nat} {j' : Nat} (h : Way text met t i ds j)
    (h' : Way text met t i ds j') : j = j' := by
  induction h generalizing j' with
  | done met i =>
    cases h' with
    | done => rfl
    | read _ ht => cases ht
  | read hc ht _ ih =>
    have hgoes : Goes text _ _ _ _ := Or.inr ⟨_, _, hc, ht, by assumption⟩
    cases h' with
    | done => cases ht
    | read hc' ht' hw' =>
      rw [hc] at hc'
      cases hc'
      rw [ht] at ht'
      cases ht'
      exact ih hw'
    | move hu' => rw [moves_of_goes _ hgoes] at hu'; cases hu'
  | move hu _ _ ih =>
    cases h' with
    | read hc' ht' hw' =>
      have hgoes : Goes text _ _ _ _ := Or.inr ⟨_, _, hc', ht', hw'⟩
      rw [moves_of_goes _ hgoes] at hu
      cases hu
    | move hu' _ hw' =>
      rw [hu] at hu'
      cases hu'
      exact ih hw'

/-- Two first ways of one thread end at one place. -/
theorem first_unique {ds ds' : List Nat} {j' : Nat} (h : First (Way text met t i) ds j)
    (h' : First (Way text met t i) ds' j') : j = j' := by
  obtain rfl : ds = ds' := Std.Trichotomous.trichotomous ds ds' (h'.2 ds j h.1) (h.2 ds' j' h'.1)
  exact h.1.deterministic h'.1

theorem Way.spans {ds : List Nat} (h : Way text met t i ds j) : t.Spans text i j := by
  induction h with
  | done => rfl
  | read hc ht _ ih => exact spans_of_advance hc ht ih
  | move hu _ _ ih => exact spans_of_moves (List.mem_of_getElem? hu) ih

/-- **Shortest steps are a way:** to try a thing again they would have to be longer than those from
the thing. -/
theorem way_of_steps {n : Nat} (h : Steps text n t i j) (hleast : ∀ m < n, ¬ Steps text m t i j)
    (hmet : ∀ u ∈ met, ∀ m ≤ n, ¬ Steps text m u i j) : ∃ ds, Way text met t i ds j := by
  induction h generalizing met with
  | done i => exact ⟨[], .done met i⟩
  | read hc ht _ ih =>
    have hleast' := fun m hm hs => hleast (m + 1) (Nat.succ_lt_succ hm) (.read hc ht hs)
    obtain ⟨ds, hw⟩ := @ih [] hleast' nofun
    exact ⟨ds, .read hc ht hw⟩
  | @move n i j t u hu hs ih =>
    have hfresh : ∀ v ∈ t :: met, ∀ m ≤ n, ¬ Steps text m v i j := by
      intro v hv m hm
      rcases List.mem_cons.1 hv with rfl | hv
      · exact hleast m (Nat.lt_succ_of_le hm)
      · exact hmet v hv m (Nat.le_succ_of_le hm)
    obtain ⟨ds, hw⟩ := ih (fun m hm hs => hleast (m + 1) (Nat.succ_lt_succ hm) (.move hu hs)) hfresh
    obtain ⟨d, hd⟩ := List.getElem?_of_mem hu
    exact ⟨d :: ds, .move hd (fun hmem => hfresh u hmem n (Nat.le_refl n) hs) hw⟩

/-- **What a thread spans it matches in a way.** -/
theorem exists_way_iff : (∃ ds, Way text [] t i ds j) ↔ t.Spans text i j := by
  constructor
  · rintro ⟨ds, hw⟩
    exact hw.spans
  · intro h
    classical
    have hsteps := steps_of_spans h
    exact way_of_steps (Nat.find_spec hsteps) (fun m hm => Nat.find_min hsteps hm) nofun

end Thread

/-! ## The matcher -/

namespace Regex

variable {text : List Char} {i j : Nat} {r : Regex}

/-- Where the preferred match from `i` ends. -/
def matchFrom (r : Regex) (text : List Char) (i : Nat) : Option Nat :=
  walk [[r]] (text.take i).getLast? i none (text.drop i)

theorem matchLength_eq (r : Regex) (text : List Char) :
    r.matchLength text = r.matchFrom text 0 := rfl

theorem thread_spans_single : Thread.Spans text [r] i j ↔ r.Spans text i j := by
  constructor
  · rintro ⟨m, hr, rfl⟩
    exact hr
  · exact fun h => ⟨j, h, rfl⟩

/-- The walk from one expression finds the first way of it. -/
theorem matchFrom_cases (r : Regex) (text : List Char) (i : Nat) :
    (∃ j, r.matchFrom text i = some j ∧ r.Preferred text i j) ∨
      (r.matchFrom text i = none ∧ ∀ j, ¬ r.Spans text i j) := by
  rcases walk_first [[r]] none (Eq.refl (text.drop i)) with
    ⟨ds, j, hfirst, hout⟩ | ⟨hnone, hout⟩
  · obtain ⟨ls, t, rs, ds', hts, -, hfirst'⟩ := first_split hfirst
    obtain ⟨rfl, rfl, rfl⟩ : ls = [] ∧ t = [r] ∧ rs = [] := by
      rcases ls with _ | ⟨_, _ | _⟩ <;> simp_all
    exact Or.inl ⟨j, hout, ds', hfirst'⟩
  · refine Or.inr ⟨hout, fun j hj => ?_⟩
    obtain ⟨ds, hw⟩ := exists_way_iff.2 (thread_spans_single.2 hj)
    exact hnone (0 :: ds) j ⟨0, ds, [r], rfl, rfl, nofun, hw⟩

theorem Preferred.spans (h : r.Preferred text i j) : r.Spans text i j := by
  obtain ⟨ds, hw, -⟩ := h
  exact thread_spans_single.1 hw.spans

theorem Preferred.unique {j' : Nat} (h : r.Preferred text i j) (h' : r.Preferred text i j') :
    j = j' := by
  obtain ⟨_, h⟩ := h
  obtain ⟨_, h'⟩ := h'
  exact first_unique h h'

/-- **The matcher finds the preferred match.** -/
theorem matchFrom_eq_some_iff : r.matchFrom text i = some j ↔ r.Preferred text i j := by
  rcases r.matchFrom_cases text i with ⟨j', hj', hp⟩ | ⟨hnone, hno⟩
  · rw [hj', Option.some_inj]
    exact ⟨fun h => h ▸ hp, fun h => hp.unique h⟩
  · rw [hnone]
    exact ⟨nofun, fun h => (hno j h.spans).elim⟩

/-- **The matcher finds a match wherever there is one.** -/
theorem matchFrom_eq_none_iff : r.matchFrom text i = none ↔ ∀ j, ¬ r.Spans text i j := by
  rcases r.matchFrom_cases text i with ⟨j', hj', hp⟩ | ⟨hnone, hno⟩
  · rw [hj']
    exact ⟨nofun, fun h => (h j' hp.spans).elim⟩
  · exact iff_of_true hnone hno

theorem exists_preferred : (∃ j, r.Preferred text i j) ↔ ∃ j, r.Spans text i j := by
  constructor
  · rintro ⟨j, hp⟩
    exact ⟨j, hp.spans⟩
  · rintro ⟨j, hj⟩
    rcases r.matchFrom_cases text i with ⟨j', -, hp⟩ | ⟨-, hno⟩
    · exact ⟨j', hp⟩
    · exact (hno j hj).elim

theorem matchLength_eq_some_iff {n : Nat} :
    r.matchLength text = some n ↔ r.Preferred text 0 n := by
  rw [matchLength_eq, matchFrom_eq_some_iff]

/-- The matcher is sound: what it finds at the beginning of a text is a span. -/
theorem matchLength_spans {n : Nat} (h : r.matchLength text = some n) : r.Spans text 0 n :=
  (matchLength_eq_some_iff.1 h).spans

end Regex

end GrammarEngine
