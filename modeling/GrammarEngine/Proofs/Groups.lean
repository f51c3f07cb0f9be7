import GrammarEngine.Pattern.Dialect

/-!
# Groups of a pattern

A pattern is read one character at a time, and what a character does is decided within the group
that is being read. So the groups around that group matter only when it is closed:
a text is read over a deeper stack of groups as it is read alone (`foldlM_under`), up to a closing
parenthesis that nothing in the text has opened.

This holds of every dialect that keeps to a few laws (`Dialect.Lawful`): a closing parenthesis
closes the group exactly where the text might end, except in a comment, which swallows it, and flags
are switched in the heads of groups only. `Reader.Upright` is the invariant of reading: no group is
left in its head while another one is read, and outside all groups no head is read.
-/

namespace GrammarEngine

/-- A computation in two parts succeeds if the first part does, and the second after it. -/
theorem bind_eq_ok_iff {ε α β : Type} {e : Except ε α} {f : α → Except ε β} {b : β} :
    (e >>= f) = .ok b ↔ ∃ a, e = .ok a ∧ f a = .ok b := by
  cases e with
  | error x => exact ⟨fun h => (by cases h), fun ⟨_, h, _⟩ => (by cases h)⟩
  | ok a =>
    constructor
    · exact fun h => ⟨a, rfl, h⟩
    · rintro ⟨_, ha, h⟩
      cases ha
      exact h

namespace Dialect

/-- The laws of groups. -/
structure Lawful (D : Dialect) : Prop where
  /-- Behind `^(?:` a group is read as a whole pattern is. -/
  opening : ['^', '(', '?', ':'].foldlM Reader.step (Reader.start D) = .ok ⟨[D.caret], D.start⟩
  /-- A pattern does not begin in the head of a group. -/
  start : D.inHead D.start = false
  /-- A character that stays in its group does not lead back into its head. -/
  stay : ∀ {g g' : D.Group} {c : Char}, D.step g c = .ok (.stay g') → D.inHead g' = true →
    D.inHead g = true
  /-- A group in which another begins is not in its head any more. -/
  enter : ∀ {g parent child : D.Group} {c : Char}, D.step g c = .ok (.enter parent child) →
    D.inHead parent = false
  /-- Behind its head a group is closed by a parenthesis only, and as the end of the text closes it.
  -/
  leave : ∀ {g g' : D.Group} {c : Char}, D.step g c = .ok (.leave g') → D.inHead g = false →
    c = ')' ∧ D.finish g = .ok g'
  /-- Flags are switched in the head of a group. -/
  switch : ∀ {g : D.Group} {c : Char} {change : D.Group → D.Group},
    D.step g c = .ok (.switch change) →
    D.inHead g = true ∧ ∀ parent, D.inHead (change parent) = D.inHead parent
  /-- Behind a group the one around it is where it was. -/
  resume : ∀ parent g, D.inHead (D.resume parent g) = D.inHead parent
  /-- Where the text may end, and not in a comment, a closing parenthesis closes the group. -/
  close : ∀ {g v : D.Group}, D.finish g = .ok v → D.inComment g = false →
    D.step g ')' = .ok (.leave v)
  /-- A comment swallows a closing parenthesis. -/
  comment : ∀ {g : D.Group}, D.inComment g = true → ∃ g', D.step g ')' = .ok (.stay g')
  /-- Behind a group the text may end. -/
  behind : ∀ v, D.finish (D.resume D.caret v) = .ok (D.resume D.caret v)

/-- The text may end here, and not in a comment: what has been read of the group is `v`. -/
def Ends (D : Dialect) (g v : D.Group) : Prop := D.finish g = .ok v ∧ D.inComment g = false

variable {D : Dialect}

/-- Outside heads nothing but a closing parenthesis where the text may end closes a group. -/
theorem Lawful.ends_of_leave (hD : D.Lawful) {g v : D.Group} {c : Char}
    (h : D.step g c = .ok (.leave v)) (hg : D.inHead g = false) : c = ')' ∧ D.Ends g v := by
  obtain ⟨rfl, hv⟩ := hD.leave h hg
  refine ⟨rfl, hv, Bool.eq_false_iff.2 fun hcomment => ?_⟩
  obtain ⟨g', hg'⟩ := hD.comment hcomment
  rw [hg'] at h
  cases h

end Dialect

open Dialect

/-! ## Groups around -/

namespace Reader

variable {D : Dialect} {r r' : Reader D} {c : Char} {text : List Char}

/-- The reader with these groups around all the others. -/
def under (ps : List D.Group) (r : Reader D) : Reader D := ⟨r.parents ++ ps, r.current⟩

/-- The groups around have been left behind their heads, and outside all groups no head of a group
is read. -/
structure Upright (r : Reader D) : Prop where
  parents : ∀ g ∈ r.parents, D.inHead g = false
  current : r.parents = [] → D.inHead r.current = false

theorem upright_start (hD : D.Lawful) : (Reader.start D).Upright := ⟨nofun, fun _ => hD.start⟩

/-- What a step comes to, by what the character does. -/
theorem step_eq_ok_iff : r.step c = .ok r' ↔ ∃ a, D.step r.current c = .ok a ∧ r.act a = .ok r' :=
  bind_eq_ok_iff

theorem Upright.step (hD : D.Lawful) (hr : r.Upright) (h : r.step c = .ok r') : r'.Upright := by
  obtain ⟨a, ha, hact⟩ := step_eq_ok_iff.1 h
  -- the group around one that ends
  have hclosed : ∀ {g gs g'}, r.parents = g :: gs → D.inHead g' = D.inHead g →
      (⟨gs, g'⟩ : Reader D).Upright := by
    intro g gs g' hgs hg'
    have hparents := hr.parents
    rw [hgs] at hparents
    obtain ⟨hg, hparents⟩ := List.forall_mem_cons.1 hparents
    exact ⟨hparents, fun _ => hg'.trans hg⟩
  cases a with
  | stay g =>
    cases hact
    refine ⟨hr.parents, fun hnil => Bool.eq_false_iff.2 fun h => ?_⟩
    have hhead := hD.stay ha h
    rw [hr.current hnil] at hhead
    cases hhead
  | enter parent child =>
    cases hact
    exact ⟨List.forall_mem_cons.2 ⟨hD.enter ha, hr.parents⟩, nofun⟩
  | leave g =>
    simp only [act] at hact
    split at hact
    · cases hact
    next parent gs hgs =>
      cases hact
      exact hclosed hgs (hD.resume parent g)
  | switch change =>
    simp only [act] at hact
    split at hact
    · cases hact
    next parent gs hgs =>
      cases hact
      exact hclosed hgs ((hD.switch ha).2 parent)

/-- The character closes a group, and none is open. -/
def Overruns (r : Reader D) (c : Char) : Prop :=
  r.parents = [] ∧ ∃ v, D.step r.current c = .ok (.leave v)

/-- **A step over a deeper stack of groups** is the step alone, except where it closes a group and
none is open. -/
theorem step_under (hD : D.Lawful) (hr : r.Upright) (ps : List D.Group) (c : Char) :
    (r.under ps).step c = (r.step c).map (under ps) ∨ r.Overruns c := by
  have hunder : (r.under ps).step c = D.step r.current c >>= (r.under ps).act := rfl
  have halone : r.step c = D.step r.current c >>= r.act := rfl
  rw [hunder, halone]
  cases ha : D.step r.current c with
  | error e => exact Or.inl rfl
  | ok a =>
    cases hps : r.parents with
    | cons g gs =>
      left
      show (r.under ps).act a = (r.act a).map (under ps)
      cases a <;> simp [act, under, hps, Except.map]
    | nil =>
      cases a with
      | stay v => left; simp [act, under, bind, Except.bind, Except.map]
      | enter parent child => left; simp [act, under, bind, Except.bind, Except.map]
      | leave v => exact Or.inr ⟨hps, v, ha⟩
      | switch change =>
        have hhead := (hD.switch ha).1
        rw [hr.current hps] at hhead
        cases hhead

/-- The text may end outside all groups and comments: what has been read is `v`. -/
def Completes (r : Reader D) (text : List Char) (v : D.Group) : Prop :=
  ∃ r', text.foldlM step r = .ok r' ∧ r'.parents = [] ∧ D.Ends r'.current v

/-- A closing parenthesis behind a complete text has nothing to close. -/
theorem Completes.unopened (hD : D.Lawful) {v : D.Group} (h : r.Completes text v)
    (rest : List Char) : (text ++ ')' :: rest).foldlM step r = .error .unopenedGroup := by
  obtain ⟨r', hfold, hparents, hfinish, hcomment⟩ := h
  have hstep : r'.step ')' = .error .unopenedGroup := by
    unfold step
    rw [hD.close hfinish hcomment]
    simp only [bind, Except.bind, act, hparents]
  rw [List.foldlM_append, hfold]
  show (r'.step ')' >>= fun r => rest.foldlM step r) = _
  rw [hstep]
  rfl

/-- **A text is read over a deeper stack of groups as it is read alone,** up to a closing
parenthesis that it has not opened. -/
theorem foldlM_under (hD : D.Lawful) (hr : r.Upright) (ps : List D.Group) (text : List Char) :
    text.foldlM step (r.under ps) = (text.foldlM step r).map (under ps) ∨
      ∃ a b v, text = a ++ ')' :: b ∧ r.Completes a v := by
  induction text generalizing r with
  | nil => exact Or.inl rfl
  | cons c text ih =>
    rcases step_under hD hr ps c with hstep | ⟨hps, v, hv⟩
    · rw [List.foldlM_cons, List.foldlM_cons, hstep]
      cases hc : r.step c with
      | error e => exact Or.inl rfl
      | ok r₁ =>
        rcases ih (hr.step hD hc) with heq | ⟨a, b, v, rfl, r', hfold, hends⟩
        · exact Or.inl heq
        · refine Or.inr ⟨c :: a, b, v, rfl, r', ?_, hends⟩
          rw [List.foldlM_cons, hc]
          exact hfold
    · obtain ⟨rfl, hends⟩ := hD.ends_of_leave hv (hr.current hps)
      exact Or.inr ⟨[], text, v, rfl, r, rfl, hps, hends⟩

/-- What is read alone is read over a deeper stack of groups. -/
theorem foldlM_under_of_ok (hD : D.Lawful) (hr : r.Upright) (ps : List D.Group)
    (h : text.foldlM step r = .ok r') : text.foldlM step (r.under ps) = .ok (r'.under ps) := by
  rcases foldlM_under hD hr ps text with heq | ⟨a, b, v, rfl, hcomplete⟩
  · rw [heq, h]
    rfl
  · rw [hcomplete.unopened hD b] at h
    cases h

theorem Upright.foldlM (hD : D.Lawful) (hr : r.Upright) (h : text.foldlM Reader.step r = .ok r') :
    r'.Upright := by
  induction text generalizing r with
  | nil =>
    cases h
    exact hr
  | cons c text ih =>
    rw [List.foldlM_cons] at h
    obtain ⟨r₁, hc, h⟩ := bind_eq_ok_iff.1 h
    exact ih (hr.step hD hc) h

end Reader

end GrammarEngine
