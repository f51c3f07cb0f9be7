import GrammarEngine.Pattern.Reader
import GrammarEngine.Proofs.Groups

/-!
# The groups that the reader keeps

The reader of patterns keeps to the laws of groups (`Pattern.dialect_lawful`). `Allowed` says what a
character can do to the groups, and `step_allows` that every step keeps to it, whatever is being
read: each function of the reader has a lemma of its own. `step_close` is the other direction: where
the text may end, a closing parenthesis closes the group.
-/

namespace GrammarEngine

@[simp] theorem Mode.inHead_spaced (m : Mode) : m.spaced.inHead = m.inHead := by
  unfold Mode.spaced
  split <;> rfl

namespace Work

/-! ## What a character does -/

/-- What a character may do to the groups. A group is entered from the top of the one around it. It
is closed by a parenthesis only, and if its head is complete then as the end of the text would close
it. Flags are switched, and the head of a group is begun, in the head of a group only. -/
inductive Allowed (w : Work) (c : Char) : Action Work → Prop
  | stay {v : Work} (hv : v.mode.inHead = true → w.mode.inHead = true) : Allowed w c (.stay v)
  | enter {parent child : Work} (hp : parent.mode = .base) : Allowed w c (.enter parent child)
  | leave {v : Work} (hv : w.mode.inHead = false → c = ')' ∧ w.finishIn w.mode = .ok v) :
    Allowed w c (.leave { v with mode := .base })
  | switch {f : Flags} (hw : w.mode.inHead = true) : Allowed w c (.switch (Work.switch f))

/-- Whatever the reading does is allowed. -/
def Allows (w : Work) (c : Char) (rd : Read) : Prop := ∀ a, rd = .ok a → w.Allowed c a

variable {w v : Work} {c : Char} {go : Read}

@[simp] theorem allows_error (w : Work) (c : Char) (e : PatternError) :
    w.Allows c (.error e) := by
  rintro a ⟨⟩

theorem allows_stay (hv : v.mode.inHead = true → w.mode.inHead = true) :
    w.Allows c (.ok (.stay v)) := by
  rintro a ⟨⟩
  exact .stay hv

theorem allows_within {m : Mode} (hm : m.inHead = true → w.mode.inHead = true) :
    w.Allows c (v.within m) := allows_stay hm

/-- A mode that is in no head may be entered from every mode. -/
theorem allows_within_of_not {m : Mode} (hm : m.inHead = false) : w.Allows c (v.within m) :=
  allows_within fun h => by rw [hm] at h; cases h

theorem allows_bind {α : Type} {e : Except PatternError α} {f : α → Read}
    (h : ∀ x, e = .ok x → w.Allows c (f x)) : w.Allows c (e >>= f) := by
  intro a ha
  obtain ⟨x, hx, ha⟩ := bind_eq_ok_iff.1 ha
  exact h x hx a ha

theorem allows_ite {p : Prop} [Decidable p] {rd rd' : Read} (h : w.Allows c rd)
    (h' : w.Allows c rd') : w.Allows c (if p then rd else rd') := by
  split
  · exact h
  · exact h'

theorem allows_skipping (hv : v.mode.inHead = true → w.mode.inHead = true) (h : w.Allows c go) :
    w.Allows c (v.skipping c go) :=
  allows_ite (allows_within (by rwa [Mode.inHead_spaced])) (allows_ite (allows_within hv) h)

theorem literal_mode {d : Char} (h : w.literal d = .ok v) : v.mode = w.mode := by
  unfold literal at h
  split at h
  · cases h
  · cases h
    rfl

/-- A character at the top of a group, where what has been read may be closed as `v`. -/
theorem allows_base (hv : w.mode.inHead = false → w.finishIn w.mode = .ok v) :
    w.Allows c (v.base c) := by
  have hstay : ∀ u : Work, u.mode = .base → w.Allows c (.ok (.stay u)) := by
    intro u hu
    exact allows_stay fun h => by rw [hu] at h; cases h
  unfold base
  refine allows_skipping nofun ?_
  split
  next =>
    rintro a ⟨⟩
    exact .enter rfl
  next =>
    rintro a ⟨⟩
    exact .leave fun h => ⟨rfl, hv h⟩
  next => exact hstay _ rfl
  next => exact allows_within_of_not rfl
  iterate 4 next => exact allows_bind fun _ _ => allows_within_of_not rfl
  next => exact allows_within_of_not rfl
  next => exact allows_bind fun _ _ => hstay _ rfl
  next => exact hstay _ rfl
  next => exact hstay _ rfl
  next => exact allows_bind fun u hu => hstay u (literal_mode hu)

theorem allows_greed {least : Nat} {most : Option Nat} {spaced : Bool}
    (hw : w.mode = .greed least most spaced) : w.Allows c (w.greed least most spaced c) := by
  have hgo : w.Allows c (do
      if c == '?' then (← w.rep least most false).within .base
      else (← w.rep least most true).base c) := by
    refine allows_ite (allows_bind fun _ _ => allows_within_of_not rfl) (allows_bind fun v hv => ?_)
    exact allows_base fun _ => by rw [hw]; exact hv
  unfold greed
  exact allows_ite (allows_skipping id hgo) hgo

theorem allows_count {m : CountMode} (hv : v.mode.inHead = true → w.mode.inHead = true) :
    w.Allows c (v.count m c) := by
  unfold count
  refine allows_skipping hv ?_
  cases m with
  | least n closed =>
    refine allows_ite (allows_bind fun _ _ => allows_within_of_not rfl)
      (allows_ite (allows_within_of_not rfl) ?_)
    split
    · exact allows_within_of_not rfl
    · exact allows_within_of_not rfl
    · simp
  | comma k =>
    exact allows_ite (allows_bind fun _ _ => allows_within_of_not rfl)
      (allows_ite (allows_within_of_not rfl) (allows_ite (allows_within_of_not rfl) (by simp)))
  | most k n closed =>
    refine allows_ite (allows_bind fun _ _ => allows_within_of_not rfl)
      (allows_ite (allows_within_of_not rfl) ?_)
    split
    · exact allows_ite (by simp) (allows_within_of_not rfl)
    · simp

/-! ## Heads of groups -/

theorem allows_name {back : List Char} (hw : w.mode.inHead = true) :
    w.Allows c (w.name back c) := by
  unfold name
  refine allows_ite ?_ (allows_ite (allows_within fun _ => hw) (by simp))
  exact allows_ite (by simp) (allows_ite (by simp) (allows_stay fun _ => hw))

theorem allows_flagLetter {f : Flags} {seen : List Char} {off last : Bool}
    (hw : w.mode.inHead = true) : w.Allows c (w.flagLetter f seen off last c) := by
  unfold flagLetter
  split
  next => exact allows_ite (by simp) (allows_stay fun _ => hw)
  next =>
    refine allows_ite (by simp) (allows_ite (by simp) ?_)
    rintro a ⟨⟩
    exact .switch hw
  next => exact allows_ite (by simp) (allows_within fun _ => hw)
  next =>
    split
    · simp
    · exact allows_ite (by simp) (allows_within fun _ => hw)

theorem allows_group {m : GroupMode} (hw : w.mode = .group m) : w.Allows c (w.group m c) := by
  have hhead : w.mode.inHead = true := by rw [hw]; rfl
  have hno : ∀ v, w.mode.inHead = false → w.finishIn w.mode = .ok v :=
    fun v h => by rw [hhead] at h; cases h
  unfold group
  cases m with
  | opened =>
    exact allows_skipping id (allows_ite (allows_within fun _ => hhead) (allows_base (hno w)))
  | query =>
    dsimp only
    split
    next => simp
    next => simp
    next => exact allows_within fun _ => hhead
    next => exact allows_within fun _ => hhead
    next => exact allows_flagLetter hhead
  | letter => exact allows_ite (allows_within fun _ => hhead) (by simp)
  | angle => exact allows_ite (by simp) (allows_name hhead)
  | name back => exact allows_name hhead
  | flags f seen off last => exact allows_flagLetter hhead

/-! ## Escapes -/

theorem allows_deliver {site : Site} {a : Atom} : w.Allows c (v.deliver site a) := by
  unfold deliver
  split
  next => exact allows_bind fun _ _ => allows_within_of_not rfl
  next => simp
  next => exact allows_within_of_not rfl
  next => exact allows_bind fun _ _ => allows_within_of_not rfl

theorem allows_escape {site : Site} : w.Allows c (v.escape site c) := by
  unfold escape
  refine allows_ite (by simp) (allows_ite allows_deliver ?_)
  split
  iterate 5 next => exact allows_within_of_not rfl
  next =>
    split
    · exact allows_within_of_not rfl
    · simp
  next =>
    split
    · exact allows_deliver
    · exact allows_deliver
    · exact allows_bind fun _ _ => allows_deliver
    · simp

theorem allows_hexDigits {site : Site} {left value : Nat} {byte : Bool}
    (hv : v.mode.inHead = true → w.mode.inHead = true) :
    w.Allows c (v.hexDigits site left value byte c) := by
  unfold hexDigits
  refine allows_skipping hv ?_
  split
  · simp
  · refine allows_ite (allows_bind fun _ _ => ?_) (allows_within_of_not rfl)
    exact allows_ite (allows_bind fun _ _ => allows_deliver) allows_deliver

theorem allows_hex {site : Site} {digits : Nat}
    (hv : v.mode.inHead = true → w.mode.inHead = true) :
    w.Allows c (v.hex site digits c) :=
  allows_skipping hv (allows_ite (allows_within_of_not rfl) (allows_hexDigits hv))

theorem allows_hexBrace {site : Site} {value : Option Nat}
    (hv : v.mode.inHead = true → w.mode.inHead = true) :
    w.Allows c (v.hexBrace site value c) := by
  unfold hexBrace
  refine allows_skipping hv ?_
  split
  · simp
  · exact allows_bind fun _ _ => allows_deliver
  · split
    · simp
    · exact allows_within_of_not rfl

theorem allows_propertySet {site : Site} {negate : Bool} {name : List Char} :
    w.Allows c (v.propertySet site negate name) := by
  unfold propertySet
  refine allows_ite (by simp) ?_
  split
  · simp
  · exact allows_bind fun _ _ => allows_deliver

theorem allows_property {site : Site} {negate : Bool}
    (hv : v.mode.inHead = true → w.mode.inHead = true) :
    w.Allows c (v.property site negate c) := by
  unfold property
  refine allows_skipping hv ?_
  split
  · exact allows_within_of_not rfl
  · simp
  · exact allows_propertySet

theorem allows_propertyName {site : Site} {negate : Bool} {back : List Char}
    (hv : v.mode.inHead = true → w.mode.inHead = true) :
    w.Allows c (v.propertyName site negate back c) :=
  allows_skipping hv (allows_ite allows_propertySet (allows_within_of_not rfl))

theorem allows_edge (hw : w.mode = .edge) : w.Allows c (w.edge c) := by
  unfold edge
  refine allows_ite (allows_within_of_not rfl) (allows_base fun _ => ?_)
  rw [hw]
  rfl

theorem allows_edgeName {back : List Char} (hv : v.mode.inHead = true → w.mode.inHead = true) :
    w.Allows c (v.edgeName back c) := by
  unfold edgeName
  refine allows_skipping hv (allows_ite (allows_within_of_not rfl) (allows_ite ?_ ?_))
  · exact allows_count hv
  · refine allows_ite ?_ (by simp)
    split
    · simp
    · exact allows_deliver

/-! ## Brackets -/

theorem allows_closeBracket {outer : List Bracket} {b : Bracket} :
    w.Allows c (v.closeBracket outer b) := by
  unfold closeBracket
  split
  · exact allows_bind fun _ _ => allows_within_of_not rfl
  · exact allows_bind fun _ _ => allows_within_of_not rfl

theorem allows_bracketItems {outer : List Bracket} {b : Bracket} :
    w.Allows c (v.bracketItems outer b c) := by
  unfold bracketItems
  refine allows_skipping nofun ?_
  split
  next => exact allows_within_of_not rfl
  next => exact allows_closeBracket
  iterate 5 next => exact allows_within_of_not rfl

theorem allows_bracketFirst {outer : List Bracket} {b : Bracket} {m : BracketMode} :
    w.Allows c (v.bracketFirst outer b m c) := by
  unfold bracketFirst
  refine allows_skipping nofun ?_
  split
  · exact allows_bind fun _ _ => allows_within_of_not rfl
  · exact allows_bind fun _ _ => allows_within_of_not rfl
  · exact allows_bracketItems

theorem allows_bracketItem {outer : List Bracket} {b : Bracket} {a : Atom} :
    w.Allows c (v.bracketItem outer b a c) :=
  allows_skipping nofun
    (allows_ite (allows_within_of_not rfl) (allows_bind fun _ _ => allows_bracketItems))

theorem allows_bracketRange {outer : List Bracket} {b : Bracket} {a : Atom} {spaced : Bool}
    (hv : v.mode.inHead = true → w.mode.inHead = true) :
    w.Allows c (v.bracketRange outer b a spaced c) := by
  unfold bracketRange
  refine allows_skipping hv ?_
  split
  · exact allows_bind fun _ _ => allows_bind fun _ _ => allows_closeBracket
  · refine allows_bind fun _ _ => ?_
    exact allows_ite (allows_within_of_not rfl) (allows_within_of_not rfl)
  · exact allows_within_of_not rfl
  · exact allows_bind fun _ _ => allows_within_of_not rfl

theorem allows_bracket {outer : List Bracket} {b : Bracket} {m : BracketMode} :
    w.Allows c (v.bracket outer b m c) := by
  unfold bracket
  cases m with
  | opened =>
    exact allows_skipping nofun (allows_ite (allows_within_of_not rfl) allows_bracketFirst)
  | first => exact allows_bracketFirst
  | hyphens => exact allows_bracketFirst
  | items => exact allows_bracketItems
  | single d => exact allows_ite (allows_within_of_not rfl) allows_bracketItem
  | item a => exact allows_bracketItem
  | range a spaced => exact allows_bracketRange nofun

/-- **Every step keeps to what is allowed.** -/
theorem step_allows (w : Work) (c : Char) : w.Allows c (w.step c) := by
  unfold step
  cases hm : w.mode with
  | base => exact allows_base fun _ => by rw [hm]; rfl
  | comment back =>
    have hback : back.inHead = true → w.mode.inHead = true := by rw [hm]; exact id
    exact allows_ite (allows_within (by rwa [Mode.inHead_spaced])) (allows_within hback)
  | greed least most spaced => exact allows_greed hm
  | count m => exact allows_count id
  | group m => exact allows_group hm
  | escape site => exact allows_escape
  | hex site digits => exact allows_hex id
  | hexDigits site left value byte => exact allows_hexDigits id
  | hexBrace site value => exact allows_hexBrace id
  | property site negate => exact allows_property id
  | propertyName site negate back => exact allows_propertyName id
  | edge => exact allows_edge hm
  | edgeName back => exact allows_edgeName id
  | bracket outer b m => exact allows_bracket

/-! ## Closing a group -/

/-- A closing parenthesis is not skipped. -/
@[simp] theorem skipping_close (w : Work) (go : Read) : w.skipping ')' go = go := by
  have hblank : Text.isBlank ')' = false := by decide
  simp [skipping, hblank]

theorem base_close (v : Work) : v.base ')' = .ok (.leave { v with mode := .base }) := by
  simp [base]

/-- **Where the text may end, a closing parenthesis closes the group,** unless a comment swallows
it.
-/
theorem step_close (h : w.finishIn w.mode = .ok v) (hcomment : w.mode.inComment = false) :
    w.step ')' = .ok (.leave { v with mode := .base }) := by
  unfold step
  cases hm : w.mode with
  | base =>
    rw [hm] at h
    cases h
    exact base_close w
  | comment back =>
    rw [hm] at hcomment
    cases hcomment
  | greed least most spaced =>
    rw [hm] at h
    change w.rep least most true = .ok v at h
    have hgo : (w.rep least most true >>= fun v => v.base ')') =
        .ok (.leave { v with mode := .base }) := by
      rw [h]
      exact base_close v
    show (if spaced then w.skipping ')' (w.rep least most true >>= fun v => v.base ')')
      else (w.rep least most true >>= fun v => v.base ')')) = _
    rw [hgo, skipping_close, ite_self]
  | edge =>
    rw [hm] at h
    cases h
    exact base_close w.boundary
  | count | group | escape | hex | hexDigits | hexBrace | property | propertyName | edgeName
  | bracket => rw [hm] at h; cases h

/-- In a comment no character does anything to the groups. -/
theorem step_comment (h : w.mode.inComment = true) (c : Char) : ∃ v, w.step c = .ok (.stay v) := by
  unfold step
  unfold Mode.inComment at h
  split at h
  next back hback =>
    rw [hback]
    dsimp only
    split
    · exact ⟨_, rfl⟩
    · exact ⟨_, rfl⟩
  next => cases h

theorem ended_eq_ok_iff : w.ended = .ok v ↔
    ∃ u, w.finishIn w.mode = .ok u ∧ v = { u with mode := .base } := by
  refine bind_eq_ok_iff.trans (exists_congr fun u => and_congr_right fun _ => ?_)
  exact ⟨fun h => by cases h; rfl, fun h => by rw [h]; rfl⟩

end Work

/-- **The reader keeps to the laws of groups.** -/
theorem Pattern.dialect_lawful : dialect.Lawful where
  opening := rfl
  start := rfl
  stay := by
    intro w v c h hv
    cases Work.step_allows w c _ h with
    | stay hstay => exact hstay hv
  enter := by
    intro w parent child c h
    cases Work.step_allows w c _ h with
    | enter hp =>
      show parent.mode.inHead = false
      rw [hp]
      rfl
  leave := by
    intro w v c h hw
    cases Work.step_allows w c _ h with
    | leave hleave =>
      obtain ⟨hc, hv⟩ := hleave hw
      exact ⟨hc, Work.ended_eq_ok_iff.2 ⟨_, hv, rfl⟩⟩
  switch := by
    intro w c change h
    cases Work.step_allows w c _ h with
    | switch hw => exact ⟨hw, fun _ => rfl⟩
  resume _ _ := rfl
  close := by
    intro w v h hcomment
    obtain ⟨u, hu, rfl⟩ := Work.ended_eq_ok_iff.1 h
    exact Work.step_close hu hcomment
  comment h := Work.step_comment h ')'
  behind _ := rfl

end GrammarEngine
