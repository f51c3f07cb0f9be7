import GrammarEngine.Proofs.Reading

/-!
# Wrapping a pattern

A pattern that does not begin with a caret is compiled with `^(?:` in front of it and `)` behind it.
The wrapper is pasted around the text, and so it is not always transparent. A pattern may end in a
comment, which swallows the wrapper's parenthesis; and a closing parenthesis that opens nothing in
the pattern closes the wrapper, so that what comes behind it stands outside.

Main statement: `compile_isOk_iff` says, of every dialect that keeps to the laws of groups, which
patterns compile, and that they are those which are well formed by themselves exactly when neither
of the two happens.

1. Behind `^(?:` a pattern is read over one more group (`foldlM_under`), and the wrapper's
   parenthesis closes this group if the pattern is complete by itself (`close_wrapper_iff`).
2. So the whole is well formed in two ways (`scan_wrapped_iff`): the pattern is complete, or a part
   of it is, and then a parenthesis comes.
3. A pattern that is well formed by itself is complete, unless it ends in a comment
(`completes_iff`).
-/

namespace GrammarEngine

namespace Dialect

variable {D : Dialect} {text : List Char} {v w : D.Group} {r : Reader D}

/-- What has been read of a text that may end outside all groups. -/
theorem finish_eq_ok_iff : r.finish = .ok w ↔ r.parents = [] ∧ D.finish r.current = .ok w := by
  unfold Reader.finish
  cases hp : r.parents with
  | cons g gs => exact ⟨fun h => (by cases h), fun h => (by cases h.1)⟩
  | nil => exact ⟨fun h => ⟨rfl, h⟩, fun h => h.2⟩

theorem scan_eq_ok_iff : D.scan text = .ok w ↔
    ∃ r, text.foldlM Reader.step (Reader.start D) = .ok r ∧ r.finish = .ok w :=
  bind_eq_ok_iff

/-! ## The wrapper -/

/-- The text with the wrapper around it. -/
def wrapped (text : List Char) : List Char := '^' :: '(' :: '?' :: ':' :: (text ++ [')'])

theorem scan_wrapped (hD : D.Lawful) (text : List Char) : D.scan (wrapped text) =
    (text ++ [')']).foldlM Reader.step ((Reader.start D).under [D.caret]) >>= Reader.finish := by
  have hsplit : wrapped text = ['^', '(', '?', ':'] ++ (text ++ [')']) := rfl
  unfold scan
  rw [hsplit, List.foldlM_append, hD.opening]
  rfl

/-- Closing the wrapper's group. -/
theorem step_behind (hD : D.Lawful) (hparents : r.parents = []) (hends : D.Ends r.current v) :
    (r.under [D.caret]).step ')' = .ok ⟨[], D.resume D.caret v⟩ := by
  have hstep : D.step (r.under [D.caret]).current ')' = .ok (.leave v) :=
    hD.close hends.1 hends.2
  unfold Reader.step
  rw [hstep]
  simp only [bind, Except.bind, Reader.act, Reader.under, hparents, List.nil_append]

/-- **The wrapper is closed** behind a text that may end where it does, and not in a comment. -/
theorem close_wrapper_iff (hD : D.Lawful) (hr : r.Upright) :
    ((r.under [D.caret]).step ')' >>= Reader.finish) = .ok w ↔
      ∃ v, r.parents = [] ∧ D.Ends r.current v ∧ w = D.resume D.caret v := by
  constructor
  · intro h
    rcases Reader.step_under hD hr [D.caret] ')' with heq | ⟨hparents, v, hv⟩
    · -- the wrapper is still open
      rw [heq] at h
      obtain ⟨r', hr', h⟩ := bind_eq_ok_iff.1 h
      obtain ⟨hnil, -⟩ := finish_eq_ok_iff.1 h
      cases hs : r.step ')' with
      | error e => rw [hs] at hr'; cases hr'
      | ok r₁ =>
        rw [hs] at hr'
        cases hr'
        exact (List.append_ne_nil_of_right_ne_nil r₁.parents (by simp) hnil).elim
    · obtain ⟨-, hends⟩ := hD.ends_of_leave hv (hr.current hparents)
      rw [step_behind hD hparents hends] at h
      exact ⟨v, hparents, hends, Except.ok.inj (h.symm.trans (hD.behind v))⟩
  · rintro ⟨v, hparents, hends, rfl⟩
    rw [step_behind hD hparents hends]
    exact hD.behind v

/-- A part of the text is complete, and then comes a parenthesis, which closes the wrapper; what is
left is well formed behind the wrapper's group, together with the wrapper's parenthesis. -/
def Overruns (D : Dialect) (text : List Char) (w : D.Group) : Prop :=
  ∃ a b v, text = a ++ ')' :: b ∧ (Reader.start D).Completes a v ∧
    ((b ++ [')']).foldlM Reader.step ⟨[], D.resume D.caret v⟩ >>= Reader.finish) = .ok w

theorem read_wrapped_complete (hD : D.Lawful) (h : (Reader.start D).Completes text v)
    (rest : List Char) :
    (text ++ ')' :: rest).foldlM Reader.step ((Reader.start D).under [D.caret]) =
      rest.foldlM Reader.step ⟨[], D.resume D.caret v⟩ := by
  obtain ⟨r, hfold, hparents, hends⟩ := h
  rw [List.foldlM_append,
    Reader.foldlM_under_of_ok hD (Reader.upright_start hD) [D.caret] hfold]
  show ((r.under [D.caret]).step ')' >>= fun r => rest.foldlM Reader.step r) = _
  rw [step_behind hD hparents hends]
  rfl

/-- **What the wrapper and the text are read as.** -/
theorem scan_wrapped_iff (hD : D.Lawful) : D.scan (wrapped text) = .ok w ↔
    (∃ v, (Reader.start D).Completes text v ∧ w = D.resume D.caret v) ∨ D.Overruns text w := by
  have hupright := Reader.upright_start hD
  rw [scan_wrapped hD]
  constructor
  · intro h
    rcases Reader.foldlM_under hD hupright [D.caret] text with heq | ⟨a, b, v, rfl, hcomplete⟩
    · rw [List.foldlM_append, heq] at h
      cases hfold : text.foldlM Reader.step (Reader.start D) with
      | error e => rw [hfold] at h; cases h
      | ok r =>
        rw [hfold] at h
        have hclose : ((r.under [D.caret]).step ')' >>= Reader.finish) = .ok w := by
          rw [← h]
          show _ = (((r.under [D.caret]).step ')' >>= fun r => pure r) >>= Reader.finish)
          rw [bind_pure]
        obtain ⟨v, hparents, hends, hw⟩ :=
          (close_wrapper_iff hD (hupright.foldlM hD hfold)).1 hclose
        exact Or.inl ⟨v, ⟨r, hfold, hparents, hends⟩, hw⟩
    · rw [List.append_assoc, List.cons_append, read_wrapped_complete hD hcomplete] at h
      exact Or.inr ⟨a, b, v, rfl, hcomplete, h⟩
  · rintro (⟨v, hcomplete, rfl⟩ | ⟨a, b, v, rfl, hcomplete, h⟩)
    · rw [read_wrapped_complete hD hcomplete]
      exact hD.behind v
    · rw [List.append_assoc, List.cons_append, read_wrapped_complete hD hcomplete]
      exact h

/-! ## Complete texts -/

/-- Reading the text ends in a comment. -/
def Commented (D : Dialect) (text : List Char) : Prop :=
  ∃ r, text.foldlM Reader.step (Reader.start D) = .ok r ∧ D.inComment r.current = true

/-- **A well formed text is complete, unless it ends in a comment.** -/
theorem completes_iff :
    (Reader.start D).Completes text v ↔ D.scan text = .ok v ∧ ¬ D.Commented text := by
  constructor
  · rintro ⟨r, hfold, hparents, hfinish, hcomment⟩
    refine ⟨scan_eq_ok_iff.2 ⟨r, hfold, finish_eq_ok_iff.2 ⟨hparents, hfinish⟩⟩, ?_⟩
    rintro ⟨r', hfold', hcomment'⟩
    rw [hfold] at hfold'
    cases hfold'
    rw [hcomment] at hcomment'
    cases hcomment'
  · rintro ⟨h, hcomment⟩
    obtain ⟨r, hfold, hfinish⟩ := scan_eq_ok_iff.1 h
    obtain ⟨hparents, hv⟩ := finish_eq_ok_iff.1 hfinish
    exact ⟨r, hfold, hparents, hv, Bool.eq_false_iff.2 fun h => hcomment ⟨r, hfold, h⟩⟩

/-- A text that closes the wrapper is not well formed: the parenthesis has nothing to close. -/
theorem scan_of_overruns (hD : D.Lawful) (h : D.Overruns text w) :
    D.scan text = .error .unopenedGroup := by
  obtain ⟨a, b, v, rfl, hcomplete, -⟩ := h
  unfold scan
  rw [hcomplete.unopened hD b]
  rfl

/-- A text that ends in a comment leaves the wrapper open. -/
theorem scan_wrapped_of_commented (hD : D.Lawful) (h : D.scan text = .ok v)
    (hcomment : D.Commented text) : D.scan (wrapped text) = .error .unclosedGroup := by
  obtain ⟨r, hfold, hfinish⟩ := scan_eq_ok_iff.1 h
  obtain ⟨_, hfold', hr⟩ := hcomment
  rw [hfold] at hfold'
  cases hfold'
  obtain ⟨g, hg⟩ := hD.comment hr
  obtain ⟨hparents, -⟩ := finish_eq_ok_iff.1 hfinish
  have hstep : (r.under [D.caret]).step ')' = .ok ⟨[D.caret], g⟩ := by
    show (D.step r.current ')' >>= (r.under [D.caret]).act) = _
    rw [hg]
    simp only [bind, Except.bind, Reader.act, Reader.under, hparents, List.nil_append]
  rw [scan_wrapped hD, List.foldlM_append,
    Reader.foldlM_under_of_ok hD (Reader.upright_start hD) [D.caret] hfold]
  show ((r.under [D.caret]).step ')' >>= fun r => pure r) >>= Reader.finish = _
  rw [hstep]
  rfl

/-! ## Limits -/

/-- What is read of the text is within the limits. -/
def Fits (D : Dialect) (p : String) : Prop :=
  ∀ g, D.scan p.toList = .ok g → ∃ r, D.meaning g = .ok r

theorem read_eq_ok_iff {p : String} {x : Regex} :
    D.read p = .ok x ↔ ∃ g, D.scan p.toList = .ok g ∧ D.meaning g = .ok x := bind_eq_ok_iff

theorem read_of_error {p : String} {e : PatternError} (h : D.scan p.toList = .error e) :
    D.read p = .error e := by
  unfold read
  rw [h]
  rfl

theorem isOk_iff {ε α : Type} {e : Except ε α} : e.isOk = true ↔ ∃ a, e = .ok a := by
  cases e with
  | error x => exact ⟨fun h => (by cases h), fun ⟨_, h⟩ => (by cases h)⟩
  | ok a => exact ⟨fun _ => ⟨a, rfl⟩, fun _ => rfl⟩

/-- Within the limits a text is a pattern if it is well formed. -/
theorem read_isOk_iff {p : String} (h : D.Fits p) :
    (D.read p).isOk = true ↔ ∃ g, D.scan p.toList = .ok g := by
  rw [isOk_iff]
  constructor
  · rintro ⟨x, hx⟩
    obtain ⟨g, hg, -⟩ := read_eq_ok_iff.1 hx
    exact ⟨g, hg⟩
  · rintro ⟨g, hg⟩
    obtain ⟨x, hx⟩ := h g hg
    exact ⟨x, read_eq_ok_iff.2 ⟨g, hg, hx⟩⟩

theorem fits_of_read {p : String} (h : (D.read p).isOk = true) : D.Fits p := by
  obtain ⟨x, hx⟩ := isOk_iff.1 h
  obtain ⟨g, hg, hmeaning⟩ := read_eq_ok_iff.1 hx
  intro g' hg'
  rw [hg] at hg'
  cases hg'
  exact ⟨x, hmeaning⟩

theorem fits_of_error {p : String} {e : PatternError} (h : D.scan p.toList = .error e) :
    D.Fits p := by
  intro g hg
  rw [h] at hg
  cases hg

end Dialect

namespace Pattern

open Dialect

/-! ## Compiling -/

/-- The text begins with a caret. -/
def Anchors (p : String) : Prop := p.toList.head? = some '^'

instance (p : String) : Decidable (Anchors p) :=
  inferInstanceAs (Decidable (p.toList.head? = some '^'))

variable {p : String}

theorem anchored_of_anchors (h : Anchors p) : anchored p = p := by
  unfold anchored
  rw [h]
  rfl

theorem anchored_of_not (h : ¬ Anchors p) : anchored p = "^(?:" ++ p ++ ")" := by
  have hcaret : (p.toList.head? == some '^') = false := by simpa [Anchors] using h
  unfold anchored
  rw [hcaret]
  rfl

theorem toList_wrapped (p : String) : ("^(?:" ++ p ++ ")").toList = wrapped p.toList := by
  simp [wrapped]

theorem compile_isOk (E : Engine) (p : String) :
    (E.compile p).isOk = (E.read (anchored p)).isOk := by
  unfold Engine.compile
  cases E.read (anchored p) with
  | error e => rfl
  | ok r => rfl

theorem compile_of_read_error {E : Engine} {e : PatternError} (h : E.read (anchored p) = .error e) :
    E.compile p = .error e := by
  unfold Engine.compile
  rw [h]
  rfl

section Lawful

variable {D : Dialect} (hD : D.Lawful) {E : Engine} (hE : E.read = D.read)

include hE in
theorem engine_isOk_iff (hp : D.Fits p) :
    (E.read p).isOk = true ↔ ∃ g, D.scan p.toList = .ok g := by
  rw [hE]
  exact read_isOk_iff hp

include hD hE

/-- A pattern that closes the wrapper is not well formed by itself. -/
theorem read_of_overruns (h : ∃ w, D.Overruns p.toList w) : E.read p = .error .unopenedGroup := by
  obtain ⟨w, h⟩ := h
  rw [hE]
  exact read_of_error (scan_of_overruns hD h)

/-- A pattern that ends in a comment leaves the wrapper open. -/
theorem compile_of_commented (hcaret : ¬ Anchors p) (h : (E.read p).isOk = true)
    (hcomment : D.Commented p.toList) : E.compile p = .error .unclosedGroup := by
  rw [hE] at h
  obtain ⟨g, hg⟩ := (read_isOk_iff (fits_of_read h)).1 h
  apply compile_of_read_error
  rw [anchored_of_not hcaret, hE]
  apply read_of_error
  rw [toList_wrapped]
  exact scan_wrapped_of_commented hD hg hcomment

/-- Without a caret of its own a pattern compiles in two ways. -/
theorem compile_isOk_iff_of_not (hp : D.Fits p) (hc : D.Fits (anchored p))
    (hcaret : ¬ Anchors p) : (E.compile p).isOk = true ↔
      ((E.read p).isOk = true ∧ ¬ D.Commented p.toList) ∨ ∃ w, D.Overruns p.toList w := by
  have hcompile : (E.compile p).isOk = true ↔ ∃ w, D.scan (wrapped p.toList) = .ok w := by
    rw [compile_isOk, engine_isOk_iff hE hc, anchored_of_not hcaret, toList_wrapped]
  rw [hcompile, engine_isOk_iff hE hp]
  constructor
  · rintro ⟨w, hw⟩
    rcases (scan_wrapped_iff hD).1 hw with ⟨v, hcomplete, -⟩ | hover
    · obtain ⟨hscan, hcomment⟩ := completes_iff.1 hcomplete
      exact Or.inl ⟨⟨v, hscan⟩, hcomment⟩
    · exact Or.inr ⟨w, hover⟩
  · rintro (⟨⟨v, hv⟩, hcomment⟩ | ⟨w, hover⟩)
    · exact ⟨_, (scan_wrapped_iff hD).2 (Or.inl ⟨v, completes_iff.2 ⟨hv, hcomment⟩, rfl⟩)⟩
    · exact ⟨w, (scan_wrapped_iff hD).2 (Or.inr hover)⟩

end Lawful

/-- **Which patterns compile.** Let an engine read patterns in a dialect that keeps to the laws of
groups, and let the pattern be within its limits, with the wrapper and without. A pattern that
begins with a caret compiles if it is well formed. Another does if it is well formed and does not
end in a comment, or if it closes the wrapper and what is left is well formed behind it. In the
first exception the wrapper stays open, in the second the pattern by itself closes a group that is
not open; and where neither happens, the patterns that compile are the well formed ones. -/
theorem compile_isOk_iff {D : Dialect} (hD : D.Lawful) {E : Engine} (hE : E.read = D.read)
    (p : String) (hp : D.Fits p) (hc : D.Fits (anchored p)) :
    (Anchors p → ((E.compile p).isOk = true ↔ (E.read p).isOk = true)) ∧
    (¬ Anchors p → ((E.compile p).isOk = true ↔
      ((E.read p).isOk = true ∧ ¬ D.Commented p.toList) ∨ ∃ w, D.Overruns p.toList w)) ∧
    (¬ Anchors p → (E.read p).isOk = true → D.Commented p.toList →
      E.compile p = .error .unclosedGroup) ∧
    ((∃ w, D.Overruns p.toList w) → E.read p = .error .unopenedGroup) ∧
    (((E.compile p).isOk = true ↔ (E.read p).isOk = true) ↔
      Anchors p ∨ (¬ ((E.read p).isOk = true ∧ D.Commented p.toList) ∧
        ¬ ∃ w, D.Overruns p.toList w)) := by
  have hanchors : Anchors p → ((E.compile p).isOk = true ↔ (E.read p).isOk = true) := by
    intro h
    rw [compile_isOk, anchored_of_anchors h]
  have hover : (∃ w, D.Overruns p.toList w) → E.read p = .error .unopenedGroup :=
    read_of_overruns hD hE
  have hnot := compile_isOk_iff_of_not hD hE hp hc
  refine ⟨hanchors, hnot, compile_of_commented hD hE, hover, ?_⟩
  by_cases hcaret : Anchors p
  · exact iff_of_true (hanchors hcaret) (Or.inl hcaret)
  · rw [hnot hcaret]
    constructor
    · intro h
      refine Or.inr ⟨fun ⟨hok, hcomment⟩ => ?_, fun hex => ?_⟩
      · rcases h.2 hok with ⟨-, hno⟩ | hex
        · exact hno hcomment
        · rw [hover hex] at hok
          cases hok
      · have hok := h.1 (Or.inr hex)
        rw [hover hex] at hok
        cases hok
    · rintro (h | ⟨hno, hno'⟩)
      · exact (hcaret h).elim
      · constructor
        · rintro (⟨hok, -⟩ | hex)
          · exact hok
          · exact (hno' hex).elim
        · exact fun hok => Or.inl ⟨hok, fun hcomment => hno ⟨hok, hcomment⟩⟩

/-- In the dialect at hand: a pattern that compiles as it should, one that closes the wrapper. -/
theorem compile_isOk_iff_alternatives :
    dialect.Lawful ∧ engine.read = dialect.read ∧
    (dialect.Fits "a|b" ∧ dialect.Fits (anchored "a|b") ∧
      ¬ dialect.Commented "a|b".toList ∧ ¬ ∃ w, dialect.Overruns "a|b".toList w) ∧
    (dialect.Fits "a)(?:b" ∧ dialect.Fits (anchored "a)(?:b") ∧
      ∃ w, dialect.Overruns "a)(?:b".toList w) := by
  have hread : (engine.read "a|b").isOk = true := by decide
  have hcompile : (engine.compile "a|b").isOk = true := by decide
  have hread' : dialect.scan "a)(?:b".toList = .error .unopenedGroup := rfl
  have hcompile' : (engine.compile "a)(?:b").isOk = true := by decide
  have hanchored : ∀ p, (engine.compile p).isOk = true → dialect.Fits (anchored p) :=
    fun p h => fits_of_read (by rw [compile_isOk] at h; exact h)
  refine ⟨dialect_lawful, rfl, ⟨fits_of_read hread, hanchored _ hcompile, ?_⟩,
    fits_of_error hread', hanchored _ hcompile', ?_⟩
  · have h := (compile_isOk_iff dialect_lawful (E := engine) rfl "a|b" (fits_of_read hread)
      (hanchored _ hcompile)).2.2.2.2.1 (iff_of_true hcompile hread)
    obtain ⟨hcomment, hover⟩ := h.resolve_left (by decide)
    exact ⟨fun hc => hcomment ⟨hread, hc⟩, hover⟩
  · have h := (compile_isOk_iff dialect_lawful (E := engine) rfl "a)(?:b" (fits_of_error hread')
      (hanchored _ hcompile')).2.1 (by decide)
    rcases h.1 hcompile' with ⟨hok, -⟩ | hover
    · rw [show engine.read "a)(?:b" = .error .unopenedGroup from read_of_error hread'] at hok
      cases hok
    · exact hover

/-- Two patterns around which the wrapper is not transparent, in a lawful dialect: a well formed one
ends in a comment, and one that is not well formed closes the wrapper. -/
theorem compile_isOk_ne : dialect.Lawful ∧
    ((engine.read "(?x)a # b").isOk = true ∧
      engine.compile "(?x)a # b" = .error .unclosedGroup) ∧
    (engine.read "a)(?:b" = .error .unopenedGroup ∧
      (engine.compile "a)(?:b").isOk = true) :=
  ⟨dialect_lawful, ⟨by decide, rfl⟩, rfl, by decide⟩

end Pattern

end GrammarEngine
