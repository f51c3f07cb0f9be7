import GrammarEngine.Proofs.Integers
import GrammarEngine.Proofs.Wrapping

/-!
# Patterns at a cursor

A pattern matches at the cursor only. A search through the text may find a match elsewhere, and is
then no match; and whether the pattern was wrapped or has a caret of its own makes no difference.

Main statement: `pattern_exact` says what a pattern yields at every cursor, in terms of the
expression that was written. Two things are asked of the engine: that a search finds the leftmost
match (`Engine.LeftmostFirst`), and that a group behind a caret is read as the condition that the
text begins there and then the group (`Engine.Grouped`). An engine that reads patterns in
`Pattern.dialect` and tries one place after the other is of this kind (`engine_grouped`,
`engine_leftmostFirst`).

1. A condition in front that holds takes part in every way (`first_leading_iff`), so the wrapper
   changes no match at the beginning of a text (`preferred_front`).
2. A compiled pattern is the written expression or has the condition in front, so at the beginning
   of a text it prefers what the written expression prefers (`matchLength_compile`).
-/

namespace GrammarEngine

open Outcome Run

/-! ## A condition in front -/

namespace Thread

variable {text : List Char} {i j : Nat} {t u v : Thread} {met met' : List Thread} {ds : List Nat}

/-- Where less has been tried a way is still a way. -/
theorem Way.of_subset (h : Way text met t i ds j) (hsub : met' ⊆ met) : Way text met' t i ds j := by
  induction h generalizing met' with
  | done => exact .done _ _
  | read hc ht hw => exact .read hc ht hw
  | @move met t u _ _ _ _ hu hm _ ih =>
    have hsub' : t :: met' ⊆ t :: met := List.cons_subset_cons t hsub
    exact .move hu (mt (@hsub' u) hm) (ih hsub')

/-- A thread that can only be followed to what has been tried is on no way. -/
theorem Way.avoids (h : Way text met v i ds j) (ht : t.moves (.inText text i) = [u])
    (hu : u ∈ v :: met) (hne : v ≠ t) : Way text (met ++ [t]) v i ds j := by
  induction h with
  | done => exact .done _ _
  | read hc ha hw => exact .read hc ha hw
  | @move met v v' d i j ds hv hm hw ih =>
    have hne' : v' ≠ t := by
      rintro rfl
      rcases way_iff.1 hw with hgoes | ⟨d', _, u', -, hu', hmem, -⟩
      · rw [moves_of_goes _ hgoes] at ht
        cases ht
      · rw [ht] at hu'
        obtain rfl := List.mem_singleton.1 (List.mem_of_getElem? hu')
        exact hmem (List.mem_cons_of_mem v' hu)
    refine .move hv ?_ (ih ht (List.mem_cons_of_mem v' hu) hne')
    rw [← List.cons_append, List.mem_append, List.mem_singleton]
    rintro (h | h)
    · exact hm h
    · exact hne' h

/-- The ways of a thread that can only be followed to one other are those of the other. -/
theorem way_leading_iff (ht : t.moves (.inText text i) = [u]) (hne : u ≠ t) :
    Way text [] t i ds j ↔ ∃ ds', ds = 0 :: ds' ∧ Way text [] u i ds' j := by
  constructor
  · intro h
    rcases way_iff.1 h with hgoes | ⟨d, ds', u', rfl, hu', -, hw⟩
    · rw [moves_of_goes _ hgoes] at ht
      cases ht
    · rw [ht] at hu'
      obtain ⟨hd, rfl⟩ := List.getElem?_eq_some_iff.1 hu'
      obtain rfl : d = 0 := by simpa using hd
      exact ⟨ds', rfl, hw.of_subset (List.nil_subset _)⟩
  · rintro ⟨ds', rfl, hw⟩
    have hu : (t.moves (.inText text i))[0]? = some u := by rw [ht]; rfl
    exact .move hu (by simpa using hne) (hw.avoids ht List.mem_cons_self hne)

/-- **The first way of a thread that can only be followed to one other** is that of the other. -/
theorem first_leading_iff (ht : t.moves (.inText text i) = [u]) (hne : u ≠ t) :
    (∃ ds, First (Way text [] t i) ds j) ↔ ∃ ds, First (Way text [] u i) ds j := by
  constructor
  · rintro ⟨ds, hw, hleast⟩
    obtain ⟨ds', rfl, hw'⟩ := (way_leading_iff ht hne).1 hw
    refine ⟨ds', hw', fun ds'' j' h => not_lex_cons.1 (hleast (0 :: ds'') j' ?_)⟩
    exact (way_leading_iff ht hne).2 ⟨ds'', rfl, h⟩
  · rintro ⟨ds, hw, hleast⟩
    refine ⟨0 :: ds, (way_leading_iff ht hne).2 ⟨ds, rfl, hw⟩, fun ds' j' h => ?_⟩
    obtain ⟨ds'', rfl, h'⟩ := (way_leading_iff ht hne).1 h
    exact not_lex_cons.2 (hleast ds'' j' h')

end Thread

namespace Regex

variable {text : List Char} {i j n : Nat} {r : Regex}

/-- At the beginning of a text the condition that it begins there changes nothing. -/
theorem preferred_front : (cat (.look .start) r).Preferred text 0 n ↔ r.Preferred text 0 n := by
  unfold Preferred
  rw [Thread.first_leading_iff (u := [.look .start, r]) rfl (by simp),
    Thread.first_leading_iff (u := [r]) rfl (by simp)]

end Regex

/-! ## Compiled patterns -/

/-- What is read of a wrapped pattern, where the pattern can be read by itself, matches as the
pattern does with the condition in front that the text begins there. -/
def Engine.Grouped (E : Engine) : Prop :=
  ∀ p r w, E.read p = .ok r → E.read ("^(?:" ++ p ++ ")") = .ok w →
    ∀ text i j, w.Preferred text i j ↔ (Regex.cat (.look .start) r).Preferred text i j

namespace Leveled

theorem toRegex_eq_ok {n : Leveled} {r : Regex} (h : n.toRegex = .ok r) : r = n.tree.toRegex := by
  unfold toRegex at h
  split at h
  · cases h
  · split at h
    · cases h
    · cases h
      rfl

end Leveled

namespace Pattern

open Dialect

variable {p : String} {q : Pattern} {r w : Regex}

/-- **Around a pattern well formed by itself** the wrapper only adds a condition in front. -/
theorem read_wrapped (hp : engine.read p = .ok r)
    (hw : engine.read ("^(?:" ++ p ++ ")") = .ok w) : w = .cat (.look .start) r := by
  obtain ⟨v, hv, hr⟩ := read_eq_ok_iff.1 hp
  obtain ⟨g, hg, hw⟩ := read_eq_ok_iff.1 hw
  rw [toList_wrapped] at hg
  rcases (scan_wrapped_iff dialect_lawful).1 hg with ⟨v', hcomplete, rfl⟩ | hover
  · obtain ⟨hv', -⟩ := completes_iff.1 hcomplete
    rw [hv] at hv'
    cases hv'
    rw [Leveled.toRegex_eq_ok hw, Leveled.toRegex_eq_ok hr]
    rfl
  · rw [scan_of_overruns dialect_lawful hover] at hv
    cases hv

theorem engine_grouped : engine.Grouped := by
  intro p r w hp hw text i j
  rw [read_wrapped hp hw]

variable {E : Engine}

theorem compile_eq_ok_iff : E.compile p = .ok q ↔
    ∃ x, E.read (anchored p) = .ok x ∧ q = ⟨anchored p, E.find x⟩ := by
  refine bind_eq_ok_iff.trans (exists_congr fun x => and_congr_right fun _ => ?_)
  exact ⟨fun h => by cases h; rfl, fun h => by rw [h]; rfl⟩

/-- A text that has been anchored begins with a caret. -/
theorem anchors_anchored (p : String) : Anchors (anchored p) := by
  by_cases h : Anchors p
  · rwa [anchored_of_anchors h]
  · unfold Anchors
    rw [anchored_of_not h, toList_wrapped]
    rfl

/-- The text of a compiled pattern compiles to the same pattern. -/
theorem compile_text (h : E.compile p = .ok q) : E.compile q.text = .ok q := by
  obtain ⟨x, hx, rfl⟩ := compile_eq_ok_iff.1 h
  have hanchored : anchored (anchored p) = anchored p := anchored_of_anchors (anchors_anchored p)
  exact compile_eq_ok_iff.2 ⟨x, by rw [hanchored]; exact hx, by rw [hanchored]⟩

/-- **What is compiled** prefers at the beginning of a text what was written. -/
theorem preferred_anchored (hE : E.Grouped) (hp : E.read p = .ok r)
    (hw : E.read (anchored p) = .ok w) (text : List Char) (n : Nat) :
    w.Preferred text 0 n ↔ r.Preferred text 0 n := by
  by_cases h : Anchors p
  · rw [anchored_of_anchors h, hp] at hw
    cases hw
    rfl
  · rw [anchored_of_not h] at hw
    rw [hE p r w hp hw, Regex.preferred_front]

theorem matchLength_compile (hfind : E.LeftmostFirst) (hgroup : E.Grouped) (hp : E.read p = .ok r)
    (hq : E.compile p = .ok q) {text : List Char} {n : Nat} :
    q.matchLength text = some n ↔ r.Preferred text 0 n := by
  obtain ⟨x, hx, rfl⟩ := compile_eq_ok_iff.1 hq
  rw [hfind.matchLength_eq_some_iff, preferred_anchored hgroup hp hx]

end Pattern

/-- The same is kept of two searches where the expressions prefer the same at the beginning. -/
theorem Engine.LeftmostFirst.filter_congr {E : Engine} (hE : E.LeftmostFirst) {r w : Regex}
    {text : List Char} (h : ∀ n, w.Preferred text 0 n ↔ r.Preferred text 0 n) :
    (E.find w text).filter (·.start == 0) = (E.find r text).filter (·.start == 0) := by
  refine Option.ext fun m => ?_
  rw [hE.filter_eq_some_iff, hE.filter_eq_some_iff, h]

/-! ## At a cursor -/

open Cursor Pattern

/-- The values of a pattern are the texts it matches. -/
theorem pattern_succeeds_iff (enter : Cell → Cursor text → Run text Value) (q : Pattern)
    {c d : Cursor text} {xs : List Char} {v : Value} (hc : c.Before xs) :
    ((.terminal (.pattern q) : Parser text).evalWith enter c).EndsIn (.success v d) ↔
      ∃ n, q.matchLength xs = some n ∧ v = .str (String.ofList (xs.take n)) ∧
        d = c.past (xs.take n) := by
  have hends := pattern_endsIn enter q hc
  rcases hm : q.matchLength xs with _ | n <;> rw [hm] at hends
  · refine iff_of_false (fun hv => ?_) fun ⟨_, h, _⟩ => (by cases h)
    cases hv.unique hends
  · constructor
    · intro hv
      cases hv.unique hends
      exact ⟨n, rfl, rfl, rfl⟩
    · rintro ⟨_, h, rfl, rfl⟩
      cases h
      exact hends

/-- **A pattern matches at the cursor only, and exactly there.** Let `r` be the expression of the
text as it was written and `q` what the text compiles to. At every cursor of a text that 64-bit
numbers can measure, a search through what remains is kept if it finds a match at the beginning. So
the parser succeeds if and only if `r` matches from there, and then it yields the preferred match
and moves on by its bytes; otherwise it fails in place. Wrapped or not, the pattern finds the same
at the beginning of every text and yields the same, and the text of the compiled pattern compiles to
the same pattern again. -/
theorem pattern_exact {E : Engine} (hfind : E.LeftmostFirst) (hgroup : E.Grouped) {p : String}
    {r : Regex} {q : Pattern} (hp : E.read p = .ok r) (hq : E.compile p = .ok q) {s : Source text}
    (hs : s.size < UInt64.size) {c : Cursor text} (hc : s.start.Reaches c)
    (enter : Cell → Cursor text → Run text Value) :
    ((.terminal (.pattern q) : Parser text).evalWith enter c).EndsIn
        (match (q.find c.remaining).filter (·.start == 0) with
        | some m =>
          .success (.str (String.ofList (c.remaining.take m.stop)))
            (c.past (c.remaining.take m.stop))
        | none => .failure ⟨q.expectation, c⟩) ∧
      ((∃ v d, ((.terminal (.pattern q) : Parser text).evalWith enter c).EndsIn (.success v d)) ↔
        ∃ n, r.Spans c.remaining 0 n) ∧
      (∀ n v, r.Preferred c.remaining 0 n → v = String.ofList (c.remaining.take n) →
        ((.terminal (.pattern q) : Parser text).evalWith enter c).EndsIn
          (.success (.str v) ⟨s, c.offset + v.utf8ByteSize⟩)) ∧
      ((∀ n, ¬ r.Spans c.remaining 0 n) →
        ((.terminal (.pattern q) : Parser text).evalWith enter c).EndsIn
          (.failure ⟨q.expectation, c⟩)) ∧
      (∀ xs, (q.find xs).filter (·.start == 0) = (E.find r xs).filter (·.start == 0)) ∧
      (∀ w u, w = "^(?:" ++ p ++ ")" → E.read w = .ok u →
        (∀ xs, (E.find u xs).filter (·.start == 0) = (E.find r xs).filter (·.start == 0)) ∧
          ∀ v d, ((.terminal (.pattern ⟨w, E.find u⟩) : Parser text).evalWith enter c).EndsIn
              (.success v d) ↔
            ((.terminal (.pattern q) : Parser text).evalWith enter c).EndsIn (.success v d)) ∧
      E.compile q.text = .ok q := by
  have hbefore := before_of_reaches hs hc
  have hends := pattern_endsIn enter q hbefore
  have hlength : ∀ {xs n}, q.matchLength xs = some n ↔ r.Preferred xs 0 n :=
    matchLength_compile hfind hgroup hp hq
  have hsource : c.source = s := (hc.ahead (placed_start s)).1
  have hsome : ∀ n v, r.Preferred c.remaining 0 n → v = String.ofList (c.remaining.take n) →
      ((.terminal (.pattern q) : Parser text).evalWith enter c).EndsIn
        (.success (.str v) ⟨s, c.offset + v.utf8ByteSize⟩) := by
    rintro n _ hn rfl
    rw [hlength.2 hn] at hends
    rw [← hsource, ← past_eq]
    exact hends
  have hnone : (∀ n, ¬ r.Spans c.remaining 0 n) →
      ((.terminal (.pattern q) : Parser text).evalWith enter c).EndsIn
        (.failure ⟨q.expectation, c⟩) := by
    intro hno
    have hm : q.matchLength c.remaining = none :=
      Option.eq_none_iff_forall_ne_some.2 fun n hn => hno n (hlength.1 hn).spans
    rw [hm] at hends
    exact hends
  refine ⟨?_, ⟨?_, ?_⟩, hsome, hnone, fun xs => ?_, ?_, compile_text hq⟩
  · unfold matchLength at hends
    rcases hm : (q.find c.remaining).filter (·.start == 0) with _ | m
    · rw [hm] at hends ⊢
      exact hends
    · rw [hm] at hends ⊢
      exact hends
  · rintro ⟨v, d, hv⟩
    obtain ⟨n, hn, -⟩ := (pattern_succeeds_iff enter q hbefore).1 hv
    exact ⟨n, (hlength.1 hn).spans⟩
  · intro hspans
    obtain ⟨n, hn⟩ := Regex.exists_preferred.2 hspans
    exact ⟨_, _, hsome n _ hn rfl⟩
  · obtain ⟨x, hx, rfl⟩ := compile_eq_ok_iff.1 hq
    exact hfind.filter_congr (preferred_anchored hgroup hp hx xs)
  · rintro _ u rfl hu
    have hwrapped : ∀ xs n, u.Preferred xs 0 n ↔ r.Preferred xs 0 n := fun xs n => by
      rw [hgroup p r u hp hu, Regex.preferred_front]
    refine ⟨fun xs => hfind.filter_congr (hwrapped xs), fun v d => ?_⟩
    have heq : ∀ n, (Pattern.mk ("^(?:" ++ p ++ ")") (E.find u)).matchLength c.remaining = some n ↔
        q.matchLength c.remaining = some n := fun n => by
      rw [hfind.matchLength_eq_some_iff, hwrapped, hlength]
    rw [pattern_succeeds_iff enter _ hbefore, pattern_succeeds_iff enter _ hbefore]
    simp only [heq]

/-- A caret in one alternative only, behind a letter of two bytes and in front of it. -/
theorem pattern_exact_alternatives :
    let s : Source text := ⟨0, ['é', 'b', 'a']⟩
    let enter : Cell → Cursor text → Run text Value := fun _ _ => .endless
    let r : Regex := .alt (.cat (.look .start) (.set (.single 'a'))) (.set (.single 'b'))
    let q : Pattern := .ofRegex "^a|b" r
    let run := (.terminal (.pattern q) : Parser text).evalWith enter
    engine.LeftmostFirst ∧ engine.Grouped ∧
      engine.read "^a|b" = .ok r ∧ engine.compile "^a|b" = .ok q ∧ s.size < UInt64.size ∧
      (run ⟨s, 0⟩).EndsIn (.failure ⟨"No match for regex \"^a|b\"", s.start⟩) ∧
      (run ⟨s, 2⟩).EndsIn (.success (.str "b") ⟨s, 3⟩) ∧
      (run ⟨s, 3⟩).EndsIn (.success (.str "a") ⟨s, 4⟩) := by
  intro s enter r q run
  have hp : engine.read "^a|b" = .ok r := rfl
  have hq : engine.compile "^a|b" = .ok q := rfl
  have hs : s.size < UInt64.size := by decide
  have hc : s.start.Reaches ⟨s, 2⟩ := Reaches.refl.forward (n := 2) rfl
  have hd : s.start.Reaches ⟨s, 3⟩ := hc.forward (n := 1) rfl
  have hfail := (pattern_exact engine_leftmostFirst engine_grouped hp hq hs .refl enter).1
  have hsecond := (pattern_exact engine_leftmostFirst engine_grouped hp hq hs hc enter).1
  have hfirst := (pattern_exact engine_leftmostFirst engine_grouped hp hq hs hd enter).1
  -- the search from the letter finds the second alternative behind it
  have hfind : (q.find s.start.remaining).filter (·.start == 0) = none := by decide +kernel
  have hfind₂ : (q.find (⟨s, 2⟩ : Cursor text).remaining).filter (·.start == 0) = some ⟨0, 1⟩ := by
    decide +kernel
  have hfind₃ : (q.find (⟨s, 3⟩ : Cursor text).remaining).filter (·.start == 0) = some ⟨0, 1⟩ := by
    decide +kernel
  rw [hfind] at hfail
  rw [hfind₂] at hsecond
  rw [hfind₃] at hfirst
  exact ⟨engine_leftmostFirst, engine_grouped, hp, hq, hs, hfail, hsecond, hfirst⟩

end GrammarEngine
