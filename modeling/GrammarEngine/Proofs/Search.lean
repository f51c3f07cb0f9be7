import GrammarEngine.Pattern.Reader
import GrammarEngine.Proofs.Preference

/-!
# Searching a text

A search finds the match that begins leftmost, and of those that begin there the preferred one. Of
an engine that searches so (`Engine.LeftmostFirst`) a pattern keeps what begins at the beginning of
the text, and that is the preferred match there (`LeftmostFirst.filter_eq_some_iff`), wherever else
there are matches.

The search that tries one place after the other with the matcher is of this kind
(`engine_leftmostFirst`), so its patterns match as the matcher does (`ofRegex_matchLength`).
-/

namespace GrammarEngine

/-- A search finds the match that begins leftmost, and of those from there the preferred one. -/
def Engine.LeftmostFirst (E : Engine) : Prop :=
  ∀ r text i j, E.find r text = some ⟨i, j⟩ ↔
    i ≤ text.length ∧ r.Preferred text i j ∧ ∀ i' < i, ∀ j', ¬ r.Spans text i' j'

section Beginning

variable {E : Engine} {r : Regex} {text : List Char} {n : Nat}

/-- **What is kept of a search,** if only a match at the beginning of the text is. -/
theorem Engine.LeftmostFirst.filter_eq_some_iff (hE : E.LeftmostFirst) {m : Span} :
    (E.find r text).filter (·.start == 0) = some m ↔ m.start = 0 ∧ r.Preferred text 0 m.stop := by
  rw [Option.filter_eq_some_iff, beq_iff_eq, hE]
  constructor
  · rintro ⟨⟨-, hm, -⟩, h0⟩
    rw [h0] at hm
    exact ⟨h0, hm⟩
  · rintro ⟨h0, hm⟩
    rw [h0]
    exact ⟨⟨Nat.zero_le _, hm, nofun⟩, rfl⟩

/-- A compiled expression matches at the beginning of the text what it prefers there. -/
theorem Engine.LeftmostFirst.matchLength_eq_some_iff (hE : E.LeftmostFirst) {s : String} :
    (Pattern.mk s (E.find r)).matchLength text = some n ↔ r.Preferred text 0 n := by
  unfold Pattern.matchLength
  rw [Option.map_eq_some_iff]
  constructor
  · rintro ⟨m, hm, rfl⟩
    exact (hE.filter_eq_some_iff.1 hm).2
  · exact fun h => ⟨⟨0, n⟩, hE.filter_eq_some_iff.2 ⟨rfl, h⟩, rfl⟩

end Beginning

/-! ## One place after the other -/

namespace Regex

variable {text rest : List Char} {i j : Nat} {r : Regex} {m : Span}

/-- The match begins leftmost of those from a place on, and is preferred there. -/
def FoundFrom (r : Regex) (text : List Char) (i : Nat) (m : Span) : Prop :=
  i ≤ m.start ∧ m.start ≤ text.length ∧ r.Preferred text m.start m.stop ∧
    ∀ i', i ≤ i' → i' < m.start → ∀ j', ¬ r.Spans text i' j'

theorem foundFrom_of_preferred (h : r.Preferred text i j) (hi : i ≤ text.length) :
    r.FoundFrom text i m ↔ m = ⟨i, j⟩ := by
  constructor
  · rintro ⟨hle, -, hm, hbefore⟩
    have hstart : m.start = i :=
      Nat.le_antisymm (Nat.le_of_not_lt fun hlt => hbefore i (Nat.le_refl i) hlt j h.spans) hle
    rw [hstart] at hm
    rw [h.unique hm, ← hstart]
  · rintro rfl
    exact ⟨Nat.le_refl i, hi, h, fun i' hle hlt => absurd hlt (Nat.not_lt.2 hle)⟩

theorem foundFrom_succ (h : ∀ j, ¬ r.Spans text i j) :
    r.FoundFrom text i m ↔ r.FoundFrom text (i + 1) m := by
  constructor
  · rintro ⟨hle, hlength, hm, hbefore⟩
    have hne : i ≠ m.start := by
      rintro rfl
      exact h _ hm.spans
    exact ⟨by omega, hlength, hm, fun i' hle' => hbefore i' (by omega)⟩
  · rintro ⟨hle, hlength, hm, hbefore⟩
    refine ⟨by omega, hlength, hm, fun i' hle' hlt => ?_⟩
    rcases Nat.eq_or_lt_of_le hle' with rfl | hlt'
    · exact h
    · exact hbefore i' hlt' hlt

/-- A search from a place on finds the leftmost match from there. -/
theorem findFrom_eq_some_iff (hrest : text.drop i = rest) (hi : i ≤ text.length) :
    r.findFrom (text.take i).getLast? i rest = some m ↔ r.FoundFrom text i m := by
  induction rest generalizing i with
  | nil =>
    unfold findFrom
    rcases r.matchFrom_cases text i with ⟨j, hj, hp⟩ | ⟨hnone, hno⟩
    · unfold matchFrom at hj
      rw [hrest] at hj
      rw [hj, foundFrom_of_preferred hp hi, Option.some_inj, eq_comm]
    · unfold matchFrom at hnone
      rw [hrest] at hnone
      rw [hnone, foundFrom_succ hno]
      refine iff_of_false nofun fun ⟨hle, hlength, _⟩ => ?_
      have := List.drop_eq_nil_iff.1 hrest
      omega
  | cons c cs ih =>
    unfold findFrom
    rcases r.matchFrom_cases text i with ⟨j, hj, hp⟩ | ⟨hnone, hno⟩
    · unfold matchFrom at hj
      rw [hrest] at hj
      rw [hj, foundFrom_of_preferred hp hi, Option.some_inj, eq_comm]
    · unfold matchFrom at hnone
      rw [hrest] at hnone
      rw [hnone, foundFrom_succ hno]
      -- the character at the place is passed over
      have hc : text[i]? = some c := by rw [← List.head?_drop, hrest]; rfl
      have hlast : (text.take (i + 1)).getLast? = some c := by
        rw [List.take_add_one, hc]
        simp
      have hdrop : text.drop (i + 1) = cs := by rw [← List.drop_drop, hrest]; rfl
      have := ih hdrop (List.getElem?_eq_some_iff.1 hc).1
      rw [hlast] at this
      exact this

end Regex

open Regex

/-- **The search one place after the other** finds the leftmost match. -/
theorem Pattern.engine_leftmostFirst : engine.LeftmostFirst := by
  intro r text i j
  refine (findFrom_eq_some_iff (i := 0) rfl (Nat.zero_le _)).trans ?_
  exact ⟨fun ⟨_, hi, hj, hbefore⟩ => ⟨hi, hj, fun i' => hbefore i' (Nat.zero_le _)⟩,
    fun ⟨hi, hj, hbefore⟩ => ⟨Nat.zero_le _, hi, hj, fun i' _ => hbefore i'⟩⟩

/-- The pattern of an expression matches as the expression does. -/
theorem Pattern.ofRegex_matchLength (s : String) (r : Regex) (text : List Char) :
    (ofRegex s r).matchLength text = r.matchLength text := by
  refine Option.ext fun n => ?_
  rw [Regex.matchLength_eq_some_iff]
  exact engine_leftmostFirst.matchLength_eq_some_iff

end GrammarEngine
