import GrammarEngine.Regex.Match

/-!
# What a match spans

`r.Spans text i j` says that the expression matches the text from place `i` to place `j`, by the
rules of the expressions alone and in any order of preference. A thread spans what its expressions
span one after the other. What a thread spans can be gone through in steps, each of which reads a
character or follows the thread without reading one (`steps_of_spans`), and a step leads to nothing
that the thread does not span (`spans_of_advance`, `spans_of_moves`).
-/

namespace GrammarEngine

/-! ## Spans -/

/-- The place before the character with the number `i`. -/
def Place.inText (text : List Char) (i : Nat) : Place := ⟨(text.take i).getLast?, text[i]?⟩

namespace Regex

variable {text : List Char}

/-- The expression matches the text from the first place to the second. -/
inductive Spans (text : List Char) : Regex → Nat → Nat → Prop
  | empty (i : Nat) : Spans text .empty i i
  | set {s : CharSet} {c : Char} {i : Nat} (hc : text[i]? = some c) (hs : s.mem c = true) :
    Spans text (.set s) i (i + 1)
  | look {l : Look} {i : Nat} (hl : l.holds (.inText text i) = true) : Spans text (.look l) i i
  | cat {a b : Regex} {i j k : Nat} (ha : Spans text a i j) (hb : Spans text b j k) :
    Spans text (.cat a b) i k
  | left {a : Regex} (b : Regex) {i j : Nat} (ha : Spans text a i j) : Spans text (.alt a b) i j
  | right (a : Regex) {b : Regex} {i j : Nat} (hb : Spans text b i j) : Spans text (.alt a b) i j
  | stop (greedy : Bool) (x : Regex) (i : Nat) : Spans text (.star greedy x) i i
  | round {greedy : Bool} {x : Regex} {i j k : Nat} (hx : Spans text x i j)
    (hs : Spans text (.star greedy x) j k) : Spans text (.star greedy x) i k

theorem Spans.le {r : Regex} {i j : Nat} (h : r.Spans text i j) : i ≤ j := by
  induction h with
  | set => exact Nat.le_succ _
  | cat _ _ iha ihb => exact Nat.le_trans iha ihb
  | round _ _ ihx ihs => exact Nat.le_trans ihx ihs
  | left _ _ ih => exact ih
  | right _ _ ih => exact ih
  | _ => exact Nat.le_refl _

/-- An expression that has to read a character spans one. -/
theorem Spans.lt {r : Regex} {i j : Nat} (h : r.Spans text i j) (hr : r.nullable = false) :
    i < j := by
  induction h with
  | set => exact Nat.lt_succ_self _
  | cat ha hb iha ihb =>
    have hle := ha.le
    have hle' := hb.le
    rcases Bool.and_eq_false_iff.1 hr with h | h
    · have := iha h; omega
    · have := ihb h; omega
  | left _ _ ih => exact ih (Bool.or_eq_false_iff.1 hr).1
  | right _ _ ih => exact ih (Bool.or_eq_false_iff.1 hr).2
  | empty | look | stop | round => cases hr

theorem Spans.le_length {r : Regex} {i j : Nat} (h : r.Spans text i j) (hi : i ≤ text.length) :
    j ≤ text.length := by
  induction h with
  | set hc => exact (List.getElem?_eq_some_iff.1 hc).1
  | cat _ _ iha ihb => exact ihb (iha hi)
  | round _ _ ihx ihs => exact ihs (ihx hi)
  | left _ _ ih => exact ih hi
  | right _ _ ih => exact ih hi
  | _ => exact hi

end Regex

/-! ## Threads -/

namespace Thread

/-- The expressions of the thread match one after the other. -/
def Spans (text : List Char) : Thread → Nat → Nat → Prop
  | [], i, j => i = j
  | r :: k, i, j => ∃ m, r.Spans text i m ∧ Spans text k m j

variable {text : List Char} {i j : Nat} {t u : Thread}

/-! ## Steps -/

/-- Taking a character goes on from the next place. -/
theorem spans_of_advance {c : Char} {k : Thread} (hc : text[i]? = some c)
    (h : advance c t = some k) (hk : k.Spans text (i + 1) j) : t.Spans text i j := by
  unfold advance at h
  split at h
  next s k' =>
    by_cases hs : s.mem c = true
    · rw [if_pos hs] at h
      cases h
      exact ⟨i + 1, .set hc hs, hk⟩
    · rw [if_neg hs] at h
      cases h
  next => cases h

/-- What a thread can be followed to before a character is read, the preferred first. -/
def moves (here : Place) : Thread → List Thread
  | [] => []
  | .empty :: k => [k]
  | .set _ :: _ => []
  | .look l :: k => if l.holds here then [k] else []
  | .cat a b :: k => [a :: b :: k]
  | .alt a b :: k => [a :: k, b :: k]
  | .star true x :: k => [x :: .star true x :: k, k]
  | .star false x :: k => [k, x :: .star false x :: k]

/-- What can be tried is a part of what the thread spans. -/
theorem spans_of_moves (hu : u ∈ t.moves (.inText text i)) (h : u.Spans text i j) :
    t.Spans text i j := by
  match t, hu with
  | .empty :: k, hu =>
    rw [List.mem_singleton.1 hu] at h
    exact ⟨i, .empty i, h⟩
  | .look l :: k, hu =>
    obtain ⟨hl, rfl⟩ : l.holds (.inText text i) = true ∧ u = k := by simpa [moves] using hu
    exact ⟨i, .look hl, h⟩
  | .cat a b :: k, hu =>
    rw [List.mem_singleton.1 hu] at h
    obtain ⟨m, ha, n, hb, hk⟩ := h
    exact ⟨n, .cat ha hb, hk⟩
  | .alt a b :: k, hu =>
    have hu : u = a :: k ∨ u = b :: k := by simpa [moves] using hu
    rcases hu with rfl | rfl
    · obtain ⟨m, ha, hk⟩ := h
      exact ⟨m, .left b ha, hk⟩
    · obtain ⟨m, hb, hk⟩ := h
      exact ⟨m, .right a hb, hk⟩
  | .star greedy x :: k, hu =>
    have hu : u = x :: .star greedy x :: k ∨ u = k := by
      cases greedy
      · simpa [moves, or_comm] using hu
      · simpa [moves] using hu
    rcases hu with rfl | rfl
    · obtain ⟨m, hx, n, hs, hk⟩ := h
      exact ⟨n, .round hx hs, hk⟩
    · exact ⟨i, .stop greedy x i, h⟩

/-- In so many steps the thread matches the text from the first place to the second. Other than on a
way, the same thing may be tried again at the same place. -/
inductive Steps (text : List Char) : Nat → Thread → Nat → Nat → Prop
  | done (i : Nat) : Steps text 0 [] i i
  | read {n i j : Nat} {t k : Thread} {c : Char} (hc : text[i]? = some c)
    (ht : advance c t = some k) (hs : Steps text n k (i + 1) j) : Steps text (n + 1) t i j
  | move {n i j : Nat} {t u : Thread} (hu : u ∈ t.moves (.inText text i))
    (hs : Steps text n u i j) : Steps text (n + 1) t i j

/-- An expression is matched in steps, before what is matched in steps after it. -/
theorem steps_of_regex {r : Regex} {m n : Nat} (h : r.Spans text i m) {k : Thread}
    (hk : Steps text n k m j) : ∃ n, Steps text n (r :: k) i j := by
  induction h generalizing k n with
  | empty i => exact ⟨n + 1, .move (by simp [moves]) hk⟩
  | set hc hs => exact ⟨n + 1, .read hc (by simp [advance, hs]) hk⟩
  | look hl => exact ⟨n + 1, .move (by simp [moves, hl]) hk⟩
  | cat _ _ iha ihb =>
    obtain ⟨_, hb⟩ := ihb hk
    obtain ⟨_, ha⟩ := iha hb
    exact ⟨_, .move (by simp [moves]) ha⟩
  | left b _ ih =>
    obtain ⟨_, ha⟩ := ih hk
    exact ⟨_, .move (by simp [moves]) ha⟩
  | right a _ ih =>
    obtain ⟨_, hb⟩ := ih hk
    exact ⟨_, .move (by simp [moves]) hb⟩
  | stop greedy x i => exact ⟨n + 1, .move (by cases greedy <;> simp [moves]) hk⟩
  | @round greedy x _ _ _ _ _ ihx ihs =>
    obtain ⟨_, hs⟩ := ihs hk
    obtain ⟨_, hx⟩ := ihx hs
    exact ⟨_, .move (by cases greedy <;> simp [moves]) hx⟩

theorem steps_of_spans (h : t.Spans text i j) : ∃ n, Steps text n t i j := by
  induction t generalizing i with
  | nil =>
    cases h
    exact ⟨0, .done _⟩
  | cons r k ih =>
    obtain ⟨m, hr, hk⟩ := h
    obtain ⟨_, hk⟩ := ih hk
    exact steps_of_regex hr hk

end Thread

end GrammarEngine
