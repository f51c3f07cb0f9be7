/-!
# Measuring lists in units

Each element of an input takes up a number of units: a character as many as the bytes of its UTF-8
form, an element of a slice one. Positions count units, so a cut of a list is asked for in units and
exists only where an element ends.

Main statements: `drop?_eq_some_iff` and `take?_eq_some_iff`, that the cuts are exactly the two
parts of the list on both sides of so many units.
-/

namespace GrammarEngine.Units

variable {α : Type} (width : α → Nat)

/-- The number of units of a list. -/
def size : List α → Nat
  | [] => 0
  | x :: xs => width x + size xs

/-- What is left after `n` units, if an element ends there. -/
def drop? (n : Nat) : List α → Option (List α)
  | [] => if n = 0 then some [] else none
  | x :: xs =>
    if n = 0 then some (x :: xs)
    else if width x ≤ n then drop? (n - width x) xs else none

/-- The first `n` units, if an element ends there. -/
def take? (n : Nat) : List α → Option (List α)
  | [] => if n = 0 then some [] else none
  | x :: xs =>
    if n = 0 then some []
    else if width x ≤ n then (take? (n - width x) xs).map (x :: ·) else none

@[simp] theorem size_append (xs ys : List α) :
    size width (xs ++ ys) = size width xs + size width ys := by
  induction xs with
  | nil => simp [size]
  | cons x xs ih => simp only [List.cons_append, size, ih]; omega

variable {width}

/-- A list of no units is empty. -/
theorem eq_nil_of_size (hw : ∀ x, 0 < width x) {xs : List α} (h : size width xs = 0) : xs = [] := by
  cases xs with
  | nil => rfl
  | cons x xs => have := hw x; simp only [size] at h; omega

theorem drop?_eq_some_iff (hw : ∀ x, 0 < width x) {n : Nat} {xs ys : List α} :
    drop? width n xs = some ys ↔ ∃ front, xs = front ++ ys ∧ size width front = n := by
  induction xs generalizing n with
  | nil =>
    constructor
    · intro h
      simp only [drop?] at h
      split at h
      next hn => cases h; exact ⟨[], rfl, hn.symm⟩
      next => cases h
    · rintro ⟨front, h, rfl⟩
      obtain ⟨rfl, rfl⟩ := List.append_eq_nil_iff.1 h.symm
      rfl
  | cons x xs ih =>
    simp only [drop?]
    split
    next hn =>
      subst hn
      constructor
      · intro h; cases h; exact ⟨[], rfl, rfl⟩
      · rintro ⟨front, h, hs⟩
        rw [eq_nil_of_size hw hs] at h
        rw [h]; rfl
    next hn =>
      split
      next hle =>
        rw [ih]
        constructor
        · rintro ⟨front, rfl, hs⟩
          exact ⟨x :: front, rfl, by simp only [size]; omega⟩
        · rintro ⟨front, h, hs⟩
          cases front with
          | nil => exact absurd hs.symm hn
          | cons y front =>
            cases h
            exact ⟨front, rfl, by simp only [size] at hs; omega⟩
      next hle =>
        constructor
        · intro h; cases h
        · rintro ⟨front, h, hs⟩
          cases front with
          | nil => exact absurd hs.symm hn
          | cons y front => cases h; simp only [size] at hs; omega

theorem take?_eq_some_iff (hw : ∀ x, 0 < width x) {n : Nat} {xs front : List α} :
    take? width n xs = some front ↔ ∃ ys, xs = front ++ ys ∧ size width front = n := by
  induction xs generalizing n front with
  | nil =>
    constructor
    · intro h
      simp only [take?] at h
      split at h
      next hn => cases h; exact ⟨[], rfl, hn.symm⟩
      next => cases h
    · rintro ⟨ys, h, rfl⟩
      obtain ⟨rfl, rfl⟩ := List.append_eq_nil_iff.1 h.symm
      rfl
  | cons x xs ih =>
    simp only [take?]
    split
    next hn =>
      subst hn
      constructor
      · intro h; cases h; exact ⟨x :: xs, rfl, rfl⟩
      · rintro ⟨ys, h, hs⟩
        rw [eq_nil_of_size hw hs]
    next hn =>
      split
      next hle =>
        rw [Option.map_eq_some_iff]
        constructor
        · rintro ⟨rest, h, rfl⟩
          obtain ⟨ys, rfl, hs⟩ := ih.1 h
          exact ⟨ys, rfl, by simp only [size]; omega⟩
        · rintro ⟨ys, h, hs⟩
          cases front with
          | nil => exact absurd hs.symm hn
          | cons y front =>
            cases h
            exact ⟨front, ih.2 ⟨ys, rfl, by simp only [size] at hs; omega⟩, rfl⟩
      next hle =>
        constructor
        · intro h; cases h
        · rintro ⟨ys, h, hs⟩
          cases front with
          | nil => exact absurd hs.symm hn
          | cons y front => cases h; simp only [size] at hs; omega

/-- Of two fronts of one list, the one of fewer units is a front of the other. -/
theorem exists_of_append_eq (hw : ∀ x, 0 < width x) {xs ys xs' ys' : List α}
    (h : xs ++ ys = xs' ++ ys') (hle : size width xs ≤ size width xs') :
    ∃ zs, xs' = xs ++ zs ∧ ys = zs ++ ys' := by
  rcases List.append_eq_append_iff.1 h with ⟨zs, rfl, rfl⟩ | ⟨zs, rfl, rfl⟩
  · exact ⟨zs, rfl, rfl⟩
  · rw [size_append] at hle
    obtain rfl : zs = [] := eq_nil_of_size hw (by omega)
    exact ⟨[], by simp, by simp⟩

end GrammarEngine.Units
