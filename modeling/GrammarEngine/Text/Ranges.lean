/-!
# Tables of code points

A set of code points is written as the list of its closed ranges in increasing order. Looking a
code point up stops at the first range that lies above it.
-/

namespace GrammarEngine.Text

/-- Whether `n` lies in one of the closed ranges, which are in increasing order. -/
def inRanges (n : Nat) : List (Nat × Nat) → Bool
  | [] => false
  | (lo, hi) :: rest => lo ≤ n && (n ≤ hi || inRanges n rest)

end GrammarEngine.Text
