/-!
# Sets of code points as ranges

A property of characters is a table of ascending ranges of code points, both ends included.

## Main definitions

* `Unicode.inRanges`: whether a code point lies in one of the ranges of a table.
-/

namespace KotlinSource.Unicode

/-- Whether `n` lies in one of the ranges of an ascending table.  The search ends at the first
range that lies beyond `n`. -/
def inRanges (n : Nat) : List (Nat × Nat) → Bool
  | [] => false
  | (low, high) :: rest =>
    if n < low then false
    else if n ≤ high then true
    else inRanges n rest

@[simp] theorem inRanges_nil (n : Nat) : inRanges n [] = false := rfl

end KotlinSource.Unicode
