import KotlinSource.Unicode.Ranges

/-!
# The Unicode property `White_Space`

Spaces, tabs and the characters that end lines or paragraphs.

## Main definitions

* `Unicode.blankRanges`: the code points that have the property, as ascending ranges.
-/

namespace KotlinSource.Unicode

/-- The code points with the property `White_Space`, as ascending ranges with both ends included. -/
def blankRanges : List (Nat × Nat) := [
  (0x9, 0xd), (0x20, 0x20), (0x85, 0x85), (0xa0, 0xa0), (0x1680, 0x1680), (0x2000, 0x200a),
  (0x2028, 0x2029), (0x202f, 0x202f), (0x205f, 0x205f), (0x3000, 0x3000)]

end KotlinSource.Unicode
