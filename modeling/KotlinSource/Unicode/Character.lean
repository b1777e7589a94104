import KotlinSource.Unicode.Alphabetic
import KotlinSource.Unicode.Numeric
import KotlinSource.Unicode.Uppercase
import KotlinSource.Unicode.Lowercase
import KotlinSource.Unicode.Blank

/-!
# Classes of characters

The tests on characters that names and templates need, over all of Unicode.

## Main definitions

* `Unicode.isAlphabetic`, `Unicode.isAlphanumeric`: letters, and letters or numbers.
* `Unicode.isUppercase`, `Unicode.isLowercase`: capital and small letters.
* `Unicode.isBlank`: white space.
* `Unicode.trimEnd`: a text without the white space at its end.
-/

namespace KotlinSource.Unicode

/-- Letters of every script. -/
def isAlphabetic (c : Char) : Bool := inRanges c.toNat alphabeticRanges

/-- Numbers of every script. -/
def isNumeric (c : Char) : Bool := inRanges c.toNat numericRanges

/-- Letters and numbers of every script. -/
def isAlphanumeric (c : Char) : Bool := isAlphabetic c || isNumeric c

/-- Capital letters of every script. -/
def isUppercase (c : Char) : Bool := inRanges c.toNat uppercaseRanges

/-- Small letters of every script. -/
def isLowercase (c : Char) : Bool := inRanges c.toNat lowercaseRanges

/-- White space, line ends included. -/
def isBlank (c : Char) : Bool := inRanges c.toNat blankRanges

/-- A list of characters without the white space at its end. -/
def trimEnd (s : List Char) : List Char := (s.reverse.dropWhile isBlank).reverse

theorem isAlphanumeric_of_isAlphabetic {c : Char} (h : isAlphabetic c = true) :
    isAlphanumeric c = true := by
  simp [isAlphanumeric, h]

end KotlinSource.Unicode
