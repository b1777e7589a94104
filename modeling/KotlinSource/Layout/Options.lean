/-!
# Layout options

How a file is laid out: the unit of indentation, the column after which lines break, and the
packages whose classes need no import.

## Main definitions

* `Indent`, `Indent.unit`: the unit of indentation.
* `FormatOptions`: all options; its default values are the conventions of Kotlin.
-/

namespace KotlinSource

/-- The unit of indentation. -/
inductive Indent where
  | spaces (width : Nat)
  | tab
  deriving DecidableEq, Repr

/-- The characters of one level of indentation. -/
def Indent.unit : Indent → List Char
  | .spaces width => List.replicate width ' '
  | .tab => ['\t']

/-- The packages whose classes every file sees. -/
def defaultImplicitPackages : List String := [
  "kotlin", "kotlin.annotation", "kotlin.collections", "kotlin.comparisons", "kotlin.io",
  "kotlin.ranges", "kotlin.sequences", "kotlin.text", "java.lang"]

/-- How a file is laid out. -/
structure FormatOptions where
  indent : Indent := .spaces 2
  /-- Lines break at their break points to stay within this many columns. -/
  columnLimit : Nat := 100
  /-- The packages whose classes and members need no import. -/
  implicitPackages : List String := defaultImplicitPackages
  deriving DecidableEq, Repr

/-- A unit of indentation never ends a line. -/
theorem Indent.newline_not_mem_unit (i : Indent) : '\n' ∉ i.unit := by
  cases i <;> simp [Indent.unit]

end KotlinSource
