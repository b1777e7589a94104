/-!
# Modifiers

Modifiers are written in one fixed order, whatever the order in which they were added, and each at
most once.  A set of modifiers is therefore kept as the list of its members in that order.

## Main definitions

* `Modifier`: the modifiers, in the order in which they are written.
* `Modifier.keyword`: the keyword of a modifier.
* `Modifier.insert`, `Modifier.union`: sets of modifiers, as ordered lists.
-/

namespace KotlinSource

/-- A modifier of a declaration.  The constructors stand in the order in which modifiers are
written. -/
inductive Modifier where
  | publicAccess | protectedAccess | privateAccess | internalAccess
  | expected | actual
  | final | openToSubtypes | abstract | sealed
  | const | external | override | lateinit | tailrec | vararg | suspend | inner | data
  | inlined | noInline | crossInline
  | infixCall | operator
  deriving DecidableEq, Repr

namespace Modifier

/-- Every modifier, in the order in which they are written. -/
def all : List Modifier := [
  .publicAccess, .protectedAccess, .privateAccess, .internalAccess, .expected, .actual, .final,
  .openToSubtypes, .abstract, .sealed, .const, .external, .override, .lateinit, .tailrec, .vararg,
  .suspend, .inner, .data, .inlined, .noInline, .crossInline, .infixCall, .operator]

/-- The keyword of a modifier. -/
def keyword : Modifier → String
  | .publicAccess => "public"
  | .protectedAccess => "protected"
  | .privateAccess => "private"
  | .internalAccess => "internal"
  | .expected => "expect"
  | .actual => "actual"
  | .final => "final"
  | .openToSubtypes => "open"
  | .abstract => "abstract"
  | .sealed => "sealed"
  | .const => "const"
  | .external => "external"
  | .override => "override"
  | .lateinit => "lateinit"
  | .tailrec => "tailrec"
  | .vararg => "vararg"
  | .suspend => "suspend"
  | .inner => "inner"
  | .data => "data"
  | .inlined => "inline"
  | .noInline => "noinline"
  | .crossInline => "crossinline"
  | .infixCall => "infix"
  | .operator => "operator"

/-- The modifier of a keyword. -/
def ofKeyword? (word : String) : Option Modifier := all.find? fun m => m.keyword == word

/-- The modifiers of two sets, in the order in which they are written. -/
def union (left right : List Modifier) : List Modifier :=
  all.filter fun m => left.contains m || right.contains m

/-- A set of modifiers with one more. -/
def insert (m : Modifier) (set : List Modifier) : List Modifier := union [m] set

theorem mem_all (m : Modifier) : m ∈ all := by cases m <;> decide

@[simp] theorem mem_union {m : Modifier} {left right : List Modifier} :
    m ∈ union left right ↔ m ∈ left ∨ m ∈ right := by
  simp [union, mem_all]

@[simp] theorem mem_insert {m n : Modifier} {set : List Modifier} :
    m ∈ insert n set ↔ m = n ∨ m ∈ set := by
  simp [insert]

/-- Sets of modifiers can be added in any order. -/
theorem union_right_comm (first left right : List Modifier) :
    union (union first left) right = union (union first right) left := by
  refine List.filter_congr fun m _ => ?_
  rw [Bool.eq_iff_iff]
  simp only [Bool.or_eq_true, List.contains_iff_mem, mem_union]
  exact or_right_comm

end Modifier

end KotlinSource
