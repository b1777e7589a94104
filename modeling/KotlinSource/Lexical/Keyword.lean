import KotlinSource.Text.Separated

/-!
# Reserved words

A reserved word can stand for a declared name only between backticks.  Names are kept plain
everywhere and escaped when they are written.

## Main definitions

* `keywords`: the hard keywords of Kotlin.
* `safeName`: a simple name as it is written.
* `safeQualified`: a dotted name as it is written, segment by segment.
-/

namespace KotlinSource

/-- The hard keywords of Kotlin, in alphabetical order. -/
def keywords : List String := [
  "as", "break", "class", "continue", "do", "else", "false", "for", "fun", "if", "in",
  "interface", "is", "null", "object", "package", "return", "super", "this", "throw", "true",
  "try", "typealias", "typeof", "val", "var", "when", "while"]

/-- Whether `name` is a hard keyword. -/
def isKeyword (name : String) : Bool := keywords.contains name

/-- A simple name as it is written: a keyword goes between backticks. -/
def safeName (name : String) : String :=
  if isKeyword name then "`" ++ name ++ "`" else name

/-- A dotted name as it is written: every segment that is a keyword goes between backticks. -/
def safeQualified (name : String) : String :=
  Text.joinWith "." ((Text.splitAt '.' name).map safeName)

theorem isKeyword_iff {name : String} : isKeyword name = true ↔ name ∈ keywords := by
  simp [isKeyword]

/-- A dotted name is written part by part. -/
theorem safeQualified_append (a b : String) :
    safeQualified (a ++ "." ++ b) = safeQualified a ++ "." ++ safeQualified b := by
  have hsplit : Text.splitAt '.' (a ++ "." ++ b) = Text.splitAt '.' a ++ Text.splitAt '.' b :=
    Text.splitAt_append '.' a b
  rw [safeQualified, hsplit, List.map_append, Text.joinWith_append_of_ne_nil]
  · rfl
  · simp [Text.splitAt_ne_nil]
  · simp [Text.splitAt_ne_nil]

/-- A dotted name is written name by name. -/
theorem safeQualified_joinWith {names : List String} (hne : names ≠ [])
    (hdots : ∀ s ∈ names, '.' ∉ s.toList) :
    safeQualified (Text.joinWith "." names) = Text.joinWith "." (names.map safeName) := by
  have hsplit : Text.splitAt '.' (Text.joinWith "." names) = names :=
    Text.splitAt_joinWith hne hdots
  rw [safeQualified, hsplit]

/-- A name without dots is written like a simple name. -/
theorem safeQualified_of_notMem {name : String} (h : '.' ∉ name.toList) :
    safeQualified name = safeName name := by
  rw [safeQualified, Text.splitAt_of_notMem h, List.map_singleton, Text.joinWith_singleton]

end KotlinSource
