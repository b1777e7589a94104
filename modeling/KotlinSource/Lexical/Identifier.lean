import KotlinSource.Unicode.Character

/-!
# Identifiers

An identifier is a letter or an underscore, followed by letters, numbers and underscores.  Reserved
words count as identifiers here, since they can be written between backticks.

## Main definitions

* `startsIdentifier`, `continuesIdentifier`: the characters an identifier may start and go on with.
* `isIdentifier`: whether a text is an identifier.
* `sanitized`: the identifier closest to an arbitrary text.
-/

namespace KotlinSource

/-- The characters an identifier may start with. -/
def startsIdentifier (c : Char) : Bool := Unicode.isAlphabetic c || c == '_'

/-- The characters an identifier may go on with. -/
def continuesIdentifier (c : Char) : Bool := Unicode.isAlphanumeric c || c == '_'

/-- Whether a list of characters spells an identifier. -/
def isIdentifierChars : List Char → Bool
  | [] => false
  | c :: rest => startsIdentifier c && rest.all continuesIdentifier

/-- Whether `name` is an identifier. -/
def isIdentifier (name : String) : Bool := isIdentifierChars name.toList

/-- The first character is kept apart from the rest by an underscore if it cannot start an
identifier; every character that an identifier cannot hold becomes an underscore. -/
def sanitizedChars (s : List Char) : List Char :=
  let body := s.map fun c => if continuesIdentifier c then c else '_'
  match s with
  | c :: _ => if startsIdentifier c then body else '_' :: body
  | [] => ['_']

/-- The identifier closest to an arbitrary text. -/
def sanitized (suggestion : String) : String := String.ofList (sanitizedChars suggestion.toList)

theorem continuesIdentifier_of_starts {c : Char} (h : startsIdentifier c = true) :
    continuesIdentifier c = true := by
  simp only [startsIdentifier, continuesIdentifier, Bool.or_eq_true] at h ⊢
  exact h.imp_left Unicode.isAlphanumeric_of_isAlphabetic

/-- An identifier holds no other characters than those that an identifier may go on with. -/
theorem continuesIdentifier_of_mem {name : String} (h : isIdentifier name = true) {c : Char}
    (hc : c ∈ name.toList) : continuesIdentifier c = true := by
  rw [isIdentifier] at h
  cases hname : name.toList with
  | nil => simp [hname] at hc
  | cons first rest =>
    rw [hname, isIdentifierChars, Bool.and_eq_true, List.all_eq_true] at h
    rw [hname] at hc
    rcases List.mem_cons.1 hc with rfl | hc
    · exact continuesIdentifier_of_starts h.1
    · exact h.2 c hc

end KotlinSource
