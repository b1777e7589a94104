/-!
# What a failure tells its reader

Every failure of the library is a value that says what went wrong.  A `Diagnostic` is the text of
such a value: a stable code, a message and sometimes advice.

## Main definitions

* `Diagnostic`: code, message and advice.
-/

namespace KotlinSource

/-- The text of a failure.  Codes are paths with `::` between their segments. -/
structure Diagnostic where
  code : String
  message : String
  help : Option String
  deriving DecidableEq, Repr

end KotlinSource
