import KotlinSource.Declaration.Basic
import KotlinSource.Name.Member

/-!
# Code

A piece of code is a list of instructions: text, references to names, string literals, anonymous
types, and marks that steer indentation, statements and line breaks.  References stay unresolved
until the code is written into a file.

## Main definitions

* `Instruction`: one step of writing.
* `Code`: a piece of code.
-/

namespace KotlinSource

/-- One step of writing a piece of code. -/
inductive Instruction where
  /-- Plain text. -/
  | text (s : String)
  /-- A simple name, escaped when it is written. -/
  | name (s : String)
  /-- The contents of a string literal, quoted when they are written. -/
  | stringLiteral (value : String)
  /-- A reference to a type. -/
  | type (t : TypeName)
  /-- A reference to a function or property. -/
  | member (m : MemberName)
  /-- An anonymous type, written as an object expression. -/
  | object (decl : TypeDecl (List Instruction))
  /-- One level deeper from here on. -/
  | indent
  /-- One level less deep from here on. -/
  | unindent
  /-- A statement starts here. -/
  | beginStatement
  /-- The innermost open statement ends here. -/
  | endStatement
  /-- A space at which the line may break. -/
  | wrap

/-- A piece of code. -/
abbrev Code := List Instruction

end KotlinSource
