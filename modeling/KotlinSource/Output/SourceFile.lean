import KotlinSource.File.Rendering
import KotlinSource.Output.Path

/-!
# Rendered files

A rendered file is a text with a path below some output directory, and a rule that says whether a
file that is there already is written again.

## Main definitions

* `Overwrite`: the rules.
* `SourceFile`: a rendered file.
* `FileDecl.toSourceFile`: a file, rendered.
-/

namespace KotlinSource

/-- What happens to a file that is there already. -/
inductive Overwrite where
  /-- It is written again. -/
  | always
  /-- It stays as it is. -/
  | ifMissing
  deriving DecidableEq, Repr

/-- The name of a rule. -/
def Overwrite.name : Overwrite → String
  | .always => "Always"
  | .ifMissing => "IfMissing"

/-- A rendered file. -/
structure SourceFile where
  /-- The path below an output directory. -/
  path : String
  content : String
  overwrite : Overwrite
  deriving DecidableEq, Repr

namespace SourceFile

/-- The path with slashes between its components. -/
def uri (file : SourceFile) : String := Path.uri file.path

/-- The length of the content in bytes of UTF-8. -/
def byteCount (file : SourceFile) : Nat := file.content.utf8ByteSize

/-- The path of the file below `base`. -/
def pathBelow (file : SourceFile) (base : String) : String := Path.join base file.path

end SourceFile

/-- A file, rendered. -/
def FileDecl.toSourceFile (file : FileDecl) : SourceFile := ⟨file.relativePath, file.render, .always⟩

end KotlinSource
