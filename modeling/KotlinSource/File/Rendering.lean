import KotlinSource.File.Basic
import KotlinSource.Printing.Code

/-!
# Rendering files

A file is printed to tokens first.  The references in them, with the names that the file declares,
decide which names are short and what is imported; then the tokens are written out with the import
lines among them.

## Main definitions

* `FileDecl.tokens`: the tokens of a file with given import lines.
* `FileDecl.context`, `FileDecl.references`, `FileDecl.importTable`: what decides the spelling of
  references in a file.
* `FileDecl.render`: the text of a file.
-/

namespace KotlinSource

/-! ### Tokens of a file -/

/-- A comment at the top of a file: nothing without a comment. -/
def topComment (comment : Tokens) : Tokens :=
  if comment.isEmpty then [] else operation .openComment ++ comment ++ operation .closeComment

/-- The line of the package: nothing for the package without a name. -/
def packageLine (package : String) : Tokens :=
  if package = "" then []
  else operation .blankLine ++ word ("package " ++ safeQualified package ++ "\n")

/-- The import lines: nothing without imports. -/
def importLines (imports : List Import) : Tokens :=
  if imports.isEmpty then []
  else operation .blankLine ++ imports.flatMap fun i => word ("import " ++ i.line ++ "\n")

namespace FileDecl

/-- The tokens of a file with the lines of the given imports. -/
def tokens (file : FileDecl) (imports : List Import) : Tokens :=
  topComment file.comment.tokens ++ packageLine file.package ++ importLines imports ++
    (file.aliases.flatMap fun d => operation .blankLine ++ d.printed.tokens) ++
    file.types.flatMap fun d => operation .blankLine ++ d.printed.tokens

/-! ### Names in a file -/

/-- What the file says about names. -/
def context (file : FileDecl) : NamingContext where
  package := file.package
  ownTypes := file.types.filterMap TypeDecl.name ++ file.aliases.map AliasDecl.name
  aliases :=
    (file.aliasedImports.filterMap fun i => i.alias?.map fun name => (i.qualifiedName, name)).reverse

end FileDecl

/-- The names of type variables. -/
def variableNames (vs : List TypeVariable) : List String :=
  vs.map BoundedVariable.name

/-- The types and type variables that a type declares, those in it included. -/
def TypeDecl.declaredNames : TypeDecl Code → List String :=
  TypeDecl.fold fun d constants types =>
    d.name.toList ++ variableNames d.typeVariables ++
      (d.functions ++ d.primary.toList).flatMap (fun f => variableNames f.typeVariables) ++
      constants.flatMap (fun c => c.2.2) ++ types.flatMap fun t => t.2

namespace FileDecl

/-- The types and type variables that the file declares. -/
def declaredNames (file : FileDecl) : List String :=
  file.aliases.flatMap (fun d => d.name :: variableNames d.typeVariables) ++
    file.types.flatMap TypeDecl.declaredNames

/-- The spellings of the references in the file. -/
def spellings (file : FileDecl) : List Spelling := file.context.spellings (file.tokens [])

/-- What the file mentions and declares. -/
def references (file : FileDecl) : References where
  package := file.package
  implicitPackages := file.options.implicitPackages
  declared := file.declaredNames
  classes := file.spellings.filterMap Spelling.class?
  members := file.spellings.filterMap Spelling.member?
  requested := file.aliasedImports

/-- The short names and the import lines of the file. -/
def importTable (file : FileDecl) : ImportTable := file.references.table

/-! ### The text of a file -/

/-- The layout operations of the file. -/
def operations (file : FileDecl) : List LayoutOp :=
  let table := file.importTable
  file.context.write (some table) (file.tokens table.lines)

/-- The text of the file. -/
def render (file : FileDecl) : String := layout file.options file.operations

/-- The name of the file with its extension. -/
def fileName (file : FileDecl) : String := file.name ++ ".kt"

/-- The path of the file: a directory for every segment of the package, and the file in it. -/
def relativePath (file : FileDecl) : String :=
  Text.joinWith "/" ((Text.splitAt '.' file.package).filter (· != "") ++ [file.fileName])

end FileDecl

end KotlinSource
