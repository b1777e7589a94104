import KotlinSource.Declaration.Building
import KotlinSource.Imports.Line
import KotlinSource.Layout.Options

/-!
# Source files

A source file has a package, a comment at its top, imports under other names, type aliases and
types.

## Main definitions

* `FileDecl`: a source file.
* `FileDecl.faults`, `checkAliases`: the rules for files.
* `FileDraft`, `FilePart`, `FileDecl.build`: files built part by part.
* `FileDecl.ofType`: the file of a single type.
-/

namespace KotlinSource

/-- A source file. -/
structure FileDecl where
  /-- The package; the empty text is the package without a name. -/
  package : String
  /-- The name of the file without its extension. -/
  name : String
  /-- The comment at the top. -/
  comment : Code
  aliases : List (AliasDecl Code)
  types : List (TypeDecl Code)
  /-- The imports under other names. -/
  aliasedImports : List Import
  options : FormatOptions

/-! ### Import aliases -/

/-- The name that an import gives to what it imports. -/
def Import.aliasName (i : Import) : String := i.alias?.getD ""

/-- The imports of a list without repetitions, behind those in `seen`.  Every alias is an identifier
and stands for one target. -/
def checkAliasesFrom (seen : List Import) : List Import → Except DeclarationError (List Import)
  | [] => .ok seen
  | i :: rest =>
    if isIdentifier i.aliasName then
      match seen.find? fun s => s.alias? == i.alias? with
      | none => checkAliasesFrom (seen ++ [i]) rest
      | some s =>
        if s = i then checkAliasesFrom seen rest
        else .error (.duplicateImportAlias i.aliasName s.qualifiedName i.qualifiedName)
    else .error (.invalidName i.aliasName .importAlias)

/-- The imports of a list without repetitions, if they are valid. -/
def checkAliases (imports : List Import) : Except DeclarationError (List Import) :=
  checkAliasesFrom [] imports

/-! ### Validity -/

/-- Whether a text can name a file. -/
def isFileName (name : String) : Bool :=
  name != "" && !name.toList.contains '/' && !name.toList.contains '\\' &&
    !".kt".toList.isSuffixOf name.toList

namespace FileDecl

/-- The segments of the package. -/
def packageSegments (file : FileDecl) : List String :=
  if file.package = "" then [] else Text.splitAt '.' file.package

/-- A file has a proper name, its package is made of identifiers, and its types have names. -/
def faults (file : FileDecl) : List DeclarationError :=
  faultIf (!isFileName file.name) (.invalidFileName file.name) ++
    file.packageSegments.flatMap (fun segment => nameFaults segment .package) ++
    faultIf (file.types.any TypeDecl.isAnonymous) (.anonymousTopLevelType file.name)

/-- The file, if it is valid, without repeated imports. -/
def check (file : FileDecl) : Except DeclarationError FileDecl := do
  let file ← accept file.faults file
  let aliasedImports ← checkAliases file.aliasedImports
  return { file with aliasedImports := aliasedImports }

/-! ### Building files -/

/-- A file with a package and a name only. -/
def start (package name : String) : FileDecl := ⟨package, name, [], [], [], [], {}⟩

end FileDecl

/-- A part of a file. -/
inductive FilePart where
  | type (d : TypeDecl Code)
  | typeAlias (d : AliasDecl Code)
  /-- An import under another name. -/
  | aliasedImport (i : Import)
  /-- Code at the end of the comment. -/
  | comment (code : Code)
  /-- All layout options; the last ones count. -/
  | options (o : FormatOptions)
  /-- The unit of indentation. -/
  | indent (i : Indent)

namespace FileDecl

/-- A file with one more part. -/
def add (file : FileDecl) : FilePart → FileDecl
  | .type d => { file with types := file.types ++ [d] }
  | .typeAlias d => { file with aliases := file.aliases ++ [d] }
  | .aliasedImport i => { file with aliasedImports := file.aliasedImports ++ [i] }
  | .comment code => { file with comment := file.comment ++ code }
  | .options o => { file with options := o }
  | .indent i => { file with options := { file.options with indent := i } }

/-- A checked file from its parts. -/
def build (package name : String) (parts : List FilePart) : Except DeclarationError FileDecl :=
  (parts.foldl add (start package name)).check

/-- The file of a single type, with the name of the type. -/
def ofType (package : String) (d : TypeDecl Code) : Except DeclarationError FileDecl :=
  build package (d.name.getD "") [.type d]

end FileDecl

end KotlinSource
