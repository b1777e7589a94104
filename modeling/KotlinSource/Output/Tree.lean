import KotlinSource.Output.SourceFile
import KotlinSource.Text.Entries

/-!
# Output directories

Rendered files are written below an output directory, together with the directories that their
paths need.  A directory is a finite tree; files and directories in it are found by the names on
the way to them.  A path may also climb out of the output directory.  The directories there exist,
but nothing is known of what they hold, and nothing is written to them.

## Main definitions

* `OutputTree`: an output directory with everything below it.
* `OutputTree.at?`, `OutputTree.setAt`: what is behind some names, and something put there.
* `Place`: where a path has led to.
* `OutputTree.walk?`, `OutputTree.find?`: what a path leads to.
* `OutputTree.makeDirectories`, `OutputTree.put?`: new directories and files.
* `OutputTree.write`: a rendered file written, skipped or refused.
-/

namespace KotlinSource

/-- A directory with everything below it, or a file.  An output directory is a directory. -/
inductive OutputTree where
  | directory (entries : List (String × OutputTree))
  | file (content : String)

/-- What became of a rendered file. -/
inductive WriteResult where
  | written
  /-- There is a file already, and it stays. -/
  | skipped
  /-- The directory at `path` cannot be made. -/
  | cannotCreate (path : String)
  /-- The file at `path` cannot be written. -/
  | cannotWrite (path : String)
  deriving DecidableEq, Repr

namespace OutputTree

/-- An empty directory. -/
def empty : OutputTree := .directory []

/-! ### Names on the way -/

/-- What is behind the names on the way to it. -/
def at? (tree : OutputTree) : List String → Option OutputTree
  | [] => some tree
  | name :: rest =>
    match tree with
    | .directory entries => (entries.lookup name).bind fun entry => entry.at? rest
    | .file _ => none

/-- The tree with `new` behind the names on the way to it.  Directories on the way are made, but a
file on the way stays as it is. -/
def setAt (tree new : OutputTree) : List String → OutputTree
  | [] => new
  | name :: rest =>
    match tree with
    | .directory entries =>
      let entry := (entries.lookup name).getD empty
      .directory (Text.setEntry name (entry.setAt new rest) entries)
    | .file content => .file content

/-- Whether there is a directory behind the names on the way to it. -/
def isDirectory (tree : OutputTree) (names : List String) : Bool :=
  match tree.at? names with
  | some (.directory _) => true
  | _ => false

end OutputTree

/-! ### Places -/

/-- Where a path has led to. -/
inductive Place where
  /-- To the output directory or below it, behind these names. -/
  | inside (names : List String)
  /-- To a directory above the output directory. -/
  | outside
  deriving DecidableEq, Repr

namespace Place

/-- The place where a path starts: the output directory, or the root of all directories. -/
def start (path : String) : Place := if Path.isAbsolute path then .outside else .inside []

/-- The directory that a place lies in.  Above the output directory there are directories only; the
topmost one lies in itself. -/
def parent : Place → Place
  | .inside [] => .outside
  | .inside names => .inside names.dropLast
  | .outside => .outside

/-- The names behind which an entry of the directory at a place is, as far as it is known. -/
def entry? (name : String) : Place → Option (List String)
  | .inside names => some (names ++ [name])
  | .outside => none

end Place

namespace OutputTree

/-! ### Finding -/

/-- What is at a place; nothing is known of what directories above the output directory hold. -/
def atPlace? (tree : OutputTree) : Place → Option OutputTree
  | .inside names => tree.at? names
  | .outside => some empty

/-- The place that segments lead to from a directory, if they lead through directories only. -/
def walk? (tree : OutputTree) (place : Place) : List String → Option Place
  | [] => some place
  | segment :: rest =>
    if Path.isIdle segment then tree.walk? place rest
    else if segment = ".." then tree.walk? place.parent rest
    else
      match place.entry? segment with
      | some names => if tree.isDirectory names then tree.walk? (.inside names) rest else none
      | none => none

/-- Whether a segment can only lead to a directory. -/
def leadsToDirectory (segment : String) : Bool := Path.isIdle segment || segment == ".."

/-- The names on the way to the entry that a path names, if the directory it lies in is there. -/
def entryOf? (tree : OutputTree) (path : String) : Option (List String) :=
  let segments := Path.segments path
  (tree.walk? (.start path) segments.dropLast).bind (Place.entry? (segments.getLastD ""))

/-- What a path leads to. -/
def find? (tree : OutputTree) (path : String) : Option OutputTree :=
  let segments := Path.segments path
  if !Path.isPossible path then none
  else if leadsToDirectory (segments.getLastD "") then
    (tree.walk? (.start path) segments).bind fun place => tree.atPlace? place
  else (tree.entryOf? path).bind fun names => tree.at? names

/-- The text of the file that a path leads to. -/
def read? (tree : OutputTree) (path : String) : Option String :=
  match tree.find? path with
  | some (.file content) => some content
  | _ => none

/-! ### Writing -/

/-- The longest name of a file or directory, in bytes of UTF-8. -/
def maxNameLength : Nat := 255

/-- Whether a file or directory can have this name. -/
def isPossibleName (name : String) : Bool := name.utf8ByteSize ≤ maxNameLength

/-- Make the directories on a way from `place`, as far as they are not there.  A file on the way, or
a name that cannot be, ends it; what has been made before stays. -/
def makeDirectoriesFrom (tree : OutputTree) (place : Place) : List String → OutputTree × Bool
  | [] => (tree, true)
  | segment :: rest =>
    if Path.isIdle segment then tree.makeDirectoriesFrom place rest
    else if segment = ".." then tree.makeDirectoriesFrom place.parent rest
    else
      match place.entry? segment with
      | none => (tree, false)
      | some names =>
        match tree.at? names with
        | some (.directory _) => tree.makeDirectoriesFrom (.inside names) rest
        | some (.file _) => (tree, false)
        | none =>
          if isPossibleName segment then
            (tree.setAt empty names).makeDirectoriesFrom (.inside names) rest
          else (tree, false)

/-- The tree with a directory at `path`, and whether it could be made. -/
def makeDirectories (tree : OutputTree) (path : String) : OutputTree × Bool :=
  if Path.isPossible path then tree.makeDirectoriesFrom (.start path) (Path.segments path)
  else (tree, false)

/-- The tree with a file written, if its directory is there and no directory has its name. -/
def put? (tree : OutputTree) (path content : String) : Option OutputTree :=
  let last := (Path.segments path).getLastD ""
  if !Path.isPossible path || leadsToDirectory last || !isPossibleName last then none
  else
    (tree.entryOf? path).bind fun names =>
      if tree.isDirectory names then none else some (tree.setAt (.file content) names)

/-- Write a rendered file with the directories that its path needs. -/
def write (tree : OutputTree) (file : SourceFile) : OutputTree × WriteResult :=
  if file.overwrite = .ifMissing && (tree.find? file.path).isSome then (tree, .skipped)
  else
    let parent := Path.parent file.path
    match tree.makeDirectories parent with
    | (tree, false) => (tree, .cannotCreate parent)
    | (tree, true) =>
      match tree.put? file.path file.content with
      | some tree => (tree, .written)
      | none => (tree, .cannotWrite file.path)

end OutputTree

end KotlinSource
