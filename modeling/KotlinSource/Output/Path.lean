import KotlinSource.Text.Separated

/-!
# Paths

A path is a text with slashes between its segments.  Empty segments and segments `.` mean nothing,
except that a path which starts with `.` keeps it; segments `..` are kept, since what they mean
depends on the directories.  A path that starts with a slash starts at the root.

## Main definitions

* `Path.isAbsolute`, `Path.segments`, `Path.components`: the parts of a path.
* `Path.uri`: the components with slashes between them.
* `Path.join`: a path inside another one.
* `Path.parent`: the path of the directory that a path lies in.
* `Path.isPossible`: whether a file or directory can be asked for by a path.
-/

namespace KotlinSource.Path

/-- Whether the path starts at the root. -/
def isAbsolute (path : String) : Bool := Text.first? path == some '/'

/-- The texts between the slashes. -/
def segments (path : String) : List String := Text.splitAt '/' path

/-- Whether a segment means nothing. -/
def isIdle (segment : String) : Bool := segment == "" || segment == "."

/-- The segments that mean something. -/
def steps (path : String) : List String := (segments path).filter fun s => !isIdle s

/-- The parts of a path, the root first if the path starts there. -/
def components (path : String) : List String :=
  if isAbsolute path then "/" :: steps path
  else if (segments path).head? = some "." then "." :: steps path
  else steps path

/-- The components of a path with slashes between them. -/
def uri (path : String) : String := Text.joinWith "/" (components path)

/-- The path `path`, seen from the directory `base`. -/
def join (base path : String) : String :=
  if isAbsolute path then path
  else if base = "" || base.toList.getLast? = some '/' then base ++ path
  else base ++ "/" ++ path

/-- A list of segments without the idle ones at its end. -/
def trimIdle (segments : List String) : List String :=
  (segments.reverse.dropWhile isIdle).reverse

/-- The path of the directory that a path lies in, seen from the output directory; a path directly
below the root gives the empty one. -/
def parent (path : String) : String :=
  Text.joinWith "/" (trimIdle (trimIdle (segments path)).dropLast)

/-! ### Paths that can be asked for -/

/-- The longest path, in bytes of UTF-8. -/
def maxLength : Nat := 4095

/-- The bytes that the path of the output directory takes, with the slash behind it. -/
def rootLength : Nat := 16

/-- The bytes of a path, seen from the root of all directories. -/
def fullLength (path : String) : Nat :=
  if isAbsolute path then path.utf8ByteSize else rootLength + path.utf8ByteSize

/-- Whether a file or directory can be asked for by this path, seen from the output directory.  A
path is taken or refused as a whole, before any of its segments is looked at. -/
def isPossible (path : String) : Bool :=
  decide (fullLength path ≤ maxLength) && !path.toList.contains '\x00'

end KotlinSource.Path
