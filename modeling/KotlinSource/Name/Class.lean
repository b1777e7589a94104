import KotlinSource.Name.Error
import KotlinSource.Text.Separated
import KotlinSource.Unicode.Character

/-!
# Names of classes

A class has a package and a chain of simple names, from the outermost class inwards.  The package
may be empty; the chain never is, and none of its names is empty or holds a dot.

## Main definitions

* `isSimpleName`, `checkSimpleName`: simple names.
* `ClassName`: package, outermost simple name and the simple names nested in it.
* `ClassName.ofNames`, `ClassName.guess`: a name from its parts, and from a dotted text.
* `ClassName.nested`, `ClassName.peer`, `ClassName.enclosing?`, `ClassName.topLevel`: neighbours of
  a class in its chain.
* `ClassName.canonicalName`: package and chain with dots between them.
-/

namespace KotlinSource

/-- `chain` after the package, or alone in the package without a name. -/
def qualify (package chain : String) : String :=
  if package = "" then chain else package ++ "." ++ chain

/-- Simple names are non-empty and hold no dot. -/
def isSimpleName (name : String) : Bool := name != "" && !name.toList.contains '.'

/-- A simple name, or the reason why it is none. -/
def checkSimpleName (name : String) : Except NameError { s : String // isSimpleName s } :=
  if h : isSimpleName name then .ok ⟨name, h⟩ else .error (.invalidSimpleName name)

/-- The name of a class, without type arguments. -/
structure ClassName where
  package : String
  /-- The simple name of the outermost class. -/
  top : String
  /-- The simple names below it, outermost first. -/
  inner : List String
  /-- The chain is made of simple names. -/
  simple : ∀ name ∈ top :: inner, isSimpleName name
  deriving DecidableEq, Repr

namespace ClassName

/-- The simple names of the chain, outermost first. -/
def names (c : ClassName) : List String := c.top :: c.inner

/-- The innermost simple name. -/
def simpleName (c : ClassName) : String := c.names.getLast (by simp [names])

/-- The simple names of the chain with dots between them. -/
def chain (c : ClassName) : String := Text.joinWith "." c.names

/-- Package and chain with dots between them. -/
def canonicalName (c : ClassName) : String := qualify c.package c.chain

/-- The binary name, with `$` between nested classes. -/
def binaryName (c : ClassName) : String := qualify c.package (Text.joinWith "$" c.names)

/-- A class of `package` from its chain of simple names. -/
def ofNames (package : String) (names : List String) : Except NameError ClassName :=
  match names with
  | [] => .error .noSimpleNames
  | top :: inner =>
    match h : (top :: inner).find? fun name => !isSimpleName name with
    | some bad => .error (.invalidSimpleName bad)
    | none => .ok ⟨package, top, inner, by simpa using h⟩

/-- Whether the first character of a segment has the property `p`. -/
def startsWith (p : Char → Bool) (segment : String) : Bool := (Text.first? segment).any p

/-- Whether a segment can start or continue a chain of simple names. -/
def isClassSegment (segment : String) : Bool := startsWith Unicode.isUppercase segment

/-- Whether a segment can belong to a package. -/
def isPackageSegment (segment : String) : Bool :=
  startsWith (fun c => Unicode.isLowercase c || c == '_') segment

/-- A segment of a dotted text that can belong to a chain is a simple name. -/
theorem isSimpleName_of_isClassSegment {text segment : String}
    (hmem : segment ∈ Text.splitAt '.' text) (h : isClassSegment segment) :
    isSimpleName segment := by
  have hne : segment ≠ "" := by
    rintro rfl
    exact absurd h (by decide)
  simp [isSimpleName, hne, Text.notMem_of_mem_splitAt hmem]

/-- The segments from the first one on that starts with a capital letter are simple names, if all
of them start with one. -/
theorem simple_of_dropWhile {text top : String} {inner : List String}
    (h : ((Text.splitAt '.' text).dropWhile fun s => !isClassSegment s) = top :: inner)
    (hinner : inner.all isClassSegment) : ∀ name ∈ top :: inner, isSimpleName name := by
  intro name hname
  have hmem : name ∈ Text.splitAt '.' text :=
    (List.dropWhile_sublist _).subset (h ▸ hname)
  have htop : isClassSegment top := by
    have hhead := List.head?_dropWhile_not (fun s => !isClassSegment s) (Text.splitAt '.' text)
    simpa [h] using hhead
  rcases List.mem_cons.1 hname with rfl | hin
  · exact isSimpleName_of_isClassSegment hmem htop
  · exact isSimpleName_of_isClassSegment hmem (List.all_eq_true.1 hinner name hin)

/-- Split a dotted text: the segments before the first one that starts with a capital letter are
the package, that one and all later ones the chain.  Package segments start with a small letter or
an underscore, the others with a capital letter; any other text has no obvious reading. -/
def guess (text : String) : Except NameError ClassName :=
  let segments := Text.splitAt '.' text
  let package := segments.takeWhile fun s => !isClassSegment s
  match h : segments.dropWhile fun s => !isClassSegment s with
  | [] => .error (.unguessable text)
  | top :: inner =>
    if hs : package.all isPackageSegment ∧ inner.all isClassSegment then
      .ok ⟨Text.joinWith "." package, top, inner, simple_of_dropWhile h hs.2⟩
    else .error (.unguessable text)

/-- A class nested directly in this one. -/
def nested (c : ClassName) (name : String) : Except NameError ClassName := do
  let ⟨name, h⟩ ← checkSimpleName name
  return { c with
    inner := c.inner ++ [name]
    simple := by simpa [or_imp, forall_and, h] using c.simple }

/-- The class this one is nested in, if any. -/
def enclosing? (c : ClassName) : Option ClassName :=
  if c.inner.isEmpty then none
  else some { c with
    inner := c.inner.dropLast
    simple := fun name h =>
      c.simple name (((List.dropLast_sublist c.inner).cons_cons c.top).subset h) }

/-- A class with the same package and the same enclosing class. -/
def peer (c : ClassName) (name : String) : Except NameError ClassName :=
  match c.enclosing? with
  | some outer => outer.nested name
  | none => ofNames c.package [name]

/-- The outermost class of the chain. -/
def topLevel (c : ClassName) : ClassName :=
  { c with inner := [], simple := by simpa using c.simple c.top (by simp) }

/-- A class of the package `kotlin`. -/
def kotlin (name : String) (h : isSimpleName name := by decide) : ClassName :=
  ⟨"kotlin", name, [], by simpa using h⟩

/-- The class that all other classes extend. -/
def any : ClassName := kotlin "Any"

/-- A class of the package `kotlin.collections`. -/
def kotlinCollection (name : String) (h : isSimpleName name := by decide) : ClassName :=
  ⟨"kotlin.collections", name, [], by simpa using h⟩

@[simp] theorem names_ne_nil (c : ClassName) : c.names ≠ [] := by simp [names]

@[simp] theorem names_topLevel (c : ClassName) : c.topLevel.names = [c.top] := rfl

@[simp] theorem top_topLevel (c : ClassName) : c.topLevel.top = c.top := rfl

@[simp] theorem package_topLevel (c : ClassName) : c.topLevel.package = c.package := rfl

end ClassName

end KotlinSource
