import KotlinSource.Name.Class

/-!
# Names of functions and properties

A member is declared in a package or in a class.  Extension members are marked, since they are
always called by their simple name.

## Main definitions

* `MemberOwner`: the package or class that declares a member.
* `MemberName`: a member with its owner.
-/

namespace KotlinSource

/-- Where a member is declared. -/
inductive MemberOwner where
  /-- At the top level of a package. -/
  | topLevel (package : String)
  /-- Inside a class. -/
  | inClass (c : ClassName)
  deriving DecidableEq, Repr

/-- A function or property together with the place that declares it. -/
structure MemberName where
  owner : MemberOwner
  name : String
  isExtension : Bool
  /-- The name of the member is a simple name. -/
  simple : isSimpleName name
  deriving DecidableEq, Repr

namespace MemberName

/-- A top-level member of a package. -/
def ofPackage (package name : String) : Except NameError MemberName := do
  let ⟨name, h⟩ ← checkSimpleName name
  return ⟨.topLevel package, name, false, h⟩

/-- A member declared inside a class. -/
def ofClass (c : ClassName) (name : String) : Except NameError MemberName := do
  let ⟨name, h⟩ ← checkSimpleName name
  return ⟨.inClass c, name, false, h⟩

/-- The same member, marked as an extension. -/
def asExtension (m : MemberName) : MemberName := { m with isExtension := true }

/-- The package of the member. -/
def package (m : MemberName) : String :=
  match m.owner with
  | .topLevel package => package
  | .inClass c => c.package

/-- The class that declares the member, if it is not declared at the top level. -/
def enclosing? (m : MemberName) : Option ClassName :=
  match m.owner with
  | .topLevel _ => none
  | .inClass c => some c

/-- The owner and the simple name with a dot between them. -/
def canonicalName (m : MemberName) : String :=
  match m.owner with
  | .topLevel package => qualify package m.name
  | .inClass c => c.canonicalName ++ "." ++ m.name

end MemberName

end KotlinSource
