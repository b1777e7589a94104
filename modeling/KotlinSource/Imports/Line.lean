import KotlinSource.Lexical.Keyword
import KotlinSource.Name.Member

/-!
# Import lines

An import names a class or a member and may give it another name in the file.

## Main definitions

* `Import`, `Import.ofClass`, `Import.ofMember`, `Import.withAlias`: imports.
* `Import.line`: the text behind the keyword.
* `Import.before`: the order in which import lines are written.
-/

namespace KotlinSource

/-- The import of a class or member, possibly under another name. -/
structure Import where
  package : String
  /-- The simple names from the outermost class to the class or member. -/
  names : List String
  alias? : Option String
  deriving DecidableEq, Repr

namespace Import

/-- The import of a class. -/
def ofClass (c : ClassName) : Import := ⟨c.package, c.names, none⟩

/-- The import of a member. -/
def ofMember (m : MemberName) : Import :=
  ⟨m.package, (m.enclosing?.elim [] ClassName.names) ++ [m.name], none⟩

/-- The same import under another name. -/
def withAlias (i : Import) (name : String) : Import := { i with alias? := some name }

/-- The qualified name of what is imported. -/
def qualifiedName (i : Import) : String := qualify i.package (Text.joinWith "." i.names)

/-- The text of an import behind the keyword. -/
def line (i : Import) : String :=
  safeQualified i.qualifiedName ++ i.alias?.elim "" fun name => " as " ++ safeName name

/-- Imports are ordered by package, then by simple names, then by alias, imports without one
first. -/
def before (i j : Import) : Bool :=
  decide (i.package < j.package) ||
    i.package == j.package &&
      (decide (i.names < j.names) ||
        i.names == j.names && decide (i.alias?.toList < j.alias?.toList))

end Import

/-- Classes are ordered by package, then by simple names. -/
def ClassName.before (c d : ClassName) : Bool :=
  decide (c.package < d.package) || c.package == d.package && decide (c.names < d.names)

/-- Top-level members are ordered by package, then by simple name, extensions behind others. -/
def MemberName.before (m n : MemberName) : Bool :=
  decide (m.package < n.package) ||
    m.package == n.package &&
      (decide (m.name < n.name) || m.name == n.name && !m.isExtension && n.isExtension)

end KotlinSource
