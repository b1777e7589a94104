import KotlinSource.Imports.Line
import KotlinSource.Text.Entries

/-!
# Import tables

Which classes and members of a file are written by their simple names, and which of them the file
has to import for that.  The classes that the file mentions are put into groups, one for the simple
name of each outermost class, and so are the top-level members.  A group decides for all its members:
they are short if there is only one of them and its name is not taken.  A name is taken if it is
declared in the file, an import alias or a keyword, and for a member also if there is a group of
classes under that name.  Extensions can be called by their simple name only, so they are always
short.

Classes and members of the file's own package, of the package without a name and of the implicit
packages are not imported.

## Main definitions

* `References`: what a file mentions and declares.
* `References.classGroups`, `References.memberSets`: what it mentions, in groups.
* `References.decideClass`, `References.decideMember`: the decision about a group.
* `ImportTable`, `References.table`: the short names and the import lines of a file.
-/

namespace KotlinSource

namespace ClassName

/-- The simple name of the outermost class. -/
def topName (c : ClassName) : { s : String // isSimpleName s } :=
  ⟨c.top, c.simple c.top List.mem_cons_self⟩

/-- The class with a simple name at the top level of a package. -/
def outermost (package : String) (name : { s : String // isSimpleName s }) : ClassName :=
  ⟨package, name, [], by simpa using name.2⟩

end ClassName

/-- What a file mentions and declares. -/
structure References where
  /-- The package of the file. -/
  package : String
  /-- The packages whose contents every file sees. -/
  implicitPackages : List String
  /-- The types and type variables that the file declares. -/
  declared : List String
  /-- The classes mentioned. -/
  classes : List ClassName
  /-- The members mentioned. -/
  members : List MemberName
  /-- The imports that the file asks for. -/
  requested : List Import

/-- The short names and the import lines of a file. -/
structure ImportTable where
  /-- The simple names under which outermost classes are short, with the packages of these
  classes. -/
  short : List (String × String)
  /-- The qualified names of the top-level members that are short. -/
  shortMembers : List String
  /-- The types and type variables that the file declares. -/
  declared : List String
  /-- The classes imported because the file mentions them. -/
  classes : List ClassName
  /-- The members imported because the file mentions them. -/
  members : List MemberName
  /-- All imports, in the order of their lines. -/
  lines : List Import

/-! ### Groups -/

/-- The top-level members that a file mentions. -/
structure MemberSets where
  /-- The extensions, in order. -/
  extensions : List MemberName
  /-- The other members, by their simple names, and those of one name by their qualified names. -/
  groups : List (String × List (String × MemberName))

/-- One more member. -/
def MemberSets.add (sets : MemberSets) (m : MemberName) : MemberSets :=
  if m.isExtension then
    { sets with extensions := Text.insertDistinct MemberName.before m sets.extensions }
  else
    { sets with
      groups := Text.updateEntry m.name []
        (Text.insertEntry Text.before m.canonicalName m) sets.groups }

namespace References

variable (r : References)

/-- The packages of the outermost classes mentioned, by the simple names of the classes. -/
def classGroups : List ({ s : String // isSimpleName s } × List String) :=
  Text.groupBy ClassName.topName [] (fun c => Text.insertDistinct Text.before c.package) r.classes

/-- The top-level members mentioned. -/
def memberSets : MemberSets :=
  (r.members.filter fun m => m.enclosing?.isNone).foldl MemberSets.add ⟨[], []⟩

/-! ### Decisions -/

/-- Whether a package has to be imported from. -/
def needsImport (package : String) : Bool :=
  package != "" && package != r.package && !r.implicitPackages.contains package

/-- Whether a simple name is taken by a declaration, an import alias or a keyword. -/
def isTaken (name : String) : Bool :=
  r.declared.contains name || r.requested.any (fun i => i.alias? == some name) || isKeyword name

end References

/-- The classes that are short, and those that have to be imported. -/
structure FoundClasses where
  short : List (String × String)
  imported : List ClassName

/-- The members that are short, and those that have to be imported. -/
structure FoundMembers where
  short : List String
  imported : List MemberName

namespace References

variable (r : References)

/-- The class of a name in a package is short, and imported if it has to be. -/
def addClass (found : FoundClasses) (c : { s : String // isSimpleName s } × String) :
    FoundClasses where
  short := Text.setEntry c.1.1 c.2 found.short
  imported :=
    if r.needsImport c.2 then found.imported ++ [.outermost c.2 c.1] else found.imported

/-- The decision about a group of classes. -/
def decideClass (found : FoundClasses) (group : { s : String // isSimpleName s } × List String) :
    FoundClasses :=
  match group.2 with
  | [package] => if r.isTaken group.1 then found else r.addClass found (group.1, package)
  | _ => found

/-- The decisions about all groups of classes. -/
def foundClasses : FoundClasses := r.classGroups.foldl r.decideClass ⟨[], []⟩

/-- A member is short, and imported if it has to be. -/
def addMember (found : FoundMembers) (m : MemberName) : FoundMembers where
  short := found.short.insert m.canonicalName
  imported := if r.needsImport m.package then found.imported ++ [m] else found.imported

/-- The decision about a group of members. -/
def decideMember (found : FoundMembers) (group : String × List (String × MemberName)) :
    FoundMembers :=
  match group.2 with
  | [(_, m)] =>
    if r.classGroups.any (fun g => g.1.1 == group.1) || r.isTaken group.1 then found
    else r.addMember found m
  | _ => found

/-- All extensions are short; then come the decisions about all groups of members. -/
def foundMembers : FoundMembers :=
  r.memberSets.groups.foldl r.decideMember (r.memberSets.extensions.foldl r.addMember ⟨[], []⟩)

/-! ### The table -/

/-- The classes that have to be imported, in order. -/
def importedClasses : List ClassName := Text.sort ClassName.before r.foundClasses.imported

/-- The members that have to be imported, in order. -/
def importedMembers : List MemberName := Text.sort MemberName.before r.foundMembers.imported

/-- All imports, in the order of their lines. -/
def lines : List Import :=
  Text.dropRepeated (Text.sort Import.before
    (r.importedClasses.map Import.ofClass ++ r.importedMembers.map Import.ofMember ++ r.requested))

/-- The import table of a file. -/
def table : ImportTable where
  short := r.foundClasses.short
  shortMembers := r.foundMembers.short
  declared := r.declared
  classes := r.importedClasses
  members := r.importedMembers
  lines := r.lines

end References

namespace ImportTable

/-- Whether a class is written from its outermost simple name on. -/
def classIsShort (t : ImportTable) (c : ClassName) : Bool := t.short.lookup c.top == some c.package

/-- Whether a top-level member is written by its simple name: whether a member with its qualified
name is, be it an extension or not. -/
def memberIsShort (t : ImportTable) (m : MemberName) : Bool :=
  t.shortMembers.contains m.canonicalName

/-- Whether the file declares a type or type variable of a name. -/
def isDeclared (t : ImportTable) (name : String) : Bool := t.declared.contains name

end ImportTable

end KotlinSource
