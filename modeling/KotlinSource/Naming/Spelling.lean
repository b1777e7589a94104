import KotlinSource.Imports.Table
import KotlinSource.Naming.Token

/-!
# Spelling references

How a reference is written depends, in this order, on the import aliases of the file, on the types
that the file declares, on the functions of the types around the reference, and on the import
table.  The first three settle the text before there is an import table; what they do not settle is
what the import table has to decide, and therefore what it is made from.

## Main definitions

* `NamingContext`: the package, the types and the import aliases of a file.
* `Spelling`: a settled text, or a reference for the import table.
* `NamingContext.spelling`: the spelling of a reference in its scopes.
* `Spelling.write`: the text of a spelling under an import table, or outside of every file.
* `NamingContext.write`: printed code with all references written out.
-/

namespace KotlinSource

/-- What a file says about names. -/
structure NamingContext where
  package : String
  /-- The top-level types and type aliases of the file. -/
  ownTypes : List String
  /-- The import aliases with the qualified names they stand for; the first entry of a qualified
  name counts. -/
  aliases : List (String × String)
  deriving DecidableEq, Repr

/-- How a reference is written. -/
inductive Spelling where
  /-- Without the help of the import table. -/
  | settled (text : String)
  /-- As the import table says, with something behind it. -/
  | tabled (r : Reference) (suffix : String)
  deriving DecidableEq, Repr

/-! ### Names visible in a scope -/

/-- The path of the type that a simple name stands for inside the scopes: the nearest nested type
of that name, or the outermost type. -/
def resolveSimple (scopes : List Scope) (name : String) : Option (List String) :=
  match scopes.find? fun s => s.nested.contains name with
  | some s => some (s.path ++ [name])
  | none =>
    match scopes.getLast? with
    | some outermost => if outermost.path = [name] then some [name] else none
    | none => none

/-- The simple names from position `start` on, if the first of them stands for the right type. -/
def visibleFrom? (scopes : List Scope) (names : List String) (start : Nat) :
    Option (List String) :=
  match names.drop start with
  | first :: rest =>
    if resolveSimple scopes first = some (names.take (start + 1)) then some (first :: rest)
    else none
  | [] => none

/-- The shortest end of the chain of a class that stands for it in the scopes. -/
def visibleEnd? (scopes : List Scope) (c : ClassName) : Option (List String) :=
  (List.range c.names.length).reverse.findSome? (visibleFrom? scopes c.names)

/-- The name of a class of the file's own: the shortest end of its chain that stands for it in the
scopes.  If there is none, the whole chain does, unless its first name stands for another type
here; then the name is qualified. -/
def visibleName (scopes : List Scope) (c : ClassName) : String :=
  match visibleEnd? scopes c with
  | some names => Text.joinWith "." names
  | none => if (resolveSimple scopes c.top).isSome then c.canonicalName else c.chain

namespace NamingContext

variable (context : NamingContext)

/-- The import alias of a qualified name. -/
def alias? (qualified : String) : Option String := context.aliases.lookup qualified

/-- The first `count` simple names of a chain under their import alias, the others behind it. -/
def aliasedFrom? (c : ClassName) (count : Nat) : Option String :=
  (context.alias? (qualify c.package (Text.joinWith "." (c.names.take count)))).map fun name =>
    Text.joinWith "." (safeName name :: (c.names.drop count).map safeName)

/-- The name of a class through the import alias of the class or of a class around it; the
innermost class with an alias counts. -/
def aliased? (c : ClassName) : Option String :=
  (List.range c.names.length).reverse.findSome? fun k => context.aliasedFrom? c (k + 1)

/-- Whether a class is declared in the file. -/
def isOwn (c : ClassName) : Bool := c.package == context.package && context.ownTypes.contains c.top

/-- The spelling of a class. -/
def classSpelling (scopes : List Scope) (c : ClassName) : Spelling :=
  match context.aliased? c with
  | some text => .settled text
  | none =>
    if context.isOwn c then .settled (safeQualified (visibleName scopes c))
    else .tabled (.declared c) ""

/-- The spelling of a built-in class. -/
def builtinSpelling (b : Builtin) : Spelling :=
  match context.aliased? b.className with
  | some text => .settled text
  | none => .tabled (.builtin b) ""

end NamingContext

/-- A spelling with something behind it. -/
def Spelling.followedBy (suffix : String) : Spelling → Spelling
  | .settled text => .settled (text ++ suffix)
  | .tabled r behind => .tabled r (behind ++ suffix)

namespace NamingContext

variable (context : NamingContext)

/-- Whether a function of the types around a reference hides a top-level member. -/
def hides (scopes : List Scope) (m : MemberName) : Bool :=
  !m.isExtension && scopes.any fun s => s.functions.contains m.name

/-- The spelling of a member.  Members of classes are written behind their class. -/
def memberSpelling (scopes : List Scope) (m : MemberName) : Spelling :=
  match context.alias? m.canonicalName with
  | some name => .settled (safeName name)
  | none =>
    match m.enclosing? with
    | some c => (context.classSpelling scopes c).followedBy ("." ++ safeName m.name)
    | none =>
      if hides scopes m then .settled (safeQualified m.canonicalName)
      else .tabled (.member m) ""

/-- The spelling of a reference. -/
def spelling (scopes : List Scope) : Reference → Spelling
  | .declared c => context.classSpelling scopes c
  | .builtin b => context.builtinSpelling b
  | .member m => context.memberSpelling scopes m

end NamingContext

/-! ### Writing spellings -/

/-- The text of a reference outside of every file. -/
def Reference.detached : Reference → String
  | .declared c => safeQualified c.canonicalName
  | .builtin b => b.className.chain
  | .member m => safeQualified m.canonicalName

/-- The text of a reference under an import table. -/
def ImportTable.write (table : ImportTable) : Reference → String
  | .declared c =>
    safeQualified (if table.classIsShort c then c.chain else c.canonicalName)
  | .builtin b =>
    if table.classIsShort b.className then b.className.chain else b.className.canonicalName
  | .member m =>
    if table.memberIsShort m then safeName m.name else safeQualified m.canonicalName

namespace Spelling

/-- The text of a spelling; without an import table it is outside of every file. -/
def write (table : Option ImportTable) : Spelling → String
  | .settled text => text
  | .tabled r suffix =>
    (match table with
      | some t => t.write r
      | none => r.detached) ++ suffix

/-- The class that the import table is asked for, the outermost one around it. -/
def class? : Spelling → Option ClassName
  | .tabled (.declared c) _ => some c.topLevel
  | .tabled (.builtin b) _ => some b.className
  | _ => none

/-- The member that the import table is asked for. -/
def member? : Spelling → Option MemberName
  | .tabled (.member m) _ => some m
  | _ => none

end Spelling

/-! ### Writing printed code -/

namespace NamingContext

variable (context : NamingContext)

/-- The context outside of every file. -/
def detached : NamingContext := ⟨"", [], []⟩

/-- The spellings of the references in printed code, in order. -/
def spellings (tokens : Tokens) : List Spelling :=
  (locate [] tokens).filterMap fun
    | .layout _ => none
    | .reference scopes r => some (context.spelling scopes r)

/-- The layout operation of a located token. -/
def writeLocated (table : Option ImportTable) : Located → LayoutOp
  | .layout op => op
  | .reference scopes r => .text ((context.spelling scopes r).write table)

/-- Printed code with all references written out. -/
def write (table : Option ImportTable) (tokens : Tokens) : List LayoutOp :=
  (locate [] tokens).map (context.writeLocated table)

end NamingContext

/-- The text of printed code outside of every file. -/
def Tokens.layout (options : FormatOptions) (tokens : Tokens) : String :=
  KotlinSource.layout options (NamingContext.detached.write none tokens)

/-- The same if levels are machine words. -/
def Tokens.layout? (words : LevelWords) (options : FormatOptions) (tokens : Tokens) :
    Option String :=
  KotlinSource.layout? words options (NamingContext.detached.write none tokens)

/-- The text of printed code outside of every file, with the default options. -/
def Tokens.detached (tokens : Tokens) : String := tokens.layout {}

end KotlinSource
