import KotlinSource.Layout.Writer
import KotlinSource.Name.Member
import KotlinSource.Name.Type

/-!
# Tokens

A declaration is printed to a list of tokens: layout operations, references whose spelling depends
on the place where they stand, and the bounds of the bodies of named types.  A walk over the tokens
tells for every reference which bodies are around it.

## Main definitions

* `Reference`: something that is mentioned by name.
* `Token`: an element of printed code.
* `Scope`: the body of a named type.
* `Located`, `locate`: tokens without the bounds of bodies, references with the bodies around them.

## Main results

* `locate_append`: a text is located part by part, from the scopes in which its first part ends.
-/

namespace KotlinSource

/-- Something that is mentioned by name. -/
inductive Reference where
  /-- A class. -/
  | declared (c : ClassName)
  /-- A built-in class. -/
  | builtin (b : Builtin)
  /-- A function or property. -/
  | member (m : MemberName)
  deriving DecidableEq, Repr

/-- An element of printed code. -/
inductive Token where
  | layout (op : LayoutOp)
  | reference (r : Reference)
  /-- The body of a named type starts. -/
  | enter (type : String) (nested functions : List String)
  /-- The innermost body ends. -/
  | leave
  deriving DecidableEq, Repr

/-- Printed code. -/
abbrev Tokens := List Token

/-- The body of a named type. -/
structure Scope where
  /-- The simple names of the type, from the outermost type around it inwards. -/
  path : List String
  /-- The named types nested directly in it. -/
  nested : List String
  /-- Its functions. -/
  functions : List String
  deriving DecidableEq, Repr

/-- The scopes inside the body of a type; the innermost scope stands first. -/
def enterScope (scopes : List Scope) (type : String) (nested functions : List String) :
    List Scope :=
  ⟨(scopes.head?.elim [] Scope.path) ++ [type], nested, functions⟩ :: scopes

/-- The scopes behind a token. -/
def scopesAfter (scopes : List Scope) : Token → List Scope
  | .enter type nested functions => enterScope scopes type nested functions
  | .leave => scopes.tail
  | .layout _ => scopes
  | .reference _ => scopes

/-- A layout operation, or a reference with the scopes around it. -/
inductive Located where
  | layout (op : LayoutOp)
  | reference (scopes : List Scope) (r : Reference)
  deriving DecidableEq, Repr

/-- A token with the scopes around it; the bounds of bodies leave nothing behind. -/
def locateToken (scopes : List Scope) : Token → List Located
  | .layout op => [.layout op]
  | .reference r => [.reference scopes r]
  | .enter _ _ _ => []
  | .leave => []

/-- The operations and references of printed code, each reference with the scopes around it. -/
def locate (scopes : List Scope) : Tokens → List Located
  | [] => []
  | t :: rest => locateToken scopes t ++ locate (scopesAfter scopes t) rest

theorem locate_append (scopes : List Scope) (left right : Tokens) :
    locate scopes (left ++ right) =
      locate scopes left ++ locate (left.foldl scopesAfter scopes) right := by
  induction left generalizing scopes with
  | nil => rfl
  | cons t rest ih => simp [locate, ih]

end KotlinSource
