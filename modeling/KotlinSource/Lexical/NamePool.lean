import KotlinSource.Diagnostic
import KotlinSource.Lexical.Identifier
import KotlinSource.Lexical.Keyword

/-!
# Pools of distinct names

A pool hands out identifiers that are neither keywords nor handed out before, and remembers each
under a tag of the caller's choice.  A name that is taken gets as few underscores at its end as
make it free.

## Main definitions

* `NamePool`: the names in use and the name of every tag.
* `NamePool.fresh`: the free name closest to a suggestion.
* `NamePool.allocate`, `NamePool.lookup`: take a name, and read a name back.
* `TagError`: a tag used twice, or never.
-/

namespace KotlinSource

/-- Why a tag does not give a name. -/
inductive TagError where
  /-- The tag has a name already. -/
  | duplicateTag (tag : String)
  /-- The tag has no name. -/
  | unknownTag (tag : String)
  deriving DecidableEq, Repr

/-- The text of a failure to allocate or find a name. -/
def TagError.diagnostic : TagError → Diagnostic
  | .duplicateTag tag =>
    ⟨"spec::duplicate_tag", "name tag '" ++ tag ++ "' is already allocated", none⟩
  | .unknownTag tag =>
    ⟨"spec::unknown_tag", "no name allocated for tag '" ++ tag ++ "'", none⟩

/-- The names in use, and the name that every tag stands for. -/
structure NamePool where
  taken : List String
  tags : List (String × String)
  deriving DecidableEq, Repr

namespace NamePool

/-- A pool in which only the keywords are taken. -/
def empty : NamePool := ⟨keywords, []⟩

/-- Whether `name` is in use. -/
def contains (pool : NamePool) (name : String) : Bool := pool.taken.contains name

/-- `name` with `count` underscores at its end. -/
def underscored (name : String) (count : Nat) : String :=
  String.ofList (name.toList ++ List.replicate count '_')

/-- The free name closest to `name`: as few underscores at its end as make it free.  One more
candidate than there are names in use is always enough. -/
def fresh (pool : NamePool) (name : String) : String :=
  let candidates := (List.range (pool.taken.length + 1)).map (underscored name)
  (candidates.find? fun candidate => !pool.contains candidate).getD name

/-- The name that `tag` stands for. -/
def lookup (pool : NamePool) (tag : String) : Except TagError String :=
  match pool.tags.lookup tag with
  | some name => .ok name
  | none => .error (.unknownTag tag)

/-- Take a name close to `suggestion` and remember it under `tag`. -/
def allocate (pool : NamePool) (suggestion tag : String) : Except TagError (String × NamePool) :=
  match pool.tags.lookup tag with
  | some _ => .error (.duplicateTag tag)
  | none =>
    let name := pool.fresh (sanitized suggestion)
    .ok (name, ⟨name :: pool.taken, (tag, name) :: pool.tags⟩)

end NamePool

end KotlinSource
