import KotlinSource.Modifier
import KotlinSource.Name.Type
import KotlinSource.Naming.Spelling

/-!
# Printing type names

The tokens of type names, type variables, modifiers and lists.

## Main definitions

* `word`, `listed`: text, and lists with something between neighbours.
* `TypeName.tokens`: a type.  Lines may break behind the `<` of its type arguments.
* `typeVariableList`, `whereClause`: the type variables of a declaration and their bounds.
* `modifierWords`: the modifiers of a declaration.
-/

namespace KotlinSource

/-! ### Text and lists -/

/-- Text. -/
def word (s : String) : Tokens := [.layout (.text s)]

/-- A layout operation. -/
def operation (op : LayoutOp) : Tokens := [.layout op]

/-- Parts with `separator` between neighbours. -/
def listed (separator : Tokens) (parts : List Tokens) : Tokens := separator.intercalate parts

@[simp] theorem listed_nil (separator : Tokens) : listed separator [] = [] := rfl

@[simp] theorem listed_singleton (separator part : Tokens) : listed separator [part] = part := by
  simp [listed, List.intercalate]

@[simp] theorem listed_cons_cons (separator part next : Tokens) (rest : List Tokens) :
    listed separator (part :: next :: rest) =
      part ++ (separator ++ listed separator (next :: rest)) := by
  simp [listed, List.intercalate]

/-- A comma behind which the line may break. -/
def breakableComma : Tokens := operation .comma

/-- Text between parentheses. -/
def parenthesized (inside : Tokens) : Tokens := word "(" ++ inside ++ word ")"

/-- A name as it is written. -/
def nameWord (name : String) : Tokens := word (safeName name)

/-! ### Types -/

/-- A list of type arguments: nothing for none. -/
def typeArgumentList (arguments : List Tokens) : Tokens :=
  if arguments.isEmpty then []
  else word "<" ++ operation .wrapTight ++ listed (word ", ") arguments ++ word ">"

/-- The mark of nullable types: nothing for others. -/
def nullableMark (nullable : Bool) : Tokens := if nullable then word "?" else []

namespace TypeName

mutual

/-- The tokens of a type. -/
def tokens : TypeName → Tokens
  | .primitive p => [.reference (.builtin (.primitive p))]
  | .array element => .reference (.builtin .array) :: typeArgumentList [element.tokens]
  | .declared type => classTokens type
  | .variable v => nameWord v.name ++ nullableMark v.nullable
  | .star => word "*"
  | .producer upper => word "out " ++ upper.tokens
  | .consumer lower => word "in " ++ lower.tokens

/-- The tokens of a class with type arguments. -/
def classTokens : AppliedClass TypeName → Tokens
  | ⟨name, arguments, nullable⟩ =>
    .reference (.declared name) :: typeArgumentList (listTokens arguments) ++
      nullableMark nullable

/-- The tokens of the types in a list. -/
def listTokens : List TypeName → List Tokens
  | [] => []
  | type :: rest => type.tokens :: listTokens rest

end

@[simp] theorem listTokens_eq_map (types : List TypeName) :
    listTokens types = types.map tokens := by
  induction types with
  | nil => rfl
  | cons type rest ih => simp [listTokens, ih]

end TypeName

/-! ### Type variables -/

/-- A type variable where it is declared, with its bound if it has exactly one. -/
def typeVariableWord (v : TypeVariable) : Tokens :=
  (v.variance.elim [] fun variance => word (variance.keyword ++ " ")) ++
    (if v.reified then word "reified " else []) ++ nameWord v.name ++
    match v.bounds with
    | [bound] => word " : " ++ bound.tokens
    | _ => []

/-- The type variables of a declaration: nothing for none. -/
def typeVariableList (vs : List TypeVariable) : Tokens :=
  if vs.isEmpty then []
  else word "<" ++ listed (word ", ") (vs.map typeVariableWord) ++ word ">"

/-- The bounds of a type variable that has more than one. -/
def furtherBounds (v : TypeVariable) : List Tokens :=
  if v.bounds.length > 1 then
    v.bounds.map fun bound => nameWord v.name ++ word " : " ++ bound.tokens
  else []

/-- The bounds of the type variables that have more than one: nothing if there are none. -/
def whereClause (vs : List TypeVariable) : Tokens :=
  let bounds := vs.flatMap furtherBounds
  if bounds.isEmpty then [] else word " where " ++ listed (word ", ") bounds

/-! ### Modifiers -/

/-- The modifiers of a declaration, each with a space behind it, without those in `hidden`. -/
def modifierWords (hidden modifiers : List Modifier) : Tokens :=
  (modifiers.filter fun m => !hidden.contains m).flatMap fun m => word (m.keyword ++ " ")

end KotlinSource
