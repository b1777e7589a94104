import KotlinSource.Name.Class
import KotlinSource.Text.Sorted

/-!
# Names of types

A type name is a built-in value type, an array, a class with or without type arguments, a type
variable, or a projection that may stand for a type argument.  Every type name has a canonical text
in which classes are fully qualified; two type names that have the same canonical text are the same
type.

## Main definitions

* `Primitive`, `Builtin`: the built-in value types, and these with the arrays.
* `AppliedClass`, `BoundedVariable`: classes with type arguments and type variables with bounds.
* `TypeName`: all type names.
* `TypeName.canonical`: the canonical text.
* `TypeName.withArguments`, `TypeName.withNullability`: the two ways to make a type from another.
-/

namespace KotlinSource

/-- The built-in value types, and `Unit`. -/
inductive Primitive where
  | boolean | byte | char | double | float | int | long | short | unit
  deriving DecidableEq, Repr

/-- The simple name of a built-in type. -/
def Primitive.name : Primitive → String
  | .boolean => "Boolean"
  | .byte => "Byte"
  | .char => "Char"
  | .double => "Double"
  | .float => "Float"
  | .int => "Int"
  | .long => "Long"
  | .short => "Short"
  | .unit => "Unit"

/-- Every built-in type. -/
def Primitive.all : List Primitive :=
  [.boolean, .byte, .char, .double, .float, .int, .long, .short, .unit]

/-- The built-in type of a simple name. -/
def Primitive.ofName? (name : String) : Option Primitive :=
  Primitive.all.find? fun p => p.name == name

/-- The class that declares a built-in type. -/
def Primitive.className (p : Primitive) : ClassName :=
  ClassName.kotlin p.name (by cases p <;> decide)

/-- A built-in class that every file can call by its simple name. -/
inductive Builtin where
  | primitive (p : Primitive)
  | array
  deriving DecidableEq, Repr

/-- The name of a built-in class. -/
def Builtin.className : Builtin → ClassName
  | .primitive p => p.className
  | .array => ClassName.kotlin "Array"

/-- Where a type variable may be used: as an input only, or as an output only. -/
inductive Variance where
  | input | output
  deriving DecidableEq, Repr

/-- The keyword of a variance. -/
def Variance.keyword : Variance → String
  | .input => "in"
  | .output => "out"

/-- A class with type arguments from `τ`, possibly nullable. -/
structure AppliedClass (τ : Type) where
  name : ClassName
  arguments : List τ
  nullable : Bool

/-- A type variable with upper bounds from `τ`. -/
structure BoundedVariable (τ : Type) where
  name : String
  bounds : List τ
  variance : Option Variance
  reified : Bool
  nullable : Bool

/-- A reference to a type. -/
inductive TypeName where
  /-- A built-in value type. -/
  | primitive (p : Primitive)
  /-- An array of elements of one type. -/
  | array (element : TypeName)
  /-- A class, interface or object. -/
  | declared (type : AppliedClass TypeName)
  /-- A type variable. -/
  | variable (v : BoundedVariable TypeName)
  /-- The projection `*`. -/
  | star
  /-- The projection `out T`. -/
  | producer (upper : TypeName)
  /-- The projection `in T`. -/
  | consumer (lower : TypeName)

/-- A class with type arguments. -/
abbrev ClassType := AppliedClass TypeName

/-- A type variable with its bounds. -/
abbrev TypeVariable := BoundedVariable TypeName

/-- The mark that makes a type nullable. -/
def nullMark (nullable : Bool) : String := if nullable then "?" else ""

/-- The text of a list of type arguments: nothing for none. -/
def argumentList (arguments : List String) : String :=
  if arguments.isEmpty then "" else "<" ++ Text.joinWith ", " arguments ++ ">"

/-- The canonical text of a type variable is its name. -/
def BoundedVariable.canonical {τ : Type} (v : BoundedVariable τ) : String :=
  v.name ++ nullMark v.nullable

namespace TypeName

mutual

/-- The fully qualified text of a type. -/
def canonical : TypeName → String
  | .primitive p => p.className.canonicalName
  | .array element => Builtin.array.className.canonicalName ++ argumentList [element.canonical]
  | .declared type => classCanonical type
  | .variable v => v.canonical
  | .star => "*"
  | .producer upper => "out " ++ upper.canonical
  | .consumer lower => "in " ++ lower.canonical

/-- The fully qualified text of a class with type arguments. -/
def classCanonical : AppliedClass TypeName → String
  | ⟨name, arguments, nullable⟩ =>
    name.canonicalName ++ argumentList (canonicalList arguments) ++ nullMark nullable

/-- The fully qualified texts of a list of types. -/
def canonicalList : List TypeName → List String
  | [] => []
  | type :: rest => type.canonical :: canonicalList rest

end

end TypeName

/-- The fully qualified text of a class with type arguments. -/
def AppliedClass.canonical (type : ClassType) : String := TypeName.classCanonical type

namespace AppliedClass

/-- A class without type arguments. -/
def ofName (name : ClassName) : ClassType := ⟨name, [], false⟩

/-- Apply a class that has no type arguments yet to at least one. -/
def withArguments (type : ClassType) (arguments : List TypeName) : Except NameError ClassType :=
  if !type.arguments.isEmpty then .error (.alreadyParameterized type.canonical)
  else if arguments.isEmpty then .error (.emptyTypeArguments type.canonical)
  else .ok { type with arguments := arguments }

/-- The same class, nullable or not. -/
def withNullability (type : ClassType) (nullable : Bool) : ClassType :=
  { type with nullable := nullable }

end AppliedClass

namespace BoundedVariable

/-- A type variable without variance, with the given upper bounds. -/
def bounded (name : String) (bounds : List TypeName) : TypeVariable :=
  ⟨name, bounds, none, false, false⟩

end BoundedVariable

namespace TypeName

/-- A class without type arguments, as a type. -/
def ofClass (name : ClassName) : TypeName := .declared (.ofName name)

/-- The class `Any`, nullable: the upper bound of everything. -/
def nullableAny : TypeName := .declared ⟨ClassName.any, [], true⟩

/-- The projection to the subtypes of `upper`; all types are subtypes of `Any?`, so that the
projection to those is `*`. -/
def producerOf (upper : TypeName) : TypeName :=
  if upper.canonical = nullableAny.canonical then .star else .producer upper

/-- Apply a class to type arguments; no other type takes any. -/
def withArguments (type : TypeName) (arguments : List TypeName) : Except NameError TypeName :=
  match type with
  | .declared c => (c.withArguments arguments).map .declared
  | other => .error (.notGeneric other.canonical)

/-- The same type, nullable or not.  Built-in types and arrays become classes when they are made
nullable; projections stay as they are. -/
def withNullability (type : TypeName) (nullable : Bool) : TypeName :=
  match type with
  | .declared c => .declared (c.withNullability nullable)
  | .variable v => .variable { v with nullable := nullable }
  | .primitive p => if nullable then .declared ⟨p.className, [], true⟩ else .primitive p
  | .array element =>
    if nullable then .declared ⟨Builtin.array.className, [element], true⟩ else .array element
  | other => other

/-- Whether the type is the built-in type `Unit`. -/
def isUnit : TypeName → Bool
  | .primitive .unit => true
  | _ => false

/-- Whether the type is marked as nullable. -/
def isNullable : TypeName → Bool
  | .declared c => c.nullable
  | .variable v => v.nullable
  | _ => false

/-- The upper bounds of a projection; no other type has any. -/
def upperBounds : TypeName → List TypeName
  | .star => [nullableAny]
  | .producer upper => [upper]
  | .consumer _ => [nullableAny]
  | _ => []

/-- The lower bounds of a projection; no other type has any. -/
def lowerBounds : TypeName → List TypeName
  | .consumer lower => [lower]
  | _ => []

/-- Type names are compared by their canonical texts. -/
def order (left right : TypeName) : Ordering := compare left.canonical right.canonical

/-- The types of a list in ascending order, each once. -/
def sorted (types : List TypeName) : List TypeName :=
  Text.sortDistinct (fun left right => left.order right == .lt) types

@[simp] theorem canonicalList_eq_map (types : List TypeName) :
    canonicalList types = types.map canonical := by
  induction types with
  | nil => rfl
  | cons type rest ih => simp [canonicalList, ih]

end TypeName

end KotlinSource
