import KotlinSource.Modifier
import KotlinSource.Name.Type

/-!
# Declarations

The declarations of a source file as plain data: annotation uses, parameters, properties,
functions, types and type aliases.  Documentation, bodies, initializers, arguments and default
values are pieces of code of some type `κ`; every declaration can be read at another type of code
by a map on its pieces.

## Main definitions

* `AnnotationUse`, `ParameterDecl`, `PropertyDecl`, `FunctionDecl`, `TypeDecl`, `AliasDecl`: the
  declarations.
* `TypeDecl.fold`: recursion over the types nested in a type and over the bodies of its enum
  constants.
* `AnnotationUse.map`, …, `AliasDecl.map`: the same declaration with other code.

## Main results

* `TypeDecl.fold_eq`: a fold sees the folds of the enum constants and of the nested types.
-/

namespace KotlinSource

variable {κ κ' : Type}

/-- The use of an annotation class, with values for some of its members. -/
structure AnnotationUse (κ : Type) where
  type : ClassType
  /-- The values of the members, each member at most once. -/
  members : List (String × κ)

/-- A parameter of a function or constructor. -/
structure ParameterDecl (κ : Type) where
  name : String
  type : TypeName
  modifiers : List Modifier
  annotations : List (AnnotationUse κ)
  default : Option κ

/-- A property, written with `val` or, if it is mutable, with `var`. -/
structure PropertyDecl (κ : Type) where
  name : String
  type : TypeName
  doc : κ
  annotations : List (AnnotationUse κ)
  modifiers : List Modifier
  isMutable : Bool
  initializer : Option κ
  /-- Static properties belong to the type, not to its instances. -/
  isStatic : Bool

/-- The class whose constructor another constructor calls first. -/
inductive DelegationTarget where
  | this | super
  deriving DecidableEq, Repr

/-- The keyword of a delegation target. -/
def DelegationTarget.keyword : DelegationTarget → String
  | .this => "this"
  | .super => "super"

/-- The call of another constructor with which a constructor starts. -/
structure Delegation (κ : Type) where
  target : DelegationTarget
  arguments : List κ

/-- A function, a member of an annotation class, or a constructor, which has no name of its own. -/
structure FunctionDecl (κ : Type) where
  name : Option String
  doc : κ
  annotations : List (AnnotationUse κ)
  modifiers : List Modifier
  typeVariables : List TypeVariable
  /-- The type that an extension function extends. -/
  receiver : Option TypeName
  parameters : List (ParameterDecl κ)
  returnType : Option TypeName
  body : κ
  /-- The default value of a member of an annotation class. -/
  default : Option κ
  delegation : Option (Delegation κ)

/-- What a type declaration declares. -/
inductive TypeKind where
  | plainClass | interface | enumClass | annotationClass | object
  deriving DecidableEq, Repr

/-- A class, interface, enum, annotation class or object.  Without a name it is an anonymous object
or the body of an enum constant. -/
structure TypeDecl (κ : Type) where
  kind : TypeKind
  name : Option String
  doc : κ
  annotations : List (AnnotationUse κ)
  modifiers : List Modifier
  typeVariables : List TypeVariable
  superclass : Option TypeName
  superArguments : List κ
  superinterfaces : List TypeName
  /-- The enum constants with their bodies, in the order of their declaration. -/
  constants : List (String × TypeDecl κ)
  properties : List (PropertyDecl κ)
  primary : Option (FunctionDecl κ)
  /-- Code that runs once for the type. -/
  staticBlock : κ
  /-- Code that runs for every instance. -/
  initBlock : κ
  functions : List (FunctionDecl κ)
  /-- The nested types. -/
  types : List (TypeDecl κ)

/-- Another name for a type. -/
structure AliasDecl (κ : Type) where
  name : String
  type : TypeName
  doc : κ
  annotations : List (AnnotationUse κ)
  modifiers : List Modifier
  typeVariables : List TypeVariable

/-! ### Kinds of types and functions -/

/-- The words that introduce a declaration of this kind. -/
def TypeKind.keyword : TypeKind → String
  | .plainClass => "class"
  | .interface => "interface"
  | .enumClass => "enum class"
  | .annotationClass => "annotation class"
  | .object => "object"

namespace FunctionDecl

/-- Whether the function is a constructor. -/
def isConstructor (f : FunctionDecl κ) : Bool := f.name.isNone

/-- The name of the function; every constructor is called `constructor`. -/
def displayName (f : FunctionDecl κ) : String := f.name.getD "constructor"

end FunctionDecl

namespace TypeDecl

/-- Whether the type has no name. -/
def isAnonymous (d : TypeDecl κ) : Bool := d.name.isNone

/-! ### Recursion over nested types -/

variable {α : Type}

mutual

/-- Recursion over the types in a type.  A node sees the type itself, its enum constants with their
bodies and the results for the bodies, and its nested types with the results for them. -/
def fold (node : TypeDecl κ → List (String × TypeDecl κ × α) → List (TypeDecl κ × α) → α) :
    TypeDecl κ → α
  | ⟨kind, name, doc, annotations, modifiers, typeVariables, superclass, superArguments,
      superinterfaces, constants, properties, primary, staticBlock, initBlock, functions, types⟩ =>
    node
      ⟨kind, name, doc, annotations, modifiers, typeVariables, superclass, superArguments,
        superinterfaces, constants, properties, primary, staticBlock, initBlock, functions, types⟩
      (foldConstants node constants) (foldTypes node types)

/-- The results of a fold for the bodies of enum constants. -/
def foldConstants (node : TypeDecl κ → List (String × TypeDecl κ × α) → List (TypeDecl κ × α) → α) :
    List (String × TypeDecl κ) → List (String × TypeDecl κ × α)
  | [] => []
  | (name, body) :: rest => (name, body, fold node body) :: foldConstants node rest

/-- The results of a fold for nested types. -/
def foldTypes (node : TypeDecl κ → List (String × TypeDecl κ × α) → List (TypeDecl κ × α) → α) :
    List (TypeDecl κ) → List (TypeDecl κ × α)
  | [] => []
  | d :: rest => (d, fold node d) :: foldTypes node rest

end

variable (node : TypeDecl κ → List (String × TypeDecl κ × α) → List (TypeDecl κ × α) → α)

theorem foldConstants_eq_map (constants : List (String × TypeDecl κ)) :
    foldConstants node constants = constants.map fun c => (c.1, c.2, fold node c.2) := by
  induction constants with
  | nil => rfl
  | cons c rest ih => simp [foldConstants, ih]

theorem foldTypes_eq_map (types : List (TypeDecl κ)) :
    foldTypes node types = types.map fun d => (d, fold node d) := by
  induction types with
  | nil => rfl
  | cons d rest ih => simp [foldTypes, ih]

/-- A fold sees the folds of the enum constants and of the nested types. -/
theorem fold_eq (d : TypeDecl κ) :
    fold node d = node d (d.constants.map fun c => (c.1, c.2, fold node c.2))
      (d.types.map fun t => (t, fold node t)) := by
  cases d
  simp [fold, foldConstants_eq_map, foldTypes_eq_map]

end TypeDecl

/-! ### The same declaration with other code -/

/-- An annotation use with its code replaced. -/
def AnnotationUse.map (f : κ → κ') (a : AnnotationUse κ) : AnnotationUse κ' :=
  ⟨a.type, a.members.map fun m => (m.1, f m.2)⟩

/-- A parameter with its code replaced. -/
def ParameterDecl.map (f : κ → κ') (p : ParameterDecl κ) : ParameterDecl κ' :=
  ⟨p.name, p.type, p.modifiers, p.annotations.map (AnnotationUse.map f), p.default.map f⟩

/-- A property with its code replaced. -/
def PropertyDecl.map (f : κ → κ') (p : PropertyDecl κ) : PropertyDecl κ' :=
  ⟨p.name, p.type, f p.doc, p.annotations.map (AnnotationUse.map f), p.modifiers, p.isMutable,
    p.initializer.map f, p.isStatic⟩

/-- A delegation with its code replaced. -/
def Delegation.map (f : κ → κ') (d : Delegation κ) : Delegation κ' :=
  ⟨d.target, d.arguments.map f⟩

/-- A function with its code replaced. -/
def FunctionDecl.map (f : κ → κ') (d : FunctionDecl κ) : FunctionDecl κ' :=
  ⟨d.name, f d.doc, d.annotations.map (AnnotationUse.map f), d.modifiers, d.typeVariables,
    d.receiver, d.parameters.map (ParameterDecl.map f), d.returnType, f d.body, d.default.map f,
    d.delegation.map (Delegation.map f)⟩

/-- A type with its code and the code of all types in it replaced. -/
def TypeDecl.map (f : κ → κ') : TypeDecl κ → TypeDecl κ' :=
  TypeDecl.fold fun d constants types =>
    ⟨d.kind, d.name, f d.doc, d.annotations.map (AnnotationUse.map f), d.modifiers,
      d.typeVariables, d.superclass, d.superArguments.map f, d.superinterfaces,
      constants.map fun c => (c.1, c.2.2), d.properties.map (PropertyDecl.map f),
      d.primary.map (FunctionDecl.map f), f d.staticBlock, f d.initBlock,
      d.functions.map (FunctionDecl.map f), types.map fun t => t.2⟩

/-- A type alias with its code replaced. -/
def AliasDecl.map (f : κ → κ') (d : AliasDecl κ) : AliasDecl κ' :=
  ⟨d.name, d.type, f d.doc, d.annotations.map (AnnotationUse.map f), d.modifiers,
    d.typeVariables⟩

end KotlinSource
