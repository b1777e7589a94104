import KotlinSource.Printing.Declaration

/-!
# Printing types

The tokens of a type whose code has been printed already.  The members of a type stand in groups
with a blank line between neighbours: its enum constants, its companion object, its properties, its
initializing code, each constructor, each function and each nested type.

A property with the name and type of a parameter of the primary constructor, whose initial value is
just that parameter, is declared by the parameter.

## Main definitions

* `TypeDecl.foldedProperty?`: the property that a parameter of the primary constructor declares.
* `TypeDecl.documentationTokens`: the documentation of a type, with that of such properties.
* `TypeDecl.memberGroups`: the groups of members of a type.
* `TypeDecl.namedTokens`, `TypeDecl.objectTokens`, `TypeDecl.tokens`: the declaration of a named
  type, an object expression, and either of them.
-/

namespace KotlinSource

namespace TypeDecl

/-! ### Properties declared by the primary constructor -/

/-- Whether a property is declared by a parameter of the primary constructor. -/
def isFoldedInto (p : ParameterDecl Tokens) (property : PropertyDecl Tokens) : Bool :=
  !property.isStatic && property.name == p.name &&
    property.type.canonical == p.type.canonical &&
    property.initializer.any fun value => Tokens.detached value == safeName p.name

/-- The property that a parameter of the primary constructor declares. -/
def foldedProperty? (d : TypeDecl Tokens) (p : ParameterDecl Tokens) :
    Option (PropertyDecl Tokens) :=
  d.properties.find? (isFoldedInto p)

/-- The properties that the parameters of the primary constructor declare. -/
def foldedProperties (d : TypeDecl Tokens) : List (PropertyDecl Tokens) :=
  d.primary.elim [] fun constructor => constructor.parameters.filterMap d.foldedProperty?

/-! ### Documentation -/

/-- Whether printed code ends its last line. -/
def endsLine (tokens : Tokens) : Bool := (Tokens.detached tokens).toList.getLast? == some '\n'

/-- The entry of a property in the documentation of its type. -/
def propertyEntry (property : PropertyDecl Tokens) : Tokens :=
  word ("@property " ++ safeName property.name ++ " ") ++ property.doc ++
    if endsLine property.doc then [] else word "\n"

/-- The documentation of a type, and behind it entries for the documented properties that the
primary constructor declares. -/
def documentationTokens (d : TypeDecl Tokens) : Tokens :=
  let documented := d.foldedProperties.filter fun property => !property.doc.isEmpty
  if documented.isEmpty then d.doc
  else
    d.doc ++
      (if d.doc.isEmpty then [] else word (if endsLine d.doc then "\n" else "\n\n")) ++
      documented.flatMap propertyEntry

/-! ### Constructors and supertypes -/

/-- A parameter of the primary constructor, together with the property that it declares. -/
def constructorParameter (d : TypeDecl Tokens) (p : ParameterDecl Tokens) : Tokens :=
  match d.foldedProperty? p with
  | none => p.tokens
  | some property =>
    annotationWords (property.annotations ++ p.annotations) ++
      modifierWords [.publicAccess] (Modifier.union property.modifiers p.modifiers) ++
      word property.keyword ++ nameWord p.name ++ typed p.type ++ assigned p.default

/-- The primary constructor.  Its keyword is written only behind annotations or modifiers. -/
def primaryTokens (d : TypeDecl Tokens) (constructor : FunctionDecl Tokens) : Tokens :=
  let isExplicit :=
    !constructor.annotations.isEmpty || constructor.modifiers.any fun m => m != .publicAccess
  (if isExplicit then
      word " " ++ annotationWords constructor.annotations ++
        modifierWords [.publicAccess] constructor.modifiers ++ word "constructor"
    else []) ++
    parameterList (constructor.parameters.map d.constructorParameter)

/-- A member of an annotation class. -/
def annotationMember (f : FunctionDecl Tokens) : Tokens :=
  word "val " ++ nameWord f.displayName ++ f.returnType.elim [] typed ++ assigned f.default

/-- What stands between parentheses behind the name of a type. -/
def constructorTokens (d : TypeDecl Tokens) : Tokens :=
  if d.kind = .annotationClass then
    if d.functions.isEmpty then [] else parameterList (d.functions.map annotationMember)
  else d.primary.elim [] d.primaryTokens

/-- The superclass of a type.  The arguments for its constructor are left to the secondary
constructors if there are only those. -/
def superclassTokens (d : TypeDecl Tokens) (superclass : TypeName) : Tokens :=
  superclass.tokens ++
    if d.primary.isSome || !d.functions.any FunctionDecl.isConstructor then
      codeArguments d.superArguments
    else []

/-- The supertypes of a type: nothing for none. -/
def supertypes (d : TypeDecl Tokens) : Tokens :=
  let all := d.superclass.toList.map d.superclassTokens ++ d.superinterfaces.map TypeName.tokens
  if all.isEmpty then [] else word " : " ++ listed (word ", ") all

/-! ### Members -/

/-- Whether what is static in the type is written in a companion object. -/
def hasCompanion (d : TypeDecl Tokens) : Bool := d.kind != .object && !d.isAnonymous

/-- The static properties. -/
def staticProperties (d : TypeDecl Tokens) : List (PropertyDecl Tokens) :=
  d.properties.filter PropertyDecl.isStatic

/-- The properties of the instances that the primary constructor does not declare. -/
def instanceProperties (d : TypeDecl Tokens) : List (PropertyDecl Tokens) :=
  let folded := d.foldedProperties.map PropertyDecl.name
  d.properties.filter fun property => !property.isStatic && !folded.contains property.name

/-- The properties that are written outside of a companion object. -/
def ownProperties (d : TypeDecl Tokens) : List (PropertyDecl Tokens) :=
  (if d.hasCompanion then [] else d.staticProperties) ++ d.instanceProperties

/-- The code that runs for every instance, or for the type if it has no companion object. -/
def initializingCode (d : TypeDecl Tokens) : Tokens :=
  (if d.hasCompanion then [] else d.staticBlock) ++
    d.primary.elim [] FunctionDecl.body ++ d.initBlock

/-- The functions and secondary constructors that are written among the members. -/
def memberFunctions (d : TypeDecl Tokens) : List (FunctionDecl Tokens) :=
  if d.kind = .annotationClass then [] else d.functions

/-- The companion object, if it holds anything. -/
def companionGroup (d : TypeDecl Tokens) : List Tokens :=
  if !d.hasCompanion || d.staticProperties.isEmpty && d.staticBlock.isEmpty then []
  else
    let properties := d.staticProperties.flatMap PropertyDecl.tokens
    let separator :=
      if d.staticProperties.isEmpty || d.staticBlock.isEmpty then []
      else operation .blankLine
    let code := if d.staticBlock.isEmpty then [] else initializer d.staticBlock
    [word "companion object" ++ block (properties ++ separator ++ code) ++ word "\n"]

/-- The properties, if there are any. -/
def propertyGroup (d : TypeDecl Tokens) : List Tokens :=
  if d.ownProperties.isEmpty then [] else [d.ownProperties.flatMap PropertyDecl.tokens]

/-- The initializing code, if there is any. -/
def initializerGroup (d : TypeDecl Tokens) : List Tokens :=
  if d.initializingCode.isEmpty then [] else [initializer d.initializingCode]

/-- The constructors, and behind them the functions, each in a group of its own. -/
def functionGroups (d : TypeDecl Tokens) : List Tokens :=
  (d.memberFunctions.filter FunctionDecl.isConstructor ++
      d.memberFunctions.filter fun f => !f.isConstructor).map
    (FunctionDecl.tokens (d.kind == .interface))

/-- Groups of members with a blank line between neighbours. -/
def groupsTokens (groups : List Tokens) : Tokens := listed (operation .blankLine) groups

/-- An enum constant with the groups of members of its body. -/
def constantTokens (name : String) (body : TypeDecl Tokens) (groups : List Tokens) : Tokens :=
  documentation body.doc ++ annotationLines body.annotations ++ nameWord name ++
    (if body.superArguments.isEmpty then [] else codeArguments body.superArguments) ++
    if groups.isEmpty then [] else block (groupsTokens groups)

/-- The enum constants, if there are any, before other groups. -/
def constantGroup (constants : List Tokens) (later : List Tokens) : List Tokens :=
  if constants.isEmpty then []
  else [listed (word ",\n") constants ++ word (if later.isEmpty then "\n" else ";\n")]

/-! ### Types -/

/-- The names of the named types nested in a type. -/
def nestedNames {κ : Type} (d : TypeDecl κ) : List String := d.types.filterMap TypeDecl.name

/-- The names of the functions of a type. -/
def functionNames {κ : Type} (d : TypeDecl κ) : List String := d.functions.filterMap FunctionDecl.name

/-- The body of a named type: nothing without members. -/
def bodyTokens (name : String) (d : TypeDecl Tokens) (groups : List Tokens) : Tokens :=
  if groups.isEmpty then word "\n"
  else
    word " \x7b\n" ++ [.enter name d.nestedNames d.functionNames] ++ operation (.indent 1) ++
      groupsTokens groups ++ operation (.unindent 1) ++ [.leave] ++ word "\x7d\n"

/-- The declaration of a named type with the groups of its members. -/
def namedTokens (name : String) (d : TypeDecl Tokens) (groups : List Tokens) : Tokens :=
  operation .suspend ++ documentation d.documentationTokens ++ annotationLines d.annotations ++
    modifierWords [.publicAccess] d.modifiers ++ word (d.kind.keyword ++ " ") ++ nameWord name ++
    typeVariableList d.typeVariables ++ d.constructorTokens ++ d.supertypes ++
    whereClause d.typeVariables ++ bodyTokens name d groups ++ operation .resume

/-- The supertype of an object expression. -/
def objectSupertype (d : TypeDecl Tokens) : Tokens :=
  match d.superclass, d.superinterfaces with
  | some superclass, _ => word " : " ++ superclass.tokens ++ codeArguments d.superArguments
  | none, superinterface :: _ => word " : " ++ superinterface.tokens
  | none, [] => []

/-- An object expression with the groups of its members. -/
def objectTokens (d : TypeDecl Tokens) (groups : List Tokens) : Tokens :=
  operation .suspend ++ word "object" ++ d.objectSupertype ++ block (groupsTokens groups) ++
    operation .resume

/-- The declaration of a type, or an object expression for a type without a name. -/
def declarationTokens (d : TypeDecl Tokens) (groups : List Tokens) : Tokens :=
  match d.name with
  | some name => namedTokens name d groups
  | none => objectTokens d groups

/-- The groups of members of a type. -/
def memberGroups : TypeDecl Tokens → List Tokens :=
  TypeDecl.fold fun d constants types =>
    let later := d.companionGroup ++ d.propertyGroup ++ d.initializerGroup ++ d.functionGroups ++
      types.map fun t => t.1.declarationTokens t.2
    constantGroup (constants.map fun c => constantTokens c.1 c.2.1 c.2.2) later ++ later

/-- The tokens of a type where it is declared. -/
def tokens (d : TypeDecl Tokens) : Tokens := d.declarationTokens d.memberGroups

/-- The tokens of a type where it is written as an expression. -/
def expressionTokens (d : TypeDecl Tokens) : Tokens := d.objectTokens d.memberGroups

end TypeDecl

end KotlinSource
