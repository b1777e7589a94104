import KotlinSource.Code.Basic
import KotlinSource.Declaration.Error
import KotlinSource.Lexical.Identifier

/-!
# Valid declarations

Whether a declaration can be written is checked by a list of rules.  The faults of a declaration
are listed in the order of the rules; a declaration with faults is refused for its first one.

## Main definitions

* `FunctionDecl.faults`, `TypeDecl.faults`, …: the faults of a declaration.
* `accept`: a declaration without faults, or its first fault.

## Main results

* `accept_eq_ok_iff`: a declaration is accepted, unchanged, exactly if it has no faults.
* `TypeDecl.constructorless_of_annotationClass`: valid annotation classes have no constructors.
-/

namespace KotlinSource

/-- The fault `e`, if the rule is broken. -/
def faultIf (broken : Bool) (e : DeclarationError) : List DeclarationError :=
  if broken then [e] else []

/-- A name is an identifier. -/
def nameFaults (name : String) (role : NameRole) : List DeclarationError :=
  faultIf (!isIdentifier name) (.invalidName name role)

/-- `value` without faults, or its first fault. -/
def accept {α : Type} (faults : List DeclarationError) (value : α) : Except DeclarationError α :=
  match faults with
  | [] => .ok value
  | e :: _ => .error e

/-- What is accepted is accepted unchanged, and has no faults. -/
theorem accept_eq_ok_iff {α : Type} {faults : List DeclarationError} {value result : α} :
    accept faults value = .ok result ↔ faults = [] ∧ value = result := by
  cases faults <;> simp [accept]

@[simp] theorem faultIf_eq_nil_iff {broken : Bool} {e : DeclarationError} :
    faultIf broken e = [] ↔ broken = false := by
  cases broken <;> simp [faultIf]

/-- The members of an annotation use have identifiers as names. -/
def AnnotationUse.faults (a : AnnotationUse Code) : List DeclarationError :=
  a.members.flatMap fun m => nameFaults m.1 .annotationMember

/-- A parameter has an identifier as its name. -/
def ParameterDecl.faults (p : ParameterDecl Code) : List DeclarationError :=
  nameFaults p.name .parameter

/-- A property has an identifier as its name. -/
def PropertyDecl.faults (p : PropertyDecl Code) : List DeclarationError :=
  nameFaults p.name .property

namespace FunctionDecl

/-- Whether the function has a body. -/
def hasBody (f : FunctionDecl Code) : Bool := !f.body.isEmpty

/-- Names are identifiers, constructors have no return type, only constructors call others first,
and abstract functions have no body. -/
def faults (f : FunctionDecl Code) : List DeclarationError :=
  f.name.toList.flatMap (fun name => nameFaults name .function) ++
    faultIf (f.isConstructor && f.returnType.isSome) .constructorWithReturnType ++
    faultIf (!f.isConstructor && f.delegation.isSome) (.delegationOnFunction f.displayName) ++
    faultIf (f.modifiers.contains .abstract && f.hasBody)
      (.abstractFunctionWithBody f.displayName) ++
    f.parameters.flatMap ParameterDecl.faults

/-- A member of the annotation class `type` has a type, and neither body nor parameters. -/
def annotationMemberFaults (type : String) (f : FunctionDecl Code) : List DeclarationError :=
  faultIf f.hasBody (.annotationMemberWithBody type f.displayName) ++
    faultIf (!f.parameters.isEmpty) (.annotationMemberWithParameters type f.displayName) ++
    faultIf f.returnType.isNone (.annotationMemberWithoutType type f.displayName)

end FunctionDecl

namespace TypeDecl

/-- The name of the type in failures. -/
def displayName (d : TypeDecl Code) : String := d.name.getD "<anonymous>"

/-- Enums, and only they, have constants, which are identifiers and all different.  A constant that
was declared again is handed in beside the type. -/
def constantFaults (d : TypeDecl Code) (repeated : Option String) : List DeclarationError :=
  faultIf (d.kind == .enumClass && d.constants.isEmpty) (.enumWithoutConstants d.displayName) ++
    faultIf (d.kind != .enumClass && !d.constants.isEmpty) (.constantsOnNonEnum d.displayName) ++
    repeated.toList.map (fun c => .duplicateEnumConstant d.displayName c) ++
    d.constants.flatMap fun c => nameFaults c.1 .enumConstant

/-- An anonymous type has neither type variables nor modifiers, and at most one supertype. -/
def anonymityFaults (d : TypeDecl Code) : List DeclarationError :=
  if d.isAnonymous then
    faultIf (!d.typeVariables.isEmpty) .anonymousTypeVariables ++
      faultIf (!d.modifiers.isEmpty) .anonymousModifiers ++
      faultIf (d.superclass.toList.length + d.superinterfaces.length > 1) .anonymousSupertypes
  else []

/-- The kind of the type, if types of that kind have no constructors. -/
def constructorlessKind? (d : TypeDecl Code) : Option ConstructorlessKind :=
  if d.isAnonymous then some .anonymousType
  else
    match d.kind with
    | .interface => some .interface
    | .annotationClass => some .annotationClass
    | .object => some .object
    | .plainClass | .enumClass => none

/-- Whether the type has a constructor. -/
def hasConstructor (d : TypeDecl Code) : Bool :=
  d.primary.isSome || d.functions.any FunctionDecl.isConstructor

/-- Only named classes and enums have constructors. -/
def constructorFaults (d : TypeDecl Code) : List DeclarationError :=
  match d.constructorlessKind? with
  | some kind => faultIf d.hasConstructor (.constructorNotAllowed d.displayName kind)
  | none => []

/-- An interface has no code of its own and no superclass. -/
def interfaceFaults (d : TypeDecl Code) : List DeclarationError :=
  if d.kind = .interface then
    faultIf (!d.staticBlock.isEmpty || !d.initBlock.isEmpty)
        (.interfaceInitializer d.displayName) ++
      faultIf d.superclass.isSome (.interfaceSuperclass d.displayName)
  else []

/-- The functions of an annotation class are its members; all others have no default value. -/
def functionFaults (d : TypeDecl Code) (f : FunctionDecl Code) : List DeclarationError :=
  if d.kind = .annotationClass then f.annotationMemberFaults d.displayName
  else faultIf f.default.isSome (.defaultValueOutsideAnnotationClass d.displayName f.displayName)

/-- All faults of a type.  The functions, constructors and types in it have been checked before. -/
def faults (d : TypeDecl Code) (repeated : Option String) : List DeclarationError :=
  d.name.toList.flatMap (fun name => nameFaults name .type) ++ d.constantFaults repeated ++
    d.anonymityFaults ++ d.constructorFaults ++ d.interfaceFaults ++
    d.functions.flatMap d.functionFaults

/-- An annotation class without faults has neither a primary nor a secondary constructor. -/
theorem constructorless_of_annotationClass {d : TypeDecl Code} {repeated : Option String}
    (hkind : d.kind = .annotationClass) (h : d.faults repeated = []) :
    d.primary = none ∧ ∀ f ∈ d.functions, f.isConstructor = false := by
  have hfaults : d.constructorFaults = [] := by
    simp only [faults, List.append_eq_nil_iff] at h
    exact h.1.1.2
  have hconstructor : d.hasConstructor = false := by
    rw [constructorFaults, constructorlessKind?, hkind] at hfaults
    cases hanonymous : d.isAnonymous <;> simpa [hanonymous] using hfaults
  simpa [hasConstructor] using hconstructor

end TypeDecl

/-- The modifiers that a type alias may have. -/
def aliasModifiers : List Modifier := [.publicAccess, .internalAccess, .privateAccess, .actual]

/-- A type alias has an identifier as its name, and only some modifiers. -/
def AliasDecl.faults (d : AliasDecl Code) : List DeclarationError :=
  nameFaults d.name .typeAlias ++
    (d.modifiers.filter fun m => !aliasModifiers.contains m).map fun m => .aliasModifier m d.name

end KotlinSource
