import KotlinSource.Code.Basic

/-!
# Reading code through its anonymous types

Code holds anonymous types, and these hold code again.  Whatever is computed from a piece of code
by replacing every instruction by a list of items is one recursion through both: `expand`.  An
anonymous type is replaced after all the code in it.

## Main definitions

* `Code.expand`: every instruction of a piece of code replaced by a list of items.
* `TypeDecl.expand`, …: the same for all the code in a declaration.

## Main results

* `Code.expand_eq_flatMap`: instructions are replaced one by one, in order.
* `Instruction.expand_object`: an anonymous type is replaced after the code in it.
* `TypeDecl.expand_eq_map`, …: in a declaration exactly its pieces of code are replaced.
-/

namespace KotlinSource

variable {τ : Type} (leaf : Instruction → List τ) (object : TypeDecl (List τ) → List τ)

namespace Code

mutual

/-- The items of one instruction. -/
def expandInstruction : Instruction → List τ
  | .object decl => object (expandType decl)
  | other => leaf other

/-- The items of a piece of code, instruction by instruction. -/
def expand : List Instruction → List τ
  | [] => []
  | i :: rest => expandInstruction i ++ expand rest

/-- The items of an optional piece of code. -/
def expandOption : Option (List Instruction) → Option (List τ)
  | none => none
  | some code => some (expand code)

/-- The items of several pieces of code. -/
def expandAll : List (List Instruction) → List (List τ)
  | [] => []
  | code :: rest => expand code :: expandAll rest

/-- The items of the values of annotation members. -/
def expandMembers : List (String × List Instruction) → List (String × List τ)
  | [] => []
  | (name, code) :: rest => (name, expand code) :: expandMembers rest

/-- An annotation use with its code expanded. -/
def expandAnnotationUse : AnnotationUse (List Instruction) → AnnotationUse (List τ)
  | ⟨type, members⟩ => ⟨type, expandMembers members⟩

/-- Annotation uses with their code expanded. -/
def expandAnnotationUses : List (AnnotationUse (List Instruction)) → List (AnnotationUse (List τ))
  | [] => []
  | a :: rest => expandAnnotationUse a :: expandAnnotationUses rest

/-- A parameter with its code expanded. -/
def expandParameter : ParameterDecl (List Instruction) → ParameterDecl (List τ)
  | ⟨name, type, modifiers, annotations, default⟩ =>
    ⟨name, type, modifiers, expandAnnotationUses annotations, expandOption default⟩

/-- Parameters with their code expanded. -/
def expandParameters : List (ParameterDecl (List Instruction)) → List (ParameterDecl (List τ))
  | [] => []
  | p :: rest => expandParameter p :: expandParameters rest

/-- A property with its code expanded. -/
def expandProperty : PropertyDecl (List Instruction) → PropertyDecl (List τ)
  | ⟨name, type, doc, annotations, modifiers, isMutable, initializer, isStatic⟩ =>
    ⟨name, type, expand doc, expandAnnotationUses annotations, modifiers, isMutable,
      expandOption initializer, isStatic⟩

/-- Properties with their code expanded. -/
def expandProperties : List (PropertyDecl (List Instruction)) → List (PropertyDecl (List τ))
  | [] => []
  | p :: rest => expandProperty p :: expandProperties rest

/-- A delegation with its code expanded. -/
def expandDelegation : Delegation (List Instruction) → Delegation (List τ)
  | ⟨target, arguments⟩ => ⟨target, expandAll arguments⟩

/-- An optional delegation with its code expanded. -/
def expandDelegationOption : Option (Delegation (List Instruction)) → Option (Delegation (List τ))
  | none => none
  | some d => some (expandDelegation d)

/-- A function with its code expanded. -/
def expandFunction : FunctionDecl (List Instruction) → FunctionDecl (List τ)
  | ⟨name, doc, annotations, modifiers, typeVariables, receiver, parameters, returnType, body,
      default, delegation⟩ =>
    ⟨name, expand doc, expandAnnotationUses annotations, modifiers, typeVariables, receiver,
      expandParameters parameters, returnType, expand body, expandOption default,
      expandDelegationOption delegation⟩

/-- An optional function with its code expanded. -/
def expandFunctionOption :
    Option (FunctionDecl (List Instruction)) → Option (FunctionDecl (List τ))
  | none => none
  | some f => some (expandFunction f)

/-- Functions with their code expanded. -/
def expandFunctions : List (FunctionDecl (List Instruction)) → List (FunctionDecl (List τ))
  | [] => []
  | f :: rest => expandFunction f :: expandFunctions rest

/-- A type with its code and the code of all types in it expanded. -/
def expandType : TypeDecl (List Instruction) → TypeDecl (List τ)
  | ⟨kind, name, doc, annotations, modifiers, typeVariables, superclass, superArguments,
      superinterfaces, constants, properties, primary, staticBlock, initBlock, functions, types⟩ =>
    ⟨kind, name, expand doc, expandAnnotationUses annotations, modifiers, typeVariables,
      superclass, expandAll superArguments, superinterfaces, expandConstants constants,
      expandProperties properties, expandFunctionOption primary, expand staticBlock,
      expand initBlock, expandFunctions functions, expandTypes types⟩

/-- The bodies of enum constants with their code expanded. -/
def expandConstants :
    List (String × TypeDecl (List Instruction)) → List (String × TypeDecl (List τ))
  | [] => []
  | (name, body) :: rest => (name, expandType body) :: expandConstants rest

/-- Types with their code expanded. -/
def expandTypes : List (TypeDecl (List Instruction)) → List (TypeDecl (List τ))
  | [] => []
  | d :: rest => expandType d :: expandTypes rest

end

/-! ### Expansion is a map -/

theorem expandInstruction_object (decl : TypeDecl Code) :
    expandInstruction leaf object (.object decl) = object (expandType leaf object decl) := by
  rw [expandInstruction]

@[simp] theorem expand_nil : expand leaf object [] = [] := by rw [expand]

@[simp] theorem expand_cons (i : Instruction) (rest : Code) :
    expand leaf object (i :: rest) = expandInstruction leaf object i ++ expand leaf object rest := by
  rw [expand]

/-- Instructions are replaced one by one, in order. -/
theorem expand_eq_flatMap (code : Code) :
    expand leaf object code = code.flatMap (expandInstruction leaf object) := by
  induction code with
  | nil => simp
  | cons i rest ih => simp [ih]

@[simp] theorem expand_append (left right : Code) :
    expand leaf object (left ++ right) = expand leaf object left ++ expand leaf object right := by
  simp [expand_eq_flatMap]

@[simp] theorem expandOption_eq_map (code : Option Code) :
    expandOption leaf object code = code.map (expand leaf object) := by
  cases code <;> simp [expandOption]

@[simp] theorem expandAll_eq_map (codes : List Code) :
    expandAll leaf object codes = codes.map (expand leaf object) := by
  induction codes with
  | nil => simp [expandAll]
  | cons code rest ih => simp [expandAll, ih]

@[simp] theorem expandAnnotationUse_eq_map (a : AnnotationUse Code) :
    expandAnnotationUse leaf object a = a.map (expand leaf object) := by
  obtain ⟨type, members⟩ := a
  have h : expandMembers leaf object members =
      members.map fun m => (m.1, expand leaf object m.2) := by
    induction members with
    | nil => simp [expandMembers]
    | cons m rest ih => simp [expandMembers, ih]
  simp [expandAnnotationUse, AnnotationUse.map, h]

@[simp] theorem expandAnnotationUses_eq_map (as : List (AnnotationUse Code)) :
    expandAnnotationUses leaf object as = as.map (AnnotationUse.map (expand leaf object)) := by
  induction as with
  | nil => simp [expandAnnotationUses]
  | cons a rest ih => simp [expandAnnotationUses, ih]

@[simp] theorem expandParameter_eq_map (p : ParameterDecl Code) :
    expandParameter leaf object p = p.map (expand leaf object) := by
  cases p
  simp [expandParameter, ParameterDecl.map]

@[simp] theorem expandParameters_eq_map (ps : List (ParameterDecl Code)) :
    expandParameters leaf object ps = ps.map (ParameterDecl.map (expand leaf object)) := by
  induction ps with
  | nil => simp [expandParameters]
  | cons p rest ih => simp [expandParameters, ih]

@[simp] theorem expandProperty_eq_map (p : PropertyDecl Code) :
    expandProperty leaf object p = p.map (expand leaf object) := by
  cases p
  simp [expandProperty, PropertyDecl.map]

@[simp] theorem expandProperties_eq_map (ps : List (PropertyDecl Code)) :
    expandProperties leaf object ps = ps.map (PropertyDecl.map (expand leaf object)) := by
  induction ps with
  | nil => simp [expandProperties]
  | cons p rest ih => simp [expandProperties, ih]

@[simp] theorem expandDelegation_eq_map (d : Delegation Code) :
    expandDelegation leaf object d = d.map (expand leaf object) := by
  cases d
  simp [expandDelegation, Delegation.map]

@[simp] theorem expandDelegationOption_eq_map (d : Option (Delegation Code)) :
    expandDelegationOption leaf object d = d.map (Delegation.map (expand leaf object)) := by
  cases d <;> simp [expandDelegationOption]

@[simp] theorem expandFunction_eq_map (f : FunctionDecl Code) :
    expandFunction leaf object f = f.map (expand leaf object) := by
  cases f
  simp [expandFunction, FunctionDecl.map]

@[simp] theorem expandFunctionOption_eq_map (f : Option (FunctionDecl Code)) :
    expandFunctionOption leaf object f = f.map (FunctionDecl.map (expand leaf object)) := by
  cases f <;> simp [expandFunctionOption]

@[simp] theorem expandFunctions_eq_map (fs : List (FunctionDecl Code)) :
    expandFunctions leaf object fs = fs.map (FunctionDecl.map (expand leaf object)) := by
  induction fs with
  | nil => simp [expandFunctions]
  | cons f rest ih => simp [expandFunctions, ih]

mutual

/-- In a type exactly its pieces of code are replaced. -/
theorem expandType_eq_map (d : TypeDecl Code) :
    expandType leaf object d = d.map (expand leaf object) := by
  obtain ⟨_, _, _, _, _, _, _, _, _, constants, _, _, _, _, _, types⟩ := d
  rw [TypeDecl.map, TypeDecl.fold_eq]
  simp only [expandType, expandAnnotationUses_eq_map, expandAll_eq_map, expandProperties_eq_map,
    expandFunctionOption_eq_map, expandFunctions_eq_map, expandConstants_eq_map,
    expandTypes_eq_map, List.map_map]
  rfl

/-- In the body of an enum constant exactly its pieces of code are replaced. -/
theorem expandConstants_eq_map (constants : List (String × TypeDecl Code)) :
    expandConstants leaf object constants =
      constants.map fun c => (c.1, c.2.map (expand leaf object)) := by
  match constants with
  | [] => simp [expandConstants]
  | (name, body) :: rest =>
    simp [expandConstants, expandType_eq_map body, expandConstants_eq_map rest]

/-- In nested types exactly their pieces of code are replaced. -/
theorem expandTypes_eq_map (types : List (TypeDecl Code)) :
    expandTypes leaf object types = types.map (TypeDecl.map (expand leaf object)) := by
  match types with
  | [] => simp [expandTypes]
  | d :: rest => simp [expandTypes, expandType_eq_map d, expandTypes_eq_map rest]

end

end Code

end KotlinSource
