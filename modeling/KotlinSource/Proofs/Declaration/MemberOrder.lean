import KotlinSource.Declaration.Building
import Mathlib.Data.List.Perm.Basic

/-!
# The order of the parts of a type

Every part of a type adds to the members of one kind.  Constructors share a list with functions and
static properties share one with the properties of instances, but the members of one kind keep to
themselves in it: what a type has of a kind depends on the parts of that kind and on their order,
whatever stands between them.  Types whose parts agree kind by kind therefore have the same members,
and one of them is valid if the other one is.

## Main definitions

* `MemberKind`, `TypePart.kind`: the kinds of members.
* `TypePart.Reordered`: two lists with the same parts, in the same order for every kind.
* `TypeDraft.only`: a draft with nothing but its members of one kind.
* `TypeDecl.SameMembers`: types with the same members of every kind.

## Main results

* `TypeDraft.only_foldl`: the members of one kind come from the parts of that kind.
* `TypePart.Reordered.sameMembers`: reordered parts give the same members.
* `TypeDecl.SameMembers.faults_eq_nil_iff`: of two types with the same members both are valid or
  neither is.
-/

namespace KotlinSource

/-! ### Kinds of members -/

/-- The kinds of members of a type.  The superclass, its arguments and the superinterfaces are three
kinds, as they are kept apart from each other. -/
inductive MemberKind where
  | doc | annotationUse | modifier | typeVariable | superclass | superArgument | superinterface
  | constant | staticProperty | instanceProperty | primary | constructor | function | type
  | staticBlock | initBlock
  deriving DecidableEq, Repr

namespace TypePart

/-- The kind of members to which a part adds. -/
def kind : TypePart → MemberKind
  | .doc _ => .doc
  | .annotate _ => .annotationUse
  | .modifiers _ => .modifier
  | .typeVariable _ => .typeVariable
  | .superclass _ => .superclass
  | .superArgument _ => .superArgument
  | .superinterface _ => .superinterface
  | .constant _ _ => .constant
  | .property p => if p.isStatic then .staticProperty else .instanceProperty
  | .primary _ => .primary
  | .function f => if f.isConstructor then .constructor else .function
  | .type _ => .type
  | .staticBlock _ => .staticBlock
  | .initBlock _ => .initBlock

/-- The parts of one kind, in order. -/
def ofKind (k : MemberKind) (parts : List TypePart) : List TypePart :=
  parts.filter fun part => part.kind = k

theorem exists_modifiers_of_kind {part : TypePart} (h : part.kind = .modifier) :
    ∃ ms, part = .modifiers ms := by
  cases part with
  | modifiers ms => exact ⟨ms, rfl⟩
  | property p => cases hstatic : p.isStatic <;> simp [kind, hstatic] at h
  | function f => cases hconstructor : f.isConstructor <;> simp [kind, hconstructor] at h
  | _ => cases h

/-- Two lists of the same parts, in the same order for every kind.  The order of modifiers is
free. -/
structure Reordered (parts others : List TypePart) : Prop where
  perm : parts.Perm others
  ofKind : ∀ k, k ≠ .modifier → ofKind k parts = ofKind k others

end TypePart

/-! ### The members of one kind -/

namespace TypeDraft

/-- A draft with nothing but its members of one kind. -/
def only (k : MemberKind) (draft : TypeDraft) : TypeDraft :=
  let d := draft.decl
  let bare := (start d.kind d.name).decl
  match k with
  | .doc => ofDecl { bare with doc := d.doc }
  | .annotationUse => ofDecl { bare with annotations := d.annotations }
  | .modifier => ofDecl { bare with modifiers := d.modifiers }
  | .typeVariable => ofDecl { bare with typeVariables := d.typeVariables }
  | .superclass => ofDecl { bare with superclass := d.superclass }
  | .superArgument => ofDecl { bare with superArguments := d.superArguments }
  | .superinterface => ofDecl { bare with superinterfaces := d.superinterfaces }
  | .constant => ⟨{ bare with constants := d.constants }, draft.repeatedConstant⟩
  | .staticProperty => ofDecl { bare with properties := d.properties.filter PropertyDecl.isStatic }
  | .instanceProperty =>
    ofDecl { bare with properties := d.properties.filter fun p => !p.isStatic }
  | .primary => ofDecl { bare with primary := d.primary }
  | .constructor => ofDecl { bare with functions := d.functions.filter FunctionDecl.isConstructor }
  | .function => ofDecl { bare with functions := d.functions.filter fun f => !f.isConstructor }
  | .type => ofDecl { bare with types := d.types }
  | .staticBlock => ofDecl { bare with staticBlock := d.staticBlock }
  | .initBlock => ofDecl { bare with initBlock := d.initBlock }

/-- A part adds to the members of its own kind and leaves the others alone. -/
theorem only_add (k : MemberKind) (draft : TypeDraft) (part : TypePart) :
    (draft.add part).only k = if part.kind = k then (draft.only k).add part else draft.only k := by
  cases part with
  | constant name body =>
    by_cases hseen : draft.decl.constants.any (fun c => c.1 == name) = true
    · cases k <;> simp [add, addConstant, hseen, only, TypePart.kind]
    · cases k <;> simp [add, addConstant, hseen, only, TypePart.kind, start]
  | property p =>
    cases hstatic : p.isStatic <;> cases k <;> simp [add, only, TypePart.kind, hstatic, ofDecl]
  | function f =>
    cases hconstructor : f.isConstructor <;> cases k <;>
      simp [add, only, TypePart.kind, hconstructor, ofDecl]
  | _ => cases k <;> rfl

/-- The members of one kind come from the parts of that kind. -/
theorem only_foldl (k : MemberKind) (draft : TypeDraft) (parts : List TypePart) :
    (parts.foldl add draft).only k = (TypePart.ofKind k parts).foldl add (draft.only k) := by
  induction parts generalizing draft with
  | nil => rfl
  | cons part rest ih =>
    rw [List.foldl_cons, ih, only_add, TypePart.ofKind, TypePart.ofKind, List.filter_cons]
    by_cases hkind : part.kind = k <;> simp [hkind]

/-- Reordered parts give the same members of every kind. -/
theorem only_foldl_eq {parts others : List TypePart} (h : TypePart.Reordered parts others)
    (k : MemberKind) (draft : TypeDraft) :
    (parts.foldl add draft).only k = (others.foldl add draft).only k := by
  rw [only_foldl, only_foldl]
  by_cases hk : k = .modifier
  -- the modifiers may have changed places, but adding them commutes
  · have hperm : (TypePart.ofKind k parts).Perm (TypePart.ofKind k others) := h.perm.filter _
    refine hperm.foldl_eq' (fun part hpart other hother draft => ?_) _
    have hmodifier : ∀ part ∈ TypePart.ofKind k parts, part.kind = .modifier := by
      intro part hpart
      simpa [TypePart.ofKind, hk] using (List.mem_filter.1 hpart).2
    obtain ⟨ms, rfl⟩ := TypePart.exists_modifiers_of_kind (hmodifier part hpart)
    obtain ⟨ns, rfl⟩ := TypePart.exists_modifiers_of_kind (hmodifier other hother)
    simp only [add, Modifier.union_right_comm _ ms ns]
  · rw [h.ofKind k hk]

end TypeDraft

/-! ### Types with the same members -/

namespace TypeDecl

variable {κ : Type}

/-- Types with the same members of every kind.  Only constructors and functions, and static
properties and those of instances, may be mixed in another way. -/
structure SameMembers (d e : TypeDecl κ) : Prop where
  kind : d.kind = e.kind
  name : d.name = e.name
  doc : d.doc = e.doc
  annotations : d.annotations = e.annotations
  modifiers : d.modifiers = e.modifiers
  typeVariables : d.typeVariables = e.typeVariables
  superclass : d.superclass = e.superclass
  superArguments : d.superArguments = e.superArguments
  superinterfaces : d.superinterfaces = e.superinterfaces
  constants : d.constants = e.constants
  staticProperties :
    d.properties.filter PropertyDecl.isStatic = e.properties.filter PropertyDecl.isStatic
  instanceProperties :
    (d.properties.filter fun p => !p.isStatic) = e.properties.filter fun p => !p.isStatic
  primary : d.primary = e.primary
  staticBlock : d.staticBlock = e.staticBlock
  initBlock : d.initBlock = e.initBlock
  constructors :
    d.functions.filter FunctionDecl.isConstructor = e.functions.filter FunctionDecl.isConstructor
  functions :
    (d.functions.filter fun f => !f.isConstructor) = e.functions.filter fun f => !f.isConstructor
  types : d.types = e.types

end TypeDecl

namespace TypeDraft

/-- Drafts with the same members of every kind hold types with the same members. -/
theorem sameMembers_of_only_eq {draft other : TypeDraft} (h : ∀ k, draft.only k = other.only k) :
    draft.decl.SameMembers other.decl where
  kind := congrArg (fun draft => draft.decl.kind) (h .doc)
  name := congrArg (fun draft => draft.decl.name) (h .doc)
  doc := congrArg (fun draft => draft.decl.doc) (h .doc)
  annotations := congrArg (fun draft => draft.decl.annotations) (h .annotationUse)
  modifiers := congrArg (fun draft => draft.decl.modifiers) (h .modifier)
  typeVariables := congrArg (fun draft => draft.decl.typeVariables) (h .typeVariable)
  superclass := congrArg (fun draft => draft.decl.superclass) (h .superclass)
  superArguments := congrArg (fun draft => draft.decl.superArguments) (h .superArgument)
  superinterfaces := congrArg (fun draft => draft.decl.superinterfaces) (h .superinterface)
  constants := congrArg (fun draft => draft.decl.constants) (h .constant)
  staticProperties := congrArg (fun draft => draft.decl.properties) (h .staticProperty)
  instanceProperties := congrArg (fun draft => draft.decl.properties) (h .instanceProperty)
  primary := congrArg (fun draft => draft.decl.primary) (h .primary)
  staticBlock := congrArg (fun draft => draft.decl.staticBlock) (h .staticBlock)
  initBlock := congrArg (fun draft => draft.decl.initBlock) (h .initBlock)
  constructors := congrArg (fun draft => draft.decl.functions) (h .constructor)
  functions := congrArg (fun draft => draft.decl.functions) (h .function)
  types := congrArg (fun draft => draft.decl.types) (h .type)

end TypeDraft

namespace TypePart.Reordered

variable {parts others : List TypePart}

/-- Reordered parts give the same members. -/
theorem sameMembers (h : Reordered parts others) (draft : TypeDraft) :
    (parts.foldl TypeDraft.add draft).decl.SameMembers (others.foldl TypeDraft.add draft).decl :=
  TypeDraft.sameMembers_of_only_eq fun k => TypeDraft.only_foldl_eq h k draft

/-- Reordered parts repeat the same enum constant first. -/
theorem repeatedConstant_eq (h : Reordered parts others) (draft : TypeDraft) :
    (parts.foldl TypeDraft.add draft).repeatedConstant =
      (others.foldl TypeDraft.add draft).repeatedConstant :=
  congrArg (fun draft => draft.repeatedConstant) (TypeDraft.only_foldl_eq h .constant draft)

end TypePart.Reordered

namespace TypeDecl.SameMembers

variable {κ : Type} {d e : TypeDecl κ}

theorem mem_functions_iff (h : d.SameMembers e) (f : FunctionDecl κ) :
    f ∈ d.functions ↔ f ∈ e.functions := by
  have hconstructors : f ∈ d.functions.filter FunctionDecl.isConstructor ↔
      f ∈ e.functions.filter FunctionDecl.isConstructor := by
    rw [h.constructors]
  have hfunctions : (f ∈ d.functions.filter fun f => !f.isConstructor) ↔
      f ∈ e.functions.filter fun f => !f.isConstructor := by
    rw [h.functions]
  simp only [List.mem_filter, Bool.not_eq_true'] at hconstructors hfunctions
  cases hf : f.isConstructor <;> simp_all

theorem any_isConstructor_eq (h : d.SameMembers e) :
    d.functions.any FunctionDecl.isConstructor = e.functions.any FunctionDecl.isConstructor := by
  rw [Bool.eq_iff_iff, List.any_eq_true, List.any_eq_true]
  simp only [h.mem_functions_iff]

end TypeDecl.SameMembers

/-! ### Valid types with the same members -/

namespace TypeDecl

variable {d e : TypeDecl Code} {repeated : Option String}

/-- A valid annotation class has no constructor among its functions. -/
theorem functions_eq_of_annotationClass (hkind : d.kind = .annotationClass)
    (h : d.faults repeated = []) :
    d.functions = d.functions.filter fun f => !f.isConstructor := by
  refine (List.filter_eq_self.2 fun f hf => ?_).symm
  rw [(constructorless_of_annotationClass hkind h).2 f hf, Bool.not_false]

namespace SameMembers

/-- Of two types with the same members both are valid or neither is. -/
theorem faults_eq_nil_iff (h : d.SameMembers e) :
    d.faults repeated = [] ↔ e.faults repeated = [] := by
  have hdisplay : d.displayName = e.displayName := by
    rw [displayName, displayName, h.name]
  have hconstants : d.constantFaults repeated = e.constantFaults repeated := by
    rw [constantFaults, constantFaults, hdisplay, h.kind, h.constants]
  have hanonymity : d.anonymityFaults = e.anonymityFaults := by
    rw [anonymityFaults, anonymityFaults, isAnonymous, isAnonymous, h.name, h.typeVariables,
      h.modifiers, h.superclass, h.superinterfaces]
  have hconstructors : d.constructorFaults = e.constructorFaults := by
    rw [constructorFaults, constructorFaults, hdisplay, hasConstructor, hasConstructor,
      constructorlessKind?, constructorlessKind?, isAnonymous, isAnonymous, h.kind, h.name,
      h.primary, h.any_isConstructor_eq]
  have hinterface : d.interfaceFaults = e.interfaceFaults := by
    rw [interfaceFaults, interfaceFaults, hdisplay, h.kind, h.staticBlock, h.initBlock,
      h.superclass]
  have hfunction : d.functionFaults = e.functionFaults := by
    funext f
    rw [functionFaults, functionFaults, hdisplay, h.kind]
  rw [faults, faults, h.name, hconstants, hanonymity, hconstructors, hinterface, hfunction]
  simp only [List.append_eq_nil_iff, List.flatMap_eq_nil_iff, h.mem_functions_iff]

/-- Valid annotation classes with the same members have the same functions, constructors or not. -/
theorem functions_eq (h : d.SameMembers e) (hd : d.faults repeated = [])
    (hkind : d.kind = .annotationClass) : d.functions = e.functions := by
  have he : e.faults repeated = [] := h.faults_eq_nil_iff.1 hd
  rw [functions_eq_of_annotationClass hkind hd, h.functions,
    ← functions_eq_of_annotationClass (h.kind ▸ hkind) he]

end SameMembers

end TypeDecl

end KotlinSource
