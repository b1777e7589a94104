import KotlinSource.Proofs.Declaration.MemberOrder
import KotlinSource.Proofs.Naming.Bodies

/-!
# Types that can stand for each other

A type stands in other declarations in three ways: as a nested type, as the body of an enum constant
and, written as an object expression, in a piece of code.  If two types are printed alike wherever
they stand, and declare the same names, so are two declarations of which one has the first type
where the other one has the second.  Types with the same members are an example: what is printed
looks at constructors and functions, and at static properties and those of instances, one after the
other.

## Main definitions

* `TypeDecl.PrintedAlike`: printed types that look the same wherever they stand.
* `TypeDecl.Interchangeable`: types that are printed alike and declare the same names.
* `TypeDecl.fill`, `AliasDecl.fill`: declarations with open pieces of code.
* `Code.withObject`: a piece of code with an anonymous type in it.
* `TypeDecl.SameBut`: two types that are the same but for a type in them.

## Main results

* `TypeDecl.SameMembers.interchangeable`: types with the same members are interchangeable.
* `TypeDecl.SameBut.interchangeable`: so are types that are the same but for interchangeable types.
-/

namespace KotlinSource

namespace TypeDecl

/-! ### Printed types with the same members -/

namespace SameMembers

variable {κ κ' : Type}

/-- Other code leaves it open which members are the same. -/
theorem map {d e : TypeDecl κ} (h : d.SameMembers e) (f : κ → κ') :
    (d.map f).SameMembers (e.map f) := by
  rw [map_eq, map_eq]
  constructor
  case staticProperties =>
    simp only [List.filter_map]
    exact congrArg (List.map _) h.staticProperties
  case instanceProperties =>
    simp only [List.filter_map]
    exact congrArg (List.map _) h.instanceProperties
  case constructors =>
    simp only [List.filter_map]
    exact congrArg (List.map _) h.constructors
  case functions =>
    simp only [List.filter_map]
    exact congrArg (List.map _) h.functions
  all_goals simp only [h.kind, h.name, h.doc, h.annotations, h.modifiers, h.typeVariables,
    h.superclass, h.superArguments, h.superinterfaces, h.constants, h.primary, h.staticBlock,
    h.initBlock, h.types]

section Printed

variable {d e : TypeDecl Tokens} (h : d.SameMembers e)

include h

/-- Only properties of instances are declared by parameters. -/
theorem foldedProperty?_eq : d.foldedProperty? = e.foldedProperty? := by
  have hfind : ∀ (t : TypeDecl Tokens) (p : ParameterDecl Tokens),
      t.foldedProperty? p = (t.properties.filter fun q => !q.isStatic).find? (isFoldedInto p) := by
    intro t p
    rw [foldedProperty?, List.find?_filter]
    refine congrArg (fun test => t.properties.find? test) (funext fun property => ?_)
    rw [isFoldedInto, Bool.eq_iff_iff]
    simp only [decide_eq_true_eq, Bool.and_eq_true, and_assoc, and_self_left]
  funext p
  rw [hfind, hfind, h.instanceProperties]

theorem foldedProperties_eq : d.foldedProperties = e.foldedProperties := by
  rw [foldedProperties, foldedProperties, h.primary, h.foldedProperty?_eq]

theorem documentationTokens_eq : d.documentationTokens = e.documentationTokens := by
  rw [documentationTokens, documentationTokens, h.foldedProperties_eq, h.doc]

theorem constructorParameter_eq : d.constructorParameter = e.constructorParameter := by
  funext p
  rw [constructorParameter, constructorParameter, h.foldedProperty?_eq]

/-- Members of annotation classes are written in the order of all functions. -/
theorem constructorTokens_eq (hfunctions : d.kind = .annotationClass → d.functions = e.functions) :
    d.constructorTokens = e.constructorTokens := by
  have hprimary : d.primaryTokens = e.primaryTokens := by
    funext constructor
    rw [primaryTokens, primaryTokens, h.constructorParameter_eq]
  rw [constructorTokens, constructorTokens, ← h.kind, ← h.primary, ← hprimary]
  by_cases hkind : d.kind = .annotationClass
  · rw [hfunctions hkind]
  · rw [if_neg hkind, if_neg hkind]

theorem supertypes_eq : d.supertypes = e.supertypes := by
  have hsuperclass : d.superclassTokens = e.superclassTokens := by
    funext superclass
    rw [superclassTokens, superclassTokens, h.primary, h.any_isConstructor_eq, h.superArguments]
  rw [supertypes, supertypes, hsuperclass, h.superclass, h.superinterfaces]

theorem functionNames_eq : d.functionNames = e.functionNames := by
  -- constructors have no names
  have hnames : ∀ t : TypeDecl Tokens, t.functionNames =
      (t.functions.filter fun f => !f.isConstructor).filterMap FunctionDecl.name := by
    intro t
    rw [functionNames, List.filterMap_filter]
    refine congrArg (fun names => t.functions.filterMap names) (funext fun f => ?_)
    cases hname : f.name <;> simp [FunctionDecl.isConstructor, hname]
  rw [hnames, hnames, h.functions]

theorem hasCompanion_eq : d.hasCompanion = e.hasCompanion := by
  rw [hasCompanion, hasCompanion, isAnonymous, isAnonymous, h.kind, h.name]

theorem instanceProperties_eq : d.instanceProperties = e.instanceProperties := by
  have hfilter : ∀ t : TypeDecl Tokens, t.instanceProperties =
      (t.properties.filter fun p => !p.isStatic).filter fun p =>
        !(t.foldedProperties.map PropertyDecl.name).contains p.name := by
    intro t
    rw [TypeDecl.instanceProperties, List.filter_filter]
    exact List.filter_congr fun p _ => Bool.and_comm _ _
  rw [hfilter, hfilter, h.instanceProperties, h.foldedProperties_eq]

theorem companionGroup_eq : d.companionGroup = e.companionGroup := by
  have hproperties : d.staticProperties = e.staticProperties := h.staticProperties
  rw [companionGroup, companionGroup, h.hasCompanion_eq, hproperties, h.staticBlock]

theorem propertyGroup_eq : d.propertyGroup = e.propertyGroup := by
  have hproperties : d.staticProperties = e.staticProperties := h.staticProperties
  rw [propertyGroup, propertyGroup, ownProperties, ownProperties, h.hasCompanion_eq, hproperties,
    h.instanceProperties_eq]

theorem initializerGroup_eq : d.initializerGroup = e.initializerGroup := by
  rw [initializerGroup, initializerGroup, initializingCode, initializingCode, h.hasCompanion_eq,
    h.staticBlock, h.primary, h.initBlock]

theorem functionGroups_eq : d.functionGroups = e.functionGroups := by
  rw [functionGroups, functionGroups, memberFunctions, memberFunctions, h.kind]
  split
  · rfl
  · rw [h.constructors, h.functions]

theorem memberGroups_eq : d.memberGroups = e.memberGroups := by
  have hlater : d.laterGroups = e.laterGroups := by
    rw [laterGroups, laterGroups, h.companionGroup_eq, h.propertyGroup_eq, h.initializerGroup_eq,
      h.functionGroups_eq, h.types]
  rw [TypeDecl.memberGroups_eq, TypeDecl.memberGroups_eq, hlater, h.constants]

end Printed

end SameMembers

/-! ### Printed types that look the same -/

/-- Printed types that look the same wherever they stand: as declarations, as object expressions and
as the bodies of enum constants. -/
structure PrintedAlike (d e : TypeDecl Tokens) : Prop where
  name : d.name = e.name
  memberGroups : d.memberGroups = e.memberGroups
  declarationTokens : d.declarationTokens = e.declarationTokens
  objectTokens : d.objectTokens = e.objectTokens
  constantTokens : ∀ name, constantTokens name d = constantTokens name e

namespace PrintedAlike

variable {d e : TypeDecl Tokens}

theorem refl (d : TypeDecl Tokens) : d.PrintedAlike d := ⟨rfl, rfl, rfl, rfl, fun _ => rfl⟩

theorem tokens_eq (h : d.PrintedAlike e) : d.tokens = e.tokens := by
  rw [tokens, tokens, h.declarationTokens, h.memberGroups]

theorem expressionTokens_eq (h : d.PrintedAlike e) : d.expressionTokens = e.expressionTokens := by
  rw [expressionTokens, expressionTokens, h.objectTokens, h.memberGroups]

/-- Types that are printed alike can be nested in a type for each other. -/
theorem types (h : d.PrintedAlike e) (host : TypeDecl Tokens)
    (front behind : List (TypeDecl Tokens)) :
    PrintedAlike { host with types := front ++ d :: behind }
      { host with types := front ++ e :: behind } := by
  have hnested : nestedNames { host with types := front ++ d :: behind } =
      nestedNames { host with types := front ++ e :: behind } := by
    simp only [nestedNames, List.filterMap_append, List.filterMap_cons, h.name]
  have hlater : laterGroups { host with types := front ++ d :: behind } =
      laterGroups { host with types := front ++ e :: behind } := by
    simp only [laterGroups, List.map_append, List.map_cons, h.declarationTokens, h.memberGroups]
    rfl
  have hnamed : ∀ name, namedTokens name { host with types := front ++ d :: behind } =
      namedTokens name { host with types := front ++ e :: behind } := by
    intro name
    funext groups
    simp only [namedTokens, bodyTokens, hnested]
    rfl
  refine ⟨rfl, ?_, ?_, rfl, fun _ => rfl⟩
  · rw [memberGroups_eq, memberGroups_eq, hlater]
  · funext groups
    simp only [TypeDecl.declarationTokens, hnamed]
    rfl

/-- Types that are printed alike can be bodies of an enum constant for each other. -/
theorem constants (h : d.PrintedAlike e) (host : TypeDecl Tokens)
    (front behind : List (String × TypeDecl Tokens)) (name : String) :
    PrintedAlike { host with constants := front ++ (name, d) :: behind }
      { host with constants := front ++ (name, e) :: behind } := by
  refine ⟨rfl, ?_, rfl, rfl, fun _ => rfl⟩
  rw [TypeDecl.memberGroups_eq, TypeDecl.memberGroups_eq]
  simp only [List.map_append, List.map_cons, h.constantTokens, h.memberGroups]
  rfl

end PrintedAlike

/-- Printed types with the same members look the same. -/
theorem SameMembers.printedAlike {d e : TypeDecl Tokens} (h : d.SameMembers e)
    (hfunctions : d.kind = .annotationClass → d.functions = e.functions) : d.PrintedAlike e := by
  have hnested : d.nestedNames = e.nestedNames := by
    rw [nestedNames, nestedNames, h.types]
  have hobject : d.objectTokens = e.objectTokens := by
    funext groups
    rw [objectTokens, objectTokens, objectSupertype, objectSupertype, h.superclass,
      h.superinterfaces, h.superArguments]
  have hnamed : ∀ name, namedTokens name d = namedTokens name e := by
    intro name
    funext groups
    rw [namedTokens, namedTokens, bodyTokens, bodyTokens, hnested, h.functionNames_eq,
      h.documentationTokens_eq, h.constructorTokens_eq hfunctions, h.supertypes_eq, h.annotations,
      h.modifiers, h.kind, h.typeVariables]
  refine ⟨h.name, h.memberGroups_eq, ?_, hobject, fun name => ?_⟩
  · funext groups
    simp only [TypeDecl.declarationTokens, h.name, hnamed, hobject]
  · funext groups
    rw [TypeDecl.constantTokens, TypeDecl.constantTokens, h.doc, h.annotations, h.superArguments]

/-! ### Interchangeable types -/

/-- Types that are printed alike wherever they stand, and that declare the same names. -/
structure Interchangeable (d e : TypeDecl Code) : Prop where
  printed : d.printed.PrintedAlike e.printed
  mem_declaredNames : ∀ name, name ∈ d.declaredNames ↔ name ∈ e.declaredNames

/-- The names that a type declares do not depend on the code in it. -/
theorem declaredNames_map {κ : Type} (f g : κ → Code) (d : TypeDecl κ) :
    (d.map f).declaredNames = (d.map g).declaredNames := by
  induction d using induction with
  | node d hconstants htypes =>
    have hvariables : ∀ f : κ → Code, (fun t : FunctionDecl κ =>
        variableNames (t.map f).typeVariables) = fun t => variableNames t.typeVariables :=
      fun _ => rfl
    rw [declaredNames_eq, declaredNames_eq, map_eq, map_eq]
    simp only [List.flatMap_map, List.flatMap_append, Option.toList_map, hvariables,
      List.flatMap_congr hconstants, List.flatMap_congr htypes]

/-- Types with the same members are interchangeable, annotation classes if they also have them in
the same order. -/
theorem SameMembers.interchangeable {d e : TypeDecl Code} (h : d.SameMembers e)
    (hfunctions : d.kind = .annotationClass → d.functions = e.functions) :
    d.Interchangeable e := by
  constructor
  · refine (h.map Code.tokens).printedAlike fun hkind => ?_
    rw [map_eq] at hkind
    rw [map_eq, map_eq, hfunctions hkind]
  · intro name
    rw [declaredNames_eq, declaredNames_eq, h.name, h.typeVariables, h.primary, h.constants,
      h.types]
    simp only [List.mem_append, List.mem_flatMap, h.mem_functions_iff]

theorem printed_with_types (host : TypeDecl Code) (types : List (TypeDecl Code)) :
    printed { host with types := types } = { host.printed with types := types.map printed } := by
  rw [printed, printed, map_eq, map_eq]
  rfl

theorem printed_with_constants (host : TypeDecl Code) (constants : List (String × TypeDecl Code)) :
    printed { host with constants := constants } =
      { host.printed with constants := constants.map fun c => (c.1, c.2.printed) } := by
  rw [printed, printed, map_eq, map_eq]
  rfl

namespace Interchangeable

variable {d e : TypeDecl Code}

/-- Interchangeable types can be nested in a type for each other. -/
theorem types (h : d.Interchangeable e) (host : TypeDecl Code)
    (front behind : List (TypeDecl Code)) :
    Interchangeable { host with types := front ++ d :: behind }
      { host with types := front ++ e :: behind } := by
  constructor
  · rw [printed_with_types, printed_with_types, List.map_append, List.map_append, List.map_cons,
      List.map_cons]
    exact h.printed.types host.printed _ _
  · intro name
    rw [declaredNames_eq, declaredNames_eq]
    simp only [List.mem_append, List.flatMap_append, List.flatMap_cons, h.mem_declaredNames]

/-- Interchangeable types can be bodies of an enum constant for each other. -/
theorem constants (h : d.Interchangeable e) (host : TypeDecl Code)
    (front behind : List (String × TypeDecl Code)) (name : String) :
    Interchangeable { host with constants := front ++ (name, d) :: behind }
      { host with constants := front ++ (name, e) :: behind } := by
  constructor
  · rw [printed_with_constants, printed_with_constants, List.map_append, List.map_append,
      List.map_cons, List.map_cons]
    exact h.printed.constants host.printed _ _ name
  · intro name
    rw [declaredNames_eq, declaredNames_eq]
    simp only [List.mem_append, List.flatMap_append, List.flatMap_cons, h.mem_declaredNames]

end Interchangeable

end TypeDecl

/-! ### Types in other declarations -/

/-- A piece of code with an anonymous type in it. -/
def Code.withObject (front : Code) (d : TypeDecl Code) (behind : Code) : Code :=
  front ++ .object d :: behind

/-- A type with open pieces of code, all of them filled by the same code. -/
def TypeDecl.fill (host : TypeDecl (Option Code)) (code : Code) : TypeDecl Code :=
  host.map fun piece => piece.getD code

/-- A type alias with open pieces of code, all of them filled by the same code. -/
def AliasDecl.fill (host : AliasDecl (Option Code)) (code : Code) : AliasDecl Code :=
  host.map fun piece => piece.getD code

theorem TypeDecl.Interchangeable.tokens_withObject {d e : TypeDecl Code} (h : d.Interchangeable e)
    (front behind : Code) :
    (Code.withObject front d behind).tokens = (Code.withObject front e behind).tokens := by
  have hobject : ∀ t : TypeDecl Code, (Code.withObject front t behind).tokens =
      front.tokens ++ (t.printed.expressionTokens ++ behind.tokens) := by
    intro t
    rw [Code.tokens, Code.withObject, Code.expand_append, Code.expand,
      Code.expandInstruction_object_tokens]
    rfl
  rw [hobject, hobject, h.printed.expressionTokens_eq]

/-- Open pieces of code are printed as the code that fills them. -/
theorem Code.tokens_comp_getD (code : Code) :
    (Code.tokens ∘ fun piece : Option Code => piece.getD code) =
      fun piece => (piece.map Code.tokens).getD code.tokens := by
  funext piece
  cases piece <;> rfl

/-- The printed form of a type depends on the printed form of the code that fills it. -/
theorem TypeDecl.printed_fill (host : TypeDecl (Option Code)) (code : Code) :
    (host.fill code).printed =
      host.map fun piece => (piece.map Code.tokens).getD code.tokens := by
  rw [printed, fill, map_map, Code.tokens_comp_getD]

/-- The printed form of a type alias depends on the printed form of the code that fills it. -/
theorem AliasDecl.printed_fill (host : AliasDecl (Option Code)) (code : Code) :
    (host.fill code).printed =
      host.map fun piece => (piece.map Code.tokens).getD code.tokens := by
  rw [printed, fill, map_map, Code.tokens_comp_getD]

namespace TypeDecl

/-- Two types that are the same but for a type in them, at any depth: where it is `d` in the one, it
is `e` in the other. -/
inductive SameBut (d e : TypeDecl Code) : TypeDecl Code → TypeDecl Code → Prop
  | here : SameBut d e d e
  | type (host : TypeDecl Code) (front behind : List (TypeDecl Code)) {x y : TypeDecl Code}
      (h : SameBut d e x y) :
      SameBut d e { host with types := front ++ x :: behind }
        { host with types := front ++ y :: behind }
  | constant (host : TypeDecl Code) (front behind : List (String × TypeDecl Code)) (name : String)
      {x y : TypeDecl Code} (h : SameBut d e x y) :
      SameBut d e { host with constants := front ++ (name, x) :: behind }
        { host with constants := front ++ (name, y) :: behind }
  | code (host : TypeDecl (Option Code)) (front behind : Code) {x y : TypeDecl Code}
      (h : SameBut d e x y) :
      SameBut d e (host.fill (Code.withObject front x behind))
        (host.fill (Code.withObject front y behind))

/-- Types that are the same but for an interchangeable type are interchangeable. -/
theorem SameBut.interchangeable {d e x y : TypeDecl Code} (h : SameBut d e x y)
    (hinterchangeable : d.Interchangeable e) : x.Interchangeable y := by
  induction h with
  | here => exact hinterchangeable
  | type host front behind _ ih => exact ih.types host front behind
  | constant host front behind name _ ih => exact ih.constants host front behind name
  | code host front behind _ ih =>
    constructor
    · rw [printed_fill, printed_fill, ih.tokens_withObject]
      exact PrintedAlike.refl _
    · intro name
      rw [fill, fill, declaredNames_map]

end TypeDecl

end KotlinSource
