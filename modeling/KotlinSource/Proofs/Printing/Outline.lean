import KotlinSource.Proofs.Printing.Closure
import Mathlib.Data.List.Nodup

/-!
# What a declaration writes

The printer decides in three places which properties the primary constructor declares: where it
writes the parameters, where it puts entries into the documentation of the type, and where it
collects the properties that are left for lines of their own.  An outline of a type decides this
once.  It lists everything that is written in the declaration of the type, place by place, and is
printed entry by entry.  The printer agrees with it, and every member of the type has exactly one
place in it, so that no member is lost or written twice.

## Main definitions

* `ParameterDecl.declares`: the properties that a parameter of the primary constructor declares.
* `Outline`, `TypeDecl.outline`: what is written in the declaration of a type, place by place.
* `Outline.parameterTokens`, `Outline.annotationMemberTokens`, `Outline.constantLines`,
  `Outline.propertyTokens`: the printed forms of what an outline lists.
* `Outline.tokens`: an outline, printed entry by entry.
* `Outline.Accounts`: every member of a type has exactly one place in an outline.

## Main results

* `TypeDecl.outline_accounts`: the outline of a valid type accounts for its members.
* `TypeDecl.printed_tokens_eq_and_accounts`: a valid type is printed as its outline says.
-/

namespace KotlinSource

open scoped List

/-! ### Code that prints nothing -/

theorem TypeName.tokens_ne_nil (t : TypeName) : t.tokens ≠ [] := by
  cases t with
  | declared type =>
    cases type
    simp [tokens, classTokens]
  | _ => simp [tokens, nameWord, word]

/-- Every instruction prints something. -/
theorem Code.isEmpty_tokens (code : Code) : code.tokens.isEmpty = code.isEmpty := by
  cases code with
  | nil => rfl
  | cons i rest =>
    have hprints : Code.expandInstruction Instruction.tokens TypeDecl.expressionTokens i ≠ [] := by
      cases i with
      | type t => exact TypeName.tokens_ne_nil t
      | object decl =>
        rw [Code.expandInstruction_object_tokens, TypeDecl.expressionTokens, TypeDecl.objectTokens]
        simp [operation]
      | _ => exact List.cons_ne_nil _ _
    rw [Code.tokens, Code.expand]
    simp [hprints]

/-! ### Outlines -/

/-- Whether a parameter of the primary constructor declares a property: a property of instances with
the name and the type of the parameter, whose initial value is just the parameter. -/
def ParameterDecl.declares (p : ParameterDecl Code) (property : PropertyDecl Code) : Bool :=
  !property.isStatic && property.name == p.name && property.type.canonical == p.type.canonical &&
    property.initializer.any fun value => value.text == safeName p.name

/-- What is written in the declaration of a named type, place by place. -/
structure Outline where
  /-- The properties with an entry in the documentation of the type. -/
  entries : List (PropertyDecl Code)
  /-- The parameters of the primary constructor, each with the property that it declares. -/
  parameters : List (ParameterDecl Code × Option (PropertyDecl Code))
  /-- The members of an annotation class, which stand in the place of such parameters. -/
  annotationMembers : List (FunctionDecl Code)
  /-- The enum constants with their bodies. -/
  constants : List (String × TypeDecl Code)
  /-- The properties in the companion object. -/
  companionProperties : List (PropertyDecl Code)
  /-- The code in the companion object. -/
  companionCode : Code
  /-- The properties on lines of their own. -/
  properties : List (PropertyDecl Code)
  /-- The initializing code. -/
  code : Code
  /-- The secondary constructors. -/
  constructors : List (FunctionDecl Code)
  functions : List (FunctionDecl Code)
  /-- The nested types. -/
  types : List (TypeDecl Code)

namespace Outline

variable (o : Outline) (name : String) (d : TypeDecl Code)

/-- The properties that are declared by parameters. -/
def declared : List (PropertyDecl Code) := o.parameters.filterMap Prod.snd

/-- The properties on lines, in the companion object or outside of it. -/
def lines : List (PropertyDecl Code) := o.companionProperties ++ o.properties

/-! ### Printing outlines -/

/-- The entry of a property, which ends its line. -/
def entryTokens (property : PropertyDecl Code) : Tokens :=
  word ("@property " ++ safeName property.name ++ " ") ++ property.doc.tokens ++
    if TypeDecl.endsLine property.doc.tokens then [] else word "\n"

/-- The documentation of the type, and the entries behind it. -/
def documentation : Tokens :=
  let doc := d.doc.tokens
  let separator := if TypeDecl.endsLine doc then "\n" else "\n\n"
  if o.entries.isEmpty then doc
  else
    doc ++ (if d.doc.isEmpty then [] else word separator) ++
      o.entries.flatMap entryTokens

/-- A parameter of the primary constructor, with `val` or `var` if it declares a property. -/
def parameterTokens : ParameterDecl Code × Option (PropertyDecl Code) → Tokens
  | (p, none) => p.printed.tokens
  | (p, some property) =>
    annotationWords (property.printed.annotations ++ p.printed.annotations) ++
      modifierWords [.publicAccess] (Modifier.union property.modifiers p.modifiers) ++
      word property.keyword ++ nameWord p.name ++ typed p.type ++ assigned p.printed.default

/-- What stands before the parameters of the primary constructor: its keyword behind its annotations
and modifiers, if there are any. -/
def constructorKeyword (constructor : FunctionDecl Code) : Tokens :=
  if !constructor.annotations.isEmpty || constructor.modifiers.any fun m => m != .publicAccess then
    word " " ++ annotationWords constructor.printed.annotations ++
      modifierWords [.publicAccess] constructor.modifiers ++ word "constructor"
  else []

/-- A member of an annotation class, which is written like a property: its name, its type and the
value that it has by default. -/
def annotationMemberTokens (f : FunctionDecl Code) : Tokens :=
  word "val " ++ f.name.elim [] nameWord ++
    (f.returnType.elim [] fun type => word ": " ++ type.tokens) ++
    f.default.elim [] fun value => word " = " ++ value.tokens

/-- What stands between parentheses behind the name of the type. -/
def header : Tokens :=
  (if o.annotationMembers.isEmpty then []
    else parameterList (o.annotationMembers.map annotationMemberTokens)) ++
    d.primary.elim [] fun constructor =>
      constructorKeyword constructor ++ parameterList (o.parameters.map parameterTokens)

/-- An enum constant: its name behind its documentation and annotations, then the arguments for the
constructor of the enum and the members of its body.  Without arguments there are no parentheses,
and without members no braces. -/
def constantTokens (c : String × TypeDecl Code) : Tokens :=
  KotlinSource.documentation c.2.doc.tokens ++ annotationLines c.2.printed.annotations ++
    nameWord c.1 ++
    (if c.2.superArguments.isEmpty then []
      else word "(" ++ listed (word ", ") (c.2.superArguments.map Code.tokens) ++ word ")") ++
    if c.2.printed.memberGroups.isEmpty then []
    else
      word " \x7b\n" ++ operation (.indent 1) ++
        listed (operation .blankLine) c.2.printed.memberGroups ++ operation (.unindent 1) ++
        word "\x7d"

/-- Enum constants in their order.  Each ends its line, behind a comma or, for the last one, with
`ending`. -/
def constantLines (ending : String) : List (String × TypeDecl Code) → Tokens
  | [] => []
  | [c] => constantTokens c ++ word ending
  | c :: next :: rest => constantTokens c ++ word ",\n" ++ constantLines ending (next :: rest)

/-- A property on a line of its own, behind its documentation and annotations. -/
def propertyTokens (property : PropertyDecl Code) : Tokens :=
  KotlinSource.documentation property.doc.tokens ++ annotationLines property.printed.annotations ++
    operation .beginStatement ++ modifierWords [.publicAccess] property.modifiers ++
    word property.keyword ++ nameWord property.name ++ typed property.type ++
    assigned property.printed.initializer ++ operation .endLine ++ operation .endStatement

/-- Properties on lines of their own, in one group if there are any. -/
def lineGroup (properties : List (PropertyDecl Code)) : List Tokens :=
  if properties.isEmpty then [] else [properties.flatMap propertyTokens]

/-- Code that runs for a type or its instances, in one group if there is any. -/
def codeGroup (code : Code) : List Tokens :=
  if code.isEmpty then [] else [initializer code.tokens]

/-- The companion object, if it holds anything. -/
def companionGroup : List Tokens :=
  let groups := lineGroup o.companionProperties ++ codeGroup o.companionCode
  if groups.isEmpty then []
  else [word "companion object" ++ block (TypeDecl.groupsTokens groups) ++ word "\n"]

/-- The groups behind the enum constants, in their order. -/
def laterGroups : List Tokens :=
  o.companionGroup ++ lineGroup o.properties ++ codeGroup o.code ++
    (o.constructors.map fun f => f.printed.tokens (d.kind == .interface)) ++
    (o.functions.map fun f => f.printed.tokens (d.kind == .interface)) ++
    o.types.map fun t => t.printed.tokens

/-- The groups of members, in their order.  The enum constants stand in the first one, which ends
with a semicolon if there are others. -/
def groups : List Tokens :=
  let ending := if (o.laterGroups d).isEmpty then "\n" else ";\n"
  (if o.constants.isEmpty then [] else [constantLines ending o.constants]) ++ o.laterGroups d

/-- The declaration of a named type, with everything in the outline in its place. -/
def tokens : Tokens :=
  operation .suspend ++ KotlinSource.documentation (o.documentation d) ++
    annotationLines d.printed.annotations ++ modifierWords [.publicAccess] d.modifiers ++
    word (d.kind.keyword ++ " ") ++ nameWord name ++ typeVariableList d.typeVariables ++
    o.header d ++ d.printed.supertypes ++ whereClause d.typeVariables ++
    d.printed.bodyTokens name (o.groups d) ++ operation .resume

end Outline

/-! ### Accounting for all members -/

/-- The parameters of the primary constructor. -/
def TypeDecl.primaryParameters {κ : Type} (d : TypeDecl κ) : List (ParameterDecl κ) :=
  d.primary.elim [] FunctionDecl.parameters

/-- Every member of a type has exactly one place in an outline. -/
structure Outline.Accounts (o : Outline) (d : TypeDecl Code) : Prop where
  /-- Every property is declared by a parameter or stands on a line, and this once. -/
  properties : (o.declared ++ o.lines).Perm d.properties
  /-- Properties are declared by a parameter if there is one for them. -/
  mem_declared_iff : ∀ property ∈ d.properties,
    property ∈ o.declared ↔ ∃ p ∈ d.primaryParameters, p.declares property = true
  /-- The lines in the companion object are those of static properties, except in objects. -/
  mem_companion_iff : ∀ property ∈ d.properties,
    property ∈ o.companionProperties ↔ property.isStatic = true ∧ d.kind ≠ .object
  /-- Every documentation of a property stands in an entry or before its line, and this once. -/
  documented : (o.entries ++ o.lines.filter fun property => !property.doc.isEmpty).Perm
    (d.properties.filter fun property => !property.doc.isEmpty)
  /-- Exactly the documented properties that a parameter declares have entries. -/
  mem_entries_iff : ∀ property ∈ d.properties,
    property ∈ o.entries ↔ property.doc ≠ [] ∧ property ∈ o.declared
  parameters : o.parameters.map Prod.fst = d.primaryParameters
  /-- A parameter is written as a property only if it declares that property. -/
  declares : ∀ p property, (p, some property) ∈ o.parameters → p.declares property = true
  constants : o.constants = d.constants
  /-- Every function and secondary constructor is written once. -/
  functions : (o.annotationMembers ++ (o.constructors ++ o.functions)).Perm d.functions
  annotationMembers : d.kind ≠ .annotationClass → o.annotationMembers = []
  /-- Secondary constructors stand apart from functions. -/
  constructors : ∀ f ∈ d.functions, f ∈ o.constructors ↔ f.isConstructor = true
  types : o.types = d.types
  /-- Every instruction of the three blocks is written once and in order. -/
  code : o.companionCode ++ o.code =
    d.staticBlock ++ d.primary.elim [] FunctionDecl.body ++ d.initBlock
  companionCode : o.companionCode = if d.kind = .object then [] else d.staticBlock

/-! ### The outline of a type -/

namespace TypeDecl

variable (d : TypeDecl Code)

/-- The property that a parameter of the primary constructor declares. -/
def declaredProperty? (p : ParameterDecl Code) : Option (PropertyDecl Code) :=
  d.properties.find? p.declares

/-- The properties that parameters of the primary constructor declare. -/
def declaredProperties : List (PropertyDecl Code) :=
  d.primaryParameters.filterMap d.declaredProperty?

/-- The outline of a type. -/
def outline : Outline where
  entries := d.declaredProperties.filter fun property => !property.doc.isEmpty
  parameters := d.primaryParameters.map fun p => (p, d.declaredProperty? p)
  annotationMembers := if d.kind = .annotationClass then d.functions else []
  constants := d.constants
  companionProperties := if d.kind = .object then [] else d.properties.filter PropertyDecl.isStatic
  companionCode := if d.kind = .object then [] else d.staticBlock
  properties :=
    (if d.kind = .object then d.properties.filter PropertyDecl.isStatic else []) ++
      d.properties.filter fun property =>
        !property.isStatic && !d.primaryParameters.any fun p => p.declares property
  code :=
    (if d.kind = .object then d.staticBlock else []) ++ d.primary.elim [] FunctionDecl.body ++
      d.initBlock
  constructors :=
    if d.kind = .annotationClass then [] else d.functions.filter FunctionDecl.isConstructor
  functions :=
    if d.kind = .annotationClass then [] else d.functions.filter fun f => !f.isConstructor
  types := d.types

/-! ### The printer follows the outline -/

theorem kind_printed : d.printed.kind = d.kind := by rw [printed, map_eq]

theorem isAnonymous_printed : d.printed.isAnonymous = d.isAnonymous := by
  rw [isAnonymous, isAnonymous, printed, map_eq]

theorem doc_printed : d.printed.doc = d.doc.tokens := by rw [printed, map_eq]

theorem staticBlock_printed : d.printed.staticBlock = d.staticBlock.tokens := by
  rw [printed, map_eq]

theorem initBlock_printed : d.printed.initBlock = d.initBlock.tokens := by rw [printed, map_eq]

theorem properties_printed : d.printed.properties = d.properties.map PropertyDecl.printed := by
  rw [printed, map_eq]
  rfl

theorem primary_printed : d.printed.primary = d.primary.map FunctionDecl.printed := by
  rw [printed, map_eq]
  rfl

theorem functions_printed : d.printed.functions = d.functions.map FunctionDecl.printed := by
  rw [printed, map_eq]
  rfl

theorem constants_printed :
    d.printed.constants = d.constants.map fun c => (c.1, c.2.printed) := by
  rw [printed, map_eq]
  rfl

theorem types_printed : d.printed.types = d.types.map printed := by
  rw [printed, map_eq]
  rfl

theorem primaryParameters_printed :
    d.printed.primaryParameters = d.primaryParameters.map ParameterDecl.printed := by
  rw [primaryParameters, primaryParameters, primary_printed]
  cases d.primary <;> rfl

/-- A parameter declares the same property in printed form. -/
theorem foldedProperty?_printed (p : ParameterDecl Code) :
    d.printed.foldedProperty? p.printed = (d.declaredProperty? p).map PropertyDecl.printed := by
  have hfolds : isFoldedInto p.printed ∘ PropertyDecl.printed = p.declares := by
    funext property
    rw [Function.comp_apply, isFoldedInto, ParameterDecl.declares]
    cases hvalue : property.initializer <;>
      simp [PropertyDecl.printed, PropertyDecl.map, ParameterDecl.printed, ParameterDecl.map,
        hvalue, Code.text]
  rw [foldedProperty?, declaredProperty?, ← hfolds, properties_printed]
  exact List.find?_map

theorem foldedProperties_printed :
    d.printed.foldedProperties = d.declaredProperties.map PropertyDecl.printed := by
  have hparameters : d.printed.foldedProperties =
      d.printed.primaryParameters.filterMap d.printed.foldedProperty? := by
    rw [foldedProperties, primaryParameters]
    cases d.printed.primary <;> rfl
  rw [hparameters, primaryParameters_printed, declaredProperties, List.filterMap_map,
    List.map_filterMap]
  exact congrArg (fun f => d.primaryParameters.filterMap f) (funext d.foldedProperty?_printed)

theorem propertyEntry_printed (property : PropertyDecl Code) :
    propertyEntry property.printed = Outline.entryTokens property := rfl

theorem documentationTokens_printed :
    d.printed.documentationTokens = d.outline.documentation d := by
  have hdocumented : (d.printed.foldedProperties.filter fun property => !property.doc.isEmpty) =
      d.outline.entries.map PropertyDecl.printed := by
    rw [foldedProperties_printed, List.filter_map]
    refine congrArg (List.map _) (List.filter_congr fun property _ => ?_)
    exact congrArg Bool.not property.doc.isEmpty_tokens
  rw [documentationTokens, Outline.documentation, hdocumented, doc_printed, Code.isEmpty_tokens]
  simp only [List.isEmpty_map, List.flatMap_map, propertyEntry_printed]

theorem constructorParameter_printed (p : ParameterDecl Code) :
    d.printed.constructorParameter p.printed =
      Outline.parameterTokens (p, d.declaredProperty? p) := by
  rw [constructorParameter, foldedProperty?_printed]
  cases d.declaredProperty? p <;> rfl

theorem annotationMember_printed {f : FunctionDecl Code} (h : f.isConstructor = false) :
    annotationMember f.printed = Outline.annotationMemberTokens f := by
  obtain ⟨name, hname⟩ := Option.isSome_iff_exists.1 (Option.isNone_eq_false_iff.1 h)
  rw [annotationMember, Outline.annotationMemberTokens, FunctionDecl.displayName, hname,
    FunctionDecl.printed, FunctionDecl.map, hname]
  cases f.default <;> rfl

/-- Annotation classes, which have no constructors, have their members where others have the
parameters of the primary constructor. -/
theorem constructorTokens_printed (h : d.kind = .annotationClass →
      d.primary = none ∧ ∀ f ∈ d.functions, f.isConstructor = false) :
    d.printed.constructorTokens = d.outline.header d := by
  rw [constructorTokens, Outline.header, kind_printed]
  by_cases hkind : d.kind = .annotationClass
  · obtain ⟨hprimary, hnamed⟩ := h hkind
    have hmembers : d.outline.annotationMembers = d.functions := if_pos hkind
    have hprinted : d.functions.map (annotationMember ∘ FunctionDecl.printed) =
        d.functions.map Outline.annotationMemberTokens :=
      List.map_congr_left fun f hf => annotationMember_printed (hnamed f hf)
    rw [if_pos hkind, functions_printed, hmembers, hprimary, List.isEmpty_map, List.map_map,
      hprinted, Option.elim_none, List.append_nil]
  · have hmembers : d.outline.annotationMembers = [] := if_neg hkind
    rw [if_neg hkind, hmembers, primary_printed]
    cases hprimary : d.primary with
    | none => rfl
    | some constructor =>
      have hparameters : constructor.printed.parameters.map d.printed.constructorParameter =
          d.outline.parameters.map Outline.parameterTokens := by
        have hconstructor : d.primaryParameters = constructor.parameters := by
          rw [primaryParameters, hprimary, Option.elim_some]
        rw [outline, hconstructor, List.map_map]
        exact List.map_map.trans (List.map_congr_left fun p _ => d.constructorParameter_printed p)
      have hannotations : constructor.printed.annotations.isEmpty =
          constructor.annotations.isEmpty := List.isEmpty_map
      rw [Option.map_some, Option.elim_some, Option.elim_some, primaryTokens, hparameters,
        hannotations]
      rfl

/-! ### Members on lines of their own -/

theorem tokens_printed_property (property : PropertyDecl Code) :
    property.printed.tokens = Outline.propertyTokens property := rfl

theorem staticProperties_printed :
    d.printed.staticProperties =
      (d.properties.filter PropertyDecl.isStatic).map PropertyDecl.printed := by
  rw [staticProperties, properties_printed, List.filter_map]
  rfl

/-- The properties of instances without the names of those that the primary constructor declares. -/
theorem instanceProperties_printed_eq_filter :
    d.printed.instanceProperties =
      (d.properties.filter fun property => !property.isStatic &&
        !(d.declaredProperties.map PropertyDecl.name).contains property.name).map
          PropertyDecl.printed := by
  rw [instanceProperties, foldedProperties_printed, properties_printed, List.filter_map,
    List.map_map]
  rfl

theorem functionGroups_printed :
    d.printed.functionGroups =
      (d.outline.constructors.map fun f => f.printed.tokens (d.kind == .interface)) ++
        d.outline.functions.map fun f => f.printed.tokens (d.kind == .interface) := by
  rw [functionGroups, memberFunctions, kind_printed]
  by_cases hkind : d.kind = .annotationClass
  · have hconstructors : d.outline.constructors = [] := if_pos hkind
    have hfunctions : d.outline.functions = [] := if_pos hkind
    rw [if_pos hkind, hconstructors, hfunctions]
    rfl
  · have hconstructors : d.outline.constructors = d.functions.filter FunctionDecl.isConstructor :=
      if_neg hkind
    have hfunctions : d.outline.functions = d.functions.filter fun f => !f.isConstructor :=
      if_neg hkind
    rw [if_neg hkind, hconstructors, hfunctions, functions_printed, List.filter_map,
      List.filter_map, List.map_append, List.map_map, List.map_map]
    rfl

theorem constantTokens_printed (c : String × TypeDecl Code) :
    constantTokens c.1 c.2.printed c.2.printed.memberGroups = Outline.constantTokens c := by
  have harguments : c.2.printed.superArguments = c.2.superArguments.map Code.tokens := by
    rw [printed, map_eq]
  rw [constantTokens, Outline.constantTokens, doc_printed, harguments, List.isEmpty_map]
  rfl

/-- The lines of enum constants are a list with commas between them and `ending` behind it. -/
theorem constantLines_eq (ending : String) {constants : List (String × TypeDecl Code)}
    (hne : constants ≠ []) :
    Outline.constantLines ending constants =
      listed (word ",\n") (constants.map Outline.constantTokens) ++ word ending := by
  induction constants with
  | nil => exact absurd rfl hne
  | cons c rest ih =>
    cases rest with
    | nil => rw [Outline.constantLines, List.map_singleton, listed_singleton]
    | cons next rest =>
      rw [Outline.constantLines, ih (List.cons_ne_nil next rest)]
      simp only [List.map_cons, listed_cons_cons, List.append_assoc]

/-- The enum constants stand before the groups `later`. -/
theorem constantGroup_printed (later : List Tokens) :
    constantGroup (d.constants.map fun c => constantTokens c.1 c.2.printed c.2.printed.memberGroups)
        later =
      if d.constants.isEmpty then []
      else [Outline.constantLines (if later.isEmpty then "\n" else ";\n") d.constants] := by
  rw [List.map_congr_left fun c _ => constantTokens_printed c, constantGroup, List.isEmpty_map]
  by_cases hconstants : d.constants = []
  · rw [hconstants]
    rfl
  · rw [constantLines_eq _ hconstants]

section Named

variable (hnamed : d.isAnonymous = false)

include hnamed

theorem hasCompanion_printed : d.printed.hasCompanion = (d.kind != .object) := by
  rw [hasCompanion, kind_printed, isAnonymous_printed, hnamed, Bool.not_false, Bool.and_true]

theorem companionGroup_printed : d.printed.companionGroup = d.outline.companionGroup := by
  rw [companionGroup, Outline.companionGroup, d.hasCompanion_printed hnamed,
    staticProperties_printed, staticBlock_printed, Code.isEmpty_tokens]
  by_cases hkind : d.kind = .object
  · have hproperties : d.outline.companionProperties = [] := if_pos hkind
    have hcode : d.outline.companionCode = [] := if_pos hkind
    rw [hproperties, hcode, hkind]
    rfl
  · have hproperties : d.outline.companionProperties =
        d.properties.filter PropertyDecl.isStatic := if_neg hkind
    have hcode : d.outline.companionCode = d.staticBlock := if_neg hkind
    have hcompanion : (d.kind != .object) = true := by simpa using hkind
    rw [hproperties, hcode, hcompanion, Outline.lineGroup, Outline.codeGroup]
    cases d.properties.filter PropertyDecl.isStatic <;> cases d.staticBlock <;>
      simp [groupsTokens, List.flatMap_map, tokens_printed_property]

theorem initializingCode_printed : d.printed.initializingCode = d.outline.code.tokens := by
  rw [initializingCode, d.hasCompanion_printed hnamed, staticBlock_printed, initBlock_printed,
    primary_printed, outline]
  simp only [Code.tokens, Code.expand_append]
  by_cases hkind : d.kind = .object <;> cases d.primary <;> simp [hkind] <;> rfl

theorem initializerGroup_printed :
    d.printed.initializerGroup = Outline.codeGroup d.outline.code := by
  rw [initializerGroup, Outline.codeGroup, d.initializingCode_printed hnamed, Code.isEmpty_tokens]

end Named

/-! ### Distinct names -/

theorem name_eq_of_declares {p : ParameterDecl Code} {property : PropertyDecl Code}
    (h : p.declares property = true) : property.name = p.name := by
  simp only [ParameterDecl.declares, Bool.and_eq_true, beq_iff_eq] at h
  exact h.1.1.2

section Distinct

variable (hproperties : (d.properties.map PropertyDecl.name).Nodup)

include hproperties

/-- If the properties have different names, exactly those are declared that some parameter
declares. -/
theorem mem_declaredProperties {property : PropertyDecl Code} :
    property ∈ d.declaredProperties ↔
      property ∈ d.properties ∧ ∃ p ∈ d.primaryParameters, p.declares property = true := by
  constructor
  · intro h
    obtain ⟨p, hp, hfound⟩ := List.mem_filterMap.1 h
    exact ⟨List.mem_of_find?_eq_some hfound, p, hp, List.find?_some hfound⟩
  · rintro ⟨hmem, p, hp, hdeclares⟩
    obtain ⟨other, hother⟩ := Option.isSome_iff_exists.1
      (List.find?_isSome.2 ⟨property, hmem, hdeclares⟩)
    have hname : other.name = property.name :=
      (name_eq_of_declares (List.find?_some hother)).trans (name_eq_of_declares hdeclares).symm
    have hsame : other = property :=
      List.inj_on_of_nodup_map hproperties (List.mem_of_find?_eq_some hother) hmem hname
    exact List.mem_filterMap.2 ⟨p, hp, hsame ▸ hother⟩

/-- What is left of the properties is the same by their names and by the parameters that declare
them. -/
theorem instanceProperties_printed :
    d.printed.instanceProperties =
      (d.properties.filter fun property => !property.isStatic &&
        !d.primaryParameters.any fun p => p.declares property).map PropertyDecl.printed := by
  rw [instanceProperties_printed_eq_filter]
  refine congrArg (List.map _) (List.filter_congr fun property hproperty => ?_)
  have hnames : (d.declaredProperties.map PropertyDecl.name).contains property.name =
      d.primaryParameters.any fun p => p.declares property := by
    rw [Bool.eq_iff_iff, List.contains_iff_mem, List.any_eq_true, List.mem_map]
    constructor
    · rintro ⟨other, hother, hname⟩
      obtain ⟨hmem, hdeclared⟩ := (d.mem_declaredProperties hproperties).1 hother
      rwa [← List.inj_on_of_nodup_map hproperties hmem hproperty hname]
    · intro hdeclared
      exact ⟨property, (d.mem_declaredProperties hproperties).2 ⟨hproperty, hdeclared⟩, rfl⟩
  rw [← hnames]

variable (hnamed : d.isAnonymous = false)

include hnamed

theorem propertyGroup_printed :
    d.printed.propertyGroup = Outline.lineGroup d.outline.properties := by
  have hown : d.printed.ownProperties = d.outline.properties.map PropertyDecl.printed := by
    rw [ownProperties, d.hasCompanion_printed hnamed, staticProperties_printed,
      d.instanceProperties_printed hproperties, outline, List.map_append]
    by_cases hkind : d.kind = .object <;> simp [hkind]
  simp only [propertyGroup, Outline.lineGroup, hown, List.isEmpty_map, List.flatMap_map,
    tokens_printed_property]

/-- The groups of members are those of the outline. -/
theorem memberGroups_printed : d.printed.memberGroups = d.outline.groups d := by
  have hlater : d.printed.laterGroups = d.outline.laterGroups d := by
    rw [laterGroups, Outline.laterGroups, d.companionGroup_printed hnamed,
      d.propertyGroup_printed hproperties hnamed, d.initializerGroup_printed hnamed,
      functionGroups_printed, types_printed, List.map_map, ← List.append_assoc]
    rfl
  rw [memberGroups_eq, Outline.groups, hlater, constants_printed, List.map_map]
  exact congrArg (· ++ d.outline.laterGroups d) (d.constantGroup_printed _)

end Distinct

/-- A named type with different names of properties is printed as its outline says. -/
theorem tokens_eq_outline {name : String} (hname : d.name = some name)
    (hmarked : d.kind = .annotationClass →
      d.primary = none ∧ ∀ f ∈ d.functions, f.isConstructor = false)
    (hproperties : (d.properties.map PropertyDecl.name).Nodup) :
    d.printed.tokens = d.outline.tokens name d := by
  have hnamed : d.isAnonymous = false := by rw [isAnonymous, hname, Option.isNone_some]
  have hprinted : d.printed.name = some name := (name_map _ d).trans hname
  have hmodifiers : d.printed.modifiers = d.modifiers := by rw [printed, map_eq]
  have hvariables : d.printed.typeVariables = d.typeVariables := by rw [printed, map_eq]
  rw [tokens, declarationTokens, hprinted]
  simp only [namedTokens, Outline.tokens, documentationTokens_printed,
    d.constructorTokens_printed hmarked, d.memberGroups_printed hproperties hnamed, kind_printed,
    hmodifiers, hvariables]

/-! ### The outline accounts for the type -/

theorem outline_declared : d.outline.declared = d.declaredProperties := by
  rw [Outline.declared, outline, List.filterMap_map]
  rfl

/-- Outside of parameters first the static properties are written and then the others. -/
theorem outline_lines :
    d.outline.lines = d.properties.filter PropertyDecl.isStatic ++
      d.properties.filter fun property =>
        !property.isStatic && !d.primaryParameters.any fun p => p.declares property := by
  rw [Outline.lines, outline]
  by_cases hkind : d.kind = .object <;> simp [hkind]

theorem isStatic_of_declares {p : ParameterDecl Code} {property : PropertyDecl Code}
    (h : p.declares property = true) : property.isStatic = false := by
  simp only [ParameterDecl.declares, Bool.and_eq_true, Bool.not_eq_true'] at h
  exact h.1.1.1

theorem nodup_declaredProperties
    (hparameters : (d.primaryParameters.map ParameterDecl.name).Nodup) :
    d.declaredProperties.Nodup := by
  refine List.Pairwise.filterMap _ (fun p q hpq property hproperty other hother hsame => hpq ?_)
    (List.pairwise_map.1 hparameters)
  subst hsame
  exact (name_eq_of_declares (List.find?_some hproperty)).symm.trans
    (name_eq_of_declares (List.find?_some hother))

/-- With different names of properties and parameters, every property has one place. -/
theorem perm_declared_append_lines (hproperties : (d.properties.map PropertyDecl.name).Nodup)
    (hparameters : (d.primaryParameters.map ParameterDecl.name).Nodup) :
    (d.outline.declared ++ d.outline.lines).Perm d.properties := by
  let isDeclared := fun property => d.primaryParameters.any fun p => p.declares property
  let ofInstances := d.properties.filter fun property => !property.isStatic
  -- parameters list the declared properties in their own order, but each of them once
  have hdeclared : d.declaredProperties.Perm (ofInstances.filter isDeclared) := by
    have hnodup : (ofInstances.filter isDeclared).Nodup :=
      (List.Nodup.of_map _ hproperties).filter _ |>.filter _
    refine (List.perm_ext_iff_of_nodup (d.nodup_declaredProperties hparameters) hnodup).2
      fun property => ?_
    rw [d.mem_declaredProperties hproperties, List.mem_filter, List.mem_filter, List.any_eq_true]
    constructor
    · rintro ⟨hmem, p, hp, hdeclares⟩
      exact ⟨⟨hmem, by rw [isStatic_of_declares hdeclares, Bool.not_false]⟩, p, hp, hdeclares⟩
    · rintro ⟨⟨hmem, -⟩, hdeclared⟩
      exact ⟨hmem, hdeclared⟩
  have hrest : (d.properties.filter fun property =>
      !property.isStatic && !d.primaryParameters.any fun p => p.declares property) =
        ofInstances.filter fun property => !isDeclared property := by
    rw [List.filter_filter]
    exact List.filter_congr fun property _ => Bool.and_comm _ _
  rw [outline_declared, outline_lines, hrest]
  calc d.declaredProperties ++ (d.properties.filter PropertyDecl.isStatic ++
        ofInstances.filter fun property => !isDeclared property)
    _ ~ d.properties.filter PropertyDecl.isStatic ++ (d.declaredProperties ++
        ofInstances.filter fun property => !isDeclared property) :=
      List.perm_append_comm_assoc _ _ _
    _ ~ d.properties.filter PropertyDecl.isStatic ++ ofInstances :=
      ((hdeclared.append_right _).trans (List.filter_append_perm _ _)).append_left _
    _ ~ d.properties := List.filter_append_perm _ _

/-- The outline of a valid type accounts for its members, if its properties and the parameters of
its primary constructor have different names. -/
theorem outline_accounts {repeated : Option String} (h : d.faults repeated = [])
    (hproperties : (d.properties.map PropertyDecl.name).Nodup)
    (hparameters : (d.primaryParameters.map ParameterDecl.name).Nodup) :
    d.outline.Accounts d where
  properties := d.perm_declared_append_lines hproperties hparameters
  mem_declared_iff property hproperty := by
    rw [outline_declared, d.mem_declaredProperties hproperties]
    exact and_iff_right hproperty
  mem_companion_iff property hproperty := by
    rw [outline]
    by_cases hkind : d.kind = .object <;> simp [hkind, hproperty]
  documented := by
    have hperm := (d.perm_declared_append_lines hproperties hparameters).filter
      fun property => !property.doc.isEmpty
    rw [List.filter_append, outline_declared] at hperm
    exact hperm
  mem_entries_iff property hproperty := by
    rw [outline_declared, outline, List.mem_filter, and_comm]
    simp
  parameters := by
    rw [outline, List.map_map]
    exact List.map_id' _
  declares p property hmem := by
    obtain ⟨q, -, hq⟩ := List.mem_map.1 hmem
    obtain ⟨rfl, hfound⟩ := Prod.mk.inj hq
    exact List.find?_some hfound
  constants := rfl
  functions := by
    rw [outline]
    by_cases hkind : d.kind = .annotationClass
    · simp [hkind]
    · simpa only [if_neg hkind, List.nil_append] using List.filter_append_perm _ d.functions
  annotationMembers hkind := if_neg hkind
  constructors f hf := by
    rw [outline]
    by_cases hkind : d.kind = .annotationClass
    · simp [hkind, (constructorless_of_annotationClass hkind h).2 f hf]
    · simp [hkind, hf]
  types := rfl
  code := by
    rw [outline]
    by_cases hkind : d.kind = .object <;> simp [hkind]
  companionCode := rfl

/-- **No member is lost or written twice.**  A valid type with a name, in which neither two
properties nor two parameters of the primary constructor share a name, is printed as its outline
says, and the outline accounts for its members: every property is declared by a parameter or has a
line, every documentation of a property has an entry or stands before the line, and enum constants,
constructors, functions, nested types and initializing code have one place each. -/
theorem printed_tokens_eq_and_accounts {draft : TypeDraft} {d : TypeDecl Code} {name : String}
    (h : draft.check = .ok d) (hname : d.name = some name)
    (hproperties : (d.properties.map PropertyDecl.name).Nodup)
    (hparameters : (d.primaryParameters.map ParameterDecl.name).Nodup) :
    d.printed.tokens = d.outline.tokens name d ∧ d.outline.Accounts d := by
  obtain ⟨hfaults, rfl⟩ := accept_eq_ok_iff.1 h
  have hmarked := fun hkind => constructorless_of_annotationClass hkind hfaults
  exact ⟨draft.decl.tokens_eq_outline hname hmarked hproperties,
    draft.decl.outline_accounts hfaults hproperties hparameters⟩

/-- A type with certain parts is valid, its outline accounts for it and is printed as `text`. -/
def IsOutlined (kind : TypeKind) (name : String) (parts : List TypePart) (text : String) : Prop :=
  ∃ d, build kind (some name) parts = .ok d ∧ (d.properties.map PropertyDecl.name).Nodup ∧
    (d.primaryParameters.map ParameterDecl.name).Nodup ∧ d.outline.Accounts d ∧
    Tokens.detached (d.outline.tokens name d) = text

/-- The parts of a class `Account` with members of all kinds, three properties among them: `id` is
declared by the primary constructor, `count` is static, and `label` has another initial value than
the parameter of its name. -/
def accountParts : List TypePart :=
  [.property { PropertyDecl.start "label" (.primitive .int) with
      doc := [.text "Shown."], initializer := some [.text "id"] },
    .property { PropertyDecl.start "id" (.primitive .int) with
      doc := [.text "The key."], initializer := some [.text "id"] },
    .property { PropertyDecl.start "count" (.primitive .int) with isStatic := true },
    .primary { FunctionDecl.start none with
      parameters := ["id", "label"].map fun name => ParameterDecl.start name (.primitive .int)
      body := [.text "check()"] },
    .function (FunctionDecl.start (some "close")),
    .function (FunctionDecl.start none),
    .type (TypeDraft.start .plainClass (some "Entry")).decl,
    .initBlock [.text "register()"],
    .staticBlock [.text "load()"]]

/-- The parts of an enum `Rank` whose constants have documentation, arguments and a body. -/
def rankParts : List TypePart :=
  [.constant "LOW" { emptyBody with doc := [.text "Last."], superArguments := [[.text "1"]] },
    .constant "HIGH" { emptyBody with
      superArguments := [[.text "2"]]
      functions := [FunctionDecl.start (some "close"), FunctionDecl.start (some "reset")] },
    .primary { FunctionDecl.start none with
      parameters := [ParameterDecl.start "weight" (.primitive .int)] },
    .function (FunctionDecl.start (some "sum"))]

/-- The parts of an annotation class `Marked` with two members, one of them with a value by
default. -/
def markedParts : List TypePart :=
  [.function { FunctionDecl.start (some "line") with returnType := some (.primitive .int) },
    .function { FunctionDecl.start (some "limit") with
      returnType := some (.primitive .long), default := some [.text "80"] }]

/-- The outlines of these types are printed as the whole declarations, and so is that of an enum
that has nothing but constants. -/
theorem printed_tokens_eq_and_accounts_account :
    IsOutlined .plainClass "Account" accountParts
        ("/**\n * @property id The key.\n */\nclass Account(val id: Int, label: Int) \x7b\n" ++
          "  companion object \x7b\n    val count: Int\n\n    init \x7b\n      load()\n" ++
          "    \x7d\n  \x7d\n\n  /**\n   * Shown.\n   */\n  val label: Int = id\n\n" ++
          "  init \x7b\n    check()register()\n  \x7d\n\n  constructor()\n\n" ++
          "  fun close() \x7b\n  \x7d\n\n  class Entry\n\x7d\n") ∧
      IsOutlined .enumClass "Rank" rankParts
        ("enum class Rank(weight: Int) \x7b\n  /**\n   * Last.\n   */\n  LOW(1),\n" ++
          "  HIGH(2) \x7b\n    fun close() \x7b\n    \x7d\n\n    fun reset() \x7b\n    \x7d\n" ++
          "  \x7d;\n\n  fun sum() \x7b\n  \x7d\n\x7d\n") ∧
      IsOutlined .enumClass "Mode" [.constant "ON" emptyBody, .constant "OFF" emptyBody]
        "enum class Mode \x7b\n  ON,\n  OFF\n\x7d\n" ∧
      IsOutlined .annotationClass "Marked" markedParts
        "annotation class Marked(val line: Int, val limit: Long = 80)\n" := by
  have hall : ∀ {kind name parts text}, ∀ d, build kind (some name) parts = .ok d →
      d.name = some name → (d.properties.map PropertyDecl.name).Nodup →
      (d.primaryParameters.map ParameterDecl.name).Nodup → Tokens.detached d.printed.tokens = text →
      IsOutlined kind name parts text := by
    intro kind name parts text d hbuild hname hproperties hparameters htext
    obtain ⟨htokens, haccounts⟩ :=
      printed_tokens_eq_and_accounts hbuild hname hproperties hparameters
    exact ⟨d, hbuild, hproperties, hparameters, haccounts, htokens ▸ htext⟩
  exact ⟨hall _ rfl rfl (by decide) (by decide) (by decide +kernel),
    hall _ rfl rfl (by decide) (by decide) (by decide +kernel),
    hall _ rfl rfl (by decide) (by decide) (by decide +kernel),
    hall _ rfl rfl (by decide) (by decide) (by decide +kernel)⟩

end TypeDecl

end KotlinSource
