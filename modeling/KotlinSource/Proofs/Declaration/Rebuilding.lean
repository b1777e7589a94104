import KotlinSource.Declaration.Building
import Mathlib.Tactic.SplitIfs
import Mathlib.Data.List.Nodup

/-!
# Declarations that can be built

A type is built from parts, and among its parts are functions and types that have been built before.
The builder looks at the type by itself; what it holds was checked when it was built, apart from the
empty bodies of enum constants, which are never checked.  So every type that can be obtained follows
the rules at every depth, and a type that follows the rules is accepted once more, unchanged.

## Main definitions

* `FunctionDecl.FollowsRules`, `TypeDecl.FollowsRules`: the rules for a function and for a type by
  itself.
* `TypeDecl.IsValid`: a type that follows the rules, with everything in it.
* `FunctionDecl.IsObtainable`, `TypeDecl.IsObtainable`: what can be built, by any path.
* `TypeDraft.HoldsValid`: a draft that holds nothing but valid declarations.

## Main results

* `FunctionDecl.faults_eq_nil_iff_followsRules`, `TypeDecl.faults_eq_nil_iff_followsRules`: the
  builder checks exactly the rules.
* `TypeDraft.HoldsValid.add`: one more part.
* `TypeDecl.IsObtainable.isValid`: everything that can be built is valid.
* `TypeDecl.isValid_and_check_ofDecl`: and building it again changes nothing.
-/

namespace KotlinSource

theorem nameFaults_eq_nil_iff {name : String} {role : NameRole} :
    nameFaults name role = [] ↔ isIdentifier name = true := by
  simp [nameFaults]

/-! ### Functions -/

namespace FunctionDecl

/-- The rules for a function or constructor. -/
structure FollowsRules (f : FunctionDecl Code) : Prop where
  name : ∀ name ∈ f.name, isIdentifier name = true
  returnType : f.isConstructor = true → f.returnType = none
  delegation : f.isConstructor = false → f.delegation = none
  body : .abstract ∈ f.modifiers → f.body = []
  parameters : ∀ p ∈ f.parameters, isIdentifier p.name = true

/-- The builder of a function checks exactly the rules. -/
theorem faults_eq_nil_iff_followsRules {f : FunctionDecl Code} :
    f.faults = [] ↔ f.FollowsRules := by
  have hname : f.name.toList.flatMap (fun name => nameFaults name .function) = [] ↔
      ∀ name ∈ f.name, isIdentifier name = true := by
    simp [nameFaults_eq_nil_iff, List.flatMap_eq_nil_iff]
  have hreturn : (f.isConstructor && f.returnType.isSome) = false ↔
      (f.isConstructor = true → f.returnType = none) := by
    cases f.isConstructor <;> cases f.returnType <;> simp
  have hdelegation : (!f.isConstructor && f.delegation.isSome) = false ↔
      (f.isConstructor = false → f.delegation = none) := by
    cases f.isConstructor <;> cases f.delegation <;> simp
  have hbody : (f.modifiers.contains .abstract && f.hasBody) = false ↔
      (.abstract ∈ f.modifiers → f.body = []) := by
    simp [hasBody]
  have hparameters : f.parameters.flatMap ParameterDecl.faults = [] ↔
      ∀ p ∈ f.parameters, isIdentifier p.name = true := by
    simp [ParameterDecl.faults, nameFaults_eq_nil_iff, List.flatMap_eq_nil_iff]
  simp only [faults, List.append_eq_nil_iff, faultIf_eq_nil_iff, hname, hreturn, hdelegation, hbody,
    hparameters]
  constructor
  · rintro ⟨⟨⟨⟨hname, hreturn⟩, hdelegation⟩, hbody⟩, hparameters⟩
    exact ⟨hname, hreturn, hdelegation, hbody, hparameters⟩
  · intro h
    exact ⟨⟨⟨⟨h.name, h.returnType⟩, h.delegation⟩, h.body⟩, h.parameters⟩

/-- The drafts of functions and constructors. -/
inductive IsDraft : FunctionDecl Code → Prop
  | start (name : Option String) : IsDraft (start name)
  | add {f : FunctionDecl Code} (h : IsDraft f) (part : FunctionPart) : IsDraft (f.add part)
  /-- A finished function, taken up again. -/
  | resume {f built : FunctionDecl Code} (h : IsDraft f) (hf : f.check = .ok built) : IsDraft built

/-- Functions that can be built. -/
def IsObtainable (f : FunctionDecl Code) : Prop := ∃ draft, IsDraft draft ∧ draft.check = .ok f

/-- Every function that can be built follows the rules. -/
theorem IsObtainable.followsRules {f : FunctionDecl Code} (h : f.IsObtainable) :
    f.FollowsRules := by
  obtain ⟨draft, -, hcheck⟩ := h
  obtain ⟨hfaults, rfl⟩ := accept_eq_ok_iff.1 hcheck
  exact faults_eq_nil_iff_followsRules.1 hfaults

/-- A function that follows the rules is accepted as it is. -/
theorem FollowsRules.check_eq_ok {f : FunctionDecl Code} (h : f.FollowsRules) :
    f.check = .ok f :=
  accept_eq_ok_iff.2 ⟨faults_eq_nil_iff_followsRules.2 h, rfl⟩

end FunctionDecl

/-! ### The rules for types -/

namespace TypeDecl

/-- The rules for a type by itself.  The functions of a type are its functions and secondary
constructors, or the members of an annotation class. -/
structure FollowsRules (d : TypeDecl Code) : Prop where
  name : ∀ name ∈ d.name, isIdentifier name = true
  constants : d.constants ≠ [] ↔ d.kind = .enumClass
  constantNames : ∀ c ∈ d.constants, isIdentifier c.1 = true
  anonymous : d.isAnonymous = true → d.typeVariables = [] ∧ d.modifiers = [] ∧
    d.superclass.toList.length + d.superinterfaces.length ≤ 1
  constructorless : d.isAnonymous = true ∨ d.kind = .interface ∨ d.kind = .annotationClass ∨
    d.kind = .object → d.primary = none ∧ ∀ f ∈ d.functions, f.isConstructor = false
  interface : d.kind = .interface →
    d.superclass = none ∧ d.staticBlock = [] ∧ d.initBlock = []
  annotationMembers : d.kind = .annotationClass →
    ∀ f ∈ d.functions, f.returnType ≠ none ∧ f.body = [] ∧ f.parameters = []
  defaults : d.kind ≠ .annotationClass → ∀ f ∈ d.functions, f.default = none

variable {d : TypeDecl Code} {repeated : Option String}

theorem constantFaults_eq_nil_iff :
    d.constantFaults repeated = [] ↔ (d.constants ≠ [] ↔ d.kind = .enumClass) ∧
      (∀ c ∈ d.constants, isIdentifier c.1 = true) ∧ repeated = none := by
  have hnames : (d.constants.flatMap fun c => nameFaults c.1 .enumConstant) = [] ↔
      ∀ c ∈ d.constants, isIdentifier c.1 = true := by
    simp [nameFaults_eq_nil_iff, List.flatMap_eq_nil_iff]
  have hrepeated : repeated.toList.map (fun c => DeclarationError.duplicateEnumConstant
      d.displayName c) = [] ↔ repeated = none := by
    cases repeated <;> simp
  have hkind : (d.kind == .enumClass && d.constants.isEmpty) = false ∧
      (d.kind != .enumClass && !d.constants.isEmpty) = false ↔
        (d.constants ≠ [] ↔ d.kind = .enumClass) := by
    by_cases hkind : d.kind = .enumClass <;> cases d.constants <;> simp [hkind]
  simp only [constantFaults, List.append_eq_nil_iff, faultIf_eq_nil_iff, hnames, hrepeated, ← hkind]
  tauto

theorem anonymityFaults_eq_nil_iff :
    d.anonymityFaults = [] ↔ (d.isAnonymous = true → d.typeVariables = [] ∧ d.modifiers = [] ∧
      d.superclass.toList.length + d.superinterfaces.length ≤ 1) := by
  rw [anonymityFaults]
  split_ifs with h <;> simp [h]

theorem constructorFaults_eq_nil_iff :
    d.constructorFaults = [] ↔
      (d.isAnonymous = true ∨ d.kind = .interface ∨ d.kind = .annotationClass ∨ d.kind = .object →
        d.primary = none ∧ ∀ f ∈ d.functions, f.isConstructor = false) := by
  have hconstructor : d.hasConstructor = false ↔
      d.primary = none ∧ ∀ f ∈ d.functions, f.isConstructor = false := by
    simp [hasConstructor]
  rw [constructorFaults, constructorlessKind?, ← hconstructor]
  cases d.isAnonymous <;> cases d.kind <;> simp

theorem interfaceFaults_eq_nil_iff :
    d.interfaceFaults = [] ↔
      (d.kind = .interface → d.superclass = none ∧ d.staticBlock = [] ∧ d.initBlock = []) := by
  rw [interfaceFaults]
  split_ifs with h <;> simp [h, and_comm]

theorem functionFaults_eq_nil_iff {f : FunctionDecl Code} :
    d.functionFaults f = [] ↔
      (d.kind = .annotationClass → f.returnType ≠ none ∧ f.body = [] ∧ f.parameters = []) ∧
        (d.kind ≠ .annotationClass → f.default = none) := by
  have hreturn : f.returnType.isNone = false ↔ f.returnType ≠ none := by
    cases f.returnType <;> simp
  rw [functionFaults]
  split_ifs with h
  · simp only [FunctionDecl.annotationMemberFaults, FunctionDecl.hasBody, List.append_eq_nil_iff,
      faultIf_eq_nil_iff, hreturn, Bool.not_eq_false', List.isEmpty_iff, h, ne_eq,
      not_true_eq_false, forall_const, false_implies, and_true]
    tauto
  · simp [h]

/-- The builder of a type checks exactly the rules, and that no enum constant was declared
again. -/
theorem faults_eq_nil_iff_followsRules :
    d.faults repeated = [] ↔ d.FollowsRules ∧ repeated = none := by
  have hname : d.name.toList.flatMap (fun name => nameFaults name .type) = [] ↔
      ∀ name ∈ d.name, isIdentifier name = true := by
    simp [nameFaults_eq_nil_iff, List.flatMap_eq_nil_iff]
  simp only [faults, List.append_eq_nil_iff, hname, constantFaults_eq_nil_iff,
    anonymityFaults_eq_nil_iff, constructorFaults_eq_nil_iff, interfaceFaults_eq_nil_iff,
    List.flatMap_eq_nil_iff, functionFaults_eq_nil_iff]
  constructor
  · rintro ⟨⟨⟨⟨⟨hname, hconstants, hnames, hrepeated⟩, hanonymous⟩, hconstructors⟩, hinterface⟩,
      hfunctions⟩
    exact ⟨⟨hname, hconstants, hnames, hanonymous, hconstructors, hinterface,
      fun hkind f hf => (hfunctions f hf).1 hkind, fun hkind f hf => (hfunctions f hf).2 hkind⟩,
      hrepeated⟩
  · rintro ⟨h, hrepeated⟩
    exact ⟨⟨⟨⟨⟨h.name, h.constants, h.constantNames, hrepeated⟩, h.anonymous⟩, h.constructorless⟩,
      h.interface⟩, fun f hf => ⟨fun hkind => h.annotationMembers hkind f hf,
        fun hkind => h.defaults hkind f hf⟩⟩

/-- A type that follows the rules is accepted as it is. -/
theorem FollowsRules.check_ofDecl (h : d.FollowsRules) : (TypeDraft.ofDecl d).check = .ok d :=
  accept_eq_ok_iff.2 ⟨faults_eq_nil_iff_followsRules.2 ⟨h, rfl⟩, rfl⟩

/-- A type that follows the rules, with functions and constructors that do so, enum constants with
different names, and nested types and bodies of enum constants that are valid again. -/
inductive IsValid : TypeDecl Code → Prop
  | intro {d : TypeDecl Code} (rules : d.FollowsRules)
    (functions : ∀ f ∈ d.functions, f.FollowsRules) (primary : ∀ f ∈ d.primary, f.FollowsRules)
    (distinct : (d.constants.map Prod.fst).Nodup) (types : ∀ t ∈ d.types, IsValid t)
    (bodies : ∀ c ∈ d.constants, IsValid c.2) : IsValid d

end TypeDecl

/-! ### Building -/

namespace TypePart

/-- The function or constructor that a part brings in. -/
def functions : TypePart → List (FunctionDecl Code)
  | .primary f => [f]
  | .function f => [f]
  | _ => []

/-- The type that a part brings in. -/
def types : TypePart → List (TypeDecl Code)
  | .type d => [d]
  | .constant _ body => [body]
  | _ => []

end TypePart

mutual

/-- The drafts of types.  Only what has been built before can be made a part of a draft. -/
inductive TypeDraft.IsReachable : TypeDraft → Prop
  | named (kind : TypeKind) (name : String) :
    TypeDraft.IsReachable (TypeDraft.start kind (some name))
  | anonymous : TypeDraft.IsReachable (TypeDraft.start .plainClass none)
  /-- A finished type, taken up again. -/
  | resume {d : TypeDecl Code} (h : TypeDecl.IsObtainable d) :
    TypeDraft.IsReachable (TypeDraft.ofDecl d)
  | add {draft : TypeDraft} {part : TypePart} (h : TypeDraft.IsReachable draft)
    (hfunctions : ∀ f ∈ part.functions, f.IsObtainable)
    (htypes : ∀ t ∈ part.types, TypeDecl.IsObtainable t) : TypeDraft.IsReachable (draft.add part)

/-- Types that can be built, or found in types that can be built. -/
inductive TypeDecl.IsObtainable : TypeDecl Code → Prop
  | built {draft : TypeDraft} {d : TypeDecl Code} (h : TypeDraft.IsReachable draft)
    (hd : draft.check = .ok d) : TypeDecl.IsObtainable d
  /-- The body of an enum constant that is declared without one; no builder checks it. -/
  | emptyBody : TypeDecl.IsObtainable TypeDecl.emptyBody
  | nested {d t : TypeDecl Code} (h : TypeDecl.IsObtainable d) (ht : t ∈ d.types) :
    TypeDecl.IsObtainable t
  | body {d : TypeDecl Code} {c : String × TypeDecl Code} (h : TypeDecl.IsObtainable d)
    (hc : c ∈ d.constants) : TypeDecl.IsObtainable c.2

end

/-- What is built from parts that bring in nothing but what can be built, can be built. -/
theorem TypeDecl.IsObtainable.of_build {kind : TypeKind} {name : Option String}
    {parts : List TypePart} {d : TypeDecl Code} (hd : TypeDecl.build kind name parts = .ok d)
    (hname : name = none → kind = .plainClass)
    (hfunctions : ∀ part ∈ parts, ∀ f ∈ part.functions, f.IsObtainable)
    (htypes : ∀ part ∈ parts, ∀ t ∈ part.types, t.IsObtainable) : d.IsObtainable := by
  refine .built ?_ hd
  have hstart : (TypeDraft.start kind name).IsReachable := by
    cases name with
    | some name => exact .named kind name
    | none => rw [hname rfl]; exact .anonymous
  clear hd
  generalize TypeDraft.start kind name = draft at hstart
  induction parts generalizing draft with
  | nil => exact hstart
  | cons part parts ih =>
    rw [List.forall_mem_cons] at hfunctions htypes
    exact ih hfunctions.2 htypes.2 _ (TypeDraft.IsReachable.add hstart hfunctions.1 htypes.1)

/-- A draft in which everything is valid, apart from the type itself. -/
structure TypeDraft.HoldsValid (draft : TypeDraft) : Prop where
  functions : ∀ f ∈ draft.decl.functions, f.FollowsRules
  primary : ∀ f ∈ draft.decl.primary, f.FollowsRules
  distinct : (draft.decl.constants.map Prod.fst).Nodup
  types : ∀ t ∈ draft.decl.types, t.IsValid
  bodies : ∀ c ∈ draft.decl.constants, c.2.IsValid

namespace TypeDraft

theorem holdsValid_start (kind : TypeKind) (name : Option String) :
    (start kind name).HoldsValid := by
  constructor <;> simp [start]

/-- One more enum constant.  A name that is there already is left alone. -/
theorem HoldsValid.addConstant {draft : TypeDraft} (h : draft.HoldsValid) (name : String)
    {body : TypeDecl Code} (hbody : body.IsValid) : (draft.addConstant name body).HoldsValid := by
  rw [TypeDraft.addConstant]
  split_ifs with hany
  · exact ⟨h.functions, h.primary, h.distinct, h.types, h.bodies⟩
  · have hfresh : name ∉ draft.decl.constants.map Prod.fst := by
      intro hname
      obtain ⟨c, hc, rfl⟩ := List.mem_map.1 hname
      exact hany (List.any_eq_true.2 ⟨c, hc, beq_self_eq_true c.1⟩)
    refine ⟨h.functions, h.primary, ?_, h.types, ?_⟩
    · rw [List.map_append, List.map_singleton]
      exact h.distinct.append (List.nodup_singleton name) (by simpa using hfresh)
    · intro c hc
      rcases List.mem_append.1 hc with hc | hc
      · exact h.bodies c hc
      · rwa [List.mem_singleton.1 hc]

/-- One more part. -/
theorem HoldsValid.add {draft : TypeDraft} (h : draft.HoldsValid) {part : TypePart}
    (hfunctions : ∀ f ∈ part.functions, f.FollowsRules) (htypes : ∀ t ∈ part.types, t.IsValid) :
    (draft.add part).HoldsValid := by
  cases part with
  | function f =>
    refine ⟨fun g hg => ?_, h.primary, h.distinct, h.types, h.bodies⟩
    rcases List.mem_append.1 hg with hg | hg
    · exact h.functions g hg
    · exact hfunctions g hg
  | primary f =>
    refine ⟨h.functions, fun g hg => ?_, h.distinct, h.types, h.bodies⟩
    obtain rfl : f = g := Option.some.inj hg
    exact hfunctions f List.mem_cons_self
  | type t =>
    refine ⟨h.functions, h.primary, h.distinct, fun t' ht' => ?_, h.bodies⟩
    rcases List.mem_append.1 ht' with ht' | ht'
    · exact h.types t' ht'
    · exact htypes t' ht'
  | constant name body => exact h.addConstant name (htypes body List.mem_cons_self)
  | _ => exact ⟨h.functions, h.primary, h.distinct, h.types, h.bodies⟩

/-- The type of a draft that is accepted is valid. -/
theorem HoldsValid.isValid {draft : TypeDraft} (h : draft.HoldsValid) {d : TypeDecl Code}
    (hd : draft.check = .ok d) : d.IsValid := by
  obtain ⟨hfaults, rfl⟩ := accept_eq_ok_iff.1 hd
  exact .intro (TypeDecl.faults_eq_nil_iff_followsRules.1 hfaults).1 h.functions h.primary
    h.distinct h.types h.bodies

end TypeDraft

/-- A valid type, taken up again. -/
theorem TypeDecl.IsValid.holdsValid {d : TypeDecl Code} (h : d.IsValid) :
    (TypeDraft.ofDecl d).HoldsValid := by
  obtain ⟨-, hfunctions, hprimary, hdistinct, htypes, hbodies⟩ := h
  exact ⟨hfunctions, hprimary, hdistinct, htypes, hbodies⟩

theorem TypeDecl.IsValid.types {d : TypeDecl Code} (h : d.IsValid) : ∀ t ∈ d.types, t.IsValid :=
  h.holdsValid.types

theorem TypeDecl.IsValid.bodies {d : TypeDecl Code} (h : d.IsValid) :
    ∀ c ∈ d.constants, c.2.IsValid := h.holdsValid.bodies

mutual

/-- Every draft holds nothing but valid declarations. -/
theorem TypeDraft.IsReachable.holdsValid : ∀ {draft : TypeDraft}, draft.IsReachable →
    draft.HoldsValid
  | _, .named kind name => TypeDraft.holdsValid_start kind (some name)
  | _, .anonymous => TypeDraft.holdsValid_start .plainClass none
  | _, .resume h => (TypeDecl.IsObtainable.isValid h).holdsValid
  | _, .add h hfunctions htypes =>
    (TypeDraft.IsReachable.holdsValid h).add (fun f hf => (hfunctions f hf).followsRules)
      fun t ht => TypeDecl.IsObtainable.isValid (htypes t ht)

/-- Everything that can be built is valid. -/
theorem TypeDecl.IsObtainable.isValid : ∀ {d : TypeDecl Code}, d.IsObtainable → d.IsValid
  | _, .built h hd => (TypeDraft.IsReachable.holdsValid h).isValid hd
  | _, .emptyBody => (TypeDraft.holdsValid_start .plainClass none).isValid rfl
  | _, .nested h ht => (TypeDecl.IsObtainable.isValid h).types _ ht
  | _, .body h hc => (TypeDecl.IsObtainable.isValid h).bodies _ hc

end

namespace TypeDecl

/-- **Everything that can be built is valid, and building it again changes nothing.**  A type that
can be obtained, by any path, follows the rules, and so do its functions, its constructors and, at
every depth, its nested types and the bodies of its enum constants.  Taken up again it is accepted
as it is, and so is every function that can be obtained. -/
theorem isValid_and_check_ofDecl :
    (∀ d : TypeDecl Code, d.IsObtainable → d.IsValid ∧ (TypeDraft.ofDecl d).check = .ok d) ∧
    ∀ f : FunctionDecl Code, f.IsObtainable → f.FollowsRules ∧ f.check = .ok f := by
  refine ⟨fun d hd => ⟨hd.isValid, ?_⟩, fun f hf => ⟨hf.followsRules, hf.followsRules.check_eq_ok⟩⟩
  obtain ⟨hrules, -⟩ := hd.isValid
  exact hrules.check_ofDecl

/-- A function with a parameter. -/
def mixFunction : FunctionDecl Code :=
  (FunctionDecl.start (some "mix")).add (.parameter (.start "other" (.primitive .int)))

/-- The body of an enum constant with this function. -/
def darkBody : TypeDecl Code :=
  ((TypeDraft.start .plainClass none).add (.function mixFunction)).decl

/-- The parts of an enum: constants without a body and with one, a function and an interface. -/
def shadeParts : List TypePart :=
  [.constant "LIGHT" emptyBody, .constant "DARK" darkBody, .function mixFunction,
    .type (TypeDraft.start .interface (some "Tone")).decl]

/-- This enum and the body of its second constant can be built, with the function in them, and are
accepted again. -/
theorem isValid_and_check_ofDecl_enum :
    ∃ shade, build .enumClass (some "Shade") shadeParts = .ok shade ∧
      build .plainClass none [.function mixFunction] = .ok darkBody ∧
      shade.IsObtainable ∧ darkBody.IsObtainable ∧ mixFunction.IsObtainable ∧
      shade.IsValid ∧ (TypeDraft.ofDecl shade).check = .ok shade ∧
      darkBody.IsValid ∧ (TypeDraft.ofDecl darkBody).check = .ok darkBody ∧
      mixFunction.FollowsRules ∧ mixFunction.check = .ok mixFunction := by
  obtain ⟨htypes, hfunctions⟩ := isValid_and_check_ofDecl
  have hmix : mixFunction.IsObtainable := ⟨mixFunction, .add (.start _) _, rfl⟩
  have htone : (TypeDraft.start .interface (some "Tone")).decl.IsObtainable :=
    .built (.named .interface "Tone") rfl
  have hbuiltDark : build .plainClass none [.function mixFunction] = .ok darkBody := rfl
  have hdark : darkBody.IsObtainable :=
    .of_build hbuiltDark (fun _ => rfl) (by simpa [TypePart.functions] using hmix)
      (by simp [TypePart.types])
  obtain ⟨shade, hbuiltShade⟩ : ∃ shade, build .enumClass (some "Shade") shadeParts = .ok shade :=
    ⟨_, rfl⟩
  have hshade : shade.IsObtainable :=
    .of_build hbuiltShade (by simp) (by simpa [shadeParts, TypePart.functions] using hmix)
      (by simpa [shadeParts, TypePart.types] using ⟨IsObtainable.emptyBody, hdark, htone⟩)
  exact ⟨shade, hbuiltShade, hbuiltDark, hshade, hdark, hmix, (htypes shade hshade).1,
    (htypes shade hshade).2, (htypes darkBody hdark).1, (htypes darkBody hdark).2,
    hfunctions mixFunction hmix⟩

end TypeDecl

end KotlinSource
