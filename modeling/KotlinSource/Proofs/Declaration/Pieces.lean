import KotlinSource.Declaration.Basic
import Mathlib.Data.List.Basic

/-!
# The code and the types in a declaration

A declaration holds pieces of code and, if it is a type, further types, at any depth: nested types
and the bodies of enum constants.  What is done to a declaration is followed through these types by
induction, and through the code by its size: a piece of code is smaller than the declaration that
holds it.

## Main definitions

* `AnnotationUse.pieces`, …, `AliasDecl.pieces`: the pieces of code in a declaration.
* `TypeDecl.innerTypes`: the types in a type, at any depth.
* `TypeDecl.innerTypeNames`, `TypeDecl.typeNames`: their names, without or with that of the type.

## Main results

* `TypeDecl.induction`: induction over the types in a type.
* `TypeDecl.pieces_map`, `TypeDecl.innerTypes_map`: other code leaves the shape as it is.
* `TypeDecl.sizeOf_lt_of_mem_pieces`: a piece of code is smaller than the type that holds it.
-/

namespace KotlinSource

variable {κ κ' : Type}

/-! ### Pieces of code -/

/-- The values of the members of an annotation use. -/
def AnnotationUse.pieces (a : AnnotationUse κ) : List κ := a.members.map Prod.snd

/-- The pieces of code in a parameter. -/
def ParameterDecl.pieces (p : ParameterDecl κ) : List κ :=
  p.annotations.flatMap AnnotationUse.pieces ++ p.default.toList

/-- The pieces of code in a property. -/
def PropertyDecl.pieces (p : PropertyDecl κ) : List κ :=
  [p.doc] ++ p.annotations.flatMap AnnotationUse.pieces ++ p.initializer.toList

/-- The pieces of code in a function. -/
def FunctionDecl.pieces (f : FunctionDecl κ) : List κ :=
  [f.doc, f.body] ++ f.annotations.flatMap AnnotationUse.pieces ++
    f.parameters.flatMap ParameterDecl.pieces ++ f.default.toList ++
    f.delegation.toList.flatMap Delegation.arguments

/-- The pieces of code that are written before the body of a function. -/
def FunctionDecl.headPieces (f : FunctionDecl κ) : List κ :=
  [f.doc] ++ f.annotations.flatMap AnnotationUse.pieces ++
    f.parameters.flatMap ParameterDecl.pieces ++ f.delegation.toList.flatMap Delegation.arguments

theorem FunctionDecl.headPieces_subset_pieces (f : FunctionDecl κ) : f.headPieces ⊆ f.pieces := by
  intro piece hpiece
  simp only [headPieces, pieces, List.mem_append, List.mem_cons] at hpiece ⊢
  tauto

namespace TypeDecl

/-- The pieces of code in a type, without those of the types in it. -/
def ownPieces (d : TypeDecl κ) : List κ :=
  [d.doc, d.staticBlock, d.initBlock] ++ d.annotations.flatMap AnnotationUse.pieces ++
    d.superArguments ++ d.properties.flatMap PropertyDecl.pieces ++
    d.primary.toList.flatMap FunctionDecl.pieces ++ d.functions.flatMap FunctionDecl.pieces

/-- The pieces of code in a type. -/
def pieces : TypeDecl κ → List κ :=
  fold fun d constants types =>
    d.ownPieces ++ constants.flatMap (fun c => c.2.2) ++ types.flatMap fun t => t.2

/-- The types nested in a type or in the bodies of its enum constants, at any depth. -/
def innerTypes : TypeDecl κ → List (TypeDecl κ) :=
  fold fun _ constants types =>
    constants.flatMap (fun c => c.2.2) ++ types.flatMap fun t => t.1 :: t.2

/-- The names of the types in a type. -/
def innerTypeNames (d : TypeDecl κ) : List String := d.innerTypes.filterMap name

/-- The names of a type and of the types in it. -/
def typeNames (d : TypeDecl κ) : List String := d.name.toList ++ d.innerTypeNames

end TypeDecl

/-- The pieces of code in a type alias. -/
def AliasDecl.pieces (d : AliasDecl κ) : List κ :=
  [d.doc] ++ d.annotations.flatMap AnnotationUse.pieces

/-! ### Induction over types -/

namespace TypeDecl

theorem sizeOf_constant_lt [SizeOf κ] {d : TypeDecl κ} {c : String × TypeDecl κ}
    (h : c ∈ d.constants) :
    sizeOf c.2 < sizeOf d := by
  have hmem := List.sizeOf_lt_of_mem h
  obtain ⟨name, body⟩ := c
  cases d
  simp only [mk.sizeOf_spec, Prod.mk.sizeOf_spec] at hmem ⊢
  omega

theorem sizeOf_type_lt [SizeOf κ] {d t : TypeDecl κ} (h : t ∈ d.types) : sizeOf t < sizeOf d := by
  have hmem := List.sizeOf_lt_of_mem h
  cases d
  simp only [mk.sizeOf_spec] at hmem ⊢
  omega

/-- What holds of a type as soon as it holds of its enum constants and nested types holds of every
type. -/
theorem induction {P : TypeDecl κ → Prop}
    (node : ∀ d : TypeDecl κ, (∀ c ∈ d.constants, P c.2) → (∀ t ∈ d.types, P t) → P d)
    (d : TypeDecl κ) : P d :=
  node d (fun c _ => induction node c.2) (fun t _ => induction node t)
termination_by sizeOf d
decreasing_by
  · exact sizeOf_constant_lt ‹_›
  · exact sizeOf_type_lt ‹_›

theorem pieces_eq (d : TypeDecl κ) :
    d.pieces = d.ownPieces ++ d.constants.flatMap (fun c => c.2.pieces) ++
      d.types.flatMap pieces := by
  rw [pieces, fold_eq, List.flatMap_map, List.flatMap_map]

theorem ownPieces_subset_pieces (d : TypeDecl κ) : d.ownPieces ⊆ d.pieces := by
  rw [pieces_eq, List.append_assoc]
  exact List.subset_append_left _ _

theorem innerTypes_eq (d : TypeDecl κ) :
    d.innerTypes = d.constants.flatMap (fun c => c.2.innerTypes) ++
      d.types.flatMap fun t => t :: t.innerTypes := by
  rw [innerTypes, fold_eq, List.flatMap_map, List.flatMap_map]

theorem mem_innerTypes {d t : TypeDecl κ} :
    t ∈ d.innerTypes ↔
      (∃ c ∈ d.constants, t ∈ c.2.innerTypes) ∨ ∃ u ∈ d.types, t = u ∨ t ∈ u.innerTypes := by
  rw [innerTypes_eq, List.mem_append, List.mem_flatMap, List.mem_flatMap]
  simp only [List.mem_cons]

/-- A type nested in a type of `d` is a type of `d`. -/
theorem mem_innerTypes_of_mem_types {d t u : TypeDecl κ} (ht : t ∈ d :: d.innerTypes)
    (hu : u ∈ t.types) : u ∈ d.innerTypes := by
  rcases List.mem_cons.1 ht with rfl | ht
  · exact mem_innerTypes.2 (.inr ⟨u, hu, .inl rfl⟩)
  · induction d using induction with
    | node d hconstants htypes =>
      rcases mem_innerTypes.1 ht with ⟨c, hc, ht⟩ | ⟨v, hv, rfl | ht⟩
      · exact mem_innerTypes.2 (.inl ⟨c, hc, hconstants c hc (List.mem_cons_of_mem _ ht) ht⟩)
      · exact mem_innerTypes.2 (.inr ⟨t, hv, .inr (mem_innerTypes.2 (.inr ⟨u, hu, .inl rfl⟩))⟩)
      · exact mem_innerTypes.2 (.inr ⟨v, hv, .inr (htypes v hv (List.mem_cons_of_mem _ ht) ht)⟩)

end TypeDecl

/-! ### Other code -/

section Map

variable (f : κ → κ')

theorem AnnotationUse.pieces_map (a : AnnotationUse κ) : (a.map f).pieces = a.pieces.map f := by
  simp [AnnotationUse.map, pieces]

theorem ParameterDecl.pieces_map (p : ParameterDecl κ) : (p.map f).pieces = p.pieces.map f := by
  simp [ParameterDecl.map, pieces, List.flatMap_map, List.map_flatMap, AnnotationUse.pieces_map,
    Option.toList_map]

theorem PropertyDecl.pieces_map (p : PropertyDecl κ) : (p.map f).pieces = p.pieces.map f := by
  simp [PropertyDecl.map, pieces, List.flatMap_map, List.map_flatMap, AnnotationUse.pieces_map,
    Option.toList_map]

theorem FunctionDecl.pieces_map (d : FunctionDecl κ) : (d.map f).pieces = d.pieces.map f := by
  simp [FunctionDecl.map, pieces, List.flatMap_map, List.map_flatMap, AnnotationUse.pieces_map,
    ParameterDecl.pieces_map, Option.toList_map, Delegation.map]

theorem FunctionDecl.headPieces_map (d : FunctionDecl κ) :
    (d.map f).headPieces = d.headPieces.map f := by
  simp [FunctionDecl.map, headPieces, List.flatMap_map, List.map_flatMap, AnnotationUse.pieces_map,
    ParameterDecl.pieces_map, Option.toList_map, Delegation.map]

theorem AliasDecl.pieces_map (d : AliasDecl κ) : (d.map f).pieces = d.pieces.map f := by
  simp [AliasDecl.map, pieces, List.flatMap_map, List.map_flatMap, AnnotationUse.pieces_map]

section Composition

variable {κ'' : Type} (g : κ' → κ'')

theorem AnnotationUse.map_map (a : AnnotationUse κ) : (a.map f).map g = a.map (g ∘ f) := by
  simp [AnnotationUse.map]

theorem ParameterDecl.map_map (p : ParameterDecl κ) : (p.map f).map g = p.map (g ∘ f) := by
  simp [ParameterDecl.map, Function.comp_def, AnnotationUse.map_map]

theorem PropertyDecl.map_map (p : PropertyDecl κ) : (p.map f).map g = p.map (g ∘ f) := by
  simp [PropertyDecl.map, Function.comp_def, AnnotationUse.map_map]

theorem Delegation.map_map (d : Delegation κ) : (d.map f).map g = d.map (g ∘ f) := by
  simp [Delegation.map]

theorem FunctionDecl.map_map (d : FunctionDecl κ) : (d.map f).map g = d.map (g ∘ f) := by
  simp [FunctionDecl.map, Function.comp_def, AnnotationUse.map_map, ParameterDecl.map_map,
    Delegation.map_map]

theorem AliasDecl.map_map (d : AliasDecl κ) : (d.map f).map g = d.map (g ∘ f) := by
  simp [AliasDecl.map, Function.comp_def, AnnotationUse.map_map]

end Composition

namespace TypeDecl

theorem map_eq (d : TypeDecl κ) :
    d.map f =
      ⟨d.kind, d.name, f d.doc, d.annotations.map (AnnotationUse.map f), d.modifiers,
        d.typeVariables, d.superclass, d.superArguments.map f, d.superinterfaces,
        d.constants.map (fun c => (c.1, c.2.map f)), d.properties.map (PropertyDecl.map f),
        d.primary.map (FunctionDecl.map f), f d.staticBlock, f d.initBlock,
        d.functions.map (FunctionDecl.map f), d.types.map (TypeDecl.map f)⟩ := by
  rw [TypeDecl.map, fold_eq, List.map_map, List.map_map]
  rfl

theorem ownPieces_map (d : TypeDecl κ) : (d.map f).ownPieces = d.ownPieces.map f := by
  rw [map_eq]
  simp [ownPieces, List.flatMap_map, List.map_flatMap, AnnotationUse.pieces_map,
    PropertyDecl.pieces_map, FunctionDecl.pieces_map, Option.toList_map]

theorem name_map (d : TypeDecl κ) : (d.map f).name = d.name := by
  rw [map_eq]

/-- Replacing the code in a type twice is replacing it once. -/
theorem map_map {κ'' : Type} (g : κ' → κ'') (d : TypeDecl κ) :
    (d.map f).map g = d.map (g ∘ f) := by
  induction d using induction with
  | node d hconstants htypes =>
    have hbodies : d.constants.map (fun c => (c.1, (c.2.map f).map g)) =
        d.constants.map fun c => (c.1, c.2.map (g ∘ f)) :=
      List.map_congr_left fun c hc => congrArg (Prod.mk c.1) (hconstants c hc)
    have hnested : d.types.map (fun t => (t.map f).map g) = d.types.map (TypeDecl.map (g ∘ f)) :=
      List.map_congr_left htypes
    rw [map_eq, map_eq, map_eq]
    simp only [List.map_map, Option.map_map, Function.comp_def] at hbodies hnested ⊢
    rw [hbodies, hnested]
    simp [Function.comp_def, AnnotationUse.map_map, PropertyDecl.map_map, FunctionDecl.map_map]

/-- The pieces of a type with other code are its pieces with their code replaced. -/
theorem pieces_map (d : TypeDecl κ) : (d.map f).pieces = d.pieces.map f := by
  induction d using induction with
  | node d hconstants htypes =>
    rw [pieces_eq, pieces_eq, ownPieces_map, map_eq]
    simp only [List.flatMap_map, List.map_append, List.map_flatMap]
    rw [List.flatMap_congr hconstants, List.flatMap_congr htypes]

/-- The types in a type with other code are its types with their code replaced. -/
theorem innerTypes_map (d : TypeDecl κ) :
    (d.map f).innerTypes = d.innerTypes.map (TypeDecl.map f) := by
  induction d using induction with
  | node d hconstants htypes =>
    have hinner : ∀ t ∈ d.types, t.map f :: (t.map f).innerTypes =
        (t :: t.innerTypes).map (TypeDecl.map f) := by
      intro t ht
      rw [htypes t ht, List.map_cons]
    rw [innerTypes_eq, innerTypes_eq, map_eq]
    simp only [List.flatMap_map, List.map_append, List.map_flatMap]
    rw [List.flatMap_congr hconstants, List.flatMap_congr hinner]

end TypeDecl

end Map

/-! ### Size -/

section Size

variable [SizeOf κ] {code : κ}

theorem sizeOf_lt_of_mem_toList {α : Type} [SizeOf α] {o : Option α} {a : α} (h : a ∈ o.toList) :
    sizeOf a < sizeOf o := by
  rw [Option.mem_toList] at h
  rw [h, Option.some.sizeOf_spec]
  omega

theorem AnnotationUse.sizeOf_lt_of_mem_pieces {a : AnnotationUse κ} (h : code ∈ a.pieces) :
    sizeOf code < sizeOf a := by
  obtain ⟨m, hm, rfl⟩ := List.mem_map.1 h
  have hmem := List.sizeOf_lt_of_mem hm
  obtain ⟨name, value⟩ := m
  cases a
  simp only [mk.sizeOf_spec, Prod.mk.sizeOf_spec] at hmem ⊢
  omega

/-- A piece of code in a list of parts is smaller than the list if it is smaller than its part. -/
theorem sizeOf_lt_of_mem_flatMap {α : Type} [SizeOf α] {pieces : α → List κ} {parts : List α}
    (hpieces : ∀ part, code ∈ pieces part → sizeOf code < sizeOf part)
    (h : code ∈ parts.flatMap pieces) : sizeOf code < sizeOf parts := by
  obtain ⟨part, hpart, hcode⟩ := List.mem_flatMap.1 h
  have hmem := List.sizeOf_lt_of_mem hpart
  have hlt := hpieces part hcode
  omega

theorem ParameterDecl.sizeOf_lt_of_mem_pieces {p : ParameterDecl κ} (h : code ∈ p.pieces) :
    sizeOf code < sizeOf p := by
  have hparts : sizeOf p.annotations < sizeOf p ∧ sizeOf p.default < sizeOf p := by
    cases p
    simp only [mk.sizeOf_spec]
    omega
  rcases List.mem_append.1 h with h | h
  · exact Nat.lt_trans
      (sizeOf_lt_of_mem_flatMap (fun _ => AnnotationUse.sizeOf_lt_of_mem_pieces) h) hparts.1
  · exact Nat.lt_trans (sizeOf_lt_of_mem_toList h) hparts.2

theorem PropertyDecl.sizeOf_lt_of_mem_pieces {p : PropertyDecl κ} (h : code ∈ p.pieces) :
    sizeOf code < sizeOf p := by
  have hparts : sizeOf p.doc < sizeOf p ∧ sizeOf p.annotations < sizeOf p ∧
      sizeOf p.initializer < sizeOf p := by
    cases p
    simp only [mk.sizeOf_spec]
    omega
  obtain ⟨hdoc, hannotations, hinitializer⟩ := hparts
  simp only [pieces, List.mem_append, List.mem_singleton] at h
  rcases h with (rfl | h) | h
  · exact hdoc
  · exact Nat.lt_trans
      (sizeOf_lt_of_mem_flatMap (fun _ => AnnotationUse.sizeOf_lt_of_mem_pieces) h) hannotations
  · exact Nat.lt_trans (sizeOf_lt_of_mem_toList h) hinitializer

theorem Delegation.sizeOf_lt_of_mem_arguments {d : Delegation κ} (h : code ∈ d.arguments) :
    sizeOf code < sizeOf d := by
  have hmem := List.sizeOf_lt_of_mem h
  cases d
  simp only [mk.sizeOf_spec] at hmem ⊢
  omega

theorem FunctionDecl.sizeOf_lt_of_mem_pieces {f : FunctionDecl κ} (h : code ∈ f.pieces) :
    sizeOf code < sizeOf f := by
  have hcode :
      sizeOf f.doc < sizeOf f ∧ sizeOf f.body < sizeOf f ∧ sizeOf f.default < sizeOf f := by
    cases f
    simp only [mk.sizeOf_spec]
    omega
  have hparts : sizeOf f.annotations < sizeOf f ∧ sizeOf f.parameters < sizeOf f ∧
      sizeOf f.delegation.toList ≤ sizeOf f := by
    cases f with
    | mk _ _ _ _ _ _ _ _ _ _ delegation =>
      cases delegation <;>
        simp only [mk.sizeOf_spec, Option.toList_none, Option.toList_some, List.nil.sizeOf_spec,
          List.cons.sizeOf_spec, Option.some.sizeOf_spec] <;>
        omega
  obtain ⟨hdoc, hbody, hdefault⟩ := hcode
  obtain ⟨hannotations, hparameters, hdelegation⟩ := hparts
  simp only [pieces, List.mem_append, List.mem_cons, List.not_mem_nil, or_false] at h
  rcases h with ((((rfl | rfl) | h) | h) | h) | h
  · exact hdoc
  · exact hbody
  · exact Nat.lt_trans
      (sizeOf_lt_of_mem_flatMap (fun _ => AnnotationUse.sizeOf_lt_of_mem_pieces) h) hannotations
  · exact Nat.lt_trans
      (sizeOf_lt_of_mem_flatMap (fun _ => ParameterDecl.sizeOf_lt_of_mem_pieces) h) hparameters
  · exact Nat.lt_trans (sizeOf_lt_of_mem_toList h) hdefault
  · exact Nat.lt_of_lt_of_le
      (sizeOf_lt_of_mem_flatMap (fun _ => Delegation.sizeOf_lt_of_mem_arguments) h) hdelegation

namespace TypeDecl

theorem sizeOf_lt_of_mem_ownPieces {d : TypeDecl κ} (h : code ∈ d.ownPieces) :
    sizeOf code < sizeOf d := by
  have hcode : sizeOf d.doc < sizeOf d ∧ sizeOf d.staticBlock < sizeOf d ∧
      sizeOf d.initBlock < sizeOf d ∧ sizeOf d.superArguments < sizeOf d := by
    cases d
    simp only [mk.sizeOf_spec]
    omega
  have hparts : sizeOf d.annotations < sizeOf d ∧ sizeOf d.properties < sizeOf d ∧
      sizeOf d.functions < sizeOf d ∧ sizeOf d.primary < sizeOf d := by
    cases d
    simp only [mk.sizeOf_spec]
    omega
  obtain ⟨hdoc, hstatic, hinit, harguments⟩ := hcode
  obtain ⟨hannotations, hproperties, hfunctions, hprimary⟩ := hparts
  simp only [ownPieces, List.mem_append, List.mem_cons, List.not_mem_nil, or_false] at h
  rcases h with (((((rfl | rfl | rfl) | h) | h) | h) | h) | h
  · exact hdoc
  · exact hstatic
  · exact hinit
  · exact Nat.lt_trans
      (sizeOf_lt_of_mem_flatMap (fun _ => AnnotationUse.sizeOf_lt_of_mem_pieces) h) hannotations
  · exact Nat.lt_trans (List.sizeOf_lt_of_mem h) harguments
  · exact Nat.lt_trans
      (sizeOf_lt_of_mem_flatMap (fun _ => PropertyDecl.sizeOf_lt_of_mem_pieces) h) hproperties
  · obtain ⟨f, hf, hcode⟩ := List.mem_flatMap.1 h
    have hlt := Nat.lt_trans (FunctionDecl.sizeOf_lt_of_mem_pieces hcode)
      (sizeOf_lt_of_mem_toList hf)
    exact Nat.lt_trans hlt hprimary
  · exact Nat.lt_trans
      (sizeOf_lt_of_mem_flatMap (fun _ => FunctionDecl.sizeOf_lt_of_mem_pieces) h) hfunctions

/-- A piece of code is smaller than the type that holds it, at whatever depth. -/
theorem sizeOf_lt_of_mem_pieces {d : TypeDecl κ} (h : code ∈ d.pieces) :
    sizeOf code < sizeOf d := by
  induction d using induction with
  | node d hconstants htypes =>
    rw [pieces_eq] at h
    simp only [List.mem_append, List.mem_flatMap] at h
    rcases h with (h | ⟨c, hc, h⟩) | ⟨t, ht, h⟩
    · exact sizeOf_lt_of_mem_ownPieces h
    · exact Nat.lt_trans (hconstants c hc h) (sizeOf_constant_lt hc)
    · exact Nat.lt_trans (htypes t ht h) (sizeOf_type_lt ht)

end TypeDecl

end Size

end KotlinSource
