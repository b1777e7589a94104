import KotlinSource.Proofs.Printing.Closure

/-!
# The bodies around a reference

Whatever a file holds, a reference in its tokens stands inside the bodies of types of the file: code
adds no bodies of its own, as long as its anonymous types declare no types.  The names of the types
nested in those bodies are therefore names that the file declares.

## Main definitions

* `EntersOnly`: the bodies in printed code have only certain nested types.
* `FileDecl.typeNames`: the types and type aliases that a file declares, at any depth.

## Main results

* `nested_subset_of_mem_locate`: the scopes of a reference come from the bodies around it.
* `FileDecl.nested_mem_typeNames`: nested types around a reference are types of the file.
* `FileDecl.typeNames_subset_declaredNames`: types of the file count as declared names.
-/

namespace KotlinSource

/-! ### Bodies in printed code -/

/-- The names of the types nested in a body that a token starts. -/
def Token.nestedNames : Token → List String
  | .enter _ nested _ => nested
  | _ => []

/-- In the bodies of printed code only types with certain names are nested. -/
def EntersOnly (names : List String) (tokens : Tokens) : Prop :=
  ∀ t ∈ tokens, t.nestedNames ⊆ names

theorem printClosed_entersOnly (names : List String) : PrintClosed (EntersOnly names) := by
  refine .of_layout ⟨?_, fun hleft hright => List.forall_mem_append.2 ⟨hleft, hright⟩⟩ ?_ ?_
  · simp [EntersOnly]
  · simp [EntersOnly, Token.nestedNames]
  · simp [EntersOnly, Token.nestedNames]

theorem bodyClosed_entersOnly {κ : Type} {names : List String} {d : TypeDecl κ}
    (h : d.name.isSome → d.nestedNames ⊆ names) : BodyClosed (EntersOnly names) d := by
  intro name hname inside hinside
  have hnested : d.nestedNames ⊆ names := h (by simp [hname])
  refine List.forall_mem_append.2 ⟨List.forall_mem_append.2 ⟨?_, hinside⟩, ?_⟩
  · simpa [Token.nestedNames] using hnested
  · simp [Token.nestedNames]

/-- Scopes with nested types of certain names stay so behind a token that enters only such. -/
theorem nested_subset_scopesAfter {names : List String} {scopes : List Scope} {t : Token}
    (hscopes : ∀ s ∈ scopes, s.nested ⊆ names) (ht : t.nestedNames ⊆ names) :
    ∀ s ∈ scopesAfter scopes t, s.nested ⊆ names := by
  cases t with
  | layout op => exact hscopes
  | reference r => exact hscopes
  | enter type nested functions => exact List.forall_mem_cons.2 ⟨ht, hscopes⟩
  | leave => exact fun s hs => hscopes s (List.mem_of_mem_tail hs)

/-- The scopes of a reference come from the bodies around it. -/
theorem nested_subset_of_mem_locate {names : List String} {scopes : List Scope} {tokens : Tokens}
    (hscopes : ∀ s ∈ scopes, s.nested ⊆ names) (htokens : EntersOnly names tokens)
    {around : List Scope} {r : Reference} (h : .reference around r ∈ locate scopes tokens) :
    ∀ s ∈ around, s.nested ⊆ names := by
  induction tokens generalizing scopes with
  | nil => simp [locate] at h
  | cons t rest ih =>
    obtain ⟨ht, hrest⟩ := List.forall_mem_cons.1 htokens
    rcases List.mem_append.1 h with h | h
    · cases t with
      | reference r' =>
        cases List.mem_singleton.1 h
        exact hscopes
      | layout op => cases List.mem_singleton.1 h
      | enter => simp [locateToken] at h
      | leave => simp [locateToken] at h
    · exact ih (nested_subset_scopesAfter hscopes ht) hrest h

/-! ### Types of a file -/

theorem TypeDecl.nestedNames_subset {κ : Type} {d t : TypeDecl κ} (ht : t ∈ d :: d.innerTypes) :
    t.nestedNames ⊆ d.innerTypeNames := by
  intro name hname
  obtain ⟨u, hu, hname⟩ := List.mem_filterMap.1 hname
  exact List.mem_filterMap.2 ⟨u, mem_innerTypes_of_mem_types ht hu, hname⟩

namespace FileDecl

/-- The names of the types and type aliases that a file declares, at any depth. -/
def typeNames (file : FileDecl) : List String :=
  file.aliases.map AliasDecl.name ++ file.types.flatMap TypeDecl.typeNames

theorem innerTypeNames_subset_typeNames {file : FileDecl} {d : TypeDecl Code}
    (hd : d ∈ file.types) : d.innerTypeNames ⊆ file.typeNames := by
  intro name hname
  exact List.mem_append_right _
    (List.mem_flatMap_of_mem hd (List.mem_append_right _ hname))

theorem ownTypes_subset_typeNames (file : FileDecl) : file.context.ownTypes ⊆ file.typeNames := by
  intro name hname
  rcases List.mem_append.1 hname with hname | hname
  · obtain ⟨d, hd, hname⟩ := List.mem_filterMap.1 hname
    refine List.mem_append_right _ (List.mem_flatMap_of_mem hd (List.mem_append_left _ ?_))
    exact Option.mem_toList.2 hname
  · exact List.mem_append_left _ hname

/-- The bodies in a file are those of its types, if the anonymous types in its code declare none. -/
theorem entersOnly_tokens {file : FileDecl}
    (hobjects : ∀ decl, file.HasObject decl → decl.innerTypeNames = []) (imports : List Import) :
    EntersOnly file.typeNames (file.tokens imports) := by
  refine (printClosed_entersOnly _).fileTokens (fun decl hdecl t ht => ?_) (fun t ht => ?_) imports
  · refine bodyClosed_entersOnly fun hname => ?_
    obtain ⟨name, hname⟩ := Option.isSome_iff_exists.1 hname
    have hmem : name ∈ decl.innerTypeNames := List.mem_filterMap.2 ⟨t, ht, hname⟩
    rw [hobjects decl hdecl] at hmem
    cases hmem
  · obtain ⟨d, hd, ht⟩ := List.mem_flatMap.1 ht
    exact bodyClosed_entersOnly fun _ =>
      List.Subset.trans (TypeDecl.nestedNames_subset ht) (innerTypeNames_subset_typeNames hd)

/-- Types nested in the bodies around a reference are types of the file. -/
theorem nested_mem_typeNames {file : FileDecl}
    (hobjects : ∀ decl, file.HasObject decl → decl.innerTypeNames = []) {imports : List Import}
    {scopes : List Scope} {r : Reference}
    (h : .reference scopes r ∈ locate [] (file.tokens imports)) :
    ∀ s ∈ scopes, s.nested ⊆ file.typeNames :=
  nested_subset_of_mem_locate (by simp) (entersOnly_tokens hobjects imports) h

end FileDecl

/-! ### Declared names -/

theorem TypeDecl.declaredNames_eq (d : TypeDecl Code) :
    d.declaredNames = d.name.toList ++ variableNames d.typeVariables ++
      (d.functions ++ d.primary.toList).flatMap (fun f => variableNames f.typeVariables) ++
      d.constants.flatMap (fun c => c.2.declaredNames) ++ d.types.flatMap declaredNames := by
  rw [declaredNames, fold_eq, List.flatMap_map, List.flatMap_map]

/-- The types in a type are among the names that it declares. -/
theorem TypeDecl.typeNames_subset_declaredNames (d : TypeDecl Code) :
    d.typeNames ⊆ d.declaredNames := by
  induction d using induction with
  | node d hconstants htypes =>
    intro name hname
    rw [declaredNames_eq]
    rcases List.mem_append.1 hname with hname | hname
    · simp [Option.mem_toList.1 hname]
    · obtain ⟨t, ht, hname⟩ := List.mem_filterMap.1 hname
      rcases mem_innerTypes.1 ht with ⟨c, hc, ht⟩ | ⟨u, hu, rfl | ht⟩
      · have hmem : name ∈ c.2.typeNames :=
          List.mem_append_right _ (List.mem_filterMap.2 ⟨t, ht, hname⟩)
        refine List.mem_append_left _ (List.mem_append_right _ ?_)
        exact List.mem_flatMap_of_mem hc (hconstants c hc hmem)
      · have hmem : name ∈ t.typeNames := List.mem_append_left _ (Option.mem_toList.2 hname)
        exact List.mem_append_right _ (List.mem_flatMap_of_mem hu (htypes t hu hmem))
      · have hmem : name ∈ u.typeNames :=
          List.mem_append_right _ (List.mem_filterMap.2 ⟨t, ht, hname⟩)
        exact List.mem_append_right _ (List.mem_flatMap_of_mem hu (htypes u hu hmem))

/-- The types of a file are among the names that it declares. -/
theorem FileDecl.typeNames_subset_declaredNames (file : FileDecl) :
    file.typeNames ⊆ file.declaredNames := by
  intro name hname
  rcases List.mem_append.1 hname with hname | hname
  · obtain ⟨d, hd, rfl⟩ := List.mem_map.1 hname
    exact List.mem_append_left _ (List.mem_flatMap_of_mem hd List.mem_cons_self)
  · obtain ⟨d, hd, hname⟩ := List.mem_flatMap.1 hname
    exact List.mem_append_right _
      (List.mem_flatMap_of_mem hd (TypeDecl.typeNames_subset_declaredNames d hname))

end KotlinSource
