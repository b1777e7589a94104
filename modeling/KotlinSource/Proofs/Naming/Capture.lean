import KotlinSource.Proofs.Imports.Exactness

/-!
# Type variables and the names of classes

Where a type variable is in scope, its name stands for it, so that a class of that name has to be
written with its package.  The import table makes no class short whose name is that of a type
variable of the file: it knows the type variables of the type aliases, of the types at any depth,
of the bodies of enum constants, and of the functions and constructors of all of these.

It does not look into code.  The type variables of an anonymous type in a piece of code capture the
classes of their names.  Types of the file and import aliases are not left to the table; they can
have the name of a type variable.  A class without a package has no other name than its own.

## Main definitions

* `TypeDecl.Binds`, `FileDecl.Binds`: the type variables of a type and of a file, without those in
  code.

## Main results

* `FileDecl.not_captured_of_binds`: classes with the name of a type variable.
* `FileDecl.render_pickerFile`: a class that a type variable in code captures.
-/

namespace KotlinSource

/-! ### Type variables of declarations -/

/-- A type variable is that of a type, of a function or constructor of it, or of a type in it or the
body of one of its enum constants, at any depth. -/
inductive TypeDecl.Binds (v : TypeVariable) : TypeDecl Code → Prop
  | ofType {d : TypeDecl Code} (h : v ∈ d.typeVariables) : Binds v d
  | ofFunction {d : TypeDecl Code} {f : FunctionDecl Code} (hf : f ∈ d.functions)
      (h : v ∈ f.typeVariables) : Binds v d
  | ofPrimary {d : TypeDecl Code} {f : FunctionDecl Code} (hf : f ∈ d.primary)
      (h : v ∈ f.typeVariables) : Binds v d
  | inConstant {d : TypeDecl Code} {c : String × TypeDecl Code} (hc : c ∈ d.constants)
      (h : Binds v c.2) : Binds v d
  | inType {d t : TypeDecl Code} (ht : t ∈ d.types) (h : Binds v t) : Binds v d

/-- A type variable is that of a type alias or of a type of the file. -/
def FileDecl.Binds (v : TypeVariable) (file : FileDecl) : Prop :=
  (∃ d ∈ file.aliases, v ∈ d.typeVariables) ∨ ∃ d ∈ file.types, TypeDecl.Binds v d

theorem TypeDecl.Binds.mem_declaredNames {v : TypeVariable} {d : TypeDecl Code}
    (h : TypeDecl.Binds v d) : v.name ∈ d.declaredNames := by
  induction h with
  | ofType h =>
    rw [declaredNames_eq]
    simp only [List.mem_append]
    exact .inl (.inl (.inl (.inr (List.mem_map_of_mem h))))
  | ofFunction hf h =>
    rw [declaredNames_eq]
    simp only [List.mem_append]
    exact .inl (.inl (.inr (List.mem_flatMap_of_mem (List.mem_append_left _ hf)
      (List.mem_map_of_mem h))))
  | ofPrimary hf h =>
    rw [declaredNames_eq]
    simp only [List.mem_append]
    exact .inl (.inl (.inr (List.mem_flatMap_of_mem
      (List.mem_append_right _ (Option.mem_toList.2 hf)) (List.mem_map_of_mem h))))
  | inConstant hc _ ih =>
    rw [declaredNames_eq]
    exact List.mem_append_left _ (List.mem_append_right _ (List.mem_flatMap_of_mem hc ih))
  | inType ht _ ih =>
    rw [declaredNames_eq]
    exact List.mem_append_right _ (List.mem_flatMap_of_mem ht ih)

namespace FileDecl

variable {file : FileDecl} {scopes : List Scope} {r : Reference} {c : ClassName} {v : TypeVariable}

theorem Binds.mem_declaredNames (h : Binds v file) : v.name ∈ file.declaredNames := by
  rcases h with ⟨d, hd, h⟩ | ⟨d, hd, h⟩
  · exact List.mem_append_left _
      (List.mem_flatMap_of_mem hd (List.mem_cons_of_mem _ (List.mem_map_of_mem h)))
  · exact List.mem_append_right _ (List.mem_flatMap_of_mem hd h.mem_declaredNames)

/-! ### Classes without their package -/

/-- What is written for a class whose spelling does not need the import table. -/
theorem written_of_settled (hc : file.context.writtenClass? r = some c) {text : String}
    (hclass : file.context.classSpelling scopes c = .settled text)
    (hbuiltin : ∀ b, r = .builtin b → file.context.builtinSpelling b = .settled text) :
    file.written scopes r = text ++ r.suffix := by
  cases r with
  | declared d =>
    obtain rfl := Option.some.inj hc
    rw [written, NamingContext.spelling, hclass]
    exact String.append_empty.symm
  | builtin b =>
    rw [written, NamingContext.spelling, hbuiltin b rfl]
    exact String.append_empty.symm
  | member m =>
    rw [written, NamingContext.spelling, memberSpelling_of_writtenClass? hc, hclass]
    rfl

/-- What is written for a class with an import alias, or inside of a class with one. -/
theorem written_of_aliased (hc : file.context.writtenClass? r = some c) {text : String}
    (haliased : file.context.aliased? c = some text) :
    file.written scopes r = text ++ r.suffix := by
  refine written_of_settled hc ?_ ?_
  · rw [NamingContext.classSpelling, haliased]
  · rintro b rfl
    obtain rfl := Option.some.inj hc
    rw [NamingContext.builtinSpelling, haliased]

/-- What is written for a class of the file's own. -/
theorem written_of_isOwn (hc : file.context.writtenClass? r = some c)
    (haliased : file.context.aliased? c = none) (hown : file.context.isOwn c = true)
    (hbuiltin : ∀ b, r ≠ .builtin b) :
    file.written scopes r = safeQualified (visibleName scopes c) ++ r.suffix := by
  refine written_of_settled hc ?_ fun b hr => absurd hr (hbuiltin b)
  rw [NamingContext.classSpelling, haliased]
  exact if_pos hown

/-- A name that the scopes resolve is that of a type nested in a body around it, or it stands for an
outermost type of that name. -/
theorem nested_or_eq_of_resolveSimple {name : String} {path : List String}
    (h : resolveSimple scopes name = some path) :
    (∃ s ∈ scopes, name ∈ s.nested) ∨ path = [name] := by
  rw [resolveSimple] at h
  cases hfind : scopes.find? fun s => s.nested.contains name with
  | some s =>
    have hnested := List.find?_some hfind
    exact .inl ⟨s, List.mem_of_find?_eq_some hfind, by simpa using hnested⟩
  | none =>
    simp only [hfind] at h
    split at h
    · split at h
      · exact .inr (Option.some.inj h).symm
      · cases h
    · cases h

/-- A class of the file's own that is written without its package starts with the name of a type of
the file or of a type nested in a body around it. -/
theorem exists_visibleName_eq (hown : file.context.isOwn c = true)
    (h : visibleEnd? scopes c = none → resolveSimple scopes c.top = none) :
    ∃ first rest, visibleName scopes c = Text.joinWith "." (first :: rest) ∧
      (∀ s ∈ first :: rest, s ∈ c.names) ∧
        (first ∈ file.context.ownTypes ∨ ∃ s ∈ scopes, first ∈ s.nested) := by
  rw [NamingContext.isOwn, Bool.and_eq_true, List.contains_iff_mem] at hown
  rw [visibleName]
  cases hend : visibleEnd? scopes c with
  | none =>
    simp only [h hend, Option.isSome_none, Bool.false_eq_true, if_false]
    exact ⟨c.top, c.inner, rfl, fun _ hs => hs, .inl hown.2⟩
  | some names =>
    obtain ⟨k, -, hfrom⟩ := List.exists_of_findSome?_eq_some hend
    rw [visibleFrom?] at hfrom
    cases hdrop : c.names.drop k with
    | nil =>
      rw [hdrop] at hfrom
      cases hfrom
    | cons first rest =>
      simp only [hdrop] at hfrom
      split at hfrom
      · next hresolve =>
        obtain rfl := Option.some.inj hfrom
        refine ⟨first, rest, rfl, fun s hs => List.mem_of_mem_drop (hdrop ▸ hs), ?_⟩
        rcases nested_or_eq_of_resolveSimple hresolve with hnested | htake
        · exact .inr hnested
        · rw [ClassName.names, List.take_succ_cons] at htake
          exact .inl ((List.cons.inj htake).1 ▸ hown.2)
      · cases hfrom

/-! ### Classes with the name of a type variable -/

theorem classIsShort_eq_false_of_binds (h : Binds v file) (hname : v.name = c.top) :
    file.importTable.classIsShort c = false := by
  rw [← Bool.not_eq_true]
  exact fun hshort => (notMem_of_classIsShort hshort).1 (hname ▸ h.mem_declaredNames)

/-- Imported classes are short. -/
theorem classIsShort_of_mem_classes (h : c.topLevel ∈ file.importTable.classes) :
    file.importTable.classIsShort c = true := by
  have hclasses : file.importTable.classes = file.references.importedClasses := rfl
  rw [hclasses, References.importedClasses_eq] at h
  exact References.table_classIsShort_iff.2 (List.mem_of_mem_filter h)

/-- A reference that leaves its class to the import table is written with the package of the class
exactly if the class is not short. -/
theorem isQualified_of_isTabled (h : file.IsTabled r c) :
    file.isQualified scopes r = !file.importTable.classIsShort c := by
  obtain ⟨hc, haliased, hown⟩ := h
  cases r with
  | declared d =>
    obtain rfl := Option.some.inj hc
    have hown : file.context.isOwn d = false := hown.resolve_right (by simp)
    simp [isQualified, classIsQualified, haliased, hown]
  | builtin b =>
    obtain rfl := Option.some.inj hc
    simp [isQualified, haliased]
  | member m =>
    have hown : file.context.isOwn c = false := hown.resolve_right (by simp)
    simp [isQualified, enclosing?_of_writtenClass? hc, classIsQualified, haliased, hown]

/-- The first name that is written for a class without its package, if a type variable has it, is
also that of a type of the file, of a type nested in a body around the place or of an import. -/
theorem exists_first_of_isQualified_eq_false (hc : file.context.writtenClass? r = some c)
    (hqualified : file.isQualified scopes r = false) :
    ∃ first rest, file.written scopes r = Text.joinWith "." ((first :: rest).map safeName) ++
        r.suffix ∧ ∀ v, Binds v file → v.name = first → first ∈ file.context.ownTypes ∨
          (∃ s ∈ scopes, first ∈ s.nested) ∨ ∃ i ∈ file.aliasedImports, i.alias? = some first := by
  have hdots : ∀ names : List String, (∀ s ∈ names, s ∈ c.names) → ∀ s ∈ names, '.' ∉ s.toList :=
    fun names hnames s hs => ClassName.notMem_of_mem_names (hnames s hs)
  cases haliased : file.context.aliased? c with
  | some text =>
    obtain ⟨k, -, hfrom⟩ := List.exists_of_findSome?_eq_some haliased
    rw [NamingContext.aliasedFrom?, Option.map_eq_some_iff] at hfrom
    obtain ⟨name, hname, rfl⟩ := hfrom
    obtain ⟨i, hi, -, halias⟩ := exists_import_of_alias? hname
    exact ⟨name, _, written_of_aliased hc haliased, fun _ _ _ => .inr (.inr ⟨i, hi, halias⟩)⟩
  | none =>
    by_cases htabled : file.IsTabled r c
    · rw [isQualified_of_isTabled htabled, Bool.not_eq_false'] at hqualified
      refine ⟨c.top, c.inner, ?_, fun v hv hname => ?_⟩
      · rw [written_of_isTabled htabled, if_pos hqualified]
        exact congrArg (· ++ r.suffix)
          (safeQualified_joinWith c.names_ne_nil (hdots _ fun _ hs => hs))
      · rw [classIsShort_eq_false_of_binds hv hname] at hqualified
        cases hqualified
    · have hown : file.context.isOwn c = true ∧ ∀ b, r ≠ .builtin b := by
        simpa [IsTabled, hc, haliased] using htabled
      have hvisible : visibleEnd? scopes c = none → resolveSimple scopes c.top = none := by
        intro hend
        have hclass : file.classIsQualified scopes c = false := by
          cases r with
          | declared d =>
            obtain rfl := Option.some.inj hc
            exact hqualified
          | builtin b => exact absurd rfl (hown.2 b)
          | member m => simpa [isQualified, enclosing?_of_writtenClass? hc] using hqualified
        simpa [classIsQualified, haliased, hown.1, hend] using hclass
      obtain ⟨first, rest, hname, hnames, hfirst⟩ := exists_visibleName_eq hown.1 hvisible
      refine ⟨first, rest, ?_, fun _ _ _ => hfirst.imp_right .inl⟩
      rw [written_of_isOwn hc haliased hown.1 hown.2, hname,
        safeQualified_joinWith (List.cons_ne_nil _ _) (hdots _ hnames)]

/-- **Type variables capture no class that is left to the import table.**  What is written for a
reference stands in the file where the reference does.  Where a class is written without its
package, be it a type, a built-in type or the owner of a member, a type variable of the file, those
of anonymous types in code apart, has the first name that is written only if this is also the name
of a type of the file, of a type nested in a body around the place or of an import.  A class that is
left to the import table and has the name of such a type variable is written with its package, and
its outermost class is not imported. -/
theorem not_captured_of_binds (hc : file.context.writtenClass? r = some c) :
    (∀ k : Nat,
      (locate [] (file.tokens file.importTable.lines))[k]? = some (.reference scopes r) →
        file.operations[k]? = some (.text (file.written scopes r))) ∧
      (file.isQualified scopes r = false → ∃ first rest,
        file.written scopes r = Text.joinWith "." ((first :: rest).map safeName) ++ r.suffix ∧
          ∀ v, Binds v file → v.name = first → first ∈ file.context.ownTypes ∨
            (∃ s ∈ scopes, first ∈ s.nested) ∨ ∃ i ∈ file.aliasedImports, i.alias? = some first) ∧
      (file.IsTabled r c → ∀ v, Binds v file → v.name = c.top →
        file.written scopes r = safeQualified c.canonicalName ++ r.suffix ∧
          c.topLevel ∉ file.importTable.classes) := by
  refine ⟨fun k => file.getElem?_operations, exists_first_of_isQualified_eq_false hc,
    fun htabled v hv hname => ⟨?_, fun hmem => ?_⟩⟩
  · rw [written_of_isTabled htabled, classIsShort_eq_false_of_binds hv hname]
    rfl
  · have hshort := classIsShort_of_mem_classes hmem
    rw [classIsShort_eq_false_of_binds hv hname] at hshort
    cases hshort

/-- A type variable `T`. -/
def variableT : TypeVariable := .bounded "T" []

/-- A function `pick` with a type variable `T` and parameters of the types `T`, `lib.T` and
`lib.Ruler`. -/
def pickFunction : FunctionDecl Code :=
  { FunctionDecl.start (some "pick") with
    typeVariables := [variableT]
    parameters := [
      ParameterDecl.start "value" (.variable variableT),
      ParameterDecl.start "other" (.ofClass (toolName "lib" "T")),
      ParameterDecl.start "ruler" (.ofClass (toolName "lib" "Ruler"))] }

/-- A file with an enum one of whose constants has the function `pick`. -/
def choiceFile : FileDecl :=
  let body := { (TypeDraft.start .plainClass none).decl with functions := [pickFunction] }
  let choice := (TypeDraft.start .enumClass (some "Choice")).decl
  { start "app" "Choice" with types := [{ choice with constants := [("FIRST", body)] }] }

/-- In the body of the enum constant the class `lib.T` is written with its package, and `lib.Ruler`
by a name that is not that of the type variable. -/
theorem not_captured_of_binds_choice :
    Binds variableT choiceFile ∧
      choiceFile.IsTabled (.declared (toolName "lib" "T")) (toolName "lib" "T") ∧
      (∃ k : Nat, choiceFile.operations[k]? = some (.text "lib.T")) ∧
      (toolName "lib" "T").topLevel ∉ choiceFile.importTable.classes ∧
      (∃ first rest, choiceFile.written [⟨["Choice"], [], []⟩]
          (.declared (toolName "lib" "Ruler")) =
            Text.joinWith "." ((first :: rest).map safeName) ++ "" ∧ "T" ≠ first) ∧
      choiceFile.render = "package app\n\nimport lib.Ruler\n\nenum class Choice \x7b\n" ++
        "  FIRST \x7b\n    fun <T> pick(value: T, other: lib.T, ruler: Ruler) \x7b\n    \x7d\n" ++
        "  \x7d\n\x7d\n" := by
  have hbinds : Binds variableT choiceFile :=
    .inr ⟨_, List.mem_singleton_self _, .inConstant (List.mem_singleton_self _)
      (.ofFunction (List.mem_singleton_self _) (List.mem_singleton_self _))⟩
  have htabled : choiceFile.IsTabled (.declared (toolName "lib" "T")) (toolName "lib" "T") :=
    ⟨rfl, rfl, .inl rfl⟩
  have hbare : choiceFile.isQualified [⟨["Choice"], [], []⟩]
      (.declared (toolName "lib" "Ruler")) = false := by decide +kernel
  have hmem : Located.reference [⟨["Choice"], [], []⟩] (.declared (toolName "lib" "T")) ∈
      locate [] (choiceFile.tokens choiceFile.importTable.lines) := by decide +kernel
  obtain ⟨k, hk⟩ := List.mem_iff_getElem?.1 hmem
  obtain ⟨hstands, -, hqualified⟩ := not_captured_of_binds htabled.1
  obtain ⟨hwritten, hclasses⟩ := hqualified htabled variableT hbinds rfl
  have hname : choiceFile.operations[k]? = some (.text "lib.T") :=
    (hstands k hk).trans (congrArg (fun text => some (LayoutOp.text text)) hwritten)
  obtain ⟨first, rest, hruler, hfirst⟩ := (not_captured_of_binds rfl).2.1 hbare
  have hne : "T" ≠ first := by
    intro hname
    have hother := hfirst variableT hbinds hname
    rw [← hname] at hother
    exact absurd hother (by decide +kernel)
  exact ⟨hbinds, htabled, ⟨k, hname⟩, hclasses, ⟨first, rest, hruler, hne⟩, by decide +kernel⟩

/-- A file with a class `T`, and a class whose function has a type variable `T` and parameters of
both types. -/
def boxFile : FileDecl :=
  let pick := { FunctionDecl.start (some "pick") with
    typeVariables := [variableT]
    parameters := [
      ParameterDecl.start "value" (.variable variableT),
      ParameterDecl.start "other" (.ofClass (toolName "app" "T"))] }
  let box := { (TypeDraft.start .plainClass (some "Box")).decl with functions := [pick] }
  { start "app" "Box" with types := [(TypeDraft.start .plainClass (some "T")).decl, box] }

-- Types of the file are an exception: the shortest name of the class is that of the type variable.
example : boxFile.render = "package app\n\nclass T\n\nclass Box \x7b\n" ++
    "  fun <T> pick(value: T, other: T) \x7b\n  \x7d\n\x7d\n" := by decide +kernel

/-- A file with a property whose initial value is an anonymous type with the function `pick`. -/
def pickerFile : FileDecl :=
  let picker := { (TypeDraft.start .plainClass none).decl with functions := [pickFunction] }
  let property := { PropertyDecl.start "picker" (.ofClass ClassName.any) with
    initializer := some [.object picker] }
  let box := (TypeDraft.start .plainClass (some "Box")).decl
  { start "app" "Box" with types := [{ box with properties := [property] }] }

/-- The type variable of an anonymous type captures the class: the class is imported, and it is
written by its simple name where that stands for the type variable. -/
theorem render_pickerFile :
    build "app" "Box" (pickerFile.types.map .type) = .ok pickerFile ∧
      pickerFile.render = "package app\n\nimport lib.Ruler\nimport lib.T\n\nclass Box \x7b\n" ++
        "  val picker: Any = object \x7b\n" ++
        "    fun <T> pick(value: T, other: T, ruler: Ruler) \x7b\n    \x7d\n  \x7d\n\x7d\n" :=
  ⟨rfl, by decide +kernel⟩

end FileDecl

end KotlinSource
