import KotlinSource.Proofs.File.Aliases
import KotlinSource.Proofs.Imports.Table
import KotlinSource.Proofs.Lexical.Backticks
import KotlinSource.Proofs.Naming.Bodies
import KotlinSource.Proofs.Naming.Walk

/-!
# What a written name stands for

A reader of a file looks the first segment of a dotted name up, first among the types nested in the
bodies around it, then among the types and type aliases of the file, then among the import aliases
and last among the classes with short names.  What is bound to none of these is a qualified name.
This file shows that every class that is mentioned in a file is written in a way that leads a
reader back to it.

Four ways of writing a class are possible, and each of them is right for its own reason.  An import
alias must not be the name of a type or type alias of the file.  The end of a chain is written only
where a lookup in the scopes gives the class.  A class is short only if its name is neither declared
nor an alias and no other class of that name is mentioned.  For a qualified name nothing needs to be
known, but that its first segment is bound to nothing.

## Main definitions

* `FileDecl.binding?`: the qualified name that a simple name stands for.
* `FileDecl.denoted`: the qualified name that a dotted name stands for.
* `FileDecl.written`: what is written for a reference.
* `FileDecl.isQualified`: whether the class of a reference is written with its package.

## Main results

* `FileDecl.operations_eq_map`, `FileDecl.mem_lookups_rendering`: what is written for references
  stands in the file, and the walk that writes it comes to them.
* `FileDecl.denoted_of_aliased`, `FileDecl.denoted_of_own`, `FileDecl.binding?_of_short`:
  the three ways of writing a class that rest on a binding.
* `FileDecl.exists_denoted_eq_canonicalName`: references denote what they name.
* `FileDecl.denoted_toolAliasFile`: an import alias with the name of a type alias.
-/

namespace KotlinSource

/-! ### Reading names -/

namespace FileDecl

variable (file : FileDecl)

/-- The qualified name of the class that a simple name stands for inside the scopes. -/
def binding? (scopes : List Scope) (name : String) : Option String :=
  match scopes.find? fun s => s.nested.contains name with
  | some s => some (qualify file.package (Text.joinWith "." (s.path ++ [name])))
  | none =>
    if file.context.ownTypes.contains name then some (qualify file.package name)
    else
      match file.aliasedImports.find? fun i => i.alias? == some name with
      | some i => some i.qualifiedName
      | none =>
        (file.importTable.short.lookup name).map fun package => qualify package name

/-- The qualified name that a dotted name stands for inside the scopes: that of its first segment,
with the other segments behind it, or the whole name if the first segment stands for nothing. -/
def denoted (scopes : List Scope) (dotted : String) : String :=
  match Text.splitAt '.' dotted with
  | [] => dotted
  | first :: rest =>
    match file.binding? scopes first with
    | some found => Text.joinWith "." (found :: rest)
    | none => dotted

/-- Whether a class is written with its package: it has no import alias, and it is neither short nor
visible as a class of the file's own. -/
def classIsQualified (scopes : List Scope) (c : ClassName) : Bool :=
  (file.context.aliased? c).isNone &&
    if file.context.isOwn c then
      (visibleEnd? scopes c).isNone && (resolveSimple scopes c.top).isSome
    else !file.importTable.classIsShort c

/-- Whether the class of a reference is written with its package. -/
def isQualified (scopes : List Scope) : Reference → Bool
  | .declared c => file.classIsQualified scopes c
  | .builtin b =>
    (file.context.aliased? b.className).isNone && !file.importTable.classIsShort b.className
  | .member m => m.enclosing?.any (file.classIsQualified scopes)

end FileDecl

/-- The class that is written for a reference, if it is not the import alias of a member. -/
def NamingContext.writtenClass? (context : NamingContext) : Reference → Option ClassName
  | .declared c => some c
  | .builtin b => some b.className
  | .member m => if (context.alias? m.canonicalName).isSome then none else m.enclosing?

/-- What is written for a reference in a file. -/
def FileDecl.written (file : FileDecl) (scopes : List Scope) (r : Reference) : String :=
  (file.context.spelling scopes r).write (some file.importTable)

namespace FileDecl

variable (file : FileDecl)

/-- The operations of a file write this for its references, in their order. -/
theorem operations_eq_map :
    file.operations = (locate [] (file.tokens file.importTable.lines)).map fun
      | .layout op => op
      | .reference scopes r => .text (file.written scopes r) := by
  rw [operations, NamingContext.write]
  refine List.map_congr_left fun located _ => ?_
  cases located with
  | layout op => rfl
  | reference scopes r => rfl

/-- What the file writes at the place of a reference. -/
theorem getElem?_operations {k : Nat} {scopes : List Scope} {r : Reference}
    (h : (locate [] (file.tokens file.importTable.lines))[k]? = some (.reference scopes r)) :
    file.operations[k]? = some (.text (file.written scopes r)) := by
  rw [operations_eq_map, List.getElem?_map, h]
  rfl

/-- The walk that writes the file comes to its references and writes this for them. -/
theorem mem_lookups_rendering {l : Lookup} :
    l ∈ file.rendering.lookups ↔
      .reference l.scopes l.reference ∈ locate [] (file.tokens file.importTable.lines) ∧
        l.text = file.written l.scopes l.reference := by
  have hlookups : file.rendering.lookups =
      (KotlinSource.lookups [] (file.tokens file.importTable.lines)).map fun found =>
        ⟨found.1, found.2, file.written found.1 found.2⟩ := by
    rw [rendering, Walk.run_eq]
    rfl
  rw [hlookups, List.mem_map]
  constructor
  · rintro ⟨⟨scopes, r⟩, hmem, rfl⟩
    exact ⟨mem_lookups.1 hmem, rfl⟩
  · rintro ⟨hmem, htext⟩
    exact ⟨_, mem_lookups.2 hmem, by rw [← htext]⟩

end FileDecl

/-- What is written behind the class of a reference. -/
def Reference.suffix : Reference → String
  | .declared _ => ""
  | .builtin _ => ""
  | .member m => "." ++ safeName m.name

/-! ### Segments of names -/

theorem ClassName.notMem_of_mem_names {c : ClassName} {name : String} (h : name ∈ c.names) :
    '.' ∉ name.toList := notMem_toList_of_isSimpleName (c.simple name h)

theorem mem_toList_joinWith {sep s : String} {segments : List String} (hs : s ∈ segments) {c : Char}
    (hc : c ∈ s.toList) : c ∈ (Text.joinWith sep segments).toList := by
  induction segments with
  | nil => cases hs
  | cons t segments ih =>
    cases segments with
    | nil => rwa [Text.joinWith_singleton, ← List.mem_singleton.1 hs]
    | cons u segments =>
      rw [Text.joinWith_cons_cons, String.toList_append, String.toList_append]
      rcases List.mem_cons.1 hs with rfl | hs
      · exact List.mem_append_left _ (List.mem_append_left _ hc)
      · exact List.mem_append_right _ (ih hs)

/-- The names of a class hold no backticks if its qualified name holds none. -/
theorem ClassName.backtick_notMem {c : ClassName} (h : '\x60' ∉ c.canonicalName.toList)
    {name : String} (hname : name ∈ c.names) : '\x60' ∉ name.toList := by
  intro hmem
  have hchain : '\x60' ∈ c.chain.toList := mem_toList_joinWith hname hmem
  refine h ?_
  rw [canonicalName, qualify]
  split
  · exact hchain
  · rw [String.toList_append]
    exact List.mem_append_right _ hchain

/-- A class is the qualified name of a class around it with the remaining names behind it. -/
theorem ClassName.joinWith_qualify {c : ClassName} {front rest : List String}
    (h : c.names = front ++ rest) (hne : front ≠ []) :
    Text.joinWith "." (qualify c.package (Text.joinWith "." front) :: rest) = c.canonicalName := by
  have hchain : c.chain = Text.joinWith "." (Text.joinWith "." front :: rest) := by
    rw [chain, h, Text.joinWith_append "." hne]
  rw [canonicalName, hchain, qualify, qualify]
  split
  · rfl
  · rw [Text.joinWith_append_cons]

namespace FileDecl

variable {file : FileDecl} {scopes : List Scope} {c : ClassName}

/-- A dotted name stands for what its first segment is bound to, with the others behind it. -/
theorem denoted_joinWith {first found : String} {rest : List String}
    (hdots : ∀ s ∈ first :: rest, '.' ∉ s.toList) (h : file.binding? scopes first = some found) :
    file.denoted scopes (Text.joinWith "." (first :: rest)) =
      Text.joinWith "." (found :: rest) := by
  have hsplit : Text.splitAt '.' (Text.joinWith "." (first :: rest)) = first :: rest :=
    Text.splitAt_joinWith (List.cons_ne_nil first rest) hdots
  simp only [denoted, hsplit, h]

theorem find?_nested_eq_none {name : String} (h : ∀ s ∈ scopes, name ∉ s.nested) :
    scopes.find? (fun s => s.nested.contains name) = none := by
  rw [List.find?_eq_none]
  intro s hs
  simpa using h s hs

/-! ### Import aliases -/

/-- An alias that is no type of the file stands for what was imported. -/
theorem binding?_of_alias (hwell : WellAliased file.aliasedImports)
    (hscopes : ∀ s ∈ scopes, s.nested ⊆ file.typeNames) {i : Import} {name : String}
    (hi : i ∈ file.aliasedImports) (halias : i.alias? = some name) (hname : name ∉ file.typeNames) :
    file.binding? scopes name = some i.qualifiedName := by
  have hnested : ∀ s ∈ scopes, name ∉ s.nested := fun s hs hmem => hname (hscopes s hs hmem)
  have hown : name ∉ file.context.ownTypes := fun hmem =>
    hname (file.ownTypes_subset_typeNames hmem)
  rw [binding?, find?_nested_eq_none hnested]
  simp only [hwell.find?_alias hi halias]
  exact if_neg (by simpa using hown)

/-- A class that is written under an import alias. -/
theorem denoted_of_aliased (hwell : WellAliased file.aliasedImports)
    (halias : ∀ i ∈ file.aliasedImports, i.aliasName ∉ file.typeNames)
    (hscopes : ∀ s ∈ scopes, s.nested ⊆ file.typeNames)
    (hbackticks : ∀ name ∈ c.names, '\x60' ∉ name.toList) {text : String}
    (h : file.context.aliased? c = some text) :
    file.denoted scopes (unquoted text) = c.canonicalName := by
  obtain ⟨k, -, hfrom⟩ := List.exists_of_findSome?_eq_some h
  rw [NamingContext.aliasedFrom?, Option.map_eq_some_iff] at hfrom
  obtain ⟨name, hname, rfl⟩ := hfrom
  obtain ⟨i, hi, hqualified, hiname⟩ := exists_import_of_alias? hname
  obtain ⟨hdot, hbacktick⟩ :=
    notMem_toList_of_isIdentifier (hwell.isIdentifier_of_alias hi hiname)
  have hnotMem : name ∉ file.typeNames := by
    have hmem := halias i hi
    rwa [Import.aliasName, hiname, Option.getD_some] at hmem
  have hrest : ∀ s ∈ c.names.drop (k + 1), s ∈ c.names := fun s hs => List.mem_of_mem_drop hs
  have hbackticks : ∀ s ∈ name :: c.names.drop (k + 1), '\x60' ∉ s.toList :=
    List.forall_mem_cons.2 ⟨hbacktick, fun s hs => hbackticks s (hrest s hs)⟩
  have hdots : ∀ s ∈ name :: c.names.drop (k + 1), '.' ∉ s.toList :=
    List.forall_mem_cons.2 ⟨hdot, fun s hs => ClassName.notMem_of_mem_names (hrest s hs)⟩
  rw [← List.map_cons, unquoted_joinWith_safeName hbackticks,
    denoted_joinWith hdots (binding?_of_alias hwell hscopes hi hiname hnotMem), hqualified]
  exact ClassName.joinWith_qualify (List.take_append_drop _ _).symm (by simp [ClassName.names])

/-! ### Classes of the file -/

/-- A name that the scopes resolve is bound to the class that they resolve it to. -/
theorem binding?_of_resolveSimple {name : String} {path : List String}
    (h : resolveSimple scopes name = some path)
    (hown : path = [name] → name ∈ file.context.ownTypes) :
    file.binding? scopes name = some (qualify file.package (Text.joinWith "." path)) := by
  rw [resolveSimple] at h
  rw [binding?]
  cases hfind : scopes.find? fun s => s.nested.contains name with
  | some s =>
    rw [hfind] at h
    rw [← Option.some.inj h]
  | none =>
    simp only [hfind] at h
    have hpath : path = [name] := by
      split at h
      · split at h
        · exact (Option.some.inj h).symm
        · cases h
      · cases h
    have hmem := hown hpath
    rw [hpath]
    exact if_pos (by simpa using hmem)

/-- A name that the scopes do not resolve stands for the type of the file that has it. -/
theorem binding?_of_own {name : String} (h : resolveSimple scopes name = none)
    (hown : name ∈ file.context.ownTypes) :
    file.binding? scopes name = some (qualify file.package name) := by
  rw [resolveSimple] at h
  rw [binding?]
  cases hfind : scopes.find? fun s => s.nested.contains name with
  | some s =>
    rw [hfind] at h
    cases h
  | none => exact if_pos (by simpa using hown)

/-- The visible end of a chain stands for the class. -/
theorem denoted_of_visibleEnd? (hpackage : c.package = file.package)
    (hown : c.top ∈ file.context.ownTypes) (hbackticks : ∀ name ∈ c.names, '\x60' ∉ name.toList)
    {names : List String} (h : visibleEnd? scopes c = some names) :
    file.denoted scopes (unquoted (safeQualified (Text.joinWith "." names))) =
      c.canonicalName := by
  obtain ⟨k, -, hfrom⟩ := List.exists_of_findSome?_eq_some h
  rw [visibleFrom?] at hfrom
  cases hdrop : c.names.drop k with
  | nil =>
    rw [hdrop] at hfrom
    cases hfrom
  | cons first rest =>
    simp only [hdrop] at hfrom
    split at hfrom
    · next hresolve =>
      obtain rfl := Option.some.inj hfrom
      have hmem : ∀ s ∈ first :: rest, s ∈ c.names := fun s hs =>
        List.mem_of_mem_drop (hdrop ▸ hs)
      have hdots : ∀ s ∈ first :: rest, '.' ∉ s.toList := fun s hs =>
        ClassName.notMem_of_mem_names (hmem s hs)
      have htop : c.names.take (k + 1) = [first] → first ∈ file.context.ownTypes := by
        intro htake
        rw [ClassName.names, List.take_succ_cons] at htake
        rwa [← (List.cons.inj htake).1]
      have hrest : rest = c.names.drop (k + 1) := by
        rw [← List.drop_drop, hdrop]
        rfl
      have hsplit : c.names = c.names.take (k + 1) ++ rest := by
        rw [hrest, List.take_append_drop]
      rw [unquoted_safeQualified_joinWith (List.cons_ne_nil first rest) hdots
          fun s hs => hbackticks s (hmem s hs),
        denoted_joinWith hdots (binding?_of_resolveSimple hresolve htop), ← hpackage]
      exact ClassName.joinWith_qualify hsplit (by simp [ClassName.names])
    · cases hfrom

/-- A whole chain whose outermost name is bound to the outermost class stands for the class. -/
theorem denoted_of_chain (h : file.binding? scopes c.top = some (qualify c.package c.top)) :
    file.denoted scopes c.chain = c.canonicalName := by
  have hdots : ∀ s ∈ c.top :: c.inner, '.' ∉ s.toList := fun s hs =>
    ClassName.notMem_of_mem_names hs
  have hchain : c.chain = Text.joinWith "." (c.top :: c.inner) := rfl
  rw [hchain, denoted_joinWith hdots h]
  have hsplit : c.names = [c.top] ++ c.inner := rfl
  exact ClassName.joinWith_qualify hsplit (List.cons_ne_nil _ _)

theorem unquoted_safeQualified_chain (h : ∀ name ∈ c.names, '\x60' ∉ name.toList) :
    unquoted (safeQualified c.chain) = c.chain :=
  unquoted_safeQualified_joinWith c.names_ne_nil
    (fun _ hname => ClassName.notMem_of_mem_names hname) h

/-- A class of the file's own, written by the visible end of its chain, by the whole chain or,
where its outermost name stands for another type, by a name that is bound to nothing. -/
theorem denoted_of_own (hown : file.context.isOwn c = true)
    (hbackticks : '\x60' ∉ c.canonicalName.toList)
    (hqualified : visibleEnd? scopes c = none → (resolveSimple scopes c.top).isSome →
      file.denoted scopes c.canonicalName = c.canonicalName) :
    file.denoted scopes (unquoted (safeQualified (visibleName scopes c))) =
      c.canonicalName := by
  have hnames : ∀ name ∈ c.names, '\x60' ∉ name.toList := fun name hname =>
    ClassName.backtick_notMem hbackticks hname
  rw [NamingContext.isOwn, Bool.and_eq_true, beq_iff_eq, List.contains_iff_mem] at hown
  obtain ⟨hpackage, htop⟩ := hown
  rw [visibleName]
  cases hend : visibleEnd? scopes c with
  | some names => exact denoted_of_visibleEnd? hpackage htop hnames hend
  | none =>
    by_cases hresolve : (resolveSimple scopes c.top).isSome
    · simp only [hresolve, if_true]
      rw [unquoted_safeQualified hbackticks]
      exact hqualified hend hresolve
    · have hnone : resolveSimple scopes c.top = none := by simpa using hresolve
      simp only [hnone, Option.isSome_none, Bool.false_eq_true, if_false]
      rw [unquoted_safeQualified_chain hnames]
      exact denoted_of_chain (hpackage ▸ binding?_of_own hnone htop)

/-! ### Short names -/

/-- The name of a class that the import table makes short is neither declared nor an alias. -/
theorem notMem_of_classIsShort {c : ClassName} (h : file.importTable.classIsShort c = true) :
    c.top ∉ file.declaredNames ∧ ∀ i ∈ file.aliasedImports, i.alias? ≠ some c.top := by
  have hshort := (References.mem_shortClasses.1 (References.table_classIsShort_iff.1 h)).2
  obtain ⟨hdeclared, haliases, -⟩ :=
    References.isTaken_eq_false_iff.1 (References.classIsShort_iff.1 hshort).2
  exact ⟨hdeclared, haliases⟩

/-- The name of a class that the import table makes short stands for the outermost class. -/
theorem binding?_of_short (hscopes : ∀ s ∈ scopes, s.nested ⊆ file.typeNames)
    (h : file.importTable.classIsShort c = true) :
    file.binding? scopes c.top = some (qualify c.package c.top) := by
  obtain ⟨hdeclared, haliases⟩ := notMem_of_classIsShort h
  have htype : c.top ∉ file.typeNames := fun hmem =>
    hdeclared (file.typeNames_subset_declaredNames hmem)
  have hnested : ∀ s ∈ scopes, c.top ∉ s.nested := fun s hs hmem => htype (hscopes s hs hmem)
  have hown : c.top ∉ file.context.ownTypes := fun hmem =>
    htype (file.ownTypes_subset_typeNames hmem)
  have halias : file.aliasedImports.find? (fun i => i.alias? == some c.top) = none := by
    rw [List.find?_eq_none]
    exact fun i hi => by simpa using haliases i hi
  rw [binding?, find?_nested_eq_none hnested]
  simp only [halias]
  rw [if_neg (by simpa using hown)]
  rw [beq_iff_eq.1 h]
  rfl

end FileDecl

/-! ### References -/

namespace FileDecl

variable {file : FileDecl} {scopes : List Scope}

theorem enclosing?_of_writtenClass? {m : MemberName} {c : ClassName}
    (h : file.context.writtenClass? (.member m) = some c) : m.enclosing? = some c := by
  rw [NamingContext.writtenClass?] at h
  split at h
  · cases h
  · exact h

/-- A member of a class is spelled as its class with the name of the member behind it. -/
theorem memberSpelling_of_writtenClass? {m : MemberName} {c : ClassName}
    (h : file.context.writtenClass? (.member m) = some c) :
    file.context.memberSpelling scopes m =
      (file.context.classSpelling scopes c).followedBy ("." ++ safeName m.name) := by
  rw [NamingContext.writtenClass?] at h
  split at h
  · cases h
  · next halias =>
    have hnone : file.context.alias? m.canonicalName = none := by simpa using halias
    simp only [NamingContext.memberSpelling, hnone, h]

/-- A qualified name whose first segment is bound to nothing stands for itself. -/
theorem denoted_of_unbound {dotted : String}
    (h : ∀ first rest, Text.splitAt '.' dotted = first :: rest →
      file.binding? scopes first = none) :
    file.denoted scopes dotted = dotted := by
  rw [denoted]
  cases hsplit : Text.splitAt '.' dotted with
  | nil => rfl
  | cons first rest => simp only [h first rest hsplit]

/-- What is written for a class stands for it. -/
theorem denoted_of_class {c : ClassName} (hwell : WellAliased file.aliasedImports)
    (halias : ∀ i ∈ file.aliasedImports, i.aliasName ∉ file.typeNames)
    (hscopes : ∀ s ∈ scopes, s.nested ⊆ file.typeNames)
    (hbackticks : '\x60' ∉ c.canonicalName.toList)
    (hqualified : file.classIsQualified scopes c = true → ∀ first rest,
      Text.splitAt '.' c.canonicalName = first :: rest → file.binding? scopes first = none) :
    file.denoted scopes
        (unquoted ((file.context.classSpelling scopes c).write (some file.importTable))) =
      c.canonicalName := by
  have hnames : ∀ name ∈ c.names, '\x60' ∉ name.toList := fun name hname =>
    ClassName.backtick_notMem hbackticks hname
  rw [NamingContext.classSpelling]
  cases haliased : file.context.aliased? c with
  | some text => exact denoted_of_aliased hwell halias hscopes hnames haliased
  | none =>
    by_cases hown : file.context.isOwn c = true
    · simp only [hown, if_true, Spelling.write]
      refine denoted_of_own hown hbackticks fun hend hresolve => denoted_of_unbound ?_
      refine hqualified ?_
      simp [classIsQualified, haliased, hown, hend, hresolve]
    · rw [Bool.not_eq_true] at hown
      simp only [hown, Bool.false_eq_true, if_false, Spelling.write, ImportTable.write,
        String.append_empty]
      by_cases hshort : file.importTable.classIsShort c = true
      · rw [if_pos hshort, unquoted_safeQualified_chain hnames]
        exact denoted_of_chain (binding?_of_short hscopes hshort)
      · rw [if_neg hshort, unquoted_safeQualified hbackticks]
        refine denoted_of_unbound (hqualified ?_)
        simp [classIsQualified, haliased, hown, hshort]

/-- What is written for a built-in class stands for it. -/
theorem denoted_of_builtin {b : Builtin} (hwell : WellAliased file.aliasedImports)
    (halias : ∀ i ∈ file.aliasedImports, i.aliasName ∉ file.typeNames)
    (hscopes : ∀ s ∈ scopes, s.nested ⊆ file.typeNames)
    (hbackticks : '\x60' ∉ b.className.canonicalName.toList)
    (hqualified : file.isQualified scopes (.builtin b) = true → ∀ first rest,
      Text.splitAt '.' b.className.canonicalName = first :: rest →
        file.binding? scopes first = none) :
    file.denoted scopes
        (unquoted ((file.context.builtinSpelling b).write (some file.importTable))) =
      b.className.canonicalName := by
  have hnames : ∀ name ∈ b.className.names, '\x60' ∉ name.toList := fun name hname =>
    ClassName.backtick_notMem hbackticks hname
  have hchain : '\x60' ∉ b.className.chain.toList := by
    cases b with
    | primitive p => exact hnames _ List.mem_cons_self
    | array => exact hnames _ List.mem_cons_self
  rw [NamingContext.builtinSpelling]
  cases haliased : file.context.aliased? b.className with
  | some text => exact denoted_of_aliased hwell halias hscopes hnames haliased
  | none =>
    simp only [Spelling.write, ImportTable.write, String.append_empty]
    by_cases hshort : file.importTable.classIsShort b.className = true
    · rw [if_pos hshort, unquoted_of_notMem hchain]
      exact denoted_of_chain (binding?_of_short hscopes hshort)
    · rw [if_neg hshort, unquoted_of_notMem hbackticks]
      refine denoted_of_unbound (hqualified ?_)
      simp [isQualified, haliased, hshort]

/-- **References denote what they name.**  In every file that was built, what is written for a
class, be it a type, a built-in type or the owner of a member, stands in the file where the class is
mentioned and leads back to this class, if no alias of an import is the name of a type or type alias
of the file, no anonymous type in the code of the file declares named types, the name of the class
has no backticks, and the first segment of a name that is written with its package is bound to
nothing. -/
theorem exists_denoted_eq_canonicalName {package name : String} {parts : List FilePart}
    (hbuild : build package name parts = .ok file)
    (halias : ∀ i ∈ file.aliasedImports, i.aliasName ∉ file.typeNames)
    (hobjects : ∀ decl, file.HasObject decl → decl.innerTypeNames = []) {k : Nat} {r : Reference}
    (hr : (locate [] (file.tokens file.importTable.lines))[k]? = some (.reference scopes r))
    {c : ClassName} (hc : file.context.writtenClass? r = some c)
    (hbackticks : '\x60' ∉ c.canonicalName.toList)
    (hqualified : file.isQualified scopes r = true → ∀ first rest,
      Text.splitAt '.' c.canonicalName = first :: rest → file.binding? scopes first = none) :
    ∃ text, file.operations[k]? = some (.text (text ++ r.suffix)) ∧
      file.written scopes r = text ++ r.suffix ∧
      file.denoted scopes (unquoted text) = c.canonicalName := by
  have hwell := wellAliased_of_build hbuild
  have hscopes := nested_mem_typeNames hobjects (List.mem_of_getElem? hr)
  have hdenoted : ∃ text, file.written scopes r = text ++ r.suffix ∧
      file.denoted scopes (unquoted text) = c.canonicalName := by
    cases r with
    | declared d =>
      obtain rfl := Option.some.inj hc
      exact ⟨_, (String.append_empty).symm,
        denoted_of_class hwell halias hscopes hbackticks hqualified⟩
    | builtin b =>
      obtain rfl := Option.some.inj hc
      exact ⟨_, (String.append_empty).symm,
        denoted_of_builtin hwell halias hscopes hbackticks hqualified⟩
    | member m =>
      refine ⟨_, ?_, denoted_of_class hwell halias hscopes hbackticks ?_⟩
      · rw [written, NamingContext.spelling, memberSpelling_of_writtenClass? hc]
        exact Spelling.write_followedBy _ _ _
      · intro hclass
        refine hqualified ?_
        rw [isQualified, enclosing?_of_writtenClass? hc]
        exact hclass
  obtain ⟨text, hwritten, htext⟩ := hdenoted
  exact ⟨text, hwritten ▸ file.getElem?_operations hr, hwritten, htext⟩

/-- The name of a class `Inner` that is nested in a class `Outer`. -/
def nestedClassName : ClassName := ⟨"app", "Outer", ["Inner"], by decide⟩

/-- The name of a class `Tooth` that is nested in the class `lib.Gear`. -/
def toothName : ClassName := ⟨"lib", "Gear", ["Tooth"], by decide⟩

/-- The import of the class `lib.Gear` as `Tool`. -/
def gearImport : Import := (Import.ofClass toothName.topLevel).withAlias "Tool"

/-- A file with this import and a class `Outer`, which has properties of the types `Outer.Inner` and
`lib.Gear.Tooth`. -/
def nestedClassFile : FileDecl :=
  let inner := (TypeDraft.start .plainClass (some "Inner")).decl
  let outer := (TypeDraft.start .plainClass (some "Outer")).decl
  { start "app" "Outer" with
    types := [{ outer with
      properties := [
        PropertyDecl.start "value" (.ofClass nestedClassName),
        PropertyDecl.start "tooth" (.ofClass toothName)]
      types := [inner] }]
    aliasedImports := [gearImport] }

/-- In the body of `Outer` its nested class is written as `Inner` and the imported one as
`Tool.Tooth`; both names stand for their classes there. -/
theorem exists_denoted_eq_canonicalName_nestedClass :
    (∃ (k : Nat) (text : String), nestedClassFile.operations[k]? = some (.text text) ∧
      nestedClassFile.denoted [⟨["Outer"], ["Inner"], []⟩] (unquoted text) = "app.Outer.Inner") ∧
    (∃ (k : Nat) (text : String), nestedClassFile.operations[k]? = some (.text text) ∧
      nestedClassFile.denoted [⟨["Outer"], ["Inner"], []⟩] (unquoted text) = "lib.Gear.Tooth") ∧
    nestedClassFile.render = "package app\n\nimport lib.Gear as Tool\n\nclass Outer \x7b\n" ++
      "  val value: Inner\n  val tooth: Tool.Tooth\n\n  class Inner\n\x7d\n" := by
  have hbuild : build "app" "Outer" (nestedClassFile.types.map .type ++
      nestedClassFile.aliasedImports.map .aliasedImport) = .ok nestedClassFile := rfl
  have hobjects : ∀ decl, nestedClassFile.HasObject decl → decl.innerTypeNames = [] := by
    rintro decl ⟨code, hcode, hobject⟩
    have hempty : nestedClassFile.pieces.all List.isEmpty = true := rfl
    obtain rfl := List.isEmpty_iff.1 (List.all_eq_true.1 hempty code hcode)
    cases hobject with
    | here h => cases h
    | inside h => cases h
  have halias : ∀ i ∈ nestedClassFile.aliasedImports,
      i.aliasName ∉ nestedClassFile.typeNames := by decide
  refine ⟨?_, ?_, by decide +kernel⟩
  · have hmem : Located.reference [⟨["Outer"], ["Inner"], []⟩] (.declared nestedClassName) ∈
        locate [] (nestedClassFile.tokens nestedClassFile.importTable.lines) := by decide +kernel
    obtain ⟨k, hr⟩ := List.mem_iff_getElem?.1 hmem
    obtain ⟨text, hwritten, -, htext⟩ := exists_denoted_eq_canonicalName hbuild halias hobjects hr
      rfl (by decide) fun hqualified => absurd hqualified (by decide +kernel)
    exact ⟨k, text, by simpa [Reference.suffix] using hwritten, htext⟩
  · have hmem : Located.reference [⟨["Outer"], ["Inner"], []⟩] (.declared toothName) ∈
        locate [] (nestedClassFile.tokens nestedClassFile.importTable.lines) := by decide +kernel
    obtain ⟨k, hr⟩ := List.mem_iff_getElem?.1 hmem
    obtain ⟨text, hwritten, -, htext⟩ := exists_denoted_eq_canonicalName hbuild halias hobjects hr
      rfl (by decide) fun hqualified => absurd hqualified (by decide +kernel)
    exact ⟨k, text, by simpa [Reference.suffix] using hwritten, htext⟩

/-- A file with the import of `lib.Gear` as `Tool` and a type alias `Tool` for this class. -/
def toolAliasFile : FileDecl :=
  { start "app" "Tools" with
    aliases := [AliasDecl.start "Tool" (.ofClass toothName.topLevel)]
    aliasedImports := [gearImport] }

/-- The names of type aliases count as names of types.  The file can be built and declares no types,
but the class is written as `Tool`, which stands for the type alias, as this is looked up before the
import. -/
theorem denoted_toolAliasFile :
    build "app" "Tools" (toolAliasFile.aliases.map .typeAlias ++
        toolAliasFile.aliasedImports.map .aliasedImport) = .ok toolAliasFile ∧
      toolAliasFile.types = [] ∧
      toolAliasFile.written [] (.declared toothName.topLevel) = "Tool" ∧
      toolAliasFile.denoted [] "Tool" = "app.Tool" ∧
      toolAliasFile.render =
        "package app\n\nimport lib.Gear as Tool\n\ntypealias Tool = Tool\n" :=
  ⟨rfl, rfl, by decide +kernel, by decide +kernel, by decide +kernel⟩

end FileDecl

end KotlinSource
