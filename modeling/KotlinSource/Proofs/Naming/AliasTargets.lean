import KotlinSource.Proofs.Imports.LineOrder
import KotlinSource.Proofs.Naming.Capture

/-!
# What stands under an import alias

An import alias stands for its target.  Every reference to the target, or to something nested in it,
is written with an alias in front.  The import table gives the name of an alias to nothing else: a
class or member of that name is written with its package.

The table does not decide about the types of the file, and it keeps extensions short whatever they
are called.  A type of the file, or one nested in a body around the place, can therefore have the
name of an alias and is written by it; so is a member that shares its qualified name with an
extension.  A name that is written in full starts with its package, which may look like an alias,
too, and without a package it starts with the name of a class or member.

## Main definitions

* `firstSegment`: the first segment of a dotted name.
* `ClassName.IsWithin`, `Reference.IsWithin`: a target, or something nested in it.

## Main results

* `FileDecl.exists_alias_of_isWithin`: what refers to a target is written under an alias.
* `FileDecl.isWithin_of_firstSegment`: what is written under an alias.
* `FileDecl.render_gadgetFile`: a type of the file with the name of an alias.
-/

namespace KotlinSource

/-! ### First segments -/

/-- The first segment of a dotted name. -/
def firstSegment (dotted : String) : String := (Text.splitAt '.' dotted).headD ""

theorem notMem_toList_safeName {name : String} (h : '.' ∉ name.toList) :
    '.' ∉ (safeName name).toList := by
  rw [safeName]
  split
  · simpa using h
  · exact h

theorem firstSegment_joinWith {first : String} (h : '.' ∉ first.toList) (rest : List String) :
    firstSegment (Text.joinWith "." (first :: rest)) = first := by
  have hsingle : Text.splitAt '.' first = [first] := Text.splitAt_of_notMem h
  rw [firstSegment]
  cases rest with
  | nil => rw [Text.joinWith_singleton, hsingle, List.headD_cons]
  | cons second rest =>
    have hsplit : Text.splitAt '.' (first ++ "." ++ Text.joinWith "." (second :: rest)) =
        Text.splitAt '.' first ++ Text.splitAt '.' (Text.joinWith "." (second :: rest)) :=
      Text.splitAt_append '.' _ _
    rw [Text.joinWith_cons_cons, hsplit, hsingle, List.singleton_append, List.headD_cons]

/-- What stands behind the class of a reference does not change its first segment. -/
theorem firstSegment_append_suffix {name : String} (h : '.' ∉ name.toList) (rest : List String)
    (r : Reference) :
    firstSegment (Text.joinWith "." (safeName name :: rest) ++ r.suffix) = safeName name := by
  have hname := notMem_toList_safeName h
  cases r with
  | declared c => rw [Reference.suffix, String.append_empty, firstSegment_joinWith hname]
  | builtin b => rw [Reference.suffix, String.append_empty, firstSegment_joinWith hname]
  | member m =>
    have hjoin : Text.joinWith "." (safeName name :: rest) ++ Reference.suffix (.member m) =
        Text.joinWith "." (safeName name :: (rest ++ [safeName m.name])) := by
      rw [← List.cons_append, Text.joinWith_append_of_ne_nil "." (List.cons_ne_nil _ _)
        (List.cons_ne_nil _ _), Text.joinWith_singleton, Reference.suffix, String.append_assoc]
    rw [hjoin, firstSegment_joinWith hname]

/-- Names without backticks are written in different ways. -/
theorem eq_of_safeName_eq {a b : String} (ha : '\x60' ∉ a.toList) (hb : '\x60' ∉ b.toList)
    (h : safeName a = safeName b) : a = b := by
  rw [← unquoted_safeName ha, h, unquoted_safeName hb]

theorem WellAliased.notMem_of_alias {imports : List Import} (hwell : WellAliased imports)
    {i : Import} (hi : i ∈ imports) {newName : String} (halias : i.alias? = some newName) :
    '.' ∉ newName.toList ∧ '\x60' ∉ newName.toList :=
  notMem_toList_of_isIdentifier (hwell.isIdentifier_of_alias hi halias)

/-- An alias tells which import it comes from, also where it is written between backticks. -/
theorem WellAliased.eq_of_safeName_eq {imports : List Import} (hwell : WellAliased imports)
    {i j : Import} (hi : i ∈ imports) (hj : j ∈ imports) {newName other : String}
    (halias : i.alias? = some newName) (hother : j.alias? = some other)
    (h : safeName other = safeName newName) : j = i := by
  have hnames : other = newName := KotlinSource.eq_of_safeName_eq (hwell.notMem_of_alias hj hother).2
    (hwell.notMem_of_alias hi halias).2 h
  exact hwell.unique j hj i hi (by rw [hother, halias, hnames])

/-! ### Targets -/

/-- The class or one around it has the qualified name. -/
def ClassName.IsWithin (c : ClassName) (qualified : String) : Prop :=
  ∃ front, front ≠ [] ∧ front <+: c.names ∧
    qualify c.package (Text.joinWith "." front) = qualified

namespace Reference

/-- The qualified name of what is mentioned. -/
def canonicalName : Reference → String
  | .declared c => c.canonicalName
  | .builtin b => b.className.canonicalName
  | .member m => m.canonicalName

/-- What is mentioned has the qualified name, or it is nested in a class that has it. -/
def IsWithin (qualified : String) : Reference → Prop
  | .declared c => c.IsWithin qualified
  | .builtin b => b.className.IsWithin qualified
  | .member m => m.canonicalName = qualified ∨ ∃ c ∈ m.enclosing?, c.IsWithin qualified

end Reference

theorem MemberName.canonicalName_of_enclosing? {m : MemberName} {c : ClassName}
    (h : m.enclosing? = some c) : m.canonicalName = c.canonicalName ++ "." ++ m.name := by
  obtain ⟨owner, name, isExtension, simple⟩ := m
  cases owner with
  | topLevel package => cases h
  | inClass d =>
    obtain rfl := Option.some.inj h
    rfl

theorem MemberName.backtick_notMem {m : MemberName} (h : '\x60' ∉ m.canonicalName.toList) :
    '\x60' ∉ m.name.toList := by
  intro hmem
  refine h ?_
  cases howner : m.enclosing? with
  | none =>
    rw [canonicalName_of_topLevel howner, qualify]
    split
    · exact hmem
    · rw [String.toList_append]
      exact List.mem_append_right _ hmem
  | some c =>
    rw [canonicalName_of_enclosing? howner, String.toList_append]
    exact List.mem_append_right _ hmem

namespace FileDecl

variable {file : FileDecl} {scopes : List Scope} {r : Reference} {c : ClassName} {i : Import}
  {newName : String}

theorem isWithin_of_writtenClass? {qualified : String}
    (hc : file.context.writtenClass? r = some c) (h : c.IsWithin qualified) :
    r.IsWithin qualified := by
  cases r with
  | declared d =>
    obtain rfl := Option.some.inj hc
    exact h
  | builtin b =>
    obtain rfl := Option.some.inj hc
    exact h
  | member m => exact .inr ⟨c, enclosing?_of_writtenClass? hc, h⟩

/-- A class that is written with its package makes the whole reference one in full. -/
theorem safeQualified_append_suffix (hc : file.context.writtenClass? r = some c) :
    safeQualified c.canonicalName ++ r.suffix = safeQualified r.canonicalName := by
  cases r with
  | declared d =>
    obtain rfl := Option.some.inj hc
    exact String.append_empty
  | builtin b =>
    obtain rfl := Option.some.inj hc
    exact String.append_empty
  | member m =>
    rw [Reference.canonicalName, MemberName.canonicalName_of_enclosing?
      (enclosing?_of_writtenClass? hc), safeQualified_append,
      safeQualified_of_notMem (notMem_toList_of_isSimpleName m.simple), Reference.suffix,
      String.append_assoc]

/-- The names of the class of a reference hold no backticks if its qualified name holds none. -/
theorem backtick_notMem_of_writtenClass? (hc : file.context.writtenClass? r = some c)
    (h : '\x60' ∉ r.canonicalName.toList) {name : String} (hname : name ∈ c.names) :
    '\x60' ∉ name.toList := by
  refine ClassName.backtick_notMem (fun hmem => h ?_) hname
  cases r with
  | declared d =>
    obtain rfl := Option.some.inj hc
    exact hmem
  | builtin b =>
    obtain rfl := Option.some.inj hc
    exact hmem
  | member m =>
    rw [Reference.canonicalName, MemberName.canonicalName_of_enclosing?
      (enclosing?_of_writtenClass? hc), String.toList_append, String.toList_append]
    exact List.mem_append_left _ (List.mem_append_left _ hmem)

/-! ### What refers to a target -/

theorem alias?_isSome_of_mem (hi : i ∈ file.aliasedImports) (halias : i.alias? = some newName) :
    (file.context.alias? i.qualifiedName).isSome := by
  have hmem : (i.qualifiedName, newName) ∈ file.context.aliases := by
    simp only [context, List.mem_reverse, List.mem_filterMap, Option.map_eq_some_iff]
    exact ⟨i, hi, newName, halias, rfl⟩
  rw [NamingContext.alias?, Option.isSome_iff_ne_none]
  intro hnone
  have hne := List.lookup_eq_none_iff.1 hnone _ hmem
  simp at hne

/-- A class within the target of an import is written under an alias. -/
theorem aliased?_isSome_of_isWithin (hi : i ∈ file.aliasedImports) (halias : i.alias? = some newName)
    (h : c.IsWithin i.qualifiedName) : (file.context.aliased? c).isSome := by
  obtain ⟨front, hne, hfront, hqualified⟩ := h
  have hlength := List.length_pos_iff.2 hne
  have htake : front = c.names.take (front.length - 1 + 1) := by
    rw [Nat.sub_add_cancel hlength]
    exact List.prefix_iff_eq_take.1 hfront
  have hbound : front.length - 1 < c.names.length := by
    have hle := hfront.length_le
    omega
  rw [NamingContext.aliased?, List.findSome?_isSome_iff]
  refine ⟨front.length - 1, by simpa using hbound, ?_⟩
  rw [NamingContext.aliasedFrom?, ← htake, hqualified, Option.isSome_map]
  exact alias?_isSome_of_mem hi halias

/-- The alias that a class is written under is that of an import whose target it is within. -/
theorem exists_import_of_aliased? {text : String} (h : file.context.aliased? c = some text) :
    ∃ i ∈ file.aliasedImports, ∃ newName rest, i.alias? = some newName ∧
      c.IsWithin i.qualifiedName ∧ text = Text.joinWith "." (safeName newName :: rest) := by
  obtain ⟨k, -, hfrom⟩ := List.exists_of_findSome?_eq_some h
  rw [NamingContext.aliasedFrom?, Option.map_eq_some_iff] at hfrom
  obtain ⟨newName, halias, rfl⟩ := hfrom
  obtain ⟨i, hi, hqualified, hname⟩ := exists_import_of_alias? halias
  exact ⟨i, hi, newName, _, hname,
    ⟨_, by simp [ClassName.names], List.take_prefix _ _, hqualified.symm⟩, rfl⟩

/-- What is written for a member with an import alias. -/
theorem written_of_alias {m : MemberName} (h : file.context.alias? m.canonicalName = some newName) :
    file.written scopes (.member m) = safeName newName := by
  rw [written, NamingContext.spelling, NamingContext.memberSpelling, h]
  rfl

/-- A reference to the target of an import, or to something nested in it, is written with the alias
of an import in front. -/
theorem exists_alias_of_isWithin (hwell : WellAliased file.aliasedImports)
    (hi : i ∈ file.aliasedImports) (h : r.IsWithin i.qualifiedName) :
    ∃ j ∈ file.aliasedImports, ∃ newName, j.alias? = some newName ∧
      r.IsWithin j.qualifiedName ∧ firstSegment (file.written scopes r) = safeName newName := by
  obtain ⟨name, hname, -⟩ := hwell.identifier i hi
  have hclass : ∀ c, file.context.writtenClass? r = some c → c.IsWithin i.qualifiedName →
      ∃ j ∈ file.aliasedImports, ∃ newName, j.alias? = some newName ∧
        r.IsWithin j.qualifiedName ∧ firstSegment (file.written scopes r) = safeName newName := by
    intro c hc hwithin
    obtain ⟨text, htext⟩ :=
      Option.isSome_iff_exists.1 (aliased?_isSome_of_isWithin hi hname hwithin)
    obtain ⟨j, hj, newName, rest, halias, htarget, rfl⟩ := exists_import_of_aliased? htext
    refine ⟨j, hj, newName, halias, isWithin_of_writtenClass? hc htarget, ?_⟩
    rw [written_of_aliased hc htext,
      firstSegment_append_suffix (hwell.notMem_of_alias hj halias).1]
  cases r with
  | declared c => exact hclass c rfl h
  | builtin b => exact hclass b.className rfl h
  | member m =>
    cases hm : file.context.alias? m.canonicalName with
    | some newName =>
      obtain ⟨j, hj, htarget, halias⟩ := exists_import_of_alias? hm
      refine ⟨j, hj, newName, halias, .inl htarget.symm, ?_⟩
      rw [written_of_alias hm, ← Text.joinWith_singleton "." (safeName newName)]
      exact firstSegment_joinWith
        (notMem_toList_safeName (hwell.notMem_of_alias hj halias).1) []
    | none =>
      rcases h with htarget | ⟨c, hc, hwithin⟩
      · have hsome := alias?_isSome_of_mem hi hname
        rw [← htarget, hm] at hsome
        cases hsome
      · refine hclass c ?_ hwithin
        rw [NamingContext.writtenClass?, hm]
        exact hc

/-! ### What is written under an alias -/

/-- The first name of a class that the import table makes short is no alias. -/
theorem top_ne_of_classIsShort (hi : i ∈ file.aliasedImports) (halias : i.alias? = some newName)
    (h : file.importTable.classIsShort c = true) : c.top ≠ newName := by
  rintro rfl
  exact (notMem_of_classIsShort h).2 i hi halias

/-- A class under an alias is within the target of the alias, or it is written in full, or it is a
class of the file, and a type of the file that can be seen at the place has the name of the alias. -/
theorem isWithin_of_firstSegment_of_class (hwell : WellAliased file.aliasedImports)
    (hi : i ∈ file.aliasedImports) (halias : i.alias? = some newName)
    (hc : file.context.writtenClass? r = some c) (hbackticks : '\x60' ∉ r.canonicalName.toList)
    (hfirst : firstSegment (file.written scopes r) = safeName newName) :
    r.IsWithin i.qualifiedName ∨ file.written scopes r = safeQualified r.canonicalName ∨
      file.context.isOwn c = true ∧
        (newName ∈ file.context.ownTypes ∨ ∃ s ∈ scopes, newName ∈ s.nested) := by
  have hdots : ∀ names : List String, (∀ s ∈ names, s ∈ c.names) → ∀ s ∈ names, '.' ∉ s.toList :=
    fun names hnames s hs => ClassName.notMem_of_mem_names (hnames s hs)
  have hname : ∀ first ∈ c.names, ∀ rest, file.written scopes r =
      Text.joinWith "." (safeName first :: rest) ++ r.suffix → first = newName := by
    intro first hmem rest hwritten
    rw [hwritten, firstSegment_append_suffix (ClassName.notMem_of_mem_names hmem)] at hfirst
    exact eq_of_safeName_eq (backtick_notMem_of_writtenClass? hc hbackticks hmem)
      (hwell.notMem_of_alias hi halias).2 hfirst
  rcases haliased : file.context.aliased? c with _ | text
  · by_cases htabled : file.IsTabled r c
    · have hwritten : file.written scopes r = _ := written_of_isTabled htabled
      by_cases hshort : file.importTable.classIsShort c = true
      · rw [if_pos hshort, ClassName.chain, safeQualified_joinWith c.names_ne_nil
          (hdots _ fun _ hs => hs)] at hwritten
        exact absurd (hname c.top List.mem_cons_self _ hwritten)
          (top_ne_of_classIsShort hi halias hshort)
      · rw [if_neg hshort, safeQualified_append_suffix hc] at hwritten
        exact .inr (.inl hwritten)
    · have hown : file.context.isOwn c = true ∧ ∀ b, r ≠ .builtin b := by
        simpa [IsTabled, hc, haliased] using htabled
      have hwritten : file.written scopes r = _ :=
        written_of_isOwn hc haliased hown.1 hown.2
      by_cases hvisible : visibleEnd? scopes c = none → resolveSimple scopes c.top = none
      · obtain ⟨first, rest, hchain, hnames, hseen⟩ := exists_visibleName_eq hown.1 hvisible
        rw [hchain, safeQualified_joinWith (List.cons_ne_nil _ _) (hdots _ hnames)] at hwritten
        obtain rfl := hname first (hnames first List.mem_cons_self) _ hwritten
        exact .inr (.inr ⟨hown.1, hseen⟩)
      · obtain ⟨hend, hresolve⟩ := Classical.not_imp.1 hvisible
        rw [visibleName, hend, if_pos (Option.isSome_iff_ne_none.2 hresolve),
          safeQualified_append_suffix hc] at hwritten
        exact .inr (.inl hwritten)
  · obtain ⟨j, hj, other, rest, hother, hwithin, rfl⟩ := exists_import_of_aliased? haliased
    rw [written_of_aliased hc haliased,
      firstSegment_append_suffix (hwell.notMem_of_alias hj hother).1] at hfirst
    obtain rfl := hwell.eq_of_safeName_eq hi hj halias hother hfirst
    exact .inl (isWithin_of_writtenClass? hc hwithin)

/-- A top-level member under an alias that is not its own is written in full, or an extension has
its qualified name. -/
theorem full_or_extension_of_firstSegment {m : MemberName} (hwell : WellAliased file.aliasedImports)
    (hi : i ∈ file.aliasedImports) (halias : i.alias? = some newName) (howner : m.enclosing? = none)
    (hmember : file.context.alias? m.canonicalName = none) (hbackticks : '\x60' ∉ m.name.toList)
    (hfirst : firstSegment (file.written scopes (.member m)) = safeName newName) :
    file.written scopes (.member m) = safeQualified m.canonicalName ∨
      ∃ n ∈ file.references.extensions, n.canonicalName = m.canonicalName := by
  have hdot := notMem_toList_of_isSimpleName m.simple
  rw [written, NamingContext.spelling, memberSpelling_of_topLevel howner hmember] at hfirst ⊢
  split_ifs at hfirst ⊢ with hhides
  · exact .inl rfl
  · by_cases hshort : file.importTable.memberIsShort m = true
    · obtain ⟨n, hn, hcanonical⟩ := References.exists_of_table_memberIsShort_iff.1 hshort
      obtain ⟨hmem, hnowner, hkind⟩ := References.mem_shortMembers.1 hn
      rcases hkind with hextension | hplain
      · exact .inr ⟨n, References.mem_extensions.2 ⟨hmem, hnowner, hextension⟩, hcanonical⟩
      · have hnm : n.name = m.name := by
          rw [MemberName.canonicalName_of_topLevel hnowner,
            MemberName.canonicalName_of_topLevel howner] at hcanonical
          exact (qualify_inj (notMem_toList_of_isSimpleName n.simple) hdot hcanonical).2
        simp only [Spelling.write, ImportTable.write, if_pos hshort, String.append_empty] at hfirst
        rw [← Text.joinWith_singleton "." (safeName m.name),
          firstSegment_joinWith (notMem_toList_safeName hdot)] at hfirst
        have hname : m.name = newName :=
          eq_of_safeName_eq hbackticks (hwell.notMem_of_alias hi halias).2 hfirst
        have htaken := References.isTaken_eq_false_iff.1 (References.memberIsShort_iff.1 hplain).2.2
        exact absurd (by rw [halias, hnm, hname]) (htaken.2.1 i hi)
    · left
      simp only [Spelling.write, ImportTable.write, if_neg hshort, String.append_empty]

/-- **An import alias means its target.**  In every file that was built, what is written for a
reference stands in the file where the reference does.  What refers to the target of an import
alias, or to something nested in it, is written with the alias of such an import in front.
Conversely, a reference that is written with an alias in front, and whose names bring no backticks of
their own, refers to the target or to something nested in it, with three exceptions: it is written in
full, so that it starts with its package; or its class is one of the file's own, and a type of the
file that can be seen at the place has the name of the alias; or it is a member with the qualified
name of an extension. -/
theorem isWithin_of_firstSegment {package name : String} {parts : List FilePart}
    (hbuild : build package name parts = .ok file) :
    (∀ (k : Nat) scopes r,
      (locate [] (file.tokens file.importTable.lines))[k]? = some (.reference scopes r) →
        file.operations[k]? = some (.text (file.written scopes r))) ∧
      (∀ scopes r, ∀ i ∈ file.aliasedImports, r.IsWithin i.qualifiedName →
        ∃ j ∈ file.aliasedImports, ∃ newName, j.alias? = some newName ∧
          r.IsWithin j.qualifiedName ∧ firstSegment (file.written scopes r) = safeName newName) ∧
      ∀ scopes r, ∀ i ∈ file.aliasedImports, ∀ newName, i.alias? = some newName →
        '\x60' ∉ r.canonicalName.toList →
        firstSegment (file.written scopes r) = safeName newName →
        r.IsWithin i.qualifiedName ∨
          file.written scopes r = safeQualified r.canonicalName ∨
          (∃ c, file.context.writtenClass? r = some c ∧ file.context.isOwn c = true ∧
            (newName ∈ file.context.ownTypes ∨ ∃ s ∈ scopes, newName ∈ s.nested)) ∨
          ∃ m, r = .member m ∧
            ∃ n ∈ file.references.extensions, n.canonicalName = m.canonicalName := by
  have hwell := wellAliased_of_build hbuild
  refine ⟨fun k _ _ => file.getElem?_operations,
    fun _ _ i hi h => exists_alias_of_isWithin hwell hi h, ?_⟩
  intro scopes r i hi newName halias hbackticks hfirst
  rcases hc : file.context.writtenClass? r with _ | c
  · rcases r with c | b | m
    · cases hc
    · cases hc
    · rcases hm : file.context.alias? m.canonicalName with _ | other
      · have howner : m.enclosing? = none := by simpa [NamingContext.writtenClass?, hm] using hc
        rcases full_or_extension_of_firstSegment hwell hi halias howner hm
          (MemberName.backtick_notMem hbackticks) hfirst with hfull | ⟨n, hn, hcanonical⟩
        · exact .inr (.inl hfull)
        · exact .inr (.inr (.inr ⟨m, rfl, n, hn, hcanonical⟩))
      · obtain ⟨j, hj, htarget, hother⟩ := exists_import_of_alias? hm
        rw [written_of_alias hm, ← Text.joinWith_singleton "." (safeName other),
          firstSegment_joinWith (notMem_toList_safeName (hwell.notMem_of_alias hj hother).1)] at hfirst
        obtain rfl := hwell.eq_of_safeName_eq hi hj halias hother hfirst
        exact .inl (.inl htarget.symm)
  · rcases isWithin_of_firstSegment_of_class hwell hi halias hc hbackticks hfirst with
      hwithin | hfull | ⟨hown, hseen⟩
    · exact .inl hwithin
    · exact .inr (.inl hfull)
    · exact .inr (.inr (.inl ⟨c, rfl, hown, hseen⟩))

/-- A file with the import of `lib.Gear` as `Tool` and with properties of the types `lib.Gear.Tooth`
and `lib.Tool`. -/
def gearFile : FileDecl :=
  let user := (TypeDraft.start .plainClass (some "User")).decl
  { start "app" "User" with
    types := [{ user with
      properties := [
        PropertyDecl.start "tooth" (.ofClass toothName),
        PropertyDecl.start "tool" (.ofClass (toolName "lib" "Tool" rfl))] }]
    aliasedImports := [gearImport] }

/-- The nested class is written as `Tool.Tooth`, as it is within the target of the import; the class
with the name of the alias is written in full. -/
theorem isWithin_of_firstSegment_gear :
    (∃ j ∈ gearFile.aliasedImports, ∃ newName, j.alias? = some newName ∧
        (Reference.declared toothName).IsWithin j.qualifiedName ∧
        firstSegment (gearFile.written [⟨["User"], [], []⟩] (.declared toothName)) =
          safeName newName) ∧
      (∃ k : Nat, gearFile.operations[k]? = some (.text "Tool.Tooth")) ∧
      firstSegment (gearFile.written [⟨["User"], [], []⟩] (.declared toothName)) =
        safeName "Tool" ∧
      (Reference.declared toothName).IsWithin gearImport.qualifiedName ∧
      gearFile.render = "package app\n\nimport lib.Gear as Tool\n\nclass User \x7b\n" ++
        "  val tooth: Tool.Tooth\n  val tool: lib.Tool\n\x7d\n" := by
  have hbuild : build "app" "User"
      (gearFile.types.map .type ++ gearFile.aliasedImports.map .aliasedImport) = .ok gearFile := rfl
  obtain ⟨hstands, hwritten, hmeaning⟩ := isWithin_of_firstSegment hbuild
  have hmem : Located.reference [⟨["User"], [], []⟩] (.declared toothName) ∈
      locate [] (gearFile.tokens gearFile.importTable.lines) := by decide +kernel
  obtain ⟨k, hk⟩ := List.mem_iff_getElem?.1 hmem
  have hname : gearFile.written [⟨["User"], [], []⟩] (.declared toothName) = "Tool.Tooth" := by
    decide +kernel
  have htarget : (Reference.declared toothName).IsWithin gearImport.qualifiedName :=
    ⟨["Gear"], List.cons_ne_nil _ _, ⟨["Tooth"], rfl⟩, by decide⟩
  have hfirst : firstSegment (gearFile.written [⟨["User"], [], []⟩] (.declared toothName)) =
      safeName "Tool" := by decide +kernel
  refine ⟨hwritten _ _ gearImport (List.mem_singleton_self _) htarget,
    ⟨k, hname ▸ hstands k _ _ hk⟩, hfirst, ?_, by decide +kernel⟩
  rcases hmeaning _ _ gearImport (List.mem_singleton_self _) "Tool" rfl (by decide) hfirst with
    hwithin | hfull | ⟨c, hc, hown, -⟩ | ⟨m, hm, -⟩
  · exact hwithin
  · exact absurd hfull (by decide +kernel)
  · obtain rfl := Option.some.inj hc
    exact absurd hown (by decide)
  · cases hm

/-- A file with this import and with a class `Tool` of its own. -/
def gadgetFile : FileDecl :=
  let user := (TypeDraft.start .plainClass (some "User")).decl
  { start "app" "User" with
    types := [(TypeDraft.start .plainClass (some "Tool")).decl, { user with
      properties := [
        PropertyDecl.start "own" (.ofClass (toolName "app" "Tool" rfl)),
        PropertyDecl.start "other" (.ofClass References.gearName)] }]
    aliasedImports := [gearImport] }

/-- The class of the file is written by the alias of another class. -/
theorem render_gadgetFile :
    build "app" "User"
        (gadgetFile.types.map .type ++ gadgetFile.aliasedImports.map .aliasedImport) =
          .ok gadgetFile ∧
      gadgetFile.written [⟨["User"], [], []⟩] (.declared (toolName "app" "Tool" rfl)) = "Tool" ∧
      ¬(Reference.declared (toolName "app" "Tool" rfl)).IsWithin gearImport.qualifiedName ∧
      gadgetFile.render = "package app\n\nimport lib.Gear as Tool\n\nclass Tool\n\n" ++
        "class User \x7b\n  val own: Tool\n  val other: Tool\n\x7d\n" := by
  refine ⟨rfl, by decide +kernel, ?_, by decide +kernel⟩
  rintro ⟨front, -, -, hqualified⟩
  have hfirst := congrArg (fun text => text.toList.head?) hqualified
  simp [qualify, toolName, gearImport, toothName, ClassName.topLevel, Import.qualifiedName,
    Import.withAlias, Import.ofClass] at hfirst

end FileDecl

end KotlinSource
