import KotlinSource.Proofs.Naming.Lookup

/-!
# Imports are exactly those needed

A file is walked twice.  The first walk writes no import lines and has no import table; it collects
the references of which the table is made.  The second walk writes the import lines and looks the
references up.  Both walks come to the same references in the same bodies, so that the table knows
about every reference that is looked up.

From this it follows that what is written by a short name is imported, if it has to be, and that
nothing else is.  A short name is told from a qualified one by its text alone, as the package of
what has to be imported is not empty.

## Main definitions

* `FileDecl.IsTabled`: the classes that references leave to the import table.
* `FileDecl.WritesShort`: the references that are written by a short name, which an import explains.

## Main results

* `FileDecl.class?_spelling_iff`, `FileDecl.member?_spelling_iff`: what the table is asked for.
* `FileDecl.written_eq_chain_iff`, `FileDecl.written_eq_safeName_iff`: short names and the table.
* `FileDecl.mem_topClasses`, `FileDecl.mem_members`: what the table is made of.
* `FileDecl.mem_lines_of_writesShort`, `FileDecl.writesShort_of_mem_lines`: imports and short names.
-/

namespace KotlinSource

/-! ### Names and spellings -/

/-- A name with a package in front of it is written in another way than without. -/
theorem safeQualified_qualify_ne {package chain : String} (h : package ≠ "") :
    safeQualified (qualify package chain) ≠ safeQualified chain := by
  intro e
  rw [qualify, if_neg h, safeQualified_append] at e
  have hlength := congrArg String.length e
  have hdot : ".".length = 1 := rfl
  rw [String.length_append, String.length_append, hdot] at hlength
  omega

theorem Builtin.topLevel_className (b : Builtin) : b.className.topLevel = b.className := by
  cases b <;> rfl

/-- The names of built-in classes hold no keywords. -/
theorem Builtin.safeQualified_className (b : Builtin) :
    safeQualified b.className.chain = b.className.chain ∧
      safeQualified b.className.canonicalName = b.className.canonicalName := by
  cases b with
  | primitive p => cases p <;> decide
  | array => decide

theorem Spelling.class?_followedBy (s : Spelling) (suffix : String) :
    (s.followedBy suffix).class? = s.class? := by
  cases s with
  | settled text => rfl
  | tabled r behind => cases r <;> rfl

theorem Spelling.member?_followedBy (s : Spelling) (suffix : String) :
    (s.followedBy suffix).member? = s.member? := by
  cases s with
  | settled text => rfl
  | tabled r behind => cases r <;> rfl

namespace FileDecl

theorem mem_locate_tokens {file : FileDecl} {scopes : List Scope} {r : Reference}
    {imports imports' : List Import}
    (h : .reference scopes r ∈ locate [] (file.tokens imports)) :
    .reference scopes r ∈ locate [] (file.tokens imports') := by
  rw [← mem_lookups, FileDecl.lookups_tokens] at h ⊢
  exact h

/-! ### What the import table is asked for -/

variable (file : FileDecl)

/-- A reference leaves its class to the import table: the class has no import alias, and it is no
class of the file's own.  Built-in classes are looked up even if the file has a class of that
name. -/
def IsTabled (r : Reference) (c : ClassName) : Prop :=
  file.context.writtenClass? r = some c ∧ file.context.aliased? c = none ∧
    (file.context.isOwn c = false ∨ ∃ b, r = .builtin b)

/-- A walk has written a reference by a short name that an import explains: by the chain of a class
without an import alias, or by the name of a top-level member without one. -/
def WritesShort (l : Lookup) (i : Import) : Prop :=
  (∃ c, file.context.writtenClass? l.reference = some c ∧ file.context.aliased? c = none ∧
    l.text = safeQualified c.chain ++ l.reference.suffix ∧ Import.ofClass c.topLevel = i) ∨
  ∃ m, l.reference = .member m ∧ m.enclosing? = none ∧ file.context.alias? m.canonicalName = none ∧
    l.text = safeName m.name ∧ Import.ofMember m = i

variable {file} {scopes : List Scope} {r : Reference} {c : ClassName} {m : MemberName}

theorem classSpelling_of_isOwn_eq_false (haliased : file.context.aliased? c = none)
    (hown : file.context.isOwn c = false) :
    file.context.classSpelling scopes c = .tabled (.declared c) "" := by
  simp [NamingContext.classSpelling, haliased, hown]

/-- The spelling of a reference that leaves its class to the import table. -/
theorem spelling_of_isTabled (scopes : List Scope) (h : file.IsTabled r c) :
    file.context.spelling scopes r = .tabled (.declared c) r.suffix ∨
      ∃ b, b.className = c ∧ file.context.spelling scopes r = .tabled (.builtin b) r.suffix := by
  obtain ⟨hc, haliased, hown⟩ := h
  cases r with
  | declared d =>
    obtain rfl := Option.some.inj hc
    have hown : file.context.isOwn d = false := hown.resolve_right (by simp)
    exact .inl (classSpelling_of_isOwn_eq_false haliased hown)
  | builtin b =>
    obtain rfl := Option.some.inj hc
    refine .inr ⟨b, rfl, ?_⟩
    simp only [NamingContext.spelling, NamingContext.builtinSpelling, haliased, Reference.suffix]
  | member m =>
    have hown : file.context.isOwn c = false := hown.resolve_right (by simp)
    refine .inl ?_
    rw [NamingContext.spelling, memberSpelling_of_writtenClass? hc,
      classSpelling_of_isOwn_eq_false haliased hown, Spelling.followedBy, String.empty_append,
      Reference.suffix]

theorem class?_classSpelling {d : ClassName} :
    (file.context.classSpelling scopes c).class? = some d ↔
      file.context.aliased? c = none ∧ file.context.isOwn c = false ∧ c.topLevel = d := by
  rw [NamingContext.classSpelling]
  cases file.context.aliased? c with
  | some text => simp [Spelling.class?]
  | none => cases file.context.isOwn c <;> simp [Spelling.class?]

/-- The class that the table is asked for is the outermost class around a class that is left to
it. -/
theorem class?_spelling_iff {d : ClassName} :
    (file.context.spelling scopes r).class? = some d ↔
      ∃ c, file.IsTabled r c ∧ c.topLevel = d := by
  constructor
  · intro h
    cases r with
    | declared c =>
      obtain ⟨haliased, hown, hd⟩ := class?_classSpelling.1 h
      exact ⟨c, ⟨rfl, haliased, .inl hown⟩, hd⟩
    | builtin b =>
      rw [NamingContext.spelling, NamingContext.builtinSpelling] at h
      cases haliased : file.context.aliased? b.className with
      | some text => simp [haliased, Spelling.class?] at h
      | none =>
        simp only [haliased, Spelling.class?, Option.some.injEq] at h
        exact ⟨_, ⟨rfl, haliased, .inr ⟨b, rfl⟩⟩, (b.topLevel_className).trans h⟩
    | member m =>
      rw [NamingContext.spelling, NamingContext.memberSpelling] at h
      cases halias : file.context.alias? m.canonicalName with
      | some name => simp [halias, Spelling.class?] at h
      | none =>
        cases howner : m.enclosing? with
        | none =>
          simp only [halias, howner] at h
          split at h <;> cases h
        | some c =>
          simp only [halias, howner, Spelling.class?_followedBy] at h
          obtain ⟨haliased, hown, hd⟩ := class?_classSpelling.1 h
          have hc : file.context.writtenClass? (.member m) = some c := by
            simp [NamingContext.writtenClass?, halias, howner]
          exact ⟨c, ⟨hc, haliased, .inl hown⟩, hd⟩
  · rintro ⟨c, htabled, rfl⟩
    rcases spelling_of_isTabled scopes htabled with h | ⟨b, rfl, h⟩
    · rw [h]
      rfl
    · rw [h, Builtin.topLevel_className]
      rfl

theorem member?_classSpelling : (file.context.classSpelling scopes c).member? = none := by
  rw [NamingContext.classSpelling]
  split
  · rfl
  · split <;> rfl

/-- The spelling of a top-level member without an import alias. -/
theorem memberSpelling_of_topLevel (howner : m.enclosing? = none)
    (halias : file.context.alias? m.canonicalName = none) :
    file.context.memberSpelling scopes m =
      if NamingContext.hides scopes m then .settled (safeQualified m.canonicalName)
      else .tabled (.member m) "" := by
  simp only [NamingContext.memberSpelling, halias, howner]

/-- The members that the table is asked for are the top-level members that have no import alias and
are not hidden by a function. -/
theorem member?_spelling_iff :
    (file.context.spelling scopes r).member? = some m ↔
      r = .member m ∧ m.enclosing? = none ∧ file.context.alias? m.canonicalName = none ∧
        NamingContext.hides scopes m = false := by
  constructor
  · intro h
    cases r with
    | declared c => simp [NamingContext.spelling, member?_classSpelling] at h
    | builtin b =>
      rw [NamingContext.spelling, NamingContext.builtinSpelling] at h
      split at h <;> cases h
    | member n =>
      rw [NamingContext.spelling] at h
      cases halias : file.context.alias? n.canonicalName with
      | some name => simp [NamingContext.memberSpelling, halias, Spelling.member?] at h
      | none =>
        cases howner : n.enclosing? with
        | some c =>
          simp [NamingContext.memberSpelling, halias, howner, Spelling.member?_followedBy,
            member?_classSpelling] at h
        | none =>
          rw [memberSpelling_of_topLevel howner halias] at h
          split at h
          · cases h
          · next hhides =>
            cases h
            exact ⟨rfl, howner, halias, Bool.not_eq_true _ ▸ hhides⟩
  · rintro ⟨rfl, howner, halias, hhides⟩
    rw [NamingContext.spelling, memberSpelling_of_topLevel howner halias, hhides]
    rfl

/-! ### Short and qualified names -/

/-- What is written for a reference whose class is left to the import table. -/
theorem written_of_isTabled (h : file.IsTabled r c) :
    file.written scopes r =
      safeQualified (if file.importTable.classIsShort c then c.chain else c.canonicalName) ++
        r.suffix := by
  rw [written]
  rcases spelling_of_isTabled scopes h with hs | ⟨b, rfl, hs⟩
  · rw [hs]
    rfl
  · rw [hs, Spelling.write, ImportTable.write]
    split
    · rw [b.safeQualified_className.1]
    · rw [b.safeQualified_className.2]

/-- A class of a package with a name is written by its chain exactly if the table makes it short. -/
theorem written_eq_chain_iff (h : file.IsTabled r c) (hpackage : c.package ≠ "") :
    file.written scopes r = safeQualified c.chain ++ r.suffix ↔
      file.importTable.classIsShort c = true := by
  rw [written_of_isTabled h, String.append_left_inj]
  constructor
  · intro hchain
    by_contra hshort
    rw [if_neg hshort] at hchain
    exact safeQualified_qualify_ne hpackage hchain
  · intro hshort
    rw [if_pos hshort]

/-- A top-level member of a package with a name is written by its simple name exactly if no
function hides it and the table makes it short. -/
theorem written_eq_safeName_iff (howner : m.enclosing? = none)
    (halias : file.context.alias? m.canonicalName = none) (hpackage : m.package ≠ "") :
    file.written scopes (.member m) = safeName m.name ↔
      NamingContext.hides scopes m = false ∧ file.importTable.memberIsShort m = true := by
  have hname : safeQualified m.name = safeName m.name :=
    safeQualified_of_notMem (notMem_toList_of_isSimpleName m.simple)
  have hne : safeQualified m.canonicalName ≠ safeName m.name := by
    rw [MemberName.canonicalName_of_topLevel howner, ← hname]
    exact safeQualified_qualify_ne hpackage
  rw [written, NamingContext.spelling, memberSpelling_of_topLevel howner halias]
  cases NamingContext.hides scopes m with
  | true => simp [Spelling.write, hne]
  | false =>
    cases hshort : file.importTable.memberIsShort m with
    | true => simp [Spelling.write, ImportTable.write, hshort]
    | false => simp [Spelling.write, ImportTable.write, hshort, hne]

/-! ### What the table is made of -/

theorem mem_spellings {s : Spelling} (imports : List Import) :
    s ∈ file.spellings ↔ ∃ scopes r,
      .reference scopes r ∈ locate [] (file.tokens imports) ∧
        file.context.spelling scopes r = s := by
  rw [spellings, NamingContext.spellings, List.mem_filterMap]
  constructor
  · rintro ⟨located, hmem, hs⟩
    cases located with
    | layout op => cases hs
    | reference scopes r => exact ⟨scopes, r, mem_locate_tokens hmem, Option.some.inj hs⟩
  · rintro ⟨scopes, r, hmem, hs⟩
    exact ⟨_, mem_locate_tokens hmem, congrArg some hs⟩

/-- The table is made of the outermost classes that references leave to it. -/
theorem mem_topClasses {d : ClassName} (imports : List Import) :
    d ∈ file.references.topClasses ↔ ∃ scopes r c,
      .reference scopes r ∈ locate [] (file.tokens imports) ∧ file.IsTabled r c ∧
        c.topLevel = d := by
  constructor
  · intro h
    obtain ⟨e, he, rfl⟩ := List.mem_map.1 h
    obtain ⟨s, hs, hclass⟩ := List.mem_filterMap.1 he
    obtain ⟨scopes, r, hr, rfl⟩ := (mem_spellings imports).1 hs
    obtain ⟨c, htabled, rfl⟩ := class?_spelling_iff.1 hclass
    exact ⟨scopes, r, c, hr, htabled, rfl⟩
  · rintro ⟨scopes, r, c, hr, htabled, rfl⟩
    have hspelling := (mem_spellings imports).2 ⟨scopes, r, hr, rfl⟩
    have hclass : (file.context.spelling scopes r).class? = some c.topLevel :=
      class?_spelling_iff.2 ⟨c, htabled, rfl⟩
    exact List.mem_map.2 ⟨c.topLevel, List.mem_filterMap.2 ⟨_, hspelling, hclass⟩, rfl⟩

theorem mem_members (imports : List Import) :
    m ∈ file.references.members ↔ ∃ scopes,
      .reference scopes (.member m) ∈ locate [] (file.tokens imports) ∧ m.enclosing? = none ∧
        file.context.alias? m.canonicalName = none ∧ NamingContext.hides scopes m = false := by
  constructor
  · intro h
    obtain ⟨s, hs, hmember⟩ := List.mem_filterMap.1 h
    obtain ⟨scopes, r, hr, rfl⟩ := (mem_spellings imports).1 hs
    obtain ⟨rfl, howner, halias, hhides⟩ := member?_spelling_iff.1 hmember
    exact ⟨scopes, hr, howner, halias, hhides⟩
  · rintro ⟨scopes, hr, howner, halias, hhides⟩
    have hspelling := (mem_spellings imports).2 ⟨scopes, _, hr, rfl⟩
    exact List.mem_filterMap.2
      ⟨_, hspelling, member?_spelling_iff.2 ⟨rfl, howner, halias, hhides⟩⟩

theorem importTable_lines (file : FileDecl) : file.importTable.lines = file.references.lines := by
  rw [importTable, References.table]

theorem classIsShort_iff :
    file.importTable.classIsShort c = true ↔ c.topLevel ∈ file.references.shortClasses :=
  References.table_classIsShort_iff

/-- The table tells members apart by what is imported for them. -/
theorem memberIsShort_iff (howner : m.enclosing? = none) :
    file.importTable.memberIsShort m = true ↔
      ∃ n ∈ file.references.shortMembers, Import.ofMember n = Import.ofMember m := by
  rw [importTable, References.exists_of_table_memberIsShort_iff]
  refine exists_congr fun n => and_congr_right fun hn => ?_
  have hn : n.enclosing? = none := (References.mem_shortMembers.1 hn).2.1
  rw [MemberName.canonicalName_of_topLevel hn, MemberName.canonicalName_of_topLevel howner,
    Import.ofMember, Import.ofMember, hn, howner]
  constructor
  · intro h
    obtain ⟨hpackage, hname⟩ := qualify_inj (notMem_toList_of_isSimpleName n.simple)
      (notMem_toList_of_isSimpleName m.simple) h
    rw [hpackage, hname]
  · intro h
    obtain ⟨hpackage, hnames, -⟩ := Import.mk.inj h
    rw [hpackage, (List.singleton_inj.1 hnames : n.name = m.name)]

/-! ### Imports -/

/-- A package has to be imported from if it has a name, is not that of the file and is not one of
those whose contents every file sees. -/
theorem needsImport_iff {package : String} :
    file.references.needsImport package = true ↔
      package ≠ "" ∧ package ≠ file.package ∧ package ∉ file.options.implicitPackages := by
  simp only [References.needsImport, references, Bool.and_eq_true, bne_iff_ne, Bool.not_eq_true',
    List.contains_eq_mem, decide_eq_false_iff_not, and_assoc]

/-- What has to be imported, and is written by a short name, has a line of its own. -/
theorem mem_lines_of_writesShort {l : Lookup} (hl : l ∈ file.rendering.lookups) {i : Import}
    (hneeds : file.references.needsImport i.package = true) (h : file.WritesShort l i) :
    i ∈ file.importTable.lines ∧ i.alias? = none := by
  obtain ⟨hempty, hother, -⟩ := needsImport_iff.1 hneeds
  have htext := (file.mem_lookups_rendering.1 hl).2
  rw [importTable_lines]
  rcases h with ⟨c, hc, haliased, hwritten, rfl⟩ | ⟨m, hm, howner, halias, hwritten, rfl⟩
  · have hown : file.context.isOwn c = false := by
      have hpackage : c.package ≠ file.context.package := hother
      simp [NamingContext.isOwn, hpackage]
    rw [htext] at hwritten
    have hshort := (written_eq_chain_iff ⟨hc, haliased, .inl hown⟩ hempty).1 hwritten
    exact ⟨References.mem_lines.2 (.inl ⟨_, classIsShort_iff.1 hshort, hneeds, rfl⟩), rfl⟩
  · rw [htext, hm] at hwritten
    have hshort := ((written_eq_safeName_iff howner halias hempty).1 hwritten).2
    obtain ⟨n, hn, himport⟩ := (memberIsShort_iff howner).1 hshort
    have hpackage : n.package = m.package := congrArg Import.package himport
    exact ⟨References.mem_lines.2 (.inr (.inl ⟨n, hn, hpackage ▸ hneeds, himport⟩)), rfl⟩

/-- A line without alias belongs to something that has to be imported, and that is written by a
short name. -/
theorem writesShort_of_mem_lines (hwell : WellAliased file.aliasedImports) {i : Import}
    (hi : i ∈ file.importTable.lines) (halias : i.alias? = none) :
    file.references.needsImport i.package = true ∧
      ∃ l ∈ file.rendering.lookups, file.WritesShort l i := by
  have hlookup : ∀ {scopes r}, .reference scopes r ∈ locate [] (file.tokens file.importTable.lines) →
      ⟨scopes, r, file.written scopes r⟩ ∈ file.rendering.lookups :=
    fun hr => file.mem_lookups_rendering.2 ⟨hr, rfl⟩
  rw [importTable_lines] at hi
  rcases References.mem_lines.1 hi with ⟨d, hd, hneeds, rfl⟩ | ⟨m, hm, hneeds, rfl⟩ | hrequested
  · obtain ⟨hempty, -⟩ := needsImport_iff.1 hneeds
    obtain ⟨scopes, r, c, hr, htabled, rfl⟩ :=
      (mem_topClasses _).1 (References.mem_shortClasses.1 hd).1
    have hwritten : file.written scopes r = safeQualified c.chain ++ r.suffix :=
      (written_eq_chain_iff htabled hempty).2 (classIsShort_iff.2 hd)
    exact ⟨hneeds, _, hlookup hr, .inl ⟨c, htabled.1, htabled.2.1, hwritten, rfl⟩⟩
  · obtain ⟨hempty, -⟩ := needsImport_iff.1 hneeds
    obtain ⟨scopes, hr, howner, hmember, hhides⟩ :=
      (mem_members _).1 (References.mem_shortMembers.1 hm).1
    have hshort := (memberIsShort_iff howner).2 ⟨m, hm, rfl⟩
    have hwritten := (written_eq_safeName_iff howner hmember hempty).2 ⟨hhides, hshort⟩
    exact ⟨hneeds, _, hlookup hr, .inr ⟨m, rfl, howner, hmember, hwritten, rfl⟩⟩
  · obtain ⟨name, hname, -⟩ := hwell.identifier i hrequested
    rw [halias] at hname
    cases hname

/-- The name of a class in another package. -/
def toolName (package name : String) (h : isSimpleName name := by decide) : ClassName :=
  { ClassName.kotlin name h with package := package }

end FileDecl

end KotlinSource
