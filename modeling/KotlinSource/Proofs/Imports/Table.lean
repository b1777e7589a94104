import KotlinSource.Proofs.Imports.Keys

/-!
# What is in an import table

The table of a file is built from groups that are collected one reference at a time, from maps that
are filled one decision at a time, and from lists that are sorted in the end.  What it holds does
not show any of this: a class is short if all classes of its name are the same and the name is not
taken, a member if there is neither another one nor a class of its name, and the lists are those of
the short classes and members that have to be imported, in order and each once.

## Main definitions

* `References.topClasses`, `References.extensions`, `References.plainMembers`: what is mentioned.
* `References.classIsShort`, `References.memberIsShort`: the rules for short names.
* `References.shortClasses`, `References.shortMembers`: all short names.

## Main results

* `References.mem_classGroups_iff`, `References.mem_memberGroups_iff`: groups with one member.
* `References.lookup_short_iff`, `References.mem_table_shortMembers_iff`: the maps of short names.
* `References.importedClasses_eq`, `References.importedMembers_eq`, `References.lines_eq`: the lists
  of the table.
* `References.mem_shortClasses`, `References.mem_shortMembers`, `References.mem_lines`: what is in
  these lists.
-/

namespace KotlinSource

/-! ### Sets with one element -/

namespace Text

/-- A set with one text. -/
theorem sortDistinct_eq_singleton_iff {l : List String} {x : String} :
    sortDistinct before l = [x] ↔ x ∈ l ∧ ∀ y ∈ l, y = x := by
  have hmem : ∀ y ∈ l, y ∈ sortDistinct before l := fun y hy =>
    mem_sortDistinct (fun _ _ _ _ => eq_of_not_before) hy
  constructor
  · intro h
    refine ⟨mem_of_mem_sortDistinct (h ▸ List.mem_singleton_self x), fun y hy => ?_⟩
    exact List.mem_singleton.1 (h ▸ hmem y hy)
  · rintro ⟨hx, hall⟩
    refine eq_of_pairwise_key id (fun _ _ => before_iff) (pairwise_sortDistinct ?_ l)
      (List.pairwise_singleton _ x) fun y => ?_
    · intro a b c h h'
      exact before_iff.2 ((before_iff.1 h).trans (before_iff.1 h'))
    · rw [List.mem_singleton]
      exact ⟨fun hy => hall y (mem_of_mem_sortDistinct hy), fun e => e ▸ hmem x hx⟩

/-- Of a list of entries with one name there is one entry. -/
theorem eq_singleton_of_map_fst {κ α : Type} {entries : List (κ × α)} {key : κ}
    (h : entries.map Prod.fst = [key]) : ∃ value, entries = [(key, value)] := by
  obtain ⟨entry, rfl, rfl⟩ := List.map_eq_singleton_iff.1 h
  exact ⟨entry.2, rfl⟩

/-- Entries that keep their names if they are kept. -/
theorem map_fst_filterMap_sublist {κ α β : Type} {f : κ × α → Option (κ × β)}
    (hf : ∀ e e', f e = some e' → e'.1 = e.1) (entries : List (κ × α)) :
    ((entries.filterMap f).map Prod.fst).Sublist (entries.map Prod.fst) := by
  induction entries with
  | nil => exact .slnil
  | cons entry rest ih =>
    cases hentry : f entry with
    | none =>
      rw [List.filterMap_cons_none hentry]
      exact ih.cons entry.1
    | some e =>
      rw [List.filterMap_cons_some hentry, List.map_cons, hf entry e hentry]
      exact ih.cons_cons entry.1

end Text

/-! ### What is mentioned -/

namespace References

variable (r : References)

/-- The outermost classes mentioned. -/
def topClasses : List ClassName := r.classes.map ClassName.topLevel

/-- The extensions mentioned. -/
def extensions : List MemberName :=
  r.members.filter fun m => m.enclosing?.isNone && m.isExtension

/-- The top-level members mentioned that are no extensions. -/
def plainMembers : List MemberName :=
  r.members.filter fun m => m.enclosing?.isNone && !m.isExtension

/-- Whether an outermost class is written by its simple name: no other one of that name is
mentioned, and the name is not taken. -/
def classIsShort (c : ClassName) : Bool :=
  r.topClasses.all (fun d => d.top != c.top || d.package == c.package) && !r.isTaken c.top

/-- Whether a top-level member that is no extension is written by its simple name: neither another
one nor a class of that name is mentioned, and the name is not taken. -/
def memberIsShort (m : MemberName) : Bool :=
  r.plainMembers.all (fun n => n.name != m.name || n.canonicalName == m.canonicalName) &&
    r.topClasses.all (fun c => c.top != m.name) && !r.isTaken m.name

/-- The outermost classes that are written by their simple names, in order. -/
def shortClasses : List ClassName :=
  Text.sortDistinct ClassName.before (r.topClasses.filter r.classIsShort)

/-- The members that are written by their simple names, in order. -/
def shortMembers : List MemberName :=
  Text.sortDistinct MemberName.before (r.extensions ++ r.plainMembers.filter r.memberIsShort)

variable {r} {c : ClassName} {m : MemberName}

theorem isTaken_eq_false_iff {name : String} :
    r.isTaken name = false ↔ name ∉ r.declared ∧ (∀ i ∈ r.requested, i.alias? ≠ some name) ∧
      isKeyword name = false := by
  simp [isTaken, and_assoc]

theorem classIsShort_iff :
    r.classIsShort c = true ↔
      (∀ d ∈ r.topClasses, d.top = c.top → d.package = c.package) ∧ r.isTaken c.top = false := by
  simp only [classIsShort, Bool.and_eq_true, List.all_eq_true, Bool.or_eq_true, bne_iff_ne,
    beq_iff_eq, Bool.not_eq_true', ne_eq, or_iff_not_imp_left, not_not]

theorem memberIsShort_iff :
    r.memberIsShort m = true ↔
      (∀ n ∈ r.plainMembers, n.name = m.name → n.canonicalName = m.canonicalName) ∧
        (∀ c ∈ r.topClasses, c.top ≠ m.name) ∧ r.isTaken m.name = false := by
  simp only [memberIsShort, Bool.and_eq_true, List.all_eq_true, Bool.or_eq_true, bne_iff_ne,
    beq_iff_eq, Bool.not_eq_true', ne_eq, or_iff_not_imp_left, not_not, and_assoc]

theorem mem_plainMembers :
    m ∈ r.plainMembers ↔ m ∈ r.members ∧ m.enclosing? = none ∧ m.isExtension = false := by
  simp [plainMembers]

theorem mem_extensions :
    m ∈ r.extensions ↔ m ∈ r.members ∧ m.enclosing? = none ∧ m.isExtension = true := by
  simp [extensions]

theorem mem_shortClasses :
    c ∈ r.shortClasses ↔ c ∈ r.topClasses ∧ r.classIsShort c = true := by
  rw [← List.mem_filter]
  exact ⟨Text.mem_of_mem_sortDistinct,
    Text.mem_sortDistinct fun _ _ _ _ => ClassName.eq_of_not_before⟩

/-- The members among which short ones are sorted are declared at the top level. -/
theorem enclosing?_of_mem_candidates
    (h : m ∈ r.extensions ++ r.plainMembers.filter r.memberIsShort) : m.enclosing? = none := by
  rcases List.mem_append.1 h with h | h
  · exact (mem_extensions.1 h).2.1
  · exact (mem_plainMembers.1 (List.mem_of_mem_filter h)).2.1

theorem mem_shortMembers :
    m ∈ r.shortMembers ↔ m ∈ r.members ∧ m.enclosing? = none ∧
      (m.isExtension = true ∨ r.memberIsShort m = true) := by
  have hsorted : m ∈ r.shortMembers ↔ m ∈ r.extensions ++ r.plainMembers.filter r.memberIsShort :=
    ⟨Text.mem_of_mem_sortDistinct, Text.mem_sortDistinct fun a ha b hb =>
      MemberName.eq_of_not_before (enclosing?_of_mem_candidates ha)
        (enclosing?_of_mem_candidates hb)⟩
  rw [hsorted, List.mem_append, List.mem_filter, mem_extensions, mem_plainMembers]
  cases m.isExtension <;> simp [and_assoc]

/-! ### Groups of classes -/

theorem outermost_topName (hc : c ∈ r.topClasses) :
    ClassName.outermost c.package c.topName = c := by
  obtain ⟨d, -, rfl⟩ := List.mem_map.1 hc
  rfl

/-- A group of classes with one package: there is one outermost class of that name. -/
theorem mem_classGroups_iff {name : { s : String // isSimpleName s }} {package : String} :
    (name, [package]) ∈ r.classGroups ↔ ClassName.outermost package name ∈ r.topClasses ∧
      ∀ d ∈ r.topClasses, d.top = name.1 → d.package = package := by
  have hname : ∀ d : ClassName, d.topName = name ↔ d.top = name.1 := fun d => Subtype.ext_iff
  have hgroup : (name, [package]) ∈ r.classGroups ↔ Text.sortDistinct Text.before
      ((r.classes.filter (·.topName = name)).map ClassName.package).reverse = [package] := by
    rw [classGroups, Text.mem_iff_lookup (Text.nodup_keys_groupBy _ _ _ _), Text.lookup_groupBy,
      ← Text.foldl_insertDistinct, List.foldl_map]
    by_cases hany : ∃ d ∈ r.classes, d.topName = name
    · rw [if_pos hany, Option.some.injEq]
    · have hnone : r.classes.filter (·.topName = name) = [] := by simpa using hany
      rw [if_neg hany, hnone]
      simp
  rw [hgroup, Text.sortDistinct_eq_singleton_iff]
  simp only [List.mem_reverse, List.mem_map, List.mem_filter, decide_eq_true_eq, hname,
    topClasses]
  constructor
  · rintro ⟨⟨d, ⟨hd, hdname⟩, rfl⟩, hall⟩
    refine ⟨⟨d, hd, ?_⟩, ?_⟩
    · simp only [ClassName.outermost, ← hdname]
      rfl
    · rintro _ ⟨e, he, rfl⟩ hename
      exact hall _ ⟨e, ⟨he, hename⟩, rfl⟩
  · rintro ⟨⟨d, hd, houtermost⟩, hall⟩
    have hdname : d.top = name.1 := congrArg ClassName.top houtermost
    have hdpackage : d.package = package := congrArg ClassName.package houtermost
    refine ⟨⟨d, ⟨hd, hdname⟩, hdpackage⟩, ?_⟩
    rintro _ ⟨e, ⟨he, hename⟩, rfl⟩
    exact hall e.topLevel ⟨e, he, rfl⟩ hename

/-! ### Decisions about classes -/

variable (r) in
/-- The name and the package that a group of classes makes short. -/
def soleClass? (group : { s : String // isSimpleName s } × List String) :
    Option ({ s : String // isSimpleName s } × String) :=
  match group.2 with
  | [package] => if r.isTaken group.1 then none else some (group.1, package)
  | _ => none

variable (r) in
/-- The names that are short, with the packages of their classes. -/
def soleClasses : List ({ s : String // isSimpleName s } × String) :=
  r.classGroups.filterMap r.soleClass?

theorem soleClass?_eq_some_iff {group : { s : String // isSimpleName s } × List String}
    {name : { s : String // isSimpleName s }} {package : String} :
    r.soleClass? group = some (name, package) ↔
      group = (name, [package]) ∧ r.isTaken name = false := by
  obtain ⟨key, packages⟩ := group
  constructor
  · intro h
    simp only [soleClass?] at h
    split at h
    · split at h
      · cases h
      · next htaken =>
        cases h
        exact ⟨rfl, Bool.not_eq_true _ ▸ htaken⟩
    · cases h
  · rintro ⟨e, htaken⟩
    cases e
    simp [soleClass?, htaken]

theorem mem_soleClasses {name : { s : String // isSimpleName s }} {package : String} :
    (name, package) ∈ r.soleClasses ↔ ClassName.outermost package name ∈ r.topClasses ∧
      r.classIsShort (.outermost package name) = true := by
  have hsole : (name, package) ∈ r.soleClasses ↔
      (name, [package]) ∈ r.classGroups ∧ r.isTaken name = false := by
    rw [soleClasses, List.mem_filterMap]
    constructor
    · rintro ⟨group, hgroup, hsole⟩
      obtain ⟨rfl, htaken⟩ := soleClass?_eq_some_iff.1 hsole
      exact ⟨hgroup, htaken⟩
    · rintro ⟨hgroup, htaken⟩
      exact ⟨_, hgroup, soleClass?_eq_some_iff.2 ⟨rfl, htaken⟩⟩
  rw [hsole, mem_classGroups_iff, classIsShort_iff, and_assoc]
  rfl

theorem nodup_soleClasses : (r.soleClasses.map Prod.fst).Nodup := by
  refine (Text.map_fst_filterMap_sublist (fun group c h => ?_) r.classGroups).nodup
    (Text.nodup_keys_groupBy _ _ _ _)
  obtain ⟨e, -⟩ := soleClass?_eq_some_iff.1 h
  rw [e]

theorem decideClass_eq (found : FoundClasses)
    (group : { s : String // isSimpleName s } × List String) :
    r.decideClass found group = (r.soleClass? group).elim found (r.addClass found) := by
  obtain ⟨name, packages⟩ := group
  match packages with
  | [] => rfl
  | [package] =>
    simp only [decideClass, soleClass?]
    split <;> rfl
  | _ :: _ :: _ => rfl

theorem foundClasses_eq : r.foundClasses = r.soleClasses.foldl r.addClass ⟨[], []⟩ := by
  rw [foundClasses, soleClasses, List.foldl_filterMap]
  congr 1
  funext found group
  rw [decideClass_eq]
  cases r.soleClass? group <;> rfl

theorem imported_foldl_addClass (found : FoundClasses)
    (classes : List ({ s : String // isSimpleName s } × String)) :
    (classes.foldl r.addClass found).imported = found.imported ++
      (classes.filter (r.needsImport ·.2)).map fun c => .outermost c.2 c.1 := by
  induction classes generalizing found with
  | nil => simp
  | cons c rest ih =>
    rw [List.foldl_cons, ih, addClass]
    cases hneeds : r.needsImport c.2 <;> simp [hneeds]

/-- The entries of the classes that are added, and before them those that were there. -/
theorem lookup_foldl_addClass (found : FoundClasses)
    {classes : List ({ s : String // isSimpleName s } × String)}
    (h : (classes.map Prod.fst).Nodup) {name package : String} :
    (classes.foldl r.addClass found).short.lookup name = some package ↔
      (∃ c ∈ classes, c.1.1 = name ∧ c.2 = package) ∨
        (∀ c ∈ classes, c.1.1 ≠ name) ∧ found.short.lookup name = some package := by
  induction classes generalizing found with
  | nil => simp
  | cons c rest ih =>
    obtain ⟨hnew, hrest⟩ := List.nodup_cons.1 h
    rw [List.foldl_cons, ih _ hrest, addClass, Text.lookup_setEntry]
    by_cases hname : name = c.1.1
    · subst hname
      have hother : ∀ d ∈ rest, d.1.1 ≠ c.1.1 := fun d hd e =>
        hnew (List.mem_map.2 ⟨d, hd, Subtype.ext e⟩)
      have hnone : ¬∃ d ∈ rest, d.1.1 = c.1.1 ∧ d.2 = package := fun ⟨d, hd, e, _⟩ => hother d hd e
      have hall : ∀ d ∈ rest, d.1.1 ≠ c.1.1 := hother
      rw [or_iff_right hnone, and_iff_right hall, if_pos rfl, Option.some.injEq,
        List.exists_mem_cons_iff, or_iff_left hnone, and_iff_right rfl]
      exact ⟨.inl, fun h => h.resolve_right fun h => h.1 c List.mem_cons_self rfl⟩
    · have hname' : c.1.1 ≠ name := fun e => hname e.symm
      simp [hname, hname']

/-- **The table of short classes.**  It has a package for a name exactly if a class of that name in
that package is short by the rule. -/
theorem lookup_short_iff {name package : String} :
    r.table.short.lookup name = some package ↔
      ∃ c ∈ r.topClasses, r.classIsShort c = true ∧ c.top = name ∧ c.package = package := by
  have hshort : r.table.short = (r.soleClasses.foldl r.addClass ⟨[], []⟩).short := by
    rw [← foundClasses_eq]
    rfl
  have hempty : ([] : List (String × String)).lookup name ≠ some package := by simp
  rw [hshort, lookup_foldl_addClass _ nodup_soleClasses, or_iff_left fun h => hempty h.2]
  constructor
  · rintro ⟨⟨key, package⟩, hmem, rfl, rfl⟩
    obtain ⟨hc, hshort⟩ := mem_soleClasses.1 hmem
    exact ⟨_, hc, hshort, rfl, rfl⟩
  · rintro ⟨c, hc, hshort, rfl, rfl⟩
    refine ⟨(c.topName, c.package), mem_soleClasses.2 ?_, rfl, rfl⟩
    rw [outermost_topName hc]
    exact ⟨hc, hshort⟩

theorem mem_imported_foundClasses :
    c ∈ r.foundClasses.imported ↔ c ∈ r.shortClasses ∧ r.needsImport c.package = true := by
  rw [foundClasses_eq, imported_foldl_addClass, List.nil_append, List.mem_map, mem_shortClasses]
  constructor
  · rintro ⟨⟨name, package⟩, hmem, rfl⟩
    obtain ⟨hmem, hneeds⟩ := List.mem_filter.1 hmem
    exact ⟨mem_soleClasses.1 hmem, hneeds⟩
  · rintro ⟨⟨hc, hshort⟩, hneeds⟩
    refine ⟨(c.topName, c.package), List.mem_filter.2 ⟨mem_soleClasses.2 ?_, hneeds⟩, ?_⟩
    · rw [outermost_topName hc]
      exact ⟨hc, hshort⟩
    · exact outermost_topName hc

theorem nodup_imported_foundClasses (r : References) : r.foundClasses.imported.Nodup := by
  rw [foundClasses_eq, imported_foldl_addClass, List.nil_append]
  refine List.Nodup.of_map ClassName.topName ?_
  rw [List.map_map]
  exact nodup_soleClasses.sublist (List.filter_sublist.map Prod.fst)

/-- The imported classes are the short ones that have to be imported, in order and each once. -/
theorem importedClasses_eq (r : References) :
    r.importedClasses = r.shortClasses.filter fun c => r.needsImport c.package := by
  refine Text.eq_of_pairwise_key ClassName.key (fun _ _ => ClassName.before_iff)
    (Text.pairwise_sort_of_nodup ClassName.key (fun _ _ => ClassName.before_iff)
      (nodup_imported_foundClasses r) fun _ _ _ _ => ClassName.eq_of_not_before)
    ((Text.pairwise_sortDistinct ClassName.before_trans _).filter _) fun c => ?_
  rw [importedClasses, Text.mem_sort, mem_imported_foundClasses, List.mem_filter]

/-! ### Groups of members -/

/-- What is collected of the members of one name. -/
def membersByName (l : List MemberName) : List (String × MemberName) :=
  l.foldl (fun entries m => Text.insertEntry Text.before m.canonicalName m entries) []

theorem memberSets_eq (r : References) : r.memberSets =
    { extensions := Text.sortDistinct MemberName.before r.extensions.reverse
      groups := Text.groupBy MemberName.name []
        (fun m => Text.insertEntry Text.before m.canonicalName m) r.plainMembers } := by
  have hfold : ∀ (l : List MemberName) (sets : MemberSets), l.foldl MemberSets.add sets =
      { extensions := (l.filter (·.isExtension)).foldl
          (fun sorted m => Text.insertDistinct MemberName.before m sorted) sets.extensions
        groups := (l.filter (!·.isExtension)).foldl (fun groups m => Text.updateEntry m.name []
          (Text.insertEntry Text.before m.canonicalName m) groups) sets.groups } := by
    intro l
    induction l with
    | nil => exact fun _ => rfl
    | cons m rest ih =>
      intro sets
      rw [List.foldl_cons, ih, MemberSets.add]
      cases hkind : m.isExtension <;> simp [hkind]
  rw [memberSets, hfold, List.filter_filter, List.filter_filter, Text.foldl_insertDistinct]
  simp only [extensions, plainMembers, Text.groupBy, Bool.and_comm]

/-- The entries of members are under their qualified names. -/
theorem mem_of_mem_membersByName {l : List MemberName} {entry : String × MemberName}
    (h : entry ∈ membersByName l) : entry.2 ∈ l ∧ entry.1 = entry.2.canonicalName := by
  have hfold : ∀ (l : List MemberName) (entries : List (String × MemberName)), entry ∈ l.foldl
      (fun entries m => Text.insertEntry Text.before m.canonicalName m entries) entries →
      entry ∈ entries ∨ entry.2 ∈ l ∧ entry.1 = entry.2.canonicalName := by
    intro l
    induction l with
    | nil => exact fun _ => .inl
    | cons m rest ih =>
      intro entries h
      rcases ih _ h with h | ⟨h, hname⟩
      · rcases Text.mem_of_mem_insertEntry (fun _ _ => Text.eq_of_not_before) h with rfl | h
        · exact .inr ⟨List.mem_cons_self, rfl⟩
        · exact .inl h
      · exact .inr ⟨List.mem_cons_of_mem m h, hname⟩
  exact (hfold l [] h).resolve_left (List.not_mem_nil)

theorem map_fst_membersByName (l : List MemberName) : (membersByName l).map Prod.fst =
    Text.sortDistinct Text.before (l.map MemberName.canonicalName).reverse := by
  have hfold : ∀ (l : List MemberName) (entries : List (String × MemberName)), (l.foldl
      (fun entries m => Text.insertEntry Text.before m.canonicalName m entries) entries).map
        Prod.fst = (l.map MemberName.canonicalName).foldl
      (fun sorted name => Text.insertDistinct Text.before name sorted) (entries.map Prod.fst) := by
    intro l
    induction l with
    | nil => exact fun _ => rfl
    | cons m rest ih =>
      intro entries
      rw [List.foldl_cons, ih, Text.map_fst_insertEntry, List.map_cons, List.foldl_cons]
  rw [membersByName, hfold, List.map_nil, Text.foldl_insertDistinct]

/-- A group of members with one entry: there is one member of that name. -/
theorem mem_memberGroups_iff {name : String} {entry : String × MemberName} :
    (name, [entry]) ∈ r.memberSets.groups ↔
      entry.2 ∈ r.plainMembers ∧ entry.1 = entry.2.canonicalName ∧ entry.2.name = name ∧
        ∀ n ∈ r.plainMembers, n.name = name → n.canonicalName = entry.2.canonicalName := by
  obtain ⟨key, m⟩ := entry
  have hgroup : (name, [(key, m)]) ∈ r.memberSets.groups ↔
      membersByName (r.plainMembers.filter (·.name = name)) = [(key, m)] := by
    rw [memberSets_eq, Text.mem_iff_lookup (Text.nodup_keys_groupBy _ _ _ _), Text.lookup_groupBy]
    by_cases hany : ∃ n ∈ r.plainMembers, n.name = name
    · rw [if_pos hany, Option.some.injEq]
      rfl
    · have hnone : r.plainMembers.filter (·.name = name) = [] := by simpa using hany
      rw [if_neg hany, hnone]
      simp [membersByName]
  have hkeys : (membersByName (r.plainMembers.filter (·.name = name))).map Prod.fst = [key] ↔
      key ∈ (r.plainMembers.filter (·.name = name)).map MemberName.canonicalName ∧
        ∀ n ∈ r.plainMembers, n.name = name → n.canonicalName = key := by
    rw [map_fst_membersByName, Text.sortDistinct_eq_singleton_iff]
    simp only [List.mem_reverse, List.forall_mem_map, List.mem_filter, decide_eq_true_eq, and_imp]
  rw [hgroup]
  constructor
  · intro h
    obtain ⟨hmem, hname⟩ := mem_of_mem_membersByName (h ▸ List.mem_singleton_self (key, m))
    obtain ⟨hm, hmname⟩ := List.mem_filter.1 hmem
    refine ⟨hm, hname, of_decide_eq_true hmname, fun n hn hnname => ?_⟩
    rw [← hname]
    exact (hkeys.1 (congrArg (List.map Prod.fst) h)).2 n hn hnname
  · rintro ⟨hm, hkey, hmname, hall⟩
    have hmem : m ∈ r.plainMembers.filter (·.name = name) :=
      List.mem_filter.2 ⟨hm, decide_eq_true hmname⟩
    obtain ⟨n, hn⟩ := Text.eq_singleton_of_map_fst
      (hkeys.2 ⟨List.mem_map.2 ⟨m, hmem, hkey.symm⟩, fun n hn h => (hall n hn h).trans hkey.symm⟩)
    obtain ⟨hnmem, hnname⟩ := mem_of_mem_membersByName (hn ▸ List.mem_singleton_self (key, n))
    obtain ⟨-, hnowner, hnkind⟩ := mem_plainMembers.1 (List.mem_of_mem_filter hnmem)
    obtain ⟨-, howner, hkind⟩ := mem_plainMembers.1 hm
    obtain rfl : n = m := MemberName.eq_of_canonicalName hnowner howner (hnkind.trans hkind.symm)
      (hnname.symm.trans hkey)
    exact hn

/-! ### Decisions about members -/

variable (r) in
/-- The member that a group of members makes short. -/
def soleMember? (group : String × List (String × MemberName)) : Option (String × MemberName) :=
  match group.2 with
  | [(_, m)] =>
    if r.classGroups.any (fun g => g.1.1 == group.1) || r.isTaken group.1 then none
    else some (group.1, m)
  | _ => none

variable (r) in
/-- The members that are short by the rule, under their simple names. -/
def soleMembers : List (String × MemberName) := r.memberSets.groups.filterMap r.soleMember?

theorem any_classGroups_iff {name : String} :
    r.classGroups.any (fun g => g.1.1 == name) = true ↔ ∃ c ∈ r.topClasses, c.top = name := by
  simp only [List.any_eq_true, beq_iff_eq]
  constructor
  · rintro ⟨group, hgroup, rfl⟩
    obtain ⟨c, hc, hname⟩ :=
      (Text.mem_keys_groupBy _ _ _ _).1 (List.mem_map.2 ⟨group, hgroup, rfl⟩)
    exact ⟨c.topLevel, List.mem_map.2 ⟨c, hc, rfl⟩, congrArg Subtype.val hname⟩
  · rintro ⟨d, hd, rfl⟩
    obtain ⟨c, hc, rfl⟩ := List.mem_map.1 hd
    have hkey : c.topName ∈ r.classGroups.map Prod.fst :=
      (Text.mem_keys_groupBy _ _ _ _).2 ⟨c, hc, rfl⟩
    obtain ⟨group, hgroup, hname⟩ := List.mem_map.1 hkey
    exact ⟨group, hgroup, congrArg Subtype.val hname⟩

theorem decideMember_eq (found : FoundMembers) (group : String × List (String × MemberName)) :
    r.decideMember found group =
      (r.soleMember? group).elim found fun entry => r.addMember found entry.2 := by
  obtain ⟨name, entries⟩ := group
  match entries with
  | [] => rfl
  | [(key, m)] =>
    simp only [decideMember, soleMember?]
    split <;> rfl
  | _ :: _ :: _ => rfl

theorem soleMember?_eq_some_iff {group : String × List (String × MemberName)}
    {entry : String × MemberName} :
    r.soleMember? group = some entry ↔
      (∃ key, group = (entry.1, [(key, entry.2)])) ∧ (∀ c ∈ r.topClasses, c.top ≠ entry.1) ∧
        r.isTaken entry.1 = false := by
  have hfree : ∀ name, (r.classGroups.any (fun g => g.1.1 == name) || r.isTaken name) = false ↔
      (∀ c ∈ r.topClasses, c.top ≠ name) ∧ r.isTaken name = false := by
    intro name
    rw [Bool.or_eq_false_iff, ← Bool.not_eq_true, any_classGroups_iff, not_exists]
    simp only [not_and, ne_eq]
  obtain ⟨name, entries⟩ := group
  constructor
  · intro h
    simp only [soleMember?] at h
    split at h
    · next key m =>
      split at h
      · cases h
      · next hnot =>
        cases h
        exact ⟨⟨key, rfl⟩, (hfree name).1 (Bool.not_eq_true _ ▸ hnot)⟩
    · cases h
  · rintro ⟨⟨key, e⟩, h⟩
    cases e
    simp only [soleMember?, (hfree entry.1).2 h, Bool.false_eq_true, if_false]

theorem mem_soleMembers {entry : String × MemberName} :
    entry ∈ r.soleMembers ↔
      entry.2 ∈ r.plainMembers ∧ r.memberIsShort entry.2 = true ∧ entry.2.name = entry.1 := by
  rw [soleMembers, List.mem_filterMap, memberIsShort_iff]
  constructor
  · rintro ⟨group, hgroup, hsole⟩
    obtain ⟨⟨key, rfl⟩, hclass, htaken⟩ := soleMember?_eq_some_iff.1 hsole
    obtain ⟨hm, -, hname, hall⟩ := mem_memberGroups_iff.1 hgroup
    rw [hname]
    exact ⟨hm, ⟨hall, hclass, htaken⟩, rfl⟩
  · rintro ⟨hm, ⟨hall, hclass, htaken⟩, hname⟩
    rw [hname] at hall hclass htaken
    have hgroup : (entry.1, [(entry.2.canonicalName, entry.2)]) ∈ r.memberSets.groups :=
      mem_memberGroups_iff.2 ⟨hm, rfl, hname, hall⟩
    exact ⟨_, hgroup, soleMember?_eq_some_iff.2 ⟨⟨_, rfl⟩, hclass, htaken⟩⟩

/-- The members that are short, in the order in which they are decided about. -/
theorem foundMembers_eq (r : References) :
    r.foundMembers = (r.memberSets.extensions ++ r.soleMembers.map Prod.snd).foldl r.addMember
      ⟨[], []⟩ := by
  rw [foundMembers, soleMembers, List.foldl_append, List.foldl_map, List.foldl_filterMap]
  congr 1
  funext found group
  rw [decideMember_eq]
  cases r.soleMember? group <;> rfl

theorem foldl_addMember (found : FoundMembers) (members : List MemberName) :
    (members.foldl r.addMember found).imported =
        found.imported ++ members.filter (fun m => r.needsImport m.package) ∧
      ∀ name, name ∈ (members.foldl r.addMember found).short ↔
        name ∈ found.short ∨ ∃ m ∈ members, m.canonicalName = name := by
  induction members generalizing found with
  | nil => simp
  | cons m rest ih =>
    obtain ⟨himported, hshort⟩ := ih (r.addMember found m)
    refine ⟨?_, fun name => ?_⟩
    · rw [List.foldl_cons, himported, addMember]
      cases hneeds : r.needsImport m.package <;> simp [hneeds]
    · have hname : m.canonicalName = name ↔ name = m.canonicalName := eq_comm
      rw [List.foldl_cons, hshort, addMember, List.mem_insert_iff, ← hname, or_assoc, or_left_comm]
      simp only [List.mem_cons, exists_eq_or_imp]

/-- What is decided about members: all extensions are short, and others by the rule. -/
theorem mem_decided_iff :
    m ∈ r.memberSets.extensions ++ r.soleMembers.map Prod.snd ↔ m ∈ r.shortMembers := by
  rw [List.mem_append, memberSets_eq, mem_shortMembers, List.mem_map]
  have hextension : m ∈ Text.sortDistinct MemberName.before r.extensions.reverse ↔
      m ∈ r.extensions := by
    have hsame : ∀ a ∈ r.extensions.reverse, ∀ b ∈ r.extensions.reverse,
        a.before b = false → b.before a = false → a = b := by
      intro a ha b hb
      rw [List.mem_reverse] at ha hb
      exact MemberName.eq_of_not_before (mem_extensions.1 ha).2.1 (mem_extensions.1 hb).2.1
    exact ⟨fun h => List.mem_reverse.1 (Text.mem_of_mem_sortDistinct h),
      fun h => Text.mem_sortDistinct hsame (List.mem_reverse.2 h)⟩
  have hsole : (∃ entry ∈ r.soleMembers, entry.2 = m) ↔
      m ∈ r.plainMembers ∧ r.memberIsShort m = true := by
    constructor
    · rintro ⟨entry, hentry, rfl⟩
      obtain ⟨hm, hshort, -⟩ := mem_soleMembers.1 hentry
      exact ⟨hm, hshort⟩
    · rintro ⟨hm, hshort⟩
      exact ⟨(m.name, m), mem_soleMembers.2 ⟨hm, hshort, rfl⟩, rfl⟩
  rw [hextension, hsole, mem_extensions, mem_plainMembers]
  cases m.isExtension <;> simp [and_assoc]

/-- **The table of short members.**  It has a qualified name exactly if a member with that name is
short, an extension or by the rule. -/
theorem mem_table_shortMembers_iff {name : String} :
    name ∈ r.table.shortMembers ↔ ∃ m ∈ r.shortMembers, m.canonicalName = name := by
  have htable : r.table.shortMembers = r.foundMembers.short := rfl
  rw [htable, foundMembers_eq, (foldl_addMember _ _).2, or_iff_right List.not_mem_nil]
  simp only [mem_decided_iff]

theorem nodup_imported_foundMembers (r : References) : r.foundMembers.imported.Nodup := by
  rw [foundMembers_eq, (foldl_addMember _ _).1, List.nil_append]
  refine List.Nodup.filter _ (List.nodup_append.2 ⟨?_, ?_, fun m hm n hn => ?_⟩)
  · rw [memberSets_eq]
    refine (Text.pairwise_sortDistinct MemberName.before_trans _).imp fun h => ?_
    rintro rfl
    exact lt_irrefl _ (MemberName.before_iff.1 h)
  · refine List.Nodup.of_map MemberName.name ?_
    have hnames : (r.soleMembers.map Prod.snd).map MemberName.name = r.soleMembers.map Prod.fst := by
      rw [List.map_map]
      exact List.map_congr_left fun entry hentry => (mem_soleMembers.1 hentry).2.2
    rw [hnames]
    refine (Text.map_fst_filterMap_sublist (fun group entry h => ?_) _).nodup ?_
    · obtain ⟨⟨key, rfl⟩, -⟩ := soleMember?_eq_some_iff.1 h
      rfl
    · rw [memberSets_eq]
      exact Text.nodup_keys_groupBy _ _ _ _
  · obtain ⟨entry, hentry, rfl⟩ := List.mem_map.1 hn
    obtain ⟨hplain, -⟩ := mem_soleMembers.1 hentry
    rintro rfl
    rw [memberSets_eq] at hm
    have hextension := (mem_extensions.1 (List.mem_reverse.1 (Text.mem_of_mem_sortDistinct hm))).2.2
    rw [(mem_plainMembers.1 hplain).2.2] at hextension
    cases hextension

/-- The imported members are the short ones that have to be imported, in order and each once. -/
theorem importedMembers_eq (r : References) :
    r.importedMembers = r.shortMembers.filter fun m => r.needsImport m.package := by
  have hmem : ∀ m, m ∈ r.foundMembers.imported ↔
      m ∈ r.shortMembers.filter fun m => r.needsImport m.package := by
    intro m
    rw [foundMembers_eq, (foldl_addMember _ _).1, List.nil_append, List.mem_filter,
      List.mem_filter, mem_decided_iff]
  have howner : ∀ m ∈ r.foundMembers.imported, m.enclosing? = none := fun m hm =>
    (mem_shortMembers.1 (List.mem_of_mem_filter ((hmem m).1 hm))).2.1
  refine Text.eq_of_pairwise_key MemberName.key (fun _ _ => MemberName.before_iff)
    (Text.pairwise_sort_of_nodup MemberName.key (fun _ _ => MemberName.before_iff)
      (nodup_imported_foundMembers r) fun m hm n hn =>
        MemberName.eq_of_not_before (howner m hm) (howner n hn))
    ((Text.pairwise_sortDistinct MemberName.before_trans _).filter _) fun m => ?_
  rw [importedMembers, Text.mem_sort, hmem]

/-! ### Lines -/

/-- The lines are the imports of classes and members and those that are asked for, in order and each
once. -/
theorem lines_eq (r : References) :
    r.lines = Text.sortDistinct Import.before (r.importedClasses.map Import.ofClass ++
      r.importedMembers.map Import.ofMember ++ r.requested) := by
  refine Text.eq_of_pairwise_key Import.key (fun _ _ => Import.before_iff)
    (Text.pairwise_dropRepeated (fun _ _ => Import.eq_of_not_before)
      (Text.pairwise_sort_of_key Import.key (fun _ _ => Import.before_iff) _))
    (Text.pairwise_sortDistinct Import.before_trans _) fun i => ?_
  rw [lines, Text.mem_dropRepeated, Text.mem_sort]
  exact ⟨Text.mem_sortDistinct fun _ _ _ _ => Import.eq_of_not_before, Text.mem_of_mem_sortDistinct⟩

/-- The lines of a table are the imports of short classes and members that need them, and the
imports that the file asks for. -/
theorem mem_lines {i : Import} :
    i ∈ r.lines ↔
      (∃ c ∈ r.shortClasses, r.needsImport c.package = true ∧ Import.ofClass c = i) ∨
      (∃ m ∈ r.shortMembers, r.needsImport m.package = true ∧ Import.ofMember m = i) ∨
      i ∈ r.requested := by
  rw [lines, Text.mem_dropRepeated, Text.mem_sort, importedClasses_eq, importedMembers_eq]
  simp only [List.mem_append, List.mem_map, List.mem_filter, and_assoc, or_assoc]

/-! ### Lookups -/

theorem table_classIsShort_iff :
    r.table.classIsShort c = true ↔ c.topLevel ∈ r.shortClasses := by
  rw [ImportTable.classIsShort, beq_iff_eq, lookup_short_iff, mem_shortClasses]
  constructor
  · rintro ⟨d, hd, hshort, htop, hpackage⟩
    have he : c.topLevel = d := by
      rw [← outermost_topName hd, hpackage]
      simp only [ClassName.topName, htop]
      rfl
    exact he ▸ ⟨hd, hshort⟩
  · exact fun ⟨hc, hshort⟩ => ⟨_, hc, hshort, rfl, rfl⟩

theorem exists_of_table_memberIsShort_iff :
    r.table.memberIsShort m = true ↔ ∃ n ∈ r.shortMembers, n.canonicalName = m.canonicalName := by
  rw [ImportTable.memberIsShort, List.contains_iff_mem, mem_table_shortMembers_iff]

end References

end KotlinSource
