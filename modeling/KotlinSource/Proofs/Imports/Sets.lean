import KotlinSource.Proofs.Imports.LineOrder

/-!
# Import tables depend on sets

The rules for short names ask only whether a name is declared, requested or mentioned, never where
or how often.  The lists of a table are sorted strictly by keys that tell their members apart, so
that they are settled by their members as well.  A table therefore depends on the sets of names,
classes, members and imports that a file declares, mentions and asks for, and on nothing else about
the lists in which these are handed in.  The maps of a table do keep the order in which names come
first, but no answer shows it.

## Main definitions

* `References.Agrees`: two files declare, mention and ask for the same.

## Main results

* `References.Agrees.lines_eq`, `References.Agrees.importedClasses_eq`,
  `References.Agrees.importedMembers_eq`: files that agree have the same lists.
* `References.Agrees.table_classIsShort_eq`, `References.Agrees.table_memberIsShort_eq`: they have
  the same short names.
* `References.table_observably_eq`: files that agree have tables with the same answers and lists.
-/

namespace KotlinSource

/-! ### Files that agree -/

namespace References

/-- Two files of one package declare, mention and ask for the same, in whatever order and however
often, and see the same implicit packages. -/
structure Agrees (r s : References) : Prop where
  package : r.package = s.package
  implicitPackages : ∀ package, package ∈ r.implicitPackages ↔ package ∈ s.implicitPackages
  declared : ∀ name, name ∈ r.declared ↔ name ∈ s.declared
  classes : ∀ c, c ∈ r.classes ↔ c ∈ s.classes
  members : ∀ m, m ∈ r.members ↔ m ∈ s.members
  requested : ∀ i, i ∈ r.requested ↔ i ∈ s.requested

namespace Agrees

variable {r s : References} (h : r.Agrees s)

include h

theorem needsImport_eq (package : String) : r.needsImport package = s.needsImport package := by
  have himplicit : r.implicitPackages.contains package = s.implicitPackages.contains package := by
    rw [Bool.eq_iff_iff, List.contains_iff_mem, List.contains_iff_mem, h.implicitPackages]
  rw [needsImport, needsImport, h.package, himplicit]

theorem isTaken_eq (name : String) : r.isTaken name = s.isTaken name := by
  rw [Bool.eq_iff_iff]
  simp only [isTaken, Bool.or_eq_true, List.contains_iff_mem, List.any_eq_true, h.declared,
    h.requested]

theorem mem_topClasses_iff (c : ClassName) : c ∈ r.topClasses ↔ c ∈ s.topClasses := by
  simp only [topClasses, List.mem_map, h.classes]

theorem mem_plainMembers_iff (m : MemberName) : m ∈ r.plainMembers ↔ m ∈ s.plainMembers := by
  simp only [plainMembers, List.mem_filter, h.members]

theorem classIsShort_eq (c : ClassName) : r.classIsShort c = s.classIsShort c := by
  rw [Bool.eq_iff_iff]
  simp only [References.classIsShort_iff, h.mem_topClasses_iff, h.isTaken_eq]

theorem memberIsShort_eq (m : MemberName) : r.memberIsShort m = s.memberIsShort m := by
  rw [Bool.eq_iff_iff]
  simp only [References.memberIsShort_iff, h.mem_plainMembers_iff, h.mem_topClasses_iff,
    h.isTaken_eq]

theorem mem_shortClasses_iff (c : ClassName) : c ∈ r.shortClasses ↔ c ∈ s.shortClasses := by
  rw [mem_shortClasses, mem_shortClasses, h.mem_topClasses_iff, h.classIsShort_eq]

theorem mem_shortMembers_iff (m : MemberName) : m ∈ r.shortMembers ↔ m ∈ s.shortMembers := by
  rw [mem_shortMembers, mem_shortMembers, h.members, h.memberIsShort_eq]

/-- The lists of a table are sorted strictly, and so settled by their members. -/
theorem shortClasses_eq : r.shortClasses = s.shortClasses :=
  Text.eq_of_pairwise_key ClassName.key (fun _ _ => ClassName.before_iff)
    (Text.pairwise_sortDistinct ClassName.before_trans _)
    (Text.pairwise_sortDistinct ClassName.before_trans _) h.mem_shortClasses_iff

theorem shortMembers_eq : r.shortMembers = s.shortMembers :=
  Text.eq_of_pairwise_key MemberName.key (fun _ _ => MemberName.before_iff)
    (Text.pairwise_sortDistinct MemberName.before_trans _)
    (Text.pairwise_sortDistinct MemberName.before_trans _) h.mem_shortMembers_iff

theorem importedClasses_eq : r.importedClasses = s.importedClasses := by
  rw [References.importedClasses_eq, References.importedClasses_eq, h.shortClasses_eq]
  exact List.filter_congr fun c _ => h.needsImport_eq c.package

theorem importedMembers_eq : r.importedMembers = s.importedMembers := by
  rw [References.importedMembers_eq, References.importedMembers_eq, h.shortMembers_eq]
  exact List.filter_congr fun m _ => h.needsImport_eq m.package

theorem lines_eq : r.lines = s.lines := by
  refine Text.eq_of_pairwise_key Import.key (fun _ _ => Import.before_iff) ?_ ?_ fun i => ?_
  · exact r.pairwise_key_lines.imp fun hlt => Import.before_iff.2 hlt
  · exact s.pairwise_key_lines.imp fun hlt => Import.before_iff.2 hlt
  · simp only [mem_lines, h.shortClasses_eq, h.shortMembers_eq, h.needsImport_eq, h.requested]

theorem table_classIsShort_eq (c : ClassName) :
    r.table.classIsShort c = s.table.classIsShort c := by
  rw [Bool.eq_iff_iff, table_classIsShort_iff, table_classIsShort_iff, h.shortClasses_eq]

theorem table_memberIsShort_eq (m : MemberName) :
    r.table.memberIsShort m = s.table.memberIsShort m := by
  rw [Bool.eq_iff_iff, exists_of_table_memberIsShort_iff, exists_of_table_memberIsShort_iff,
    h.shortMembers_eq]

theorem table_isDeclared_eq (name : String) :
    r.table.isDeclared name = s.table.isDeclared name := by
  rw [Bool.eq_iff_iff]
  simp only [ImportTable.isDeclared, table, List.contains_iff_mem, h.declared]

end Agrees

/-- **Import tables depend on sets.**  Let two files of one package declare the same names, mention
the same classes and members and ask for the same imports, in any order and with any repetitions.
Then their tables give the same answer for every class, every member and every name, and hold the
same lists of imported classes, imported members and lines. -/
theorem table_observably_eq {r s : References} (h : r.Agrees s) :
    (∀ c, r.table.classIsShort c = s.table.classIsShort c) ∧
      (∀ m, r.table.memberIsShort m = s.table.memberIsShort m) ∧
      (∀ name, r.table.isDeclared name = s.table.isDeclared name) ∧
      r.table.classes = s.table.classes ∧ r.table.members = s.table.members ∧
      r.table.lines = s.table.lines :=
  ⟨h.table_classIsShort_eq, h.table_memberIsShort_eq, h.table_isDeclared_eq, h.importedClasses_eq,
    h.importedMembers_eq, h.lines_eq⟩

/-- The same references as in `sortReferences`, each of them twice, the members the other way round
first. -/
def repeatedReferences : References where
  package := sortReferences.package
  implicitPackages := sortReferences.implicitPackages
  declared := sortReferences.declared ++ sortReferences.declared
  classes := sortReferences.classes ++ sortReferences.classes
  members := sortReferences.members.reverse ++ sortReferences.members
  requested := sortReferences.requested ++ sortReferences.requested

theorem agrees_repeatedReferences : sortReferences.Agrees repeatedReferences where
  package := rfl
  implicitPackages _ := Iff.rfl
  declared _ := by simp [repeatedReferences]
  classes _ := by simp [repeatedReferences]
  members _ := by simp [repeatedReferences]
  requested _ := by simp [repeatedReferences]

/-- The repetitions and the other order leave the member `sort` qualified, the class `Gear` short
and the lines as they are. -/
theorem table_observably_eq_repeated :
    sortReferences.Agrees repeatedReferences ∧
      repeatedReferences.table.memberIsShort ⟨.topLevel "lib", "sort", false, rfl⟩ = false ∧
      repeatedReferences.table.classIsShort gearName = true ∧
      repeatedReferences.table.lines = [⟨"lib", ["Gear"], none⟩, ⟨"lib", ["map"], none⟩,
        ⟨"old", ["Sorting"], some "sort"⟩, ⟨"other", ["map"], none⟩] := by
  obtain ⟨hclass, hmember, -, -, -, hlines⟩ := table_observably_eq agrees_repeatedReferences
  refine ⟨agrees_repeatedReferences, ?_, ?_, ?_⟩
  · rw [← hmember]
    decide +kernel
  · rw [← hclass]
    decide +kernel
  · rw [← hlines]
    decide +kernel

end References

end KotlinSource
