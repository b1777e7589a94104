import KotlinSource.Proofs.Imports.Exactness

/-!
# The order of import lines, and the names that they bind

The import lines of a table come from three sources: classes with short names, members with short
names, and the imports under other names that are asked for.  They are written in one strictly
ascending order, by package, then by simple names, then by alias.

An import binds its alias or, without one, the last of its names.  Short names are chosen so that no
two lines bind the same one: a class is short only if all classes of its name are the same, a member
only if there is no class and no other member of its name, and neither of them under a name that is
taken.  Extensions are the exception.  They are imported whatever their names are, as a call tells
them apart by the type in front of it.

## Main definitions

* `Import.boundName`: the name that an import binds.
* `References.ImportsExtension`: the imports of extensions.

## Main results

* `References.isTaken_boundName`: lines without alias bind no name that is taken.
* `References.eq_of_boundName_eq`: lines without alias bind different names.
* `References.lines_ascend_and_bind_apart`: order and names of all lines.
-/

namespace KotlinSource

/-! ### Order -/

namespace Import

/-- The name that an import binds in the file. -/
def boundName (i : Import) : String := i.alias?.getD (i.names.getLastD "")

@[simp] theorem boundName_ofMember (m : MemberName) : (ofMember m).boundName = m.name := by
  simp [boundName, ofMember]

end Import

namespace References

variable {r : References}

/-- The lines of a table stand in strictly ascending order. -/
theorem pairwise_key_lines (r : References) : r.lines.Pairwise fun i j => i.key < j.key := by
  rw [lines_eq]
  exact (Text.pairwise_sortDistinct Import.before_trans _).imp fun h => Import.before_iff.1 h

/-! ### Lines without alias -/

/-- An import is that of an extension that the file mentions. -/
def ImportsExtension (r : References) (i : Import) : Prop :=
  ∃ m ∈ r.extensions, Import.ofMember m = i

/-- A line without alias that imports no extension is that of a short class or of a short member. -/
theorem class_or_member_of_mem_lines (halias : ∀ i ∈ r.requested, i.alias?.isSome) {i : Import}
    (hi : i ∈ r.lines) (hnone : i.alias? = none) (hextension : ¬r.ImportsExtension i) :
    (∃ c ∈ r.topClasses, r.classIsShort c = true ∧ Import.ofClass c = i) ∨
      ∃ m ∈ r.plainMembers, r.memberIsShort m = true ∧ Import.ofMember m = i := by
  rcases mem_lines.1 hi with ⟨c, hc, -, hci⟩ | ⟨m, hm, -, hmi⟩ | hrequested
  · obtain ⟨hmem, hshort⟩ := mem_shortClasses.1 hc
    exact .inl ⟨c, hmem, hshort, hci⟩
  · obtain ⟨hmem, howner, hkind⟩ := mem_shortMembers.1 hm
    by_cases hext : m.isExtension = true
    · exact absurd ⟨m, by simp [extensions, hmem, howner, hext], hmi⟩ hextension
    · exact .inr ⟨m, by simp [plainMembers, hmem, howner, hext], hkind.resolve_left hext, hmi⟩
  · have hsome := halias i hrequested
    rw [hnone] at hsome
    cases hsome

/-- Lines without alias bind no name that is taken, those of extensions apart. -/
theorem isTaken_boundName (halias : ∀ i ∈ r.requested, i.alias?.isSome) {i : Import}
    (hi : i ∈ r.lines) (hnone : i.alias? = none) (hextension : ¬r.ImportsExtension i) :
    r.isTaken i.boundName = false := by
  rcases class_or_member_of_mem_lines halias hi hnone hextension with
    ⟨c, hc, hshort, rfl⟩ | ⟨m, -, hshort, rfl⟩
  · obtain ⟨d, -, rfl⟩ := List.mem_map.1 hc
    exact (classIsShort_iff.1 hshort).2
  · rw [Import.boundName_ofMember]
    exact (memberIsShort_iff.1 hshort).2.2

theorem enclosing?_of_mem_plainMembers {m : MemberName} (h : m ∈ r.plainMembers) :
    m.enclosing? = none := by
  simp only [plainMembers, List.mem_filter, Bool.and_eq_true, Option.isNone_iff_eq_none] at h
  exact h.2.1

/-- Top-level members with the same qualified name have the same import. -/
theorem ofMember_eq_of_canonicalName {m n : MemberName} (hm : m.enclosing? = none)
    (hn : n.enclosing? = none) (h : m.canonicalName = n.canonicalName) :
    Import.ofMember m = Import.ofMember n := by
  rw [MemberName.canonicalName_of_topLevel hm, MemberName.canonicalName_of_topLevel hn] at h
  obtain ⟨hpackage, hname⟩ := qualify_inj (notMem_toList_of_isSimpleName m.simple)
    (notMem_toList_of_isSimpleName n.simple) h
  rw [Import.ofMember, Import.ofMember, hm, hn, hpackage, hname]

/-- No two lines without alias bind the same name, those of extensions apart. -/
theorem eq_of_boundName_eq (halias : ∀ i ∈ r.requested, i.alias?.isSome) {i j : Import}
    (hi : i ∈ r.lines) (hj : j ∈ r.lines) (hinone : i.alias? = none) (hjnone : j.alias? = none)
    (hiext : ¬r.ImportsExtension i) (hjext : ¬r.ImportsExtension j)
    (h : i.boundName = j.boundName) : i = j := by
  rcases class_or_member_of_mem_lines halias hi hinone hiext with
    ⟨c, hc, hcshort, rfl⟩ | ⟨m, hm, hmshort, rfl⟩ <;>
  rcases class_or_member_of_mem_lines halias hj hjnone hjext with
    ⟨d, hd, hdshort, rfl⟩ | ⟨n, hn, hnshort, rfl⟩
  · obtain ⟨c, -, rfl⟩ := List.mem_map.1 hc
    obtain ⟨d, -, rfl⟩ := List.mem_map.1 hd
    have htop : c.top = d.top := h
    have hpackage : c.package = d.package := (classIsShort_iff.1 hdshort).1 c.topLevel hc htop
    simp [Import.ofClass, hpackage, htop]
  · obtain ⟨c, -, rfl⟩ := List.mem_map.1 hc
    rw [Import.boundName_ofMember] at h
    exact absurd h ((memberIsShort_iff.1 hnshort).2.1 _ hc)
  · obtain ⟨d, -, rfl⟩ := List.mem_map.1 hd
    rw [Import.boundName_ofMember] at h
    exact absurd h.symm ((memberIsShort_iff.1 hmshort).2.1 _ hd)
  · rw [Import.boundName_ofMember, Import.boundName_ofMember] at h
    exact ofMember_eq_of_canonicalName (enclosing?_of_mem_plainMembers hm)
      (enclosing?_of_mem_plainMembers hn) ((memberIsShort_iff.1 hnshort).1 m hm h)

/-! ### All lines -/

theorem requested_of_alias {i : Import} {name : String} (hi : i ∈ r.lines)
    (halias : i.alias? = some name) : i ∈ r.requested := by
  rcases mem_lines.1 hi with ⟨c, -, -, rfl⟩ | ⟨m, -, -, rfl⟩ | hrequested
  · cases halias
  · cases halias
  · exact hrequested

/-- A line without alias binds no alias, unless it imports an extension. -/
theorem boundName_ne_of_alias (halias : ∀ i ∈ r.requested, i.alias?.isSome) {i j : Import}
    (hi : i ∈ r.lines) (hnone : i.alias? = none) (hextension : ¬r.ImportsExtension i) {name : String}
    (hj : j ∈ r.lines) (hname : j.alias? = some name) : i.boundName ≠ j.boundName := by
  intro h
  have htaken := isTaken_eq_false_iff.1 (isTaken_boundName halias hi hnone hextension)
  refine htaken.2.1 j (requested_of_alias hj hname) ?_
  rw [hname, h, Import.boundName, hname, Option.getD_some]

/-- **Import lines never clash.**  Let every import that is asked for have an alias, and no two of
them the same.  Then the lines of the table stand in strictly ascending order; of two lines that
bind the same name one imports an extension; and no line without alias binds a declared name, an
alias or a keyword, unless it imports an extension. -/
theorem lines_ascend_and_bind_apart (r : References)
    (halias : ∀ i ∈ r.requested, i.alias?.isSome)
    (hdistinct : ∀ i ∈ r.requested, ∀ j ∈ r.requested, i.alias? = j.alias? → i = j) :
    r.lines.Pairwise (fun i j => i.key < j.key) ∧
      (∀ i ∈ r.lines, ∀ j ∈ r.lines, i ≠ j → i.boundName = j.boundName →
        r.ImportsExtension i ∨ r.ImportsExtension j) ∧
      ∀ i ∈ r.lines, i.alias? = none → ¬r.ImportsExtension i →
        i.boundName ∉ r.declared ∧ (∀ j ∈ r.requested, j.alias? ≠ some i.boundName) ∧
          isKeyword i.boundName = false := by
  refine ⟨r.pairwise_key_lines, fun i hi j hj hne h => ?_, fun i hi hnone hextension => ?_⟩
  · by_contra hextensions
    obtain ⟨hiext, hjext⟩ := not_or.1 hextensions
    cases hia : i.alias? with
    | none =>
      cases hja : j.alias? with
      | none => exact hne (eq_of_boundName_eq halias hi hj hia hja hiext hjext h)
      | some name => exact boundName_ne_of_alias halias hi hia hiext hj hja h
    | some name =>
      cases hja : j.alias? with
      | none => exact boundName_ne_of_alias halias hj hja hjext hi hia h.symm
      | some name' =>
        refine hne (hdistinct i (requested_of_alias hi hia) j (requested_of_alias hj hja) ?_)
        simpa [Import.boundName, hia, hja] using h
  · exact isTaken_eq_false_iff.1 (isTaken_boundName halias hi hnone hextension)

/-- The class `lib.Gear`. -/
def gearName : ClassName := FileDecl.toolName "lib" "Gear" rfl

/-- References to a class, to two extensions `map` and to a member `sort`, in a file that imports a
class as `sort`. -/
def sortReferences : References where
  package := "app"
  implicitPackages := defaultImplicitPackages
  declared := ["User"]
  classes := [gearName]
  members := [⟨.topLevel "other", "map", true, rfl⟩, ⟨.topLevel "lib", "map", true, rfl⟩,
    ⟨.topLevel "lib", "sort", false, rfl⟩]
  requested := [⟨"old", ["Sorting"], some "sort"⟩]

/-- Both extensions are imported, and the member `sort` is not. -/
theorem lines_ascend_and_bind_apart_sort :
    sortReferences.lines = [⟨"lib", ["Gear"], none⟩, ⟨"lib", ["map"], none⟩,
        ⟨"old", ["Sorting"], some "sort"⟩, ⟨"other", ["map"], none⟩] ∧
      sortReferences.lines.Pairwise (fun i j => i.key < j.key) ∧
      (sortReferences.ImportsExtension ⟨"lib", ["map"], none⟩ ∨
        sortReferences.ImportsExtension ⟨"other", ["map"], none⟩) ∧
      "Gear" ∉ sortReferences.declared ∧
      ⟨"old", ["Sorting"], some "Gear"⟩ ∉ sortReferences.requested ∧ isKeyword "Gear" = false := by
  have hlines : sortReferences.lines = [⟨"lib", ["Gear"], none⟩, ⟨"lib", ["map"], none⟩,
      ⟨"old", ["Sorting"], some "sort"⟩, ⟨"other", ["map"], none⟩] := by decide +kernel
  have halias : ∀ i ∈ sortReferences.requested, i.alias?.isSome := by decide
  have hdistinct : ∀ i ∈ sortReferences.requested, ∀ j ∈ sortReferences.requested,
      i.alias? = j.alias? → i = j := by decide
  obtain ⟨hordered, happart, hfree⟩ := lines_ascend_and_bind_apart sortReferences halias hdistinct
  have hgear : ¬sortReferences.ImportsExtension ⟨"lib", ["Gear"], none⟩ := by
    rintro ⟨m, hm, himport⟩
    have hnames : sortReferences.extensions.all fun m => m.name == "map" := by decide
    have hname := congrArg Import.boundName himport
    rw [Import.boundName_ofMember, beq_iff_eq.1 (List.all_eq_true.1 hnames m hm)] at hname
    exact absurd hname (by decide)
  obtain ⟨hdeclared, hrequested, hkeyword⟩ :=
    hfree ⟨"lib", ["Gear"], none⟩ (by simp [hlines]) rfl hgear
  refine ⟨hlines, hordered, ?_, hdeclared, fun hmem => hrequested _ hmem rfl, hkeyword⟩
  exact happart _ (by simp [hlines]) _ (by simp [hlines]) (by decide) rfl

end References

end KotlinSource
