import KotlinSource.Proofs.Imports.LineOrder

/-!
# Which top-level members are short

Top-level members that are no extensions are decided about in groups of one simple name.  A member
that is alone in its group is short if no class that the file mentions has its name at the top
level, and the name is not taken.

Extensions are short whatever their names are.  The table keeps the short members of both kinds
under their qualified names, so that a member which shares its qualified name with an extension is
short along with it, whatever its group says.

## Main definitions

* `References.IsAlone`: the rule for a member and its group.

## Main results

* `References.table_memberIsShort_iff`: a member is short by the rule or along with an extension.
* `References.not_isAlone_of_memberIsShort`: an extension makes a member short against the rule.
-/

namespace KotlinSource

namespace References

/-- The rule for a top-level member that is no extension: no other one of its simple name is
mentioned, nor a class with that name at the top level, and the name is neither declared nor an
alias nor a keyword. -/
structure IsAlone (r : References) (m : MemberName) : Prop where
  eq_member : ∀ n ∈ r.members, n.enclosing? = none → n.isExtension = false → n.name = m.name → n = m
  ne_class : ∀ c ∈ r.classes, c.top ≠ m.name
  notMem_declared : m.name ∉ r.declared
  ne_alias : ∀ i ∈ r.requested, i.alias? ≠ some m.name
  notMem_keywords : m.name ∉ keywords

variable {r : References} {m : MemberName}

/-- What is decided about a member is the rule. -/
theorem memberIsShort_iff_isAlone (howner : m.enclosing? = none)
    (hplain : m.isExtension = false) : r.memberIsShort m = true ↔ r.IsAlone m := by
  rw [memberIsShort_iff, isTaken_eq_false_iff, ← Bool.not_eq_true, isKeyword_iff]
  constructor
  · rintro ⟨hmember, hclass, hdeclared, halias, hkeyword⟩
    refine ⟨fun n hn hnowner hnplain hname => ?_, fun c hc => ?_, hdeclared, halias, hkeyword⟩
    · exact MemberName.eq_of_canonicalName hnowner howner (hnplain.trans hplain.symm)
        (hmember n (mem_plainMembers.2 ⟨hn, hnowner, hnplain⟩) hname)
    · exact hclass c.topLevel (List.mem_map_of_mem hc)
  · rintro ⟨hmember, hclass, hdeclared, halias, hkeyword⟩
    refine ⟨fun n hn hname => ?_, fun c hc => ?_, hdeclared, halias, hkeyword⟩
    · obtain ⟨hn, hnowner, hnplain⟩ := mem_plainMembers.1 hn
      rw [hmember n hn hnowner hnplain hname]
    · obtain ⟨d, hd, rfl⟩ := List.mem_map.1 hc
      exact hclass d hd

/-- **A member is short by the rule for its group, or along with an extension.**  Among all members,
classes, declared names and aliases, a top-level member that is mentioned and is no extension is
written by its simple name exactly if it keeps to the rule, or if an extension with its qualified
name is mentioned. -/
theorem table_memberIsShort_iff (r : References) {m : MemberName} (hm : m ∈ r.members)
    (howner : m.enclosing? = none) (hplain : m.isExtension = false) :
    r.table.memberIsShort m = true ↔
      r.IsAlone m ∨ ∃ n ∈ r.members, n.enclosing? = none ∧ n.isExtension = true ∧
        n.canonicalName = m.canonicalName := by
  rw [exists_of_table_memberIsShort_iff, ← memberIsShort_iff_isAlone howner hplain]
  constructor
  · rintro ⟨n, hn, hname⟩
    obtain ⟨hn, hnowner, hshort⟩ := mem_shortMembers.1 hn
    cases hkind : n.isExtension with
    | true => exact .inr ⟨n, hn, hnowner, hkind, hname⟩
    | false =>
      obtain rfl := MemberName.eq_of_canonicalName hnowner howner (hkind.trans hplain.symm) hname
      exact .inl (hshort.resolve_left (by simp [hkind]))
  · rintro (hshort | ⟨n, hn, hnowner, hkind, hname⟩)
    · exact ⟨m, mem_shortMembers.2 ⟨hm, howner, .inr hshort⟩, rfl⟩
    · exact ⟨n, mem_shortMembers.2 ⟨hn, hnowner, .inl hkind⟩, hname⟩

/-- References to a member and to extensions, in a file that declares a type. -/
def runReferences (members : List MemberName) (declared : String) : References where
  package := "app"
  implicitPackages := defaultImplicitPackages
  declared := [declared]
  classes := [gearName]
  members := members
  requested := []

/-- The top-level function `run` of a package, or an extension function of that name. -/
def runMember (package : String) (isExtension : Bool) : MemberName :=
  ⟨.topLevel package, "run", isExtension, rfl⟩

/-- An extension of another package leaves the member to the rule. -/
theorem table_memberIsShort_iff_run :
    let r := runReferences [runMember "lib" false, runMember "other" true] "User"
    runMember "lib" false ∈ r.members ∧ r.table.memberIsShort (runMember "lib" false) = true ∧
      r.IsAlone (runMember "lib" false) := by
  intro r
  have hmem : runMember "lib" false ∈ r.members := List.mem_cons_self
  have hshort : r.table.memberIsShort (runMember "lib" false) = true := by decide +kernel
  rcases (r.table_memberIsShort_iff hmem rfl rfl).1 hshort with halone | ⟨n, hn, -, hkind, hname⟩
  · exact ⟨hmem, hshort, halone⟩
  · have happart : ∀ n ∈ r.members, n.isExtension = true →
        n.canonicalName ≠ (runMember "lib" false).canonicalName := by decide
    exact absurd hname (happart n hn hkind)

/-- The file declares a type of the name of the member, which should keep the member qualified; but
an extension of the same package makes it short. -/
theorem not_isAlone_of_memberIsShort :
    let r := runReferences [runMember "lib" false, runMember "lib" true] "run"
    runMember "lib" false ∈ r.members ∧
      ¬(r.table.memberIsShort (runMember "lib" false) = true ↔ r.IsAlone (runMember "lib" false)) := by
  intro r
  refine ⟨List.mem_cons_self, fun h => ?_⟩
  have hshort : r.table.memberIsShort (runMember "lib" false) = true := by decide +kernel
  exact (h.1 hshort).notMem_declared List.mem_cons_self

end References

end KotlinSource
