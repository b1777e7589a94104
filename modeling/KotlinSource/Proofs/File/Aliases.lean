import KotlinSource.File.Rendering
import Mathlib.Data.List.Induction

/-!
# The import aliases of a file

The imports under other names that a file asks for are checked one by one.  Every alias has to be an
identifier and to stand for one target, and repetitions of an import are left out.  The check
compares an import with a single one of those that it has kept, the first with the same alias.  That
is enough: imports that have passed agree if they have the same alias.

## Main definitions

* `WellAliased`: the rule for imports under other names.
* `Import.target`: what an import gives a name to.
* `AliasFault`: what is wrong with an import behind others.

## Main results

* `wellAliased_append_singleton_iff`: imports obey the rule as long as none of them has a fault.
* `checkAliasesFrom_cons_of_wellAliased`, `checkAliasesFrom_cons_of_fault`: the check of one import.
* `checkAliasesFrom_append`: the check of imports that obey the rule.
* `checkAliases_ok_iff_and_error_iff`: when the check goes through, what it keeps, and how it fails.
* `FileDecl.check_eq_ok_iff`, `FileDecl.wellAliased_of_build`: the imports of every file that was
  built obey the rule.
* `FileDecl.exists_import_of_alias?`: an alias in the context of a file comes from an import.
-/

namespace KotlinSource

/-! ### The rule -/

/-- Imports under other names: every alias is an identifier and stands for one import. -/
structure WellAliased (imports : List Import) : Prop where
  identifier : ∀ i ∈ imports, ∃ name, i.alias? = some name ∧ isIdentifier name = true
  unique : ∀ i ∈ imports, ∀ j ∈ imports, i.alias? = j.alias? → i = j

theorem wellAliased_nil : WellAliased [] := ⟨by simp, by simp⟩

theorem WellAliased.of_subset {imports others : List Import} (h : WellAliased imports)
    (hsubset : others ⊆ imports) : WellAliased others :=
  ⟨fun i hi => h.identifier i (hsubset hi),
    fun i hi j hj => h.unique i (hsubset hi) j (hsubset hj)⟩

theorem WellAliased.eraseDups {imports : List Import} (h : WellAliased imports) :
    WellAliased imports.eraseDups :=
  h.of_subset fun _ hi => List.mem_eraseDups.1 hi

/-- An alias is found at the import that has it. -/
theorem WellAliased.find?_alias {imports : List Import} (h : WellAliased imports) {i : Import}
    (hi : i ∈ imports) {name : String} (halias : i.alias? = some name) :
    imports.find? (fun j => j.alias? == some name) = some i := by
  cases hfind : imports.find? (fun j => j.alias? == some name) with
  | none =>
    have hnone := List.find?_eq_none.1 hfind i hi
    simp [halias] at hnone
  | some j =>
    have hj := List.find?_some hfind
    rw [beq_iff_eq, ← halias] at hj
    rw [h.unique j (List.mem_of_find?_eq_some hfind) i hi hj]

/-- The text of an alias that is an identifier is an alias. -/
theorem Import.alias?_of_isIdentifier {i : Import} (h : isIdentifier i.aliasName = true) :
    i.alias? = some i.aliasName := by
  rw [aliasName] at h ⊢
  cases halias : i.alias? with
  | none =>
    rw [halias] at h
    exact absurd h (by decide)
  | some name => rfl

theorem WellAliased.isIdentifier_aliasName {imports : List Import} (h : WellAliased imports)
    {i : Import} (hi : i ∈ imports) : isIdentifier i.aliasName = true := by
  obtain ⟨name, halias, hname⟩ := h.identifier i hi
  rwa [Import.aliasName, halias]

theorem WellAliased.isIdentifier_of_alias {imports : List Import} (h : WellAliased imports)
    {i : Import} (hi : i ∈ imports) {name : String} (halias : i.alias? = some name) :
    isIdentifier name = true := by
  have hname := h.isIdentifier_aliasName hi
  rwa [Import.aliasName, halias] at hname

/-- Without repetitions, no alias stands twice. -/
theorem WellAliased.nodup_aliasName {imports : List Import} (h : WellAliased imports)
    (hnodup : imports.Nodup) : (imports.map Import.aliasName).Nodup := by
  refine List.pairwise_map.2 (hnodup.imp_of_mem fun {i j} hi hj hne hsame => hne ?_)
  refine h.unique i hi j hj ?_
  rw [Import.alias?_of_isIdentifier (h.isIdentifier_aliasName hi),
    Import.alias?_of_isIdentifier (h.isIdentifier_aliasName hj), hsame]

/-! ### Faults -/

/-- What an import gives a name to: the package and the simple names below it. -/
def Import.target (i : Import) : String × List String := (i.package, i.names)

theorem Import.eq_iff {i j : Import} : i = j ↔ i.target = j.target ∧ i.alias? = j.alias? := by
  cases i
  cases j
  simp [target, and_assoc]

/-- What is wrong with an import that stands behind others: its alias is no identifier, or one of
the others has the same alias for another target. -/
inductive AliasFault (earlier : List Import) (i : Import) : DeclarationError → Prop where
  | noIdentifier (hname : isIdentifier i.aliasName = false) :
      AliasFault earlier i (.invalidName i.aliasName .importAlias)
  | taken {s : Import} (hs : s ∈ earlier) (halias : s.alias? = i.alias?)
      (htarget : s.target ≠ i.target) :
      AliasFault earlier i
        (.duplicateImportAlias i.aliasName s.qualifiedName i.qualifiedName)

/-- One import more, whose alias is an identifier and belongs to no other import. -/
theorem WellAliased.append_singleton {earlier : List Import} (h : WellAliased earlier) {i : Import}
    (hname : isIdentifier i.aliasName = true)
    (hother : ∀ s ∈ earlier, s.alias? = i.alias? → s = i) : WellAliased (earlier ++ [i]) := by
  constructor
  · intro j hj
    rcases List.mem_append.1 hj with hj | hj
    · exact h.identifier j hj
    · rw [List.mem_singleton.1 hj]
      exact ⟨i.aliasName, Import.alias?_of_isIdentifier hname, hname⟩
  · intro j hj k hk e
    simp only [List.mem_append, List.mem_singleton] at hj hk
    rcases hj with hj | rfl <;> rcases hk with hk | rfl
    · exact h.unique j hj k hk e
    · exact hother j hj e
    · exact (hother k hk e.symm).symm
    · rfl

/-- One import more obeys the rule if nothing is wrong with it. -/
theorem wellAliased_append_singleton_iff {earlier : List Import} {i : Import} :
    WellAliased (earlier ++ [i]) ↔ WellAliased earlier ∧ ∀ e, ¬AliasFault earlier i e := by
  constructor
  · intro h
    refine ⟨h.of_subset (List.subset_append_left _ _), fun e hfault => ?_⟩
    cases hfault with
    | noIdentifier hname =>
      have hname' := h.isIdentifier_aliasName (i := i) (by simp)
      exact Bool.false_ne_true (hname.symm.trans hname')
    | taken hs halias htarget =>
      have hsame := h.unique _ (List.mem_append_left [i] hs) i (by simp) halias
      exact htarget (congrArg Import.target hsame)
  · rintro ⟨h, hfree⟩
    refine h.append_singleton ?_ fun s hs halias => ?_
    · by_contra hname
      exact hfree _ (.noIdentifier (by simpa using hname))
    · by_contra hne
      exact hfree _ (.taken hs halias fun htarget => hne (Import.eq_iff.2 ⟨htarget, halias⟩))

/-- Imports obey the rule, or a first one of them has a fault. -/
theorem wellAliased_or_exists_fault (imports : List Import) :
    WellAliased imports ∨ ∃ front i behind e, imports = front ++ i :: behind ∧
      WellAliased front ∧ AliasFault front i e := by
  -- From the right, since faults depend on all that stands in front.
  induction imports using List.reverseRecOn with
  | nil => exact .inl wellAliased_nil
  | append_singleton imports i ih =>
    rcases ih with h | ⟨front, j, behind, e, rfl, hfront, hfault⟩
    · by_cases hfree : ∀ e, ¬AliasFault imports i e
      · exact .inl (wellAliased_append_singleton_iff.2 ⟨h, hfree⟩)
      · obtain ⟨e, hfault⟩ := not_forall_not.1 hfree
        exact .inr ⟨imports, i, [], e, rfl, h, hfault⟩
    · exact .inr ⟨front, j, behind ++ [i], e, by simp, hfront, hfault⟩

/-- Imports obey the rule exactly if none of them has a fault. -/
theorem wellAliased_iff_forall_not_fault {imports : List Import} :
    WellAliased imports ↔ ∀ earlier j later, imports = earlier ++ j :: later →
      ∀ e, ¬AliasFault earlier j e := by
  constructor
  · rintro h earlier j later rfl
    rw [List.append_cons] at h
    exact (wellAliased_append_singleton_iff.1 (h.of_subset (List.subset_append_left _ _))).2
  · intro hfree
    rcases wellAliased_or_exists_fault imports with h | ⟨front, i, behind, e, hsplit, -, hfault⟩
    · exact h
    · exact absurd hfault (hfree front i behind hsplit e)

/-! ### The check -/

/-- An import behind which the rule still holds goes through.  It is kept if it is a first
occurrence. -/
theorem checkAliasesFrom_cons_of_wellAliased {earlier : List Import} {i : Import}
    (h : WellAliased (earlier ++ [i])) (rest : List Import) :
    checkAliasesFrom earlier.eraseDups (i :: rest) =
      checkAliasesFrom (earlier ++ [i]).eraseDups rest := by
  have hi : i ∈ earlier ++ [i] := by simp
  have hname := h.isIdentifier_aliasName hi
  rw [checkAliasesFrom, if_pos hname, Text.eraseDups_append_singleton]
  -- The rule leaves `i` itself as the only import in front with the alias of `i`.
  by_cases hmem : i ∈ earlier
  · have hkept : WellAliased earlier.eraseDups :=
      (h.of_subset (List.subset_append_left _ _)).eraseDups
    have hfind := hkept.find?_alias (List.mem_eraseDups.2 hmem)
      (Import.alias?_of_isIdentifier hname)
    rw [← Import.alias?_of_isIdentifier hname] at hfind
    simp [hfind, hmem]
  · have hfind : earlier.eraseDups.find? (fun s => s.alias? == i.alias?) = none := by
      refine List.find?_eq_none.2 fun s hs halias => hmem ?_
      have hs := List.mem_eraseDups.1 hs
      rw [← h.unique s (List.mem_append_left [i] hs) i hi (beq_iff_eq.1 halias)]
      exact hs
    simp [hfind, hmem]

/-- Behind imports that obey the rule, the fault of an import is what the check fails with. -/
theorem checkAliasesFrom_cons_of_fault {earlier : List Import} (h : WellAliased earlier)
    {i : Import} {e : DeclarationError} (hfault : AliasFault earlier i e) (rest : List Import) :
    checkAliasesFrom earlier.eraseDups (i :: rest) = .error e := by
  cases hfault with
  | noIdentifier hname => simp [checkAliasesFrom, hname]
  | @taken s hs halias htarget =>
    -- The alias is an identifier, as it has passed with `s`, and it is found at `s`.
    obtain ⟨name, hname, hidentifier⟩ := h.identifier s hs
    have hfind := h.eraseDups.find?_alias (List.mem_eraseDups.2 hs) hname
    have hne : s ≠ i := fun hsame => htarget (congrArg Import.target hsame)
    rw [hname] at halias
    simp [checkAliasesFrom, Import.aliasName, ← halias, hidentifier, hfind, hne]

/-- Imports that obey the rule, with those in front of them, go through. -/
theorem checkAliasesFrom_append {earlier imports : List Import}
    (h : WellAliased (earlier ++ imports)) (rest : List Import) :
    checkAliasesFrom earlier.eraseDups (imports ++ rest) =
      checkAliasesFrom (earlier ++ imports).eraseDups rest := by
  -- The invariant is that `earlier.eraseDups` is what the check has kept of `earlier`.
  induction imports generalizing earlier with
  | nil => simp
  | cons i imports ih =>
    rw [List.append_cons] at h ⊢
    have hi : WellAliased (earlier ++ [i]) := h.of_subset (List.subset_append_left _ _)
    rw [List.cons_append, checkAliasesFrom_cons_of_wellAliased hi, ih h]

theorem checkAliases_of_wellAliased {imports : List Import} (h : WellAliased imports) :
    checkAliases imports = .ok imports.eraseDups := by
  have happend := @checkAliasesFrom_append [] imports h []
  rwa [List.append_nil] at happend

theorem checkAliases_of_fault {front : List Import} (h : WellAliased front) {i : Import}
    {e : DeclarationError} (hfault : AliasFault front i e) (behind : List Import) :
    checkAliases (front ++ i :: behind) = .error e :=
  calc checkAliasesFrom [] (front ++ i :: behind)
      = checkAliasesFrom front.eraseDups (i :: behind) :=
        @checkAliasesFrom_append [] front h (i :: behind)
    _ = .error e := checkAliasesFrom_cons_of_fault h hfault behind

/-- Imports pass the check exactly if they obey the rule, and come out without repetitions. -/
theorem checkAliases_eq_ok_iff {imports kept : List Import} :
    checkAliases imports = .ok kept ↔ WellAliased imports ∧ kept = imports.eraseDups := by
  constructor
  · intro hok
    rcases wellAliased_or_exists_fault imports with h | ⟨front, i, behind, e, rfl, h, hfault⟩
    · rw [checkAliases_of_wellAliased h, Except.ok.injEq] at hok
      exact ⟨h, hok.symm⟩
    · rw [checkAliases_of_fault h hfault] at hok
      cases hok
  · rintro ⟨h, rfl⟩
    exact checkAliases_of_wellAliased h

/-- The check fails with the fault of the first import that has one. -/
theorem checkAliases_eq_error_iff {imports : List Import} {e : DeclarationError} :
    checkAliases imports = .error e ↔ ∃ front i behind, imports = front ++ i :: behind ∧
      WellAliased front ∧ AliasFault front i e := by
  constructor
  · intro herror
    rcases wellAliased_or_exists_fault imports with h | ⟨front, i, behind, e', rfl, h, hfault⟩
    · rw [checkAliases_of_wellAliased h] at herror
      cases herror
    · rw [checkAliases_of_fault h hfault, Except.error.injEq] at herror
      exact ⟨front, i, behind, rfl, h, herror ▸ hfault⟩
  · rintro ⟨front, i, behind, rfl, h, hfault⟩
    exact checkAliases_of_fault h hfault behind

/-- **The check of import aliases.**  For every list of imports, the check goes through exactly if
every alias is an identifier and two imports with the same alias are the same.  It then keeps the
first occurrence of every import, in their order: no alias stands twice, and no import is lost.
Otherwise it fails with the fault of the first import that has one, be it an alias that is no
identifier or one that stands for another target in front of it. -/
theorem checkAliases_ok_iff_and_error_iff (imports : List Import) :
    ((∃ kept, checkAliases imports = .ok kept) ↔ WellAliased imports) ∧
      (∀ kept, checkAliases imports = .ok kept →
        kept = imports.eraseDups ∧ (kept.map Import.aliasName).Nodup ∧ ∀ i ∈ imports, i ∈ kept) ∧
      ∀ e, checkAliases imports = .error e ↔
        ∃ front i behind, imports = front ++ i :: behind ∧ AliasFault front i e ∧
          ∀ earlier j later, front = earlier ++ j :: later → ∀ e', ¬AliasFault earlier j e' := by
  refine ⟨⟨?_, fun h => ⟨_, checkAliases_of_wellAliased h⟩⟩, ?_, fun e => ?_⟩
  · rintro ⟨kept, hok⟩
    exact (checkAliases_eq_ok_iff.1 hok).1
  · intro kept hok
    obtain ⟨h, rfl⟩ := checkAliases_eq_ok_iff.1 hok
    exact ⟨rfl, h.eraseDups.nodup_aliasName (Text.nodup_eraseDups imports),
      fun i hi => List.mem_eraseDups.2 hi⟩
  · simp only [checkAliases_eq_error_iff, ← wellAliased_iff_forall_not_fault,
      and_comm (a := WellAliased _)]

/-- Imports with a repetition behind another import. -/
def toolImports : List Import :=
  [⟨"lib", ["Gear"], some "Tool"⟩, ⟨"lib", ["Nut"], some "Part"⟩, ⟨"lib", ["Gear"], some "Tool"⟩]

/-- The repetition is left out.  A second target for its alias does not go through, and what stands
behind it is not looked at. -/
theorem checkAliases_ok_iff_and_error_iff_tools :
    WellAliased toolImports ∧
      checkAliases toolImports = .ok (toolImports.take 2) ∧
      ((toolImports.take 2).map Import.aliasName).Nodup ∧
      (∀ i ∈ toolImports, i ∈ toolImports.take 2) ∧
      checkAliases
          (toolImports ++ [⟨"other", ["Gear"], some "Tool"⟩, ⟨"lib", ["Bolt"], some "a bolt"⟩]) =
        .error (.duplicateImportAlias "Tool" "lib.Gear" "other.Gear") := by
  have hok : checkAliases toolImports = .ok (toolImports.take 2) := rfl
  obtain ⟨haccepts, hkept, -⟩ := checkAliases_ok_iff_and_error_iff toolImports
  have hwell : WellAliased toolImports := haccepts.1 ⟨_, hok⟩
  obtain ⟨-, hnodup, hmem⟩ := hkept _ hok
  refine ⟨hwell, hok, hnodup, hmem, ?_⟩
  refine ((checkAliases_ok_iff_and_error_iff _).2.2 _).2 ⟨toolImports, _, _, rfl, ?_,
    fun earlier j later hsplit => wellAliased_iff_forall_not_fault.1 hwell earlier j later hsplit⟩
  exact AliasFault.taken (s := ⟨"lib", ["Gear"], some "Tool"⟩) (by decide) rfl (by decide)

/-- Targets are told apart by package and chain.  Two of them can have one qualified name. -/
example :
    checkAliases [⟨"lib.io", ["Gear"], some "Tool"⟩, ⟨"lib", ["io", "Gear"], some "Tool"⟩] =
      .error (.duplicateImportAlias "Tool" "lib.io.Gear" "lib.io.Gear") := rfl

namespace FileDecl

/-- A file passes the check if it has no faults and its imports obey the rule; it comes out without
repeated imports and otherwise as it was. -/
theorem check_eq_ok_iff {draft file : FileDecl} :
    draft.check = .ok file ↔ draft.faults = [] ∧ WellAliased draft.aliasedImports ∧
      file = { draft with aliasedImports := draft.aliasedImports.eraseDups } := by
  rw [check]
  cases hfaults : draft.faults with
  | cons e rest => simp [accept, bind, Except.bind]
  | nil =>
    cases haliases : checkAliases draft.aliasedImports with
    | error e =>
      have hbroken : ¬WellAliased draft.aliasedImports := by
        intro h
        rw [checkAliases_of_wellAliased h] at haliases
        cases haliases
      simp [accept, bind, Except.bind, haliases, hbroken]
    | ok imports =>
      obtain ⟨h, rfl⟩ := checkAliases_eq_ok_iff.1 haliases
      simp [accept, bind, Except.bind, pure, Except.pure, haliases, h, eq_comm]

theorem wellAliased_of_check {draft file : FileDecl} (h : draft.check = .ok file) :
    WellAliased file.aliasedImports := by
  obtain ⟨-, haliases, rfl⟩ := check_eq_ok_iff.1 h
  exact haliases.eraseDups

/-- The imports of a file that was built obey the rule. -/
theorem wellAliased_of_build {package name : String} {parts : List FilePart} {file : FileDecl}
    (h : build package name parts = .ok file) : WellAliased file.aliasedImports :=
  wellAliased_of_check h

/-- An alias of the context comes from an import of the file. -/
theorem exists_import_of_alias? {file : FileDecl} {qualified name : String}
    (h : file.context.alias? qualified = some name) :
    ∃ i ∈ file.aliasedImports, i.qualifiedName = qualified ∧ i.alias? = some name := by
  obtain ⟨front, behind, hsplit, -⟩ := List.lookup_eq_some_iff.1 h
  have hmem : (qualified, name) ∈ file.context.aliases := by
    rw [hsplit]
    simp
  simp only [context, List.mem_reverse, List.mem_filterMap, Option.map_eq_some_iff,
    Prod.mk.injEq] at hmem
  obtain ⟨i, hi, name', halias, hqualified, rfl⟩ := hmem
  exact ⟨i, hi, hqualified, halias⟩

end FileDecl

end KotlinSource
