import KotlinSource.Proofs.Imports.Sets
import Mathlib.Data.List.Pairwise

/-!
# Imported members and the order of their qualified names

The imported members of a table are sorted part by part: by package, then by simple name, extensions
behind others.  The order of their qualified names compares the package and the simple name as one
text, with the dot between them.  The two orders agree on members of one package, and on members
whose packages differ in a character that both of them have.

They need not agree if one package goes on behind the end of the other.  By package the shorter one
comes first.  In the qualified names, though, the text that the longer package goes on with is
compared with the dot and the simple name behind the shorter one, and may come before these.  So the
members of a package and of the packages below it are not in the order of their qualified names in
general.

## Main definitions

* `MemberName.IsOvertakenBy`: a member of a longer package has the qualified name that comes first.

## Main results

* `Text.prefix_or_append_lt_append`: where two texts in ascending order differ.
* `MemberName.canonicalName_lt_iff_isOvertakenBy`: where the two orders differ.
* `References.members_ascend_iff`: the order of the imported members, and when it is that of their
  qualified names.
* `References.members_subpackage`: two members that are not in the order of their qualified names.
-/

namespace KotlinSource

/-! ### Texts that go on -/

namespace Text

theorem append_lt_append_left_iff (front s t : List Char) : front ++ s < front ++ t ↔ s < t := by
  induction front with
  | nil => rfl
  | cons c front ih => simpa using ih

/-- Of two texts in ascending order the first one is a prefix of the second one, or they differ in a
character that both of them have; then they stay in that order whatever they go on with. -/
theorem prefix_or_append_lt_append {a b : List Char} (h : a < b) :
    a <+: b ∨ ∀ s t : List Char, a ++ s < b ++ t := by
  induction a generalizing b with
  | nil => exact .inl List.nil_prefix
  | cons c a ih =>
    cases b with
    | nil => exact absurd h (List.not_lt_nil _)
    | cons d b =>
      rcases List.cons_lt_cons_iff.1 h with hlt | ⟨rfl, hrest⟩
      · exact .inr fun s t => List.cons_lt_cons_iff.2 (.inl hlt)
      · rcases ih hrest with hprefix | happend
        · exact .inl (List.prefix_cons_inj c |>.2 hprefix)
        · exact .inr fun s t => List.cons_lt_cons_iff.2 (.inr ⟨rfl, happend s t⟩)

/-- In a list that is sorted by a key, what holds of every element and all that follow holds of any
two elements of which the first one has the smaller key. -/
theorem rel_of_pairwise_lt {α β : Type} [Preorder β] {key : α → β} {R : α → α → Prop} {l : List α}
    (hkeys : l.Pairwise fun x y => key x < key y) (hrel : l.Pairwise R) {x y : α} (hx : x ∈ l)
    (hy : y ∈ l) (h : key x < key y) : R x y := by
  obtain ⟨i, hi, rfl⟩ := List.getElem_of_mem hx
  obtain ⟨j, hj, rfl⟩ := List.getElem_of_mem hy
  rcases lt_trichotomy i j with hij | rfl | hji
  · exact List.pairwise_iff_getElem.1 hrel i j hi hj hij
  · exact absurd h (lt_irrefl _)
  · exact absurd h (lt_asymm (List.pairwise_iff_getElem.1 hkeys j i hj hi hji))

end Text

/-! ### Two members -/

namespace MemberName

/-- The package of `n` goes on behind the end of the package of `m`, and still the qualified name of
`n` comes first: what the package goes on with, and the simple name behind it, come before the dot
and the simple name of `m`. -/
def IsOvertakenBy (m n : MemberName) : Prop :=
  ∃ rest, rest ≠ "" ∧ n.package = m.package ++ rest ∧ rest ++ "." ++ n.name < "." ++ m.name

variable {m n : MemberName}

/-- A member of a package with a name is written behind a dot. -/
theorem toList_canonicalName (howner : m.enclosing? = none) (hpackage : m.package ≠ "") :
    m.canonicalName.toList = m.package.toList ++ ("." ++ m.name).toList := by
  rw [canonicalName_of_topLevel howner, qualify, if_neg hpackage, String.append_assoc,
    String.toList_append]

theorem package_le_of_key_lt (h : m.key < n.key) : m.package ≤ n.package := by
  rw [key, key, Prod.Lex.toLex_lt_toLex] at h
  exact h.elim le_of_lt fun h => h.1.le

/-- Members of one package are in the order of their simple names. -/
theorem name_le_of_key_lt (hpackage : m.package = n.package) (h : m.key < n.key) :
    m.name ≤ n.name := by
  rw [key, key, Prod.Lex.toLex_lt_toLex, Prod.Lex.toLex_lt_toLex] at h
  rcases h with hlt | ⟨-, hlt | ⟨heq, -⟩⟩
  · exact absurd hpackage hlt.ne
  · exact hlt.le
  · exact heq.le

/-- A member of a package that goes on behind the end of another one comes first by the text behind
that end. -/
theorem canonicalName_lt_iff_of_package (hm : m.enclosing? = none) (hn : n.enclosing? = none)
    (hmpackage : m.package ≠ "") {rest : String} (hpackage : n.package = m.package ++ rest) :
    n.canonicalName < m.canonicalName ↔ rest ++ "." ++ n.name < "." ++ m.name := by
  have hnpackage : n.package ≠ "" := by
    rw [hpackage]
    exact fun h => hmpackage (String.append_eq_empty_iff.1 h).1
  rw [String.lt_iff_toList_lt, toList_canonicalName hm hmpackage,
    toList_canonicalName hn hnpackage, hpackage, String.toList_append, List.append_assoc,
    Text.append_lt_append_left_iff, ← String.toList_append, ← String.append_assoc,
    String.lt_iff_toList_lt]

/-- The package of a member that is overtaken comes first. -/
theorem IsOvertakenBy.key_lt (h : m.IsOvertakenBy n) : m.key < n.key := by
  obtain ⟨rest, hrest, hpackage, -⟩ := h
  obtain ⟨c, cs, hcs⟩ := List.exists_cons_of_ne_nil (mt String.toList_eq_nil_iff.1 hrest)
  have hlonger : m.package < n.package := by
    have hnil : m.package.toList ++ [] < m.package.toList ++ rest.toList :=
      (Text.append_lt_append_left_iff _ _ _).2 (hcs ▸ List.nil_lt_cons c cs)
    rwa [List.append_nil, ← String.toList_append, ← hpackage, ← String.lt_iff_toList_lt] at hnil
  rw [key, key, Prod.Lex.toLex_lt_toLex]
  exact .inl hlonger

/-- Of two members in the order of a table, the second one comes first by its qualified name exactly
if it overtakes the other one. -/
theorem canonicalName_lt_iff_isOvertakenBy (hm : m.enclosing? = none) (hn : n.enclosing? = none)
    (hmpackage : m.package ≠ "") (hnpackage : n.package ≠ "") (h : m.key < n.key) :
    n.canonicalName < m.canonicalName ↔ m.IsOvertakenBy n := by
  rcases (package_le_of_key_lt h).lt_or_eq with hlt | heq
  · rcases Text.prefix_or_append_lt_append (String.lt_iff_toList_lt.1 hlt) with hprefix | happend
    · -- the longer package goes on behind the end of the other one
      obtain ⟨chars, hchars⟩ := hprefix
      have hpackage : n.package = m.package ++ String.ofList chars := by
        rw [← String.toList_inj, String.toList_append, String.toList_ofList, hchars]
      rw [canonicalName_lt_iff_of_package hm hn hmpackage hpackage]
      constructor
      · intro hbefore
        refine ⟨String.ofList chars, fun hnil => hlt.ne ?_, hpackage, hbefore⟩
        rw [hpackage, hnil, String.append_empty]
      · rintro ⟨rest, -, hrest, hbefore⟩
        rw [hpackage, String.append_right_inj] at hrest
        exact hrest ▸ hbefore
    · -- the packages differ, and with them the qualified names
      refine iff_of_false (lt_asymm ?_) ?_
      · rw [String.lt_iff_toList_lt, toList_canonicalName hm hmpackage,
          toList_canonicalName hn hnpackage]
        exact happend _ _
      · rintro ⟨rest, -, hrest, -⟩
        have hself := happend rest.toList []
        rw [List.append_nil, ← String.toList_append, ← hrest] at hself
        exact lt_irrefl _ hself
  · have hpackage : n.package = m.package ++ "" := by rw [heq, String.append_empty]
    have hname := name_le_of_key_lt heq h
    rw [canonicalName_lt_iff_of_package hm hn hmpackage hpackage]
    refine iff_of_false ?_ ?_
    · rw [String.empty_append, String.lt_iff_toList_lt, String.toList_append,
        String.toList_append, Text.append_lt_append_left_iff, ← String.lt_iff_toList_lt]
      exact not_lt.2 hname
    · rintro ⟨rest, hrest, hlonger, -⟩
      rw [hpackage, String.append_right_inj] at hlonger
      exact hrest hlonger.symm

end MemberName

/-! ### The members of a table -/

namespace References

variable {r : References} {m n : MemberName}

/-- What is imported is declared at the top level of a package with a name. -/
theorem enclosing?_and_package_of_mem_importedMembers (h : m ∈ r.importedMembers) :
    m.enclosing? = none ∧ m.package ≠ "" := by
  rw [importedMembers_eq] at h
  obtain ⟨hshort, hneeds⟩ := List.mem_filter.1 h
  refine ⟨(mem_shortMembers.1 hshort).2.1, fun hpackage => ?_⟩
  simp [needsImport, hpackage] at hneeds

theorem pairwise_key_importedMembers (r : References) :
    r.importedMembers.Pairwise fun m n => m.key < n.key := by
  have hsorted := Text.pairwise_sortDistinct MemberName.before_trans
    (r.extensions ++ r.plainMembers.filter r.memberIsShort)
  rw [importedMembers_eq]
  exact (hsorted.imp fun h => MemberName.before_iff.1 h).filter _

/-- **When imported members are in the order of their qualified names.**  For everything that a file
declares, mentions and asks for, its imported members stand in strictly ascending order of their
packages, in a package in that of their simple names, and extensions behind other members of the
same name.  They stand in the order of their qualified names exactly if none of them is overtaken by
another one, whose package goes on behind the end of its own. -/
theorem members_ascend_iff (r : References) :
    r.table.members.Pairwise (fun m n => m.key < n.key) ∧
      (r.table.members.Pairwise (fun m n => m.canonicalName ≤ n.canonicalName) ↔
        ∀ m ∈ r.table.members, ∀ n ∈ r.table.members, ¬m.IsOvertakenBy n) := by
  have hkeys : r.table.members.Pairwise fun m n => m.key < n.key := r.pairwise_key_importedMembers
  have hlt : ∀ m ∈ r.table.members, ∀ n ∈ r.table.members, m.key < n.key →
      (m.canonicalName ≤ n.canonicalName ↔ ¬m.IsOvertakenBy n) := by
    intro m hm n hn h
    obtain ⟨hmowner, hmpackage⟩ := enclosing?_and_package_of_mem_importedMembers hm
    obtain ⟨hnowner, hnpackage⟩ := enclosing?_and_package_of_mem_importedMembers hn
    rw [← not_lt,
      MemberName.canonicalName_lt_iff_isOvertakenBy hmowner hnowner hmpackage hnpackage h]
  refine ⟨hkeys, fun hascend m hm n hn hover => ?_, fun hnever => ?_⟩
  · have hle : m.canonicalName ≤ n.canonicalName :=
      Text.rel_of_pairwise_lt hkeys hascend hm hn hover.key_lt
    exact (hlt m hm n hn hover.key_lt).1 hle hover
  · exact hkeys.imp_of_mem fun hm hn h => (hlt _ hm _ hn h).2 (hnever _ hm _ hn)

/-- References to the function `zip` of a package and to the function `read` of a package below
it. -/
def subpackageReferences : References where
  package := "app"
  implicitPackages := defaultImplicitPackages
  declared := []
  classes := []
  members := [⟨.topLevel "acme", "zip", false, rfl⟩, ⟨.topLevel "acme.io", "read", false, rfl⟩]
  requested := []

/-- The member of the package below comes second, although its qualified name comes first. -/
theorem members_subpackage :
    subpackageReferences.table.members.map MemberName.canonicalName =
        ["acme.zip", "acme.io.read"] ∧
      ¬subpackageReferences.table.members.Pairwise fun m n =>
        m.canonicalName ≤ n.canonicalName := by
  decide +kernel

end References

end KotlinSource
