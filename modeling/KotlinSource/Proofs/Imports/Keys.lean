import KotlinSource.Imports.Table
import Mathlib.Data.List.Lex
import Mathlib.Data.List.Sort
import Mathlib.Data.Prod.Lex
import Mathlib.Data.String.Basic

/-!
# Keys of imports and of what is imported

Classes, top-level members and imports are ordered part by part.  What their orders compare makes up
a key, and keys are linearly ordered.  In these orders only equal elements count as the same, so
that a strictly sorted list is settled by its members.  A top-level member is settled by its
qualified name as well, from which its package and its simple name can be read off.

## Main definitions

* `ClassName.key`, `MemberName.key`, `Import.key`: what the orders compare.

## Main results

* `ClassName.before_iff`, `MemberName.before_iff`, `Import.before_iff`: orders by keys.
* `ClassName.eq_of_not_before`, `MemberName.eq_of_not_before`, `Import.eq_of_not_before`: what
  counts as the same is equal.
* `Text.eq_of_pairwise_key`: a strictly sorted list is settled by its members.
* `Text.pairwise_sort_of_key`: lists that are sorted by keys.
* `qualify_inj`, `MemberName.eq_of_canonicalName`: qualified names of top-level members.
-/

namespace KotlinSource

/-! ### Keys -/

theorem Text.before_iff {s t : String} : Text.before s t = true ↔ s < t := decide_eq_true_iff

namespace ClassName

/-- What the order of classes compares: the package, then the simple names. -/
def key (c : ClassName) : String ×ₗ List String := toLex (c.package, c.names)

theorem before_iff {c d : ClassName} : c.before d = true ↔ c.key < d.key := by
  simp only [before, key, Prod.Lex.toLex_lt_toLex, Bool.or_eq_true, Bool.and_eq_true,
    decide_eq_true_eq, beq_iff_eq]

theorem before_trans (c d e : ClassName) (h : c.before d = true) (h' : d.before e = true) :
    c.before e = true := before_iff.2 ((before_iff.1 h).trans (before_iff.1 h'))

end ClassName

namespace MemberName

/-- What the order of top-level members compares: the package, then the simple name, then whether
they are extensions. -/
def key (m : MemberName) : String ×ₗ String ×ₗ Bool :=
  toLex (m.package, toLex (m.name, m.isExtension))

theorem before_iff {m n : MemberName} : m.before n = true ↔ m.key < n.key := by
  simp only [before, key, Prod.Lex.toLex_lt_toLex, Bool.or_eq_true, Bool.and_eq_true,
    decide_eq_true_eq, beq_iff_eq, Bool.lt_iff, Bool.not_eq_true', and_assoc]

theorem before_trans (m n o : MemberName) (h : m.before n = true) (h' : n.before o = true) :
    m.before o = true := before_iff.2 ((before_iff.1 h).trans (before_iff.1 h'))

end MemberName

namespace Import

/-- What the order of import lines compares: the package, then the simple names, then the alias,
where no alias comes first. -/
def key (i : Import) : String ×ₗ List String ×ₗ List String :=
  toLex (i.package, toLex (i.names, i.alias?.toList))

theorem before_iff {i j : Import} : i.before j = true ↔ i.key < j.key := by
  simp only [before, key, Prod.Lex.toLex_lt_toLex, Bool.or_eq_true, Bool.and_eq_true,
    decide_eq_true_eq, beq_iff_eq]

theorem before_trans (i j k : Import) (h : i.before j = true) (h' : j.before k = true) :
    i.before k = true := before_iff.2 ((before_iff.1 h).trans (before_iff.1 h'))

end Import

/-! ### Equal elements -/

/-- If neither of two values comes before the other by their first parts or else by their rests, the
first parts are equal, and neither comes before the other by the rests. -/
theorem eq_and_of_not_before {α : Type} [LinearOrder α] [BEq α] [LawfulBEq α] {a b : α}
    {decLt : Decidable (a < b)} {decGt : Decidable (b < a)} {rest rest' : Bool}
    (h : (decide (a < b) || a == b && rest) = false)
    (h' : (decide (b < a) || b == a && rest') = false) :
    a = b ∧ rest = false ∧ rest' = false := by
  rw [Bool.or_eq_false_iff, decide_eq_false_iff_not] at h h'
  obtain rfl : a = b := le_antisymm (not_lt.1 h'.1) (not_lt.1 h.1)
  simpa using And.intro h.2 h'.2

theorem ClassName.eq_of_not_before {c d : ClassName} (h : c.before d = false)
    (h' : d.before c = false) : c = d := by
  obtain ⟨hpackage, hrest, hrest'⟩ := eq_and_of_not_before h h'
  rw [decide_eq_false_iff_not] at hrest hrest'
  have hnames : c.names = d.names := le_antisymm (not_lt.1 hrest') (not_lt.1 hrest)
  obtain ⟨package, top, inner, simple⟩ := c
  obtain ⟨package', top', inner', simple'⟩ := d
  cases hpackage
  cases hnames
  rfl

/-- Top-level members that count as the same are equal. -/
theorem MemberName.eq_of_not_before {m n : MemberName} (hm : m.enclosing? = none)
    (hn : n.enclosing? = none) (h : m.before n = false) (h' : n.before m = false) : m = n := by
  obtain ⟨hpackage, hrest, hrest'⟩ := eq_and_of_not_before h h'
  rw [Bool.and_assoc] at hrest hrest'
  obtain ⟨hname, hextension, hextension'⟩ := eq_and_of_not_before hrest hrest'
  obtain ⟨owner, name, isExtension, simple⟩ := m
  obtain ⟨owner', name', isExtension', simple'⟩ := n
  cases owner with
  | inClass c => cases hm
  | topLevel package =>
    cases owner' with
    | inClass c => cases hn
    | topLevel package' =>
      cases hpackage
      cases hname
      cases isExtension <;> cases isExtension' <;> simp_all

theorem Import.eq_of_not_before {i j : Import} (h : i.before j = false) (h' : j.before i = false) :
    i = j := by
  obtain ⟨hpackage, hrest, hrest'⟩ := eq_and_of_not_before h h'
  obtain ⟨hnames, hrest, hrest'⟩ := eq_and_of_not_before hrest hrest'
  rw [decide_eq_false_iff_not] at hrest hrest'
  have hlists : i.alias?.toList = j.alias?.toList :=
    le_antisymm (not_lt.1 hrest') (not_lt.1 hrest)
  have halias : i.alias? = j.alias? := by simpa using congrArg List.head? hlists
  obtain ⟨package, names, alias?⟩ := i
  obtain ⟨package', names', alias?'⟩ := j
  cases hpackage
  cases hnames
  cases halias
  rfl

theorem Text.eq_of_not_before {s t : String} (h : Text.before s t = false)
    (h' : Text.before t s = false) : s = t :=
  le_antisymm (not_lt.1 (of_decide_eq_false h')) (not_lt.1 (of_decide_eq_false h))

/-! ### Sorted lists -/

namespace Text

variable {α β : Type} [LinearOrder β] {before : α → α → Bool} (key : α → β)
  (hkey : ∀ x y, before x y = true ↔ key x < key y)

include hkey

theorem not_before_iff (x y : α) : before y x = false ↔ key x ≤ key y := by
  rw [← Bool.not_eq_true, hkey, not_lt]

/-- A list that is sorted by keys stands in ascending order. -/
theorem pairwise_sort_of_key (l : List α) :
    (sort before l).Pairwise fun x y => before y x = false := by
  refine pairwise_sort (fun x y h => ?_) (fun x y z h h' => ?_) l
  · exact (not_before_iff key hkey x y).2 ((hkey x y).1 h).le
  · rw [not_before_iff key hkey] at h h' ⊢
    exact h.trans h'

/-- A list without repetitions that is sorted by keys stands in strictly ascending order, if only
equal elements have the same key. -/
theorem pairwise_sort_of_nodup {l : List α} (hl : l.Nodup)
    (hsame : ∀ x ∈ l, ∀ y ∈ l, before x y = false → before y x = false → x = y) :
    (sort before l).Pairwise fun x y => before x y = true := by
  have hnodup : (sort before l).Nodup := (sort_perm before l).nodup_iff.2 hl
  refine (pairwise_sort_of_key key hkey l |>.and hnodup).imp_of_mem fun {x y} hx hy h => ?_
  cases hxy : before x y with
  | true => rfl
  | false => exact absurd (hsame x (mem_sort.1 hx) y (mem_sort.1 hy) hxy h.1) h.2

/-- A list in strictly ascending order is settled by its members. -/
theorem eq_of_pairwise_key {l l' : List α} (hl : l.Pairwise fun x y => before x y = true)
    (hl' : l'.Pairwise fun x y => before x y = true) (h : ∀ x, x ∈ l ↔ x ∈ l') : l = l' := by
  have : Std.Irrefl fun x y : α => before x y = true :=
    ⟨fun x hx => lt_irrefl _ ((hkey x x).1 hx)⟩
  have : Std.Antisymm fun x y : α => before x y = true :=
    ⟨fun x y hxy hyx => absurd ((hkey x y).1 hxy) (lt_asymm ((hkey y x).1 hyx))⟩
  exact hl.eq_of_mem_iff hl' h

end Text

/-! ### Qualified names -/

theorem notMem_toList_of_isSimpleName {name : String} (h : isSimpleName name = true) :
    '.' ∉ name.toList := by
  simp only [isSimpleName, Bool.and_eq_true, Bool.not_eq_true', List.contains_eq_mem,
    decide_eq_false_iff_not] at h
  exact h.2

/-- The package and the simple name of a top-level member can be read off its qualified name. -/
theorem qualify_inj {package package' name name' : String} (hname : '.' ∉ name.toList)
    (hname' : '.' ∉ name'.toList) (h : qualify package name = qualify package' name') :
    package = package' ∧ name = name' := by
  have hsplit : ∀ p n : String, '.' ∉ n.toList → Text.splitAt '.' (qualify p n) =
      (if p = "" then [] else Text.splitAt '.' p) ++ [n] := by
    intro p n hn
    have hsingle : Text.splitAt '.' n = [n] := Text.splitAt_of_notMem hn
    rw [qualify]
    split
    · exact hsingle
    · have happend : Text.splitAt '.' (p ++ "." ++ n) = Text.splitAt '.' p ++ Text.splitAt '.' n :=
        Text.splitAt_append '.' p n
      rw [happend, hsingle]
  have hsegments := congrArg (Text.splitAt '.') h
  rw [hsplit _ _ hname, hsplit _ _ hname'] at hsegments
  obtain ⟨hpackages, hnames⟩ := List.append_inj' hsegments rfl
  refine ⟨?_, List.singleton_inj.1 hnames⟩
  by_cases hempty : package = ""
  · by_cases hempty' : package' = ""
    · rw [hempty, hempty']
    · rw [if_pos hempty, if_neg hempty'] at hpackages
      exact absurd hpackages.symm (Text.splitAt_ne_nil '.' package')
  · by_cases hempty' : package' = ""
    · rw [if_neg hempty, if_pos hempty'] at hpackages
      exact absurd hpackages (Text.splitAt_ne_nil '.' package)
    · rw [if_neg hempty, if_neg hempty'] at hpackages
      rw [← Text.joinWith_splitAt '.' package, hpackages, Text.joinWith_splitAt]

theorem MemberName.canonicalName_of_topLevel {m : MemberName} (howner : m.enclosing? = none) :
    m.canonicalName = qualify m.package m.name := by
  obtain ⟨owner, name, isExtension, simple⟩ := m
  cases owner with
  | topLevel package => rfl
  | inClass c => cases howner

/-- Two top-level members of one kind with the same qualified name are the same. -/
theorem MemberName.eq_of_canonicalName {m n : MemberName} (hm : m.enclosing? = none)
    (hn : n.enclosing? = none) (hkind : m.isExtension = n.isExtension)
    (h : m.canonicalName = n.canonicalName) : m = n := by
  rw [canonicalName_of_topLevel hm, canonicalName_of_topLevel hn] at h
  obtain ⟨hpackage, hname⟩ := qualify_inj (notMem_toList_of_isSimpleName m.simple)
    (notMem_toList_of_isSimpleName n.simple) h
  obtain ⟨owner, name, isExtension, simple⟩ := m
  obtain ⟨owner', name', isExtension', simple'⟩ := n
  cases owner with
  | inClass c => cases hm
  | topLevel package =>
    cases owner' with
    | inClass c => cases hn
    | topLevel package' =>
      cases hpackage
      cases hname
      cases hkind
      rfl

end KotlinSource
