/-!
# Sorted lists and lists without repetitions

A finite set that is written out in a fixed order is kept as a sorted list in which no element
stands twice.  The order is a Boolean test `before`; two elements of which neither comes before the
other count as the same, and the one that is already in the list stays.  Where no order is fixed,
elements stay in that of their first occurrences (`List.eraseDups`).

A list may also be sorted with its repetitions, and lose them afterwards: elements that count as the
same keep their order, and those that repeat the element in front of them are dropped.

## Main definitions

* `Text.before`: the order of texts.
* `Text.insertDistinct`: insertion of one element.
* `Text.sortDistinct`: the elements of a list in ascending order, each once.
* `Text.sort`: the elements of a list in ascending order.
* `Text.dropRepeated`: a list without elements that repeat the one in front of them.

## Main results

* `Text.mem_of_mem_sortDistinct`, `Text.mem_sortDistinct`: what is sorted in are the elements of the
  list.
* `Text.pairwise_sortDistinct`: the elements stand in ascending order.
* `Text.foldl_insertDistinct`: elements may be inserted one by one.
* `Text.sort_perm`, `Text.pairwise_sort`, `Text.mem_dropRepeated`, `Text.pairwise_dropRepeated`: what
  is sorted with its repetitions.
* `Text.eraseDups_append_singleton`, `Text.nodup_eraseDups`: first occurrences.
-/

namespace KotlinSource.Text

variable {α : Type}

/-- Whether a text comes before another one. -/
def before (s t : String) : Bool := decide (s < t)

/-! ### Sorted lists -/

/-- Insert `x` into a sorted list, unless an equal element is there already. -/
def insertDistinct (before : α → α → Bool) (x : α) : List α → List α
  | [] => [x]
  | y :: rest =>
    if before x y then x :: y :: rest
    else if before y x then y :: insertDistinct before x rest
    else y :: rest

/-- The elements of a list in ascending order, each once. -/
def sortDistinct (before : α → α → Bool) : List α → List α
  | [] => []
  | x :: rest => insertDistinct before x (sortDistinct before rest)

@[simp] theorem sortDistinct_nil (before : α → α → Bool) : sortDistinct before [] = [] := rfl

@[simp] theorem sortDistinct_cons (before : α → α → Bool) (x : α) (rest : List α) :
    sortDistinct before (x :: rest) = insertDistinct before x (sortDistinct before rest) := rfl

theorem mem_of_mem_insertDistinct {before : α → α → Bool} {x z : α} {l : List α}
    (h : z ∈ insertDistinct before x l) : z = x ∨ z ∈ l := by
  induction l with
  | nil => exact .inl (List.mem_singleton.1 h)
  | cons y rest ih =>
    rw [insertDistinct] at h
    split at h
    · exact List.mem_cons.1 h
    · split at h
      · rcases List.mem_cons.1 h with rfl | h
        · exact .inr List.mem_cons_self
        · exact (ih h).imp_right (List.mem_cons_of_mem y)
      · exact .inr h

/-- Sorting adds nothing. -/
theorem mem_of_mem_sortDistinct {before : α → α → Bool} {z : α} {l : List α}
    (h : z ∈ sortDistinct before l) : z ∈ l := by
  induction l with
  | nil => exact h
  | cons x rest ih =>
    rcases mem_of_mem_insertDistinct h with rfl | h
    · exact List.mem_cons_self
    · exact List.mem_cons_of_mem x (ih h)

theorem mem_insertDistinct {before : α → α → Bool} {x z : α} {l : List α}
    (hsame : ∀ y ∈ l, before x y = false → before y x = false → x = y)
    (h : z = x ∨ z ∈ l) : z ∈ insertDistinct before x l := by
  induction l with
  | nil => simpa [insertDistinct] using h
  | cons y rest ih =>
    obtain ⟨hy, hrest⟩ := List.forall_mem_cons.1 hsame
    rw [insertDistinct]
    by_cases hxy : before x y = true
    · rw [if_pos hxy]
      exact List.mem_cons.2 h
    · rw [if_neg hxy]
      by_cases hyx : before y x = true
      · rw [if_pos hyx, List.mem_cons]
        rcases h with h | h
        · exact .inr (ih hrest (.inl h))
        · exact (List.mem_cons.1 h).imp_right fun h => ih hrest (.inr h)
      · rw [if_neg hyx]
        rcases h with rfl | h
        · exact hy (by simpa using hxy) (by simpa using hyx) ▸ List.mem_cons_self
        · exact h

/-- Sorting loses nothing, if only equal elements count as the same. -/
theorem mem_sortDistinct {before : α → α → Bool} {z : α} {l : List α}
    (hsame : ∀ x ∈ l, ∀ y ∈ l, before x y = false → before y x = false → x = y) (h : z ∈ l) :
    z ∈ sortDistinct before l := by
  induction l with
  | nil => exact h
  | cons x rest ih =>
    have hrest : ∀ a ∈ rest, ∀ b ∈ rest, before a b = false → before b a = false → a = b :=
      fun a ha b hb => hsame a (List.mem_cons_of_mem x ha) b (List.mem_cons_of_mem x hb)
    refine mem_insertDistinct (fun y hy => ?_) ((List.mem_cons.1 h).imp_right (ih hrest))
    exact hsame x List.mem_cons_self y (List.mem_cons_of_mem x (mem_of_mem_sortDistinct hy))

theorem pairwise_insertDistinct {before : α → α → Bool}
    (htrans : ∀ x y z, before x y = true → before y z = true → before x z = true) {x : α}
    {l : List α} (h : l.Pairwise fun y z => before y z = true) :
    (insertDistinct before x l).Pairwise fun y z => before y z = true := by
  induction l with
  | nil => exact List.pairwise_singleton _ x
  | cons y rest ih =>
    obtain ⟨hy, hrest⟩ := List.pairwise_cons.1 h
    rw [insertDistinct]
    split
    · next hxy =>
      refine List.pairwise_cons.2 ⟨fun z hz => ?_, h⟩
      rcases List.mem_cons.1 hz with rfl | hz
      · exact hxy
      · exact htrans _ _ _ hxy (hy z hz)
    · split
      · next hyx =>
        refine List.pairwise_cons.2 ⟨fun z hz => ?_, ih hrest⟩
        rcases mem_of_mem_insertDistinct hz with rfl | hz
        · exact hyx
        · exact hy z hz
      · exact h

/-- In a sorted list every element stands before all that follow. -/
theorem pairwise_sortDistinct {before : α → α → Bool}
    (htrans : ∀ x y z, before x y = true → before y z = true → before x z = true) (l : List α) :
    (sortDistinct before l).Pairwise fun x y => before x y = true := by
  induction l with
  | nil => exact .nil
  | cons x rest ih => exact pairwise_insertDistinct htrans ih

/-- Elements that are inserted one by one, from the first one on, are sorted. -/
theorem foldl_insertDistinct (before : α → α → Bool) (l : List α) :
    l.foldl (fun sorted x => insertDistinct before x sorted) [] =
      sortDistinct before l.reverse := by
  have hfold : ∀ rest : List α, sortDistinct before rest = rest.foldr (insertDistinct before) [] := by
    intro rest
    induction rest with
    | nil => rfl
    | cons x rest ih => rw [sortDistinct_cons, ih, List.foldr_cons]
  rw [hfold, List.foldr_reverse]

/-! ### Sorted lists with repetitions -/

/-- Insert `x` into a sorted list, in front of the elements that count as the same. -/
def insertSorted (before : α → α → Bool) (x : α) : List α → List α
  | [] => [x]
  | y :: rest => if before y x then y :: insertSorted before x rest else x :: y :: rest

/-- The elements of a list in ascending order; those that count as the same keep their order. -/
def sort (before : α → α → Bool) : List α → List α
  | [] => []
  | x :: rest => insertSorted before x (sort before rest)

/-- A list without the elements that are equal to the one in front of them. -/
def dropRepeated [DecidableEq α] : List α → List α
  | [] => []
  | x :: rest => if rest.head? = some x then dropRepeated rest else x :: dropRepeated rest

theorem insertSorted_perm (before : α → α → Bool) (x : α) (l : List α) :
    (insertSorted before x l).Perm (x :: l) := by
  induction l with
  | nil => exact .refl _
  | cons y rest ih =>
    rw [insertSorted]
    split
    · exact (ih.cons y).trans (.swap x y rest)
    · exact .refl _

theorem sort_perm (before : α → α → Bool) (l : List α) : (sort before l).Perm l := by
  induction l with
  | nil => exact .refl _
  | cons x rest ih => exact (insertSorted_perm before x _).trans (ih.cons x)

@[simp] theorem mem_sort {before : α → α → Bool} {z : α} {l : List α} :
    z ∈ sort before l ↔ z ∈ l := (sort_perm before l).mem_iff

theorem pairwise_insertSorted {before : α → α → Bool}
    (hasymm : ∀ x y, before x y = true → before y x = false)
    (htrans : ∀ x y z, before y x = false → before z y = false → before z x = false) {x : α}
    {l : List α} (h : l.Pairwise fun y z => before z y = false) :
    (insertSorted before x l).Pairwise fun y z => before z y = false := by
  induction l with
  | nil => exact List.pairwise_singleton _ x
  | cons y rest ih =>
    obtain ⟨hy, hrest⟩ := List.pairwise_cons.1 h
    rw [insertSorted]
    split
    · next hyx =>
      refine List.pairwise_cons.2 ⟨fun z hz => ?_, ih hrest⟩
      rcases List.mem_cons.1 ((insertSorted_perm before x rest).mem_iff.1 hz) with rfl | hz
      · exact hasymm _ _ hyx
      · exact hy z hz
    · next hyx =>
      have hxy : before y x = false := Bool.not_eq_true _ ▸ hyx
      refine List.pairwise_cons.2 ⟨fun z hz => ?_, h⟩
      rcases List.mem_cons.1 hz with rfl | hz
      · exact hxy
      · exact htrans _ _ _ hxy (hy z hz)

/-- In a sorted list no element stands before one that has to follow it. -/
theorem pairwise_sort {before : α → α → Bool}
    (hasymm : ∀ x y, before x y = true → before y x = false)
    (htrans : ∀ x y z, before y x = false → before z y = false → before z x = false)
    (l : List α) : (sort before l).Pairwise fun x y => before y x = false := by
  induction l with
  | nil => exact .nil
  | cons x rest ih => exact pairwise_insertSorted hasymm htrans ih

section Repeated

variable [DecidableEq α]

@[simp] theorem mem_dropRepeated {z : α} {l : List α} : z ∈ dropRepeated l ↔ z ∈ l := by
  induction l with
  | nil => rfl
  | cons x rest ih =>
    rw [dropRepeated]
    split
    · next hhead =>
      rw [ih, List.mem_cons]
      exact ⟨.inr, fun h => h.elim (fun e => e ▸ List.mem_of_mem_head? hhead) id⟩
    · rw [List.mem_cons, ih, List.mem_cons]

/-- In a sorted list equal elements stand side by side, so that each of them is left once. -/
theorem pairwise_dropRepeated {before : α → α → Bool}
    (hsame : ∀ x y, before x y = false → before y x = false → x = y) {l : List α}
    (h : l.Pairwise fun x y => before y x = false) :
    (dropRepeated l).Pairwise fun x y => before x y = true := by
  induction l with
  | nil => exact .nil
  | cons x rest ih =>
    obtain ⟨hx, hrest⟩ := List.pairwise_cons.1 h
    rw [dropRepeated]
    split
    · exact ih hrest
    · next hhead =>
      refine List.pairwise_cons.2 ⟨fun z hz => ?_, ih hrest⟩
      rw [mem_dropRepeated] at hz
      cases hxz : before x z with
      | true => rfl
      | false =>
        -- `x` stands again behind it, and so does whatever stands in between
        obtain rfl := hsame x z hxz (hx z hz)
        cases rest with
        | nil => cases hz
        | cons y rest =>
          have hyx : y ≠ x := fun e => hhead (congrArg some e)
          have hmem : x ∈ rest := (List.mem_cons.1 hz).resolve_left hyx.symm
          have hxy : before x y = false := (List.pairwise_cons.1 hrest).1 x hmem
          exact absurd (hsame y x (hx y List.mem_cons_self) hxy) hyx

end Repeated

/-! ### First occurrences -/

section FirstOccurrences

variable [BEq α] [LawfulBEq α]

/-- One element more is a first occurrence or not. -/
theorem eraseDups_append_singleton (seen : List α) (x : α) :
    (seen ++ [x]).eraseDups = if x ∈ seen then seen.eraseDups else seen.eraseDups ++ [x] := by
  rw [List.eraseDups_append]
  by_cases h : x ∈ seen <;> simp [List.removeAll, List.eraseDups_cons, h]

theorem nodup_eraseDups (l : List α) : l.eraseDups.Nodup := by
  match l with
  | [] => exact .nil
  | x :: rest =>
    rw [List.eraseDups_cons, List.nodup_cons]
    refine ⟨fun h => ?_, nodup_eraseDups (rest.filter fun y => !y == x)⟩
    have hx := (List.mem_filter.1 (List.mem_eraseDups.1 h)).2
    simp at hx
termination_by l.length
decreasing_by exact Nat.lt_succ_of_le (List.length_filter_le _ rest)

end FirstOccurrences

end KotlinSource.Text
