import KotlinSource.Text.Sorted

/-!
# Named values

A list of names with values.  In most of them names stand in the order in which they came first, and
a name that comes again keeps its place.  Where the order of names is fixed, entries are kept sorted
by their names.

## Main definitions

* `Text.updateEntry`: change the value of a name.
* `Text.setEntry`: give a name a value.
* `Text.entriesOf`: the named values of a sequence of assignments.
* `Text.groupBy`: what is said about each name in turn, collected in one value for each name.
* `Text.insertEntry`: give a name a value among entries that are sorted by their names.

## Main results

* `Text.lookup_updateEntry`, `Text.lookup_setEntry`: the values behind a change.
* `Text.lookup_groupBy`: the value of a name is collected from what is said about it.
* `Text.mem_iff_lookup`: entries of different names are what is looked up.
* `Text.map_fst_insertEntry`, `Text.mem_of_mem_insertEntry`: what is kept sorted.
-/

namespace KotlinSource.Text

variable {κ α β : Type}

section Unsorted

variable [DecidableEq κ]

/-- Change the value of `key` at its place; a new name stands at the end and starts from
`initial`. -/
def updateEntry (key : κ) (initial : α) (change : α → α) : List (κ × α) → List (κ × α)
  | [] => [(key, change initial)]
  | entry :: rest =>
    if entry.1 = key then (key, change entry.2) :: rest
    else entry :: updateEntry key initial change rest

/-- Give `key` a value: at the place of the name, or at the end if the name is new. -/
def setEntry (key : κ) (value : α) : List (κ × α) → List (κ × α) :=
  updateEntry key value fun _ => value

/-- The named values of a sequence of assignments. -/
def entriesOf (assignments : List (κ × α)) : List (κ × α) :=
  assignments.foldl (fun entries a => setEntry a.1 a.2 entries) []

/-- The elements of a list one after the other, each added to the value of its name. -/
def groupBy (key : β → κ) (initial : α) (add : β → α → α) (l : List β) : List (κ × α) :=
  l.foldl (fun groups x => updateEntry (key x) initial (add x) groups) []

/-! ### Values of names -/

/-- A new name joins the names at the end, a known one changes none of them. -/
theorem map_fst_updateEntry (key : κ) (initial : α) (change : α → α) (entries : List (κ × α)) :
    (updateEntry key initial change entries).map Prod.fst =
      if key ∈ entries.map Prod.fst then entries.map Prod.fst
      else entries.map Prod.fst ++ [key] := by
  induction entries with
  | nil => rfl
  | cons entry rest ih =>
    by_cases h : entry.1 = key
    · simp [updateEntry, h]
    · have h' : key ≠ entry.1 := fun e => h e.symm
      simp only [updateEntry, h, if_false, List.map_cons, ih, List.mem_cons, h', false_or]
      split <;> rfl

theorem nodup_keys_updateEntry (key : κ) (initial : α) (change : α → α) {entries : List (κ × α)}
    (h : (entries.map Prod.fst).Nodup) :
    ((updateEntry key initial change entries).map Prod.fst).Nodup := by
  rw [map_fst_updateEntry]
  split
  · exact h
  · next hnew =>
    refine List.nodup_append.2 ⟨h, by simp, fun a ha b hb => ?_⟩
    rintro rfl
    exact hnew (List.mem_singleton.1 hb ▸ ha)

/-- The values behind a change. -/
theorem lookup_updateEntry (key k : κ) (initial : α) (change : α → α) (entries : List (κ × α)) :
    (updateEntry key initial change entries).lookup k =
      if k = key then some (change ((entries.lookup key).getD initial)) else entries.lookup k := by
  induction entries with
  | nil =>
    by_cases h : k = key
    · simp [updateEntry, h]
    · have h' : (k == key) = false := by simpa using h
      simp [updateEntry, List.lookup_cons, h, h']
  | cons entry rest ih =>
    obtain ⟨name, value⟩ := entry
    by_cases hname : name = key
    · subst hname
      by_cases h : k = name
      · simp [updateEntry, h]
      · have h' : (k == name) = false := by simpa using h
        simp [updateEntry, List.lookup_cons, h, h']
    · have hname' : (key == name) = false := by simpa using fun e => hname e.symm
      simp only [updateEntry, if_neg hname, List.lookup_cons, hname', ih]
      by_cases h : k = name
      · subst h
        simp [hname]
      · have h' : (k == name) = false := by simpa using h
        simp [h']

theorem lookup_setEntry (key k : κ) (value : α) (entries : List (κ × α)) :
    (setEntry key value entries).lookup k =
      if k = key then some value else entries.lookup k :=
  lookup_updateEntry key k value (fun _ => value) entries

/-- If no two entries have the same name, the entries are what is looked up. -/
theorem mem_iff_lookup {entries : List (κ × α)} (h : (entries.map Prod.fst).Nodup) {key : κ}
    {value : α} : (key, value) ∈ entries ↔ entries.lookup key = some value := by
  induction entries with
  | nil => simp
  | cons entry rest ih =>
    obtain ⟨name, other⟩ := entry
    obtain ⟨hnew, hrest⟩ := List.nodup_cons.1 h
    by_cases hkey : key = name
    · subst hkey
      have hnotMem : (key, value) ∉ rest := fun hmem => hnew (List.mem_map.2 ⟨_, hmem, rfl⟩)
      simp [hnotMem, eq_comm]
    · have hkey' : (key == name) = false := by simpa using hkey
      simp [List.lookup_cons, hkey, hkey', ih hrest]

/-! ### Groups -/

section Groups

variable (key : β → κ) (initial : α) (add : β → α → α) (l : List β)

theorem nodup_keys_groupBy : ((groupBy key initial add l).map Prod.fst).Nodup := by
  have hfold : ∀ groups : List (κ × α), (groups.map Prod.fst).Nodup →
      ((l.foldl (fun groups x => updateEntry (key x) initial (add x) groups) groups).map
        Prod.fst).Nodup := by
    induction l with
    | nil => exact fun _ h => h
    | cons x rest ih => exact fun groups h => ih _ (nodup_keys_updateEntry _ _ _ h)
  exact hfold [] .nil

/-- There is a group for every name of an element. -/
theorem mem_keys_groupBy {k : κ} :
    k ∈ (groupBy key initial add l).map Prod.fst ↔ ∃ x ∈ l, key x = k := by
  have hfold : ∀ groups : List (κ × α),
      k ∈ (l.foldl (fun groups x => updateEntry (key x) initial (add x) groups) groups).map
        Prod.fst ↔ k ∈ groups.map Prod.fst ∨ ∃ x ∈ l, key x = k := by
    induction l with
    | nil => exact fun _ => by simp
    | cons x rest ih =>
      intro groups
      have hkeys : k ∈ (updateEntry (key x) initial (add x) groups).map Prod.fst ↔
          k ∈ groups.map Prod.fst ∨ key x = k := by
        rw [map_fst_updateEntry]
        split
        · next hx => exact ⟨.inl, fun h => h.elim id fun e => e ▸ hx⟩
        · rw [List.mem_append, List.mem_singleton, eq_comm]
      simp only [List.foldl_cons, ih, hkeys, or_assoc, List.mem_cons, exists_eq_or_imp]
  rw [groupBy, hfold, List.map_nil, or_iff_right List.not_mem_nil]

/-- The value of a name is collected from the elements with that name, in their order. -/
theorem lookup_groupBy (k : κ) :
    (groupBy key initial add l).lookup k =
      if ∃ x ∈ l, key x = k then
        some ((l.filter fun x => key x = k).foldl (fun a x => add x a) initial)
      else none := by
  have hfold : ∀ groups : List (κ × α),
      (l.foldl (fun groups x => updateEntry (key x) initial (add x) groups) groups).lookup k =
        if ∃ x ∈ l, key x = k then
          some ((l.filter fun x => key x = k).foldl (fun a x => add x a)
            ((groups.lookup k).getD initial))
        else groups.lookup k := by
    induction l with
    | nil => exact fun _ => by simp
    | cons x rest ih =>
      intro groups
      rw [List.foldl_cons, ih, lookup_updateEntry]
      by_cases hx : key x = k
      · subst hx
        by_cases hrest : ∃ y ∈ rest, key y = key x
        · simp [hrest]
        · have hfilter : rest.filter (fun y => key y = key x) = [] := by simpa using hrest
          simp [hrest, hfilter]
      · have hx' : k ≠ key x := fun e => hx e.symm
        simp [hx, hx']
  exact hfold []

end Groups

end Unsorted

/-! ### Sorted entries -/

/-- Give `key` a value among entries that are sorted by their names. -/
def insertEntry (before : κ → κ → Bool) (key : κ) (value : α) : List (κ × α) → List (κ × α)
  | [] => [(key, value)]
  | entry :: rest =>
    if before key entry.1 then (key, value) :: entry :: rest
    else if before entry.1 key then entry :: insertEntry before key value rest
    else (entry.1, value) :: rest

/-- The names of sorted entries make up a sorted list without repetitions. -/
theorem map_fst_insertEntry (before : κ → κ → Bool) (key : κ) (value : α)
    (entries : List (κ × α)) :
    (insertEntry before key value entries).map Prod.fst =
      insertDistinct before key (entries.map Prod.fst) := by
  induction entries with
  | nil => rfl
  | cons entry rest ih =>
    simp only [insertEntry, insertDistinct, List.map_cons]
    split
    · rfl
    · split
      · rw [List.map_cons, ih]
      · rfl

/-- An entry is the new one, or it was there before. -/
theorem mem_of_mem_insertEntry {before : κ → κ → Bool}
    (hsame : ∀ x y, before x y = false → before y x = false → x = y) {key : κ} {value : α}
    {entries : List (κ × α)} {entry : κ × α} (h : entry ∈ insertEntry before key value entries) :
    entry = (key, value) ∨ entry ∈ entries := by
  induction entries with
  | nil => exact .inl (List.mem_singleton.1 h)
  | cons other rest ih =>
    rw [insertEntry] at h
    split at h
    · exact List.mem_cons.1 h
    · next hnot =>
      split at h
      · rcases List.mem_cons.1 h with rfl | h
        · exact .inr List.mem_cons_self
        · exact (ih h).imp_right (List.mem_cons_of_mem other)
      · next hnot' =>
        have hkey : key = other.1 := hsame _ _ (by simpa using hnot) (by simpa using hnot')
        rcases List.mem_cons.1 h with rfl | h
        · exact .inl (by rw [hkey])
        · exact .inr (List.mem_cons_of_mem other h)

end KotlinSource.Text
