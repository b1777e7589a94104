/-!
# Text between separators

Qualified names are sequences of segments with dots between them.  `splitAt` cuts a text at every
occurrence of a separator and `joinWith` puts the segments together again; cutting never loses
anything, so joining the segments of a text gives the text back.

## Main definitions

* `Text.pieces`: the pieces of a list of characters between the separators.
* `Text.splitAt`: the same for a `String`.
* `Text.joinWith`: a list of texts with a separator between neighbours.

## Main results

* `Text.joinWith_splitAt`, `Text.splitAt_joinWith`: cutting and joining undo each other.
-/

namespace KotlinSource.Text

/-- The pieces of a list of characters between its occurrences of `sep`.  There is always at least
one piece, and two neighbouring separators have an empty piece between them. -/
def pieces (sep : Char) : List Char → List (List Char)
  | [] => [[]]
  | c :: rest =>
    if c = sep then [] :: pieces sep rest
    else
      match pieces sep rest with
      | p :: ps => (c :: p) :: ps
      | [] => [[c]]

/-- The segments of `s` between its occurrences of `sep`. -/
def splitAt (sep : Char) (s : String) : List String :=
  (pieces sep s.toList).map String.ofList

/-- The texts of a list, with `sep` between neighbours. -/
def joinWith (sep : String) : List String → String
  | [] => ""
  | [s] => s
  | s :: t :: rest => s ++ sep ++ joinWith sep (t :: rest)

/-- The first character of a text, if there is one. -/
def first? (s : String) : Option Char := s.toList.head?

@[simp] theorem pieces_nil (sep : Char) : pieces sep [] = [[]] := rfl

theorem pieces_ne_nil (sep : Char) (s : List Char) : pieces sep s ≠ [] := by
  cases s with
  | nil => simp
  | cons c rest =>
    unfold pieces
    split
    · simp
    · split <;> simp

/-- No piece holds the separator. -/
theorem notMem_of_mem_pieces {sep : Char} {s p : List Char} (h : p ∈ pieces sep s) : sep ∉ p := by
  induction s generalizing p with
  | nil => simp_all
  | cons c rest ih =>
    rw [pieces] at h
    split at h
    · rcases List.mem_cons.1 h with rfl | h
      · simp
      · exact ih h
    · next hc =>
      obtain ⟨q, qs, hq⟩ := List.exists_cons_of_ne_nil (pieces_ne_nil sep rest)
      rw [hq] at h ih
      rcases List.mem_cons.1 h with rfl | h
      · simpa [Ne.symm hc] using ih List.mem_cons_self
      · exact ih (List.mem_cons_of_mem q h)

theorem pieces_of_notMem {sep : Char} {p : List Char} (h : sep ∉ p) : pieces sep p = [p] := by
  induction p with
  | nil => rfl
  | cons c p ih =>
    rw [List.mem_cons, not_or] at h
    obtain ⟨hc, hp⟩ := h
    rw [pieces, if_neg (Ne.symm hc), ih hp]

/-- The first piece ends at the first separator. -/
theorem pieces_append {sep : Char} {p : List Char} (h : sep ∉ p) (rest : List Char) :
    pieces sep (p ++ sep :: rest) = p :: pieces sep rest := by
  induction p with
  | nil => rw [List.nil_append, pieces, if_pos rfl]
  | cons c p ih =>
    rw [List.mem_cons, not_or] at h
    obtain ⟨hc, hp⟩ := h
    rw [List.cons_append, pieces, if_neg (Ne.symm hc), ih hp]

/-- Characters without the separator belong to the first piece. -/
theorem pieces_append_of_notMem {sep : Char} {p : List Char} (h : sep ∉ p) (rest : List Char) :
    pieces sep (p ++ rest) = (pieces sep rest).modifyHead (p ++ ·) := by
  obtain ⟨q, qs, hq⟩ := List.exists_cons_of_ne_nil (pieces_ne_nil sep rest)
  induction p with
  | nil => simp [hq]
  | cons c p ih =>
    rw [List.mem_cons, not_or] at h
    obtain ⟨hc, hp⟩ := h
    rw [List.cons_append, pieces, if_neg (Ne.symm hc), ih hp, hq]
    rfl

/-- No segment holds the separator. -/
theorem notMem_of_mem_splitAt {sep : Char} {s p : String} (h : p ∈ splitAt sep s) :
    sep ∉ p.toList := by
  obtain ⟨q, hq, rfl⟩ := List.mem_map.1 h
  simpa using notMem_of_mem_pieces hq

@[simp] theorem joinWith_nil (sep : String) : joinWith sep [] = "" := rfl

@[simp] theorem joinWith_singleton (sep s : String) : joinWith sep [s] = s := rfl

@[simp] theorem joinWith_cons_cons (sep s t : String) (rest : List String) :
    joinWith sep (s :: t :: rest) = s ++ sep ++ joinWith sep (t :: rest) := rfl

theorem joinWith_append_cons (sep a s : String) (rest : List String) :
    joinWith sep ((a ++ s) :: rest) = a ++ joinWith sep (s :: rest) := by
  cases rest with
  | nil => rfl
  | cons t rest =>
    rw [joinWith_cons_cons, joinWith_cons_cons, String.append_assoc, String.append_assoc,
      String.append_assoc]

/-- The texts in front of a list can be joined first. -/
theorem joinWith_append (sep : String) {front : List String} (h : front ≠ [])
    (rest : List String) :
    joinWith sep (front ++ rest) = joinWith sep (joinWith sep front :: rest) := by
  induction front with
  | nil => exact absurd rfl h
  | cons s front ih =>
    cases front with
    | nil => rfl
    | cons t front =>
      rw [List.cons_append, List.cons_append, joinWith_cons_cons, ← List.cons_append,
        ih (List.cons_ne_nil t front), joinWith_cons_cons, joinWith_append_cons]

theorem joinWith_append_of_ne_nil (sep : String) {front rest : List String} (hfront : front ≠ [])
    (hrest : rest ≠ []) :
    joinWith sep (front ++ rest) = joinWith sep front ++ sep ++ joinWith sep rest := by
  obtain ⟨s, rest, rfl⟩ := List.exists_cons_of_ne_nil hrest
  rw [joinWith_append sep hfront, joinWith_cons_cons]

theorem splitAt_of_notMem {sep : Char} {s : String} (h : sep ∉ s.toList) : splitAt sep s = [s] := by
  rw [splitAt, pieces_of_notMem h, List.map_singleton, String.ofList_toList]

/-- Segments that do not hold the separator are the segments of the text in which they are
joined. -/
theorem splitAt_joinWith {sep : Char} {segments : List String} (hne : segments ≠ [])
    (h : ∀ s ∈ segments, sep ∉ s.toList) :
    splitAt sep (joinWith (String.singleton sep) segments) = segments := by
  induction segments with
  | nil => exact absurd rfl hne
  | cons s segments ih =>
    obtain ⟨hs, hsegments⟩ := List.forall_mem_cons.1 h
    cases segments with
    | nil => simp [splitAt, pieces_of_notMem hs]
    | cons t segments =>
      have ih := ih (List.cons_ne_nil t segments) hsegments
      rw [splitAt] at ih ⊢
      simp [pieces_append hs, ih]

/-- Joining the segments of a text gives the text back. -/
theorem joinWith_splitAt (sep : Char) (s : String) :
    joinWith (String.singleton sep) (splitAt sep s) = s := by
  have hlist : ∀ chars : List Char,
      joinWith (String.singleton sep) ((pieces sep chars).map String.ofList) =
        String.ofList chars := by
    intro chars
    induction chars with
    | nil => rfl
    | cons c rest ih =>
      obtain ⟨p, ps, hps⟩ := List.exists_cons_of_ne_nil (pieces_ne_nil sep rest)
      have hcons : String.ofList (c :: rest) = String.singleton c ++ String.ofList rest := by
        rw [← String.toList_inj]
        simp
      rw [hps] at ih
      rw [pieces, hps, hcons, ← ih]
      by_cases hc : c = sep
      · rw [if_pos hc, hc]
        simp
      · have hp : String.ofList (c :: p) = String.singleton c ++ String.ofList p := by
          rw [← String.toList_inj]
          simp
        rw [if_neg hc, List.map_cons, hp, joinWith_append_cons, List.map_cons]
  rw [splitAt, hlist, String.ofList_toList]

/-- The same if the empty text has no segments instead of an empty one. -/
theorem joinWith_ite_splitAt (sep : Char) (s : String) :
    joinWith (String.singleton sep) (if s = "" then [] else splitAt sep s) = s := by
  split
  · next h => rw [h, joinWith_nil]
  · exact joinWith_splitAt sep s

theorem splitAt_ne_nil (sep : Char) (s : String) : splitAt sep s ≠ [] := by
  simp [splitAt, pieces_ne_nil]

/-- A separator between two texts parts their segments. -/
theorem splitAt_append (sep : Char) (a b : String) :
    splitAt sep (a ++ String.singleton sep ++ b) = splitAt sep a ++ splitAt sep b := by
  have hjoined : joinWith (String.singleton sep) (splitAt sep a ++ splitAt sep b) =
      a ++ String.singleton sep ++ b := by
    rw [joinWith_append_of_ne_nil _ (splitAt_ne_nil sep a) (splitAt_ne_nil sep b),
      joinWith_splitAt, joinWith_splitAt]
  have hsegments : ∀ s ∈ splitAt sep a ++ splitAt sep b, sep ∉ s.toList := by
    intro s hs
    rcases List.mem_append.1 hs with hs | hs
    · exact notMem_of_mem_splitAt hs
    · exact notMem_of_mem_splitAt hs
  rw [← hjoined, splitAt_joinWith (by simp [splitAt_ne_nil]) hsegments]

end KotlinSource.Text
