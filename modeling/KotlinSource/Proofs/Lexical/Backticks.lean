import KotlinSource.Lexical.Identifier
import KotlinSource.Lexical.Keyword

/-!
# Names without their backticks

A name that is a keyword is written between backticks.  A name without backticks in it comes back
when the backticks are taken out of what is written for it, and a dotted name comes back segment by
segment.

## Main definitions

* `unquoted`: a text without its backticks.

## Main results

* `unquoted_safeName`, `unquoted_safeQualified`: names come back from what is written for them.
* `notMem_toList_of_isIdentifier`: identifiers hold neither dots nor backticks.
-/

namespace KotlinSource

/-- A text without its backticks. -/
def unquoted (text : String) : String := String.ofList (text.toList.filter (· != '\x60'))

theorem unquoted_append (a b : String) : unquoted (a ++ b) = unquoted a ++ unquoted b := by
  rw [← String.toList_inj]
  simp [unquoted]

theorem unquoted_of_notMem {text : String} (h : '\x60' ∉ text.toList) : unquoted text = text := by
  have hall : ∀ c ∈ text.toList, (c != '\x60') = true := by
    intro c hc
    have hne : c ≠ '\x60' := fun e => h (e ▸ hc)
    simpa using hne
  rw [unquoted, List.filter_eq_self.2 hall, String.ofList_toList]

/-- A name without backticks comes back from what is written for it. -/
theorem unquoted_safeName {name : String} (h : '\x60' ∉ name.toList) :
    unquoted (safeName name) = name := by
  have hbacktick : unquoted "\x60" = "" := by decide
  rw [safeName]
  split
  · rw [unquoted_append, unquoted_append, hbacktick, unquoted_of_notMem h, String.empty_append,
      String.append_empty]
  · exact unquoted_of_notMem h

theorem unquoted_joinWith (segments : List String) :
    unquoted (Text.joinWith "." segments) = Text.joinWith "." (segments.map unquoted) := by
  have hdot : unquoted "." = "." := by decide
  induction segments with
  | nil => rfl
  | cons s segments ih =>
    cases segments with
    | nil => rfl
    | cons t segments =>
      rw [Text.joinWith_cons_cons, unquoted_append, unquoted_append, hdot, ih]
      rfl

/-- Escaped names come back from the dotted name that they are joined to. -/
theorem unquoted_joinWith_safeName {segments : List String}
    (h : ∀ s ∈ segments, '\x60' ∉ s.toList) :
    unquoted (Text.joinWith "." (segments.map safeName)) = Text.joinWith "." segments := by
  have hsegments : (segments.map safeName).map unquoted = segments := by
    rw [List.map_map]
    exact (List.map_congr_left fun s hs => unquoted_safeName (h s hs)).trans (List.map_id _)
  rw [unquoted_joinWith, hsegments]

/-- A dotted name that is joined from names without dots and backticks comes back from what is
written for it. -/
theorem unquoted_safeQualified_joinWith {segments : List String} (hne : segments ≠ [])
    (hdots : ∀ s ∈ segments, '.' ∉ s.toList) (hbackticks : ∀ s ∈ segments, '\x60' ∉ s.toList) :
    unquoted (safeQualified (Text.joinWith "." segments)) = Text.joinWith "." segments := by
  rw [safeQualified_joinWith hne hdots, unquoted_joinWith_safeName hbackticks]

/-- The characters between separators are characters of the text. -/
theorem mem_toList_of_mem_splitAt {sep c : Char} {s p : String} (h : p ∈ Text.splitAt sep s)
    (hc : c ∈ p.toList) : c ∈ s.toList := by
  have hpieces : ∀ (chars : List Char), ∀ q ∈ Text.pieces sep chars, c ∈ q → c ∈ chars := by
    intro chars
    induction chars with
    | nil => simp
    | cons d rest ih =>
      intro q hq hcq
      obtain ⟨q₀, qs, hqs⟩ := List.exists_cons_of_ne_nil (Text.pieces_ne_nil sep rest)
      rw [Text.pieces, hqs] at hq
      rw [hqs] at ih
      obtain ⟨hfirst, hothers⟩ := List.forall_mem_cons.1 ih
      split at hq
      · rcases List.mem_cons.1 hq with rfl | hq
        · simp at hcq
        · exact List.mem_cons_of_mem d (ih q hq hcq)
      · rcases List.mem_cons.1 hq with rfl | hq
        · exact (List.mem_cons.1 hcq).elim (fun e => e ▸ List.mem_cons_self)
            fun hcq => List.mem_cons_of_mem d (hfirst hcq)
        · exact List.mem_cons_of_mem d (hothers q hq hcq)
  obtain ⟨q, hq, rfl⟩ := List.mem_map.1 h
  rw [String.toList_ofList] at hc
  exact hpieces s.toList q hq hc

/-- A dotted name without backticks comes back from what is written for it. -/
theorem unquoted_safeQualified {name : String} (h : '\x60' ∉ name.toList) :
    unquoted (safeQualified name) = name := by
  have hsegments : ∀ s ∈ Text.splitAt '.' name, '\x60' ∉ s.toList :=
    fun s hs hc => h (mem_toList_of_mem_splitAt hs hc)
  rw [safeQualified, unquoted_joinWith_safeName hsegments]
  exact Text.joinWith_splitAt '.' name

/-- Identifiers hold neither dots nor backticks. -/
theorem notMem_toList_of_isIdentifier {name : String} (h : isIdentifier name = true) :
    '.' ∉ name.toList ∧ '\x60' ∉ name.toList := by
  have hdot : continuesIdentifier '.' = false := by decide
  have hbacktick : continuesIdentifier '\x60' = false := by decide
  refine ⟨fun hmem => ?_, fun hmem => ?_⟩
  · exact absurd (continuesIdentifier_of_mem h hmem) (by simp [hdot])
  · exact absurd (continuesIdentifier_of_mem h hmem) (by simp [hbacktick])

end KotlinSource
