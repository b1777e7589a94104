import KotlinSource.Name.Class
import Mathlib.Tactic.SplitIfs

/-!
# Reading class names

A dotted text is read as the name of a class if its segments are package segments, which start with
a small letter or an underscore, and behind them simple names, which start with a capital letter.
No letter is both small and capital, so that there is at most one way to read a text.  The name that
is found has the text as its canonical name, and every class whose segments can be told apart in
this way is found again under its canonical name.

## Main definitions

* `Unicode.areApart`: no range of one table meets a range of another one.
* `ClassName.packageSegments`: the segments of the package of a class.
* `ClassName.IsReading`: a way to read a dotted text as the name of a class.

## Main results

* `Unicode.not_isLowercase_of_isUppercase`: no character is both small and capital.
* `ClassName.splitAt_canonicalName`: the segments of a canonical name.
* `ClassName.guess_eq_ok_iff`: a text is guessed to be the class that it can be read as.
* `ClassName.guess_inverts_canonicalName`: guessing and writing the canonical name undo each other.
-/

namespace KotlinSource

/-! ### Small and capital letters -/

namespace Unicode

/-- Whether no range of the first table meets a range of the second one.  The ranges of the second
table that end in front of a range of the first one are left behind. -/
def areApart : List (Nat × Nat) → List (Nat × Nat) → Bool
  | [], _ => true
  | (low, high) :: rest, others =>
    let later := others.dropWhile fun r => r.2 < low
    later.head?.all (fun r => high < r.1) && areApart rest later

/-- Ranges that end in front of a number do not matter to it. -/
theorem inRanges_dropWhile {n low : Nat} (hlow : low ≤ n) {table : List (Nat × Nat)}
    (h : inRanges n table = true) :
    inRanges n (table.dropWhile fun r => r.2 < low) = true := by
  induction table with
  | nil => exact h
  | cons r rest ih =>
    obtain ⟨start, stop⟩ := r
    by_cases hstop : stop < low
    · rw [List.dropWhile_cons_of_pos (by simpa using hstop)]
      refine ih ?_
      rw [inRanges] at h
      split_ifs at h with hstart hle
      · omega
      · exact h
    · rwa [List.dropWhile_cons_of_neg (by simpa using hstop)]

/-- A number in a range of a table is in no range of a table that is apart from it. -/
theorem inRanges_eq_false_of_areApart {n : Nat} {table others : List (Nat × Nat)}
    (hapart : areApart table others = true) (h : inRanges n table = true) :
    inRanges n others = false := by
  induction table generalizing others with
  | nil => exact absurd h (by simp)
  | cons r rest ih =>
    obtain ⟨low, high⟩ := r
    rw [areApart, Bool.and_eq_true] at hapart
    rw [inRanges] at h
    split_ifs at h with hlow hhigh
    all_goals
      refine Bool.eq_false_iff.2 fun hothers => ?_
      have hlater := inRanges_dropWhile (Nat.le_of_not_lt hlow) hothers
    · -- the number is in this range, in front of all that is left of the other table
      obtain ⟨hhead, -⟩ := hapart
      cases hleft : others.dropWhile fun r => r.2 < low with
      | nil => rw [hleft] at hlater; exact absurd hlater (by simp)
      | cons s left =>
        rw [hleft] at hhead hlater
        have hbeyond : high < s.1 := by simpa using hhead
        rw [inRanges, if_pos (by omega)] at hlater
        exact Bool.noConfusion hlater
    · rw [ih hapart.2 h] at hlater
      exact Bool.noConfusion hlater

theorem areApart_uppercaseRanges : areApart uppercaseRanges lowercaseRanges = true := by
  decide +kernel

/-- No character is both a small and a capital letter. -/
theorem not_isLowercase_of_isUppercase {c : Char} (h : isUppercase c = true) :
    isLowercase c = false :=
  inRanges_eq_false_of_areApart areApart_uppercaseRanges h

end Unicode

namespace ClassName

/-! ### Segments -/

theorem startsWith_eq_true_iff {p : Char → Bool} {segment : String} :
    startsWith p segment = true ↔ ∃ c ∈ segment.toList.head?, p c = true := by
  rw [startsWith, Text.first?, Option.any_eq_true]
  exact Iff.rfl

/-- The underscore is no capital letter, and neither is a small one. -/
theorem isClassSegment_eq_false {segment : String} (h : isPackageSegment segment = true) :
    isClassSegment segment = false := by
  obtain ⟨c, hc, hsmall⟩ := startsWith_eq_true_iff.1 h
  refine Bool.eq_false_iff.2 fun hclass => ?_
  obtain ⟨c', hc', hcapital⟩ := startsWith_eq_true_iff.1 hclass
  obtain rfl : c = c' := Option.some.inj (hc.symm.trans hc')
  rw [Unicode.not_isLowercase_of_isUppercase hcapital, Bool.false_or, beq_iff_eq] at hsmall
  subst hsmall
  exact absurd hcapital (by decide)

/-- The segments of the package; the package without a name has none. -/
def packageSegments (c : ClassName) : List String :=
  if c.package = "" then [] else Text.splitAt '.' c.package

theorem joinWith_packageSegments (c : ClassName) :
    Text.joinWith "." c.packageSegments = c.package :=
  Text.joinWith_ite_splitAt '.' c.package

/-- A canonical name is made of the segments of the package and the simple names. -/
theorem canonicalName_eq_joinWith (c : ClassName) :
    c.canonicalName = Text.joinWith "." (c.packageSegments ++ c.names) := by
  rw [canonicalName, qualify, chain, packageSegments]
  split_ifs with h
  · rw [List.nil_append]
  · rw [Text.joinWith_append_of_ne_nil _ (Text.splitAt_ne_nil '.' c.package) c.names_ne_nil,
      show Text.joinWith "." (Text.splitAt '.' c.package) = c.package from
        Text.joinWith_splitAt '.' c.package]

/-- The segments of a canonical name, for every class. -/
theorem splitAt_canonicalName (c : ClassName) :
    Text.splitAt '.' c.canonicalName = c.packageSegments ++ c.names := by
  rw [canonicalName_eq_joinWith]
  refine Text.splitAt_joinWith (by simp) fun s hs => ?_
  rcases List.mem_append.1 hs with hs | hs
  · rw [packageSegments] at hs
    split_ifs at hs
    · exact absurd hs List.not_mem_nil
    · exact Text.notMem_of_mem_splitAt hs
  · have hsimple := c.simple s hs
    rw [isSimpleName, Bool.and_eq_true] at hsimple
    simpa using hsimple.2

/-! ### Readings -/

/-- A way to read a dotted text as the name of a class: the segments of a package, each of which
starts with a small letter or an underscore, and behind them at least one simple name, all of them
with a capital letter at the start. -/
structure IsReading (text : String) (package names : List String) : Prop where
  segments : Text.splitAt '.' text = package ++ names
  package : ∀ s ∈ package, ∃ c ∈ s.toList.head?, Unicode.isLowercase c = true ∨ c = '_'
  names_ne_nil : names ≠ []
  names : ∀ s ∈ names, ∃ c ∈ s.toList.head?, Unicode.isUppercase c = true

variable {text : String} {package names : List String}

/-- Readings in terms of the tests on segments. -/
theorem isReading_iff :
    IsReading text package names ↔ Text.splitAt '.' text = package ++ names ∧
      (∀ s ∈ package, isPackageSegment s = true) ∧ names ≠ [] ∧
        ∀ s ∈ names, isClassSegment s = true := by
  have hpackage : ∀ s : String, (∃ c ∈ s.toList.head?, Unicode.isLowercase c = true ∨ c = '_') ↔
      isPackageSegment s = true := by
    intro s
    rw [isPackageSegment, startsWith_eq_true_iff]
    simp only [Bool.or_eq_true, beq_iff_eq]
  have hnames : ∀ s : String, (∃ c ∈ s.toList.head?, Unicode.isUppercase c = true) ↔
      isClassSegment s = true := fun s => startsWith_eq_true_iff.symm
  constructor
  · rintro ⟨hsegments, hpackages, hne, hclasses⟩
    exact ⟨hsegments, fun s hs => (hpackage s).1 (hpackages s hs), hne,
      fun s hs => (hnames s).1 (hclasses s hs)⟩
  · rintro ⟨hsegments, hpackages, hne, hclasses⟩
    exact ⟨hsegments, fun s hs => (hpackage s).2 (hpackages s hs), hne,
      fun s hs => (hnames s).2 (hclasses s hs)⟩

namespace IsReading

/-- The package ends in front of the first capital letter. -/
theorem takeWhile_segments (h : IsReading text package names) :
    ((Text.splitAt '.' text).takeWhile fun s => !isClassSegment s) = package ∧
      ((Text.splitAt '.' text).dropWhile fun s => !isClassSegment s) = names := by
  obtain ⟨hsegments, hpackage, hne, hnames⟩ := isReading_iff.1 h
  obtain ⟨top, inner, rfl⟩ := List.exists_cons_of_ne_nil hne
  have hsmall : ∀ s ∈ package, (!isClassSegment s) = true := fun s hs => by
    rw [isClassSegment_eq_false (hpackage s hs), Bool.not_false]
  have htop : isClassSegment top = true := hnames top List.mem_cons_self
  rw [hsegments, List.takeWhile_append_of_pos hsmall, List.dropWhile_append_of_pos hsmall]
  simp [htop]

/-- There is at most one way to read a text. -/
theorem unique {package' names' : List String} (h : IsReading text package names)
    (h' : IsReading text package' names') : package = package' ∧ names = names' :=
  ⟨h.takeWhile_segments.1.symm.trans h'.takeWhile_segments.1,
    h.takeWhile_segments.2.symm.trans h'.takeWhile_segments.2⟩

/-- Segments of a package are never empty, so that no segments are the package without a name. -/
theorem joinWith_package_eq_empty (h : IsReading text package names)
    (hempty : Text.joinWith "." package = "") : package = [] := by
  match package, h.package with
  | [], _ => rfl
  | s :: rest, hpackage =>
    obtain ⟨c, hc, -⟩ := hpackage s List.mem_cons_self
    obtain ⟨cs, hs⟩ := List.head?_eq_some_iff.1 hc
    have htext := congrArg String.toList hempty
    cases rest with
    | nil => simp [hs] at htext
    | cons t rest => simp [hs] at htext

/-- The class that a reading finds. -/
theorem packageSegments_eq (h : IsReading text package names) {c : ClassName}
    (hc : c.package = Text.joinWith "." package) : c.packageSegments = package := by
  rw [packageSegments, hc]
  split_ifs with hempty
  · exact (h.joinWith_package_eq_empty hempty).symm
  · refine Text.splitAt_joinWith (fun hnil => hempty (by rw [hnil, Text.joinWith_nil]))
      fun s hs => Text.notMem_of_mem_splitAt (s := text) ?_
    rw [h.segments]
    exact List.mem_append_left names hs

end IsReading

/-! ### Guessing -/

/-- What is guessed is a way to read the text: the segments in front of the first capital letter are
the package. -/
theorem exists_isReading_of_guess {c : ClassName} (h : guess text = .ok c) :
    ∃ package, IsReading text package c.names ∧ c.package = Text.joinWith "." package := by
  rw [guess] at h
  split at h
  · cases h
  · next top inner hdrop =>
    split_ifs at h with hall
    obtain rfl := Except.ok.inj h
    have htop : isClassSegment top = true := by
      have hhead := List.head?_dropWhile_not (fun s => !isClassSegment s) (Text.splitAt '.' text)
      simpa [hdrop] using hhead
    have hsegments : Text.splitAt '.' text =
        ((Text.splitAt '.' text).takeWhile fun s => !isClassSegment s) ++ top :: inner := by
      rw [← hdrop, List.takeWhile_append_dropWhile]
    exact ⟨_, isReading_iff.2 ⟨hsegments, List.all_eq_true.1 hall.1, List.cons_ne_nil top inner,
      List.forall_mem_cons.2 ⟨htop, List.all_eq_true.1 hall.2⟩⟩, rfl⟩

/-- A text is guessed to be the class that it can be read as. -/
theorem guess_eq_ok_iff {c : ClassName} :
    guess text = .ok c ↔ IsReading text c.packageSegments c.names := by
  constructor
  · intro h
    obtain ⟨package, hreading, hpackage⟩ := exists_isReading_of_guess h
    rwa [hreading.packageSegments_eq hpackage]
  · intro h
    obtain ⟨htake, hdrop⟩ := h.takeWhile_segments
    obtain ⟨-, hpackage, -, hnames⟩ := isReading_iff.1 h
    rw [guess]
    split
    · next hnil => exact absurd (hdrop.symm.trans hnil) c.names_ne_nil
    · next top inner hcons =>
      have hchain : c.top :: c.inner = top :: inner := hdrop.symm.trans hcons
      obtain ⟨rfl, rfl⟩ := List.cons.inj hchain
      rw [dif_pos]
      · congr 1
        simp only [htake, joinWith_packageSegments]
      · rw [htake]
        exact ⟨List.all_eq_true.2 hpackage,
          List.all_eq_true.2 (List.forall_mem_cons.1 hnames).2⟩

/-- A text that cannot be read is refused by name. -/
theorem guess_eq_error (h : ¬∃ package names, IsReading text package names) :
    guess text = .error (.unguessable text) := by
  cases hguess : guess text with
  | ok c =>
    obtain ⟨package, hreading, -⟩ := exists_isReading_of_guess hguess
    exact absurd ⟨package, c.names, hreading⟩ h
  | error e =>
    rw [guess] at hguess
    split at hguess
    · exact hguess.symm
    · split_ifs at hguess
      exact hguess.symm

/-- Every reading is the reading of a class. -/
theorem IsReading.exists_eq (h : IsReading text package names) :
    ∃ c : ClassName, c.package = Text.joinWith "." package ∧ c.packageSegments = package ∧
      c.names = names := by
  obtain ⟨hsegments, -, hne, hnames⟩ := isReading_iff.1 h
  obtain ⟨top, inner, rfl⟩ := List.exists_cons_of_ne_nil hne
  have hmem : ∀ name ∈ top :: inner, name ∈ Text.splitAt '.' text := fun name hname =>
    hsegments ▸ List.mem_append_right package hname
  let c : ClassName := ⟨Text.joinWith "." package, top, inner, fun name hname =>
    isSimpleName_of_isClassSegment (hmem name hname) (hnames name hname)⟩
  exact ⟨c, rfl, h.packageSegments_eq rfl, rfl⟩

/-- The canonical name of the class that a text can be read as is the text. -/
theorem IsReading.canonicalName_eq {c : ClassName} (h : IsReading text c.packageSegments c.names) :
    c.canonicalName = text := by
  rw [canonicalName_eq_joinWith, ← h.segments]
  exact Text.joinWith_splitAt '.' text

/-- **Guessing the name of a class is the inverse of writing it.**  A text is guessed exactly if it
can be read as the name of a class, and then the class has the package segments and the simple names
of that reading, and the text as its canonical name; any other text is refused.  A class whose
package segments start with small letters or underscores and whose simple names start with capital
letters is what its canonical name is guessed to be. -/
theorem guess_inverts_canonicalName :
    (∀ text, (∃ c, guess text = .ok c) ↔ ∃ package names, IsReading text package names) ∧
    (∀ text package names, IsReading text package names →
      ∃ c, guess text = .ok c ∧ c.package = Text.joinWith "." package ∧
        c.packageSegments = package ∧ c.names = names ∧ c.canonicalName = text) ∧
    (∀ text, (¬∃ package names, IsReading text package names) →
      guess text = .error (.unguessable text)) ∧
    ∀ c : ClassName,
      (∀ s ∈ c.packageSegments, ∃ x ∈ s.toList.head?, Unicode.isLowercase x = true ∨ x = '_') →
      (∀ s ∈ c.names, ∃ x ∈ s.toList.head?, Unicode.isUppercase x = true) →
      guess c.canonicalName = .ok c := by
  have hguessed : ∀ text package names, IsReading text package names →
      ∃ c, guess text = .ok c ∧ c.package = Text.joinWith "." package ∧
        c.packageSegments = package ∧ c.names = names ∧ c.canonicalName = text := by
    intro text package names h
    obtain ⟨c, hpackage, rfl, rfl⟩ := h.exists_eq
    exact ⟨c, guess_eq_ok_iff.2 h, hpackage, rfl, rfl, h.canonicalName_eq⟩
  refine ⟨fun text => ⟨?_, ?_⟩, hguessed, fun text => guess_eq_error, ?_⟩
  · rintro ⟨c, hc⟩
    exact ⟨_, _, guess_eq_ok_iff.1 hc⟩
  · rintro ⟨package, names, h⟩
    obtain ⟨c, hc, -⟩ := hguessed text package names h
    exact ⟨c, hc⟩
  · intro c hpackage hnames
    exact guess_eq_ok_iff.2 ⟨c.splitAt_canonicalName, hpackage, c.names_ne_nil, hnames⟩

/-- A class nested in another one, in a package with an underscore, is guessed under its canonical
name and found again.  Without a segment between two dots a text is refused. -/
theorem guess_inverts_canonicalName_nested :
    IsReading "_io.ascii.Map.Entry" ["_io", "ascii"] ["Map", "Entry"] ∧
    (∃ c, guess "_io.ascii.Map.Entry" = .ok c ∧ c.package = "_io.ascii" ∧
      c.packageSegments = ["_io", "ascii"] ∧ c.names = ["Map", "Entry"] ∧
      c.canonicalName = "_io.ascii.Map.Entry" ∧ guess c.canonicalName = .ok c) ∧
    (¬∃ package names, IsReading "ascii..Map" package names) ∧
    guess "ascii..Map" = .error (.unguessable "ascii..Map") := by
  obtain ⟨hiff, hguessed, hrefused, hfound⟩ := guess_inverts_canonicalName
  have hreading : IsReading "_io.ascii.Map.Entry" ["_io", "ascii"] ["Map", "Entry"] :=
    isReading_iff.2 (by decide +kernel)
  obtain ⟨c, hc, hpackage, hsegments, hnames, hcanonical⟩ := hguessed _ _ _ hreading
  have hunread : ¬∃ package names, IsReading "ascii..Map" package names := by
    rw [← hiff]
    rintro ⟨c, hc⟩
    cases hc
  refine ⟨hreading, ⟨c, hc, hpackage, hsegments, hnames, hcanonical, hfound c ?_ ?_⟩, hunread,
    hrefused _ hunread⟩
  · rw [hsegments]
    exact hreading.package
  · rw [hnames]
    exact hreading.names

end ClassName

end KotlinSource
