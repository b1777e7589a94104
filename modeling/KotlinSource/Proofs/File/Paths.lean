import KotlinSource.Output.SourceFile
import KotlinSource.Proofs.File.Aliases
import Mathlib.Tactic.SplitIfs

/-!
# The paths of files

A file has a path with a directory for every segment of its package.  As the segments of a package
are identifiers, and the name of a file holds no slashes, the components of the path are these
segments and the name of the file, and each of them names an entry of the directory before it.  Seen
from any directory, such a path leads further down; and it says what the package and the name are,
so that no two files are in each other's place.

## Main definitions

* `Path.IsNormal`: segments that name an entry of a directory.
* `Path.root`: what a path has in front of its steps.

## Main results

* `Path.components_of_normal`: the components of a path with normal segments.
* `Path.components_join`: such a path, seen from a directory.
* `FileDecl.components_of_build`: the paths of the files that are built.
-/

namespace KotlinSource

namespace Path

/-! ### Normal segments -/

/-- A segment that names an entry of the directory before it. -/
structure IsNormal (segment : String) : Prop where
  ne_empty : segment ≠ ""
  slash_notMem : '/' ∉ segment.toList
  backslash_notMem : '\\' ∉ segment.toList
  /-- It is not the directory itself. -/
  ne_here : segment ≠ "."
  /-- Neither is it the directory above. -/
  ne_above : segment ≠ ".."

theorem IsNormal.isIdle_eq_false {segment : String} (h : IsNormal segment) :
    isIdle segment = false := by
  simp [isIdle, h.ne_empty, h.ne_here]

theorem isNormal_of_isIdentifier {name : String} (h : isIdentifier name = true) :
    IsNormal name := by
  have hnotMem : ∀ c, continuesIdentifier c = false → c ∉ name.toList :=
    fun c hc hmem => Bool.noConfusion (hc.symm.trans (continuesIdentifier_of_mem h hmem))
  have hdot : '.' ∉ name.toList := hnotMem '.' (by decide)
  refine ⟨?_, hnotMem '/' (by decide), hnotMem '\\' (by decide), ?_, ?_⟩
  · rintro rfl
    exact absurd h (by decide)
  · rintro rfl
    exact hdot (by simp)
  · rintro rfl
    exact hdot (by simp)

/-- The name of a file may be one that directories have for themselves or for the directory above;
with the extension behind it, it is not. -/
theorem isNormal_append_extension {name : String} (h : isFileName name = true) :
    IsNormal (name ++ ".kt") := by
  simp only [isFileName, Bool.and_eq_true, Bool.not_eq_true', List.contains_eq_mem,
    decide_eq_false_iff_not] at h
  obtain ⟨⟨⟨-, hslash⟩, hbackslash⟩, -⟩ := h
  have hne : ∀ s : String, s.toList.length < 3 → name ++ ".kt" ≠ s := by
    rintro s hs rfl
    rw [String.toList_append, List.length_append] at hs
    exact absurd hs (by simp)
  refine ⟨hne "" (by decide), ?_, ?_, hne "." (by decide), hne ".." (by decide)⟩
  · simpa using hslash
  · simpa using hbackslash

/-! ### Components -/

/-- What a path has in front of its steps. -/
def root (path : String) : List String :=
  if isAbsolute path then ["/"] else if (segments path).head? = some "." then ["."] else []

theorem components_eq (path : String) : components path = root path ++ steps path := by
  rw [components, root]
  split_ifs <;> rfl

theorem head?_segments_of_isAbsolute {path : String} (h : isAbsolute path = true) :
    (segments path).head? = some "" := by
  rw [isAbsolute, Text.first?, beq_iff_eq] at h
  obtain ⟨rest, hrest⟩ := List.head?_eq_some_iff.1 h
  rw [segments, Text.splitAt, hrest, Text.pieces, if_pos rfl]
  rfl

section Normal

variable {path : String} (h : ∀ s ∈ segments path, IsNormal s)

include h

theorem isAbsolute_of_normal : isAbsolute path = false :=
  Bool.eq_false_iff.2 fun e =>
    (h "" (List.mem_of_mem_head? (head?_segments_of_isAbsolute e))).ne_empty rfl

theorem root_of_normal : root path = [] := by
  have hhere : (segments path).head? ≠ some "." := fun e =>
    (h "." (List.mem_of_mem_head? e)).ne_here rfl
  rw [root, isAbsolute_of_normal h, if_neg Bool.false_ne_true, if_neg hhere]

theorem steps_of_normal : steps path = segments path :=
  List.filter_eq_self.2 fun s hs => by rw [(h s hs).isIdle_eq_false]; rfl

/-- The components of a path with normal segments are its segments. -/
theorem components_of_normal : components path = segments path := by
  rw [components_eq, root_of_normal h, steps_of_normal h, List.nil_append]

end Normal

/-! ### Paths seen from a directory -/

section Append

variable (front back : String)

theorem segments_append : segments (front ++ "/" ++ back) = segments front ++ segments back :=
  Text.splitAt_append '/' front back

theorem steps_append : steps (front ++ "/" ++ back) = steps front ++ steps back := by
  rw [steps, segments_append, List.filter_append]
  rfl

theorem steps_append_slash : steps (front ++ "/") = steps front := by
  have happend := steps_append front ""
  rwa [String.append_empty, show steps "" = [] from rfl, List.append_nil] at happend

theorem isAbsolute_append {front : String} (h : front ≠ "") :
    isAbsolute (front ++ back) = isAbsolute front := by
  obtain ⟨c, rest, hfront⟩ := List.exists_cons_of_ne_nil (mt String.toList_eq_nil_iff.1 h)
  rw [isAbsolute, isAbsolute, Text.first?, Text.first?, String.toList_append, hfront]
  rfl

theorem head?_segments_append :
    (segments (front ++ "/" ++ back)).head? = (segments front).head? := by
  obtain ⟨s, rest, hfront⟩ := List.exists_cons_of_ne_nil (Text.splitAt_ne_nil '/' front)
  rw [segments_append, show segments front = s :: rest from hfront]
  rfl

theorem head?_segments_append_slash :
    (segments (front ++ "/")).head? = (segments front).head? := by
  have happend := head?_segments_append front ""
  rwa [String.append_empty] at happend

/-- What a path has in front of its steps ends at its first slash. -/
theorem root_append : root (front ++ "/" ++ back) = root (front ++ "/") := by
  have hne : front ++ "/" ≠ "" := by simp
  rw [root, root, isAbsolute_append back hne, head?_segments_append, head?_segments_append_slash]

theorem root_append_slash {front : String} (h : front ≠ "") : root (front ++ "/") = root front := by
  rw [root, root, isAbsolute_append "/" h, head?_segments_append_slash]

end Append

/-- A directory and the path in it have a slash between them. -/
theorem exists_join_eq {base path : String} (hbase : base ≠ "") (hpath : isAbsolute path = false) :
    ∃ front, join base path = front ++ "/" ++ path ∧
      components base = root (front ++ "/") ++ steps front := by
  by_cases hlast : base.toList.getLast? = some '/'
  · obtain ⟨chars, hchars⟩ := List.getLast?_eq_some_iff.1 hlast
    have hslash : base = String.ofList chars ++ "/" := by
      rw [← String.toList_inj, hchars]
      simp
    refine ⟨String.ofList chars, ?_, ?_⟩
    · simp [join, hpath, hlast, ← hslash]
    · rw [← steps_append_slash, ← hslash, components_eq]
  · refine ⟨base, by simp [join, hpath, hlast, hbase], ?_⟩
    rw [root_append_slash hbase, components_eq]

/-- A path with normal segments leads down from every directory. -/
theorem components_join {path : String} (h : ∀ s ∈ segments path, IsNormal s) (base : String) :
    components (join base path) = components base ++ components path := by
  have hrelative : isAbsolute path = false := isAbsolute_of_normal h
  by_cases hbase : base = ""
  · rw [hbase, show components "" = [] from rfl, List.nil_append]
    simp [join, hrelative]
  · obtain ⟨front, hjoin, hcomponents⟩ := exists_join_eq hbase hrelative
    rw [hjoin, components_eq, root_append, steps_append, hcomponents, components_of_normal h,
      steps_of_normal h, List.append_assoc]

end Path

/-! ### Paths of files -/

namespace FileDecl

theorem joinWith_packageSegments (file : FileDecl) :
    Text.joinWith "." file.packageSegments = file.package :=
  Text.joinWith_ite_splitAt '.' file.package

theorem package_and_name_foldl_add (file : FileDecl) (parts : List FilePart) :
    (parts.foldl add file).package = file.package ∧ (parts.foldl add file).name = file.name := by
  induction parts generalizing file with
  | nil => exact ⟨rfl, rfl⟩
  | cons part rest ih =>
    have hadd : (file.add part).package = file.package ∧ (file.add part).name = file.name := by
      cases part <;> exact ⟨rfl, rfl⟩
    obtain ⟨hpackage, hname⟩ := ih (file.add part)
    exact ⟨hpackage.trans hadd.1, hname.trans hadd.2⟩

/-- A file that was built has the package and the name that were asked for, and no faults. -/
theorem faults_of_build {package name : String} {parts : List FilePart} {file : FileDecl}
    (h : build package name parts = .ok file) :
    file.package = package ∧ file.name = name ∧ file.faults = [] := by
  obtain ⟨hfaults, -, rfl⟩ := check_eq_ok_iff.1 h
  obtain ⟨hpackage, hname⟩ := package_and_name_foldl_add (start package name) parts
  exact ⟨hpackage, hname, hfaults⟩

/-- The names on the way to a file without faults are normal. -/
theorem isNormal_of_faults {file : FileDecl} (h : file.faults = []) :
    ∀ s ∈ file.packageSegments ++ [file.fileName], Path.IsNormal s := by
  simp only [faults, List.append_eq_nil_iff, faultIf_eq_nil_iff, List.flatMap_eq_nil_iff,
    nameFaults, Bool.not_eq_false'] at h
  obtain ⟨⟨hname, hpackage⟩, -⟩ := h
  intro s hs
  rcases List.mem_append.1 hs with hs | hs
  · exact Path.isNormal_of_isIdentifier (hpackage s hs)
  · rw [List.mem_singleton.1 hs]
    exact Path.isNormal_append_extension hname

/-- The segments of the path of a file without faults. -/
theorem segments_relativePath {file : FileDecl} (h : file.faults = []) :
    Path.segments file.relativePath = file.packageSegments ++ [file.fileName] := by
  have hnormal := isNormal_of_faults h
  have hfilter : (Text.splitAt '.' file.package).filter (· != "") = file.packageSegments := by
    by_cases hpackage : file.package = ""
    · rw [packageSegments, if_pos hpackage, hpackage]
      rfl
    · have hsegments : file.packageSegments = Text.splitAt '.' file.package := if_neg hpackage
      rw [hsegments, List.filter_eq_self]
      intro s hs
      have hs := hnormal s (List.mem_append_left _ (hsegments ▸ hs))
      simpa using hs.ne_empty
  rw [relativePath, hfilter]
  exact Text.splitAt_joinWith (by simp) fun s hs => (hnormal s hs).slash_notMem

theorem isNormal_of_mem_segments {file : FileDecl} (h : file.faults = []) :
    ∀ s ∈ Path.segments file.relativePath, Path.IsNormal s :=
  segments_relativePath h ▸ isNormal_of_faults h

/-- The path of a file without faults has no other parts than its segments. -/
theorem components_relativePath {file : FileDecl} (h : file.faults = []) :
    Path.components file.relativePath = file.packageSegments ++ [file.fileName] := by
  rw [Path.components_of_normal (isNormal_of_mem_segments h), segments_relativePath h]

/-- A file can be told from the names on the way to it. -/
theorem package_and_name_of_segments {file other : FileDecl}
    (h : file.packageSegments ++ [file.fileName] = other.packageSegments ++ [other.fileName]) :
    file.package = other.package ∧ file.name = other.name := by
  obtain ⟨hsegments, hnames⟩ := List.append_inj' h rfl
  refine ⟨?_, ?_⟩
  · rw [← joinWith_packageSegments, hsegments, joinWith_packageSegments]
  · have hname : file.name ++ ".kt" = other.name ++ ".kt" := List.singleton_inj.1 hnames
    rw [← String.toList_inj, String.toList_append, String.toList_append] at hname
    exact String.toList_inj.1 (List.append_cancel_right hname)

/-- **Every file has a place of its own below the output directory.**  The path of a file that was
built consists of the segments of its package and its name with the extension; all of these are
normal, so that the path leads down from every directory.  No file with another package or another
name has the same path. -/
theorem components_of_build {package name : String} {parts : List FilePart} {file : FileDecl}
    (h : build package name parts = .ok file) :
    (file.package = package ∧ file.name = name) ∧
      Path.components file.relativePath = file.packageSegments ++ [name ++ ".kt"] ∧
      (∀ c ∈ Path.components file.relativePath, Path.IsNormal c) ∧
      (∀ base, Path.components (file.toSourceFile.pathBelow base) =
        Path.components base ++ Path.components file.relativePath) ∧
      file.toSourceFile.uri = Text.joinWith "/" (file.packageSegments ++ [name ++ ".kt"]) ∧
      ∀ {package' name' : String} {parts' : List FilePart} {other : FileDecl},
        build package' name' parts' = .ok other → package ≠ package' ∨ name ≠ name' →
          Path.components file.relativePath ≠ Path.components other.relativePath := by
  obtain ⟨hpackage, hname, hfaults⟩ := faults_of_build h
  have hcomponents := components_relativePath hfaults
  have hfile : file.fileName = name ++ ".kt" := congrArg (· ++ ".kt") hname
  refine ⟨⟨hpackage, hname⟩, hfile ▸ hcomponents, hcomponents ▸ isNormal_of_faults hfaults,
    Path.components_join (isNormal_of_mem_segments hfaults), ?_, ?_⟩
  · rw [← hfile, ← hcomponents]
    rfl
  · intro package' name' parts' other hother hne hsame
    obtain ⟨hpackage', hname', hfaults'⟩ := faults_of_build hother
    rw [hcomponents, components_relativePath hfaults'] at hsame
    obtain ⟨hpackages, hnames⟩ := package_and_name_of_segments hsame
    rcases hne with hne | hne
    · exact hne (by rw [← hpackage, ← hpackage', hpackages])
    · exact hne (by rw [← hname, ← hname', hnames])

/-- A dot in the name of a file is no end of a segment: `com/example.Greeter.kt` is another place
than `com/example/Greeter.kt`. -/
theorem components_of_build_greeter :
    ∃ file other, build "com.example" "Greeter" [] = .ok file ∧
      build "com" "example.Greeter" [] = .ok other ∧
      Path.components file.relativePath = ["com", "example", "Greeter.kt"] ∧
      (∀ c ∈ Path.components file.relativePath, Path.IsNormal c) ∧
      Path.components (file.toSourceFile.pathBelow "/out/") =
        ["/", "out", "com", "example", "Greeter.kt"] ∧
      file.toSourceFile.uri = "com/example/Greeter.kt" ∧
      Path.components file.relativePath ≠ Path.components other.relativePath := by
  have hfile : build "com.example" "Greeter" [] = .ok (start "com.example" "Greeter") := rfl
  have hother : build "com" "example.Greeter" [] = .ok (start "com" "example.Greeter") := rfl
  obtain ⟨-, hcomponents, hnormal, hbelow, huri, hapart⟩ := components_of_build hfile
  refine ⟨_, _, hfile, hother, hcomponents, hnormal, ?_, huri, hapart hother (.inl (by decide))⟩
  rw [hbelow, hcomponents]
  rfl

end FileDecl

end KotlinSource
