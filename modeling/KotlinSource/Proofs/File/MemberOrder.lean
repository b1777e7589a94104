import KotlinSource.Proofs.Imports.Sets
import KotlinSource.Proofs.Printing.Interchange

/-!
# The order of members in a file

Two files that are the same but for interchangeable types in them have the same tokens and declare
the same names, so that their references are settled in the same way and they have the same text.
In particular the text of a file does not depend on the order in which members of different kinds
were added to a type in it.

## Main definitions

* `FileDecl.SameBut`: two files that are the same but for a type in them.
* `FileDecl.PrintedAlike`: two files with the same tokens that say the same about names.

## Main results

* `FileDecl.PrintedAlike.render_eq`: such files have the same text.
* `TypePart.Reordered.check_iff_and_render_eq`: reordered parts of a type are accepted together and
  give the same text, outside of every file and inside of it.
-/

namespace KotlinSource

/-! ### Files that are printed alike -/

/-- What is written depends on the answers of the import table only. -/
theorem NamingContext.write_eq_of_answers (context : NamingContext) {table other : ImportTable}
    (hclass : ∀ c, table.classIsShort c = other.classIsShort c)
    (hmember : ∀ m, table.memberIsShort m = other.memberIsShort m) (tokens : Tokens) :
    context.write (some table) tokens = context.write (some other) tokens := by
  have hwrite : table.write = other.write := by
    funext r
    cases r <;> simp only [ImportTable.write, hclass, hmember]
  refine List.map_congr_left fun located _ => ?_
  cases located with
  | layout op => rfl
  | reference scopes r =>
    simp only [writeLocated]
    cases context.spelling scopes r with
    | settled text => rfl
    | tabled r suffix => simp only [Spelling.write, hwrite]

namespace FileDecl

/-- Two files with the same tokens that say the same about names. -/
structure PrintedAlike (file other : FileDecl) : Prop where
  options : file.options = other.options
  context : file.context = other.context
  aliasedImports : file.aliasedImports = other.aliasedImports
  tokens : ∀ imports, file.tokens imports = other.tokens imports
  mem_declaredNames : ∀ name, name ∈ file.declaredNames ↔ name ∈ other.declaredNames

namespace PrintedAlike

variable {file other : FileDecl} (h : file.PrintedAlike other)

include h

theorem references_agrees : file.references.Agrees other.references := by
  have hspellings : file.spellings = other.spellings := by
    rw [spellings, spellings, h.context, h.tokens]
  refine ⟨congrArg NamingContext.package h.context, fun package => ?_, h.mem_declaredNames,
    fun c => ?_, fun m => ?_, fun i => ?_⟩
  · rw [references, references, h.options]
  · rw [references, references, hspellings]
  · rw [references, references, hspellings]
  · rw [references, references, h.aliasedImports]

/-- Files that are printed alike have the same text. -/
theorem render_eq : file.render = other.render := by
  have hagrees := h.references_agrees
  have hlines : file.importTable.lines = other.importTable.lines := by
    rw [importTable_lines, importTable_lines, hagrees.lines_eq]
  have hoperations : file.operations = other.operations := by
    simp only [operations, h.context, h.tokens, hlines]
    exact other.context.write_eq_of_answers hagrees.table_classIsShort_eq
      hagrees.table_memberIsShort_eq _
  rw [render, render, h.options, hoperations]

end PrintedAlike

/-! ### Files with a type in them -/

/-- Two files that are the same but for a type in them, at any depth: where it is `d` in the one, it
is `e` in the other. -/
inductive SameBut (d e : TypeDecl Code) : FileDecl → FileDecl → Prop
  | type (file : FileDecl) (front behind : List (TypeDecl Code)) {x y : TypeDecl Code}
      (h : TypeDecl.SameBut d e x y) :
      SameBut d e { file with types := front ++ x :: behind }
        { file with types := front ++ y :: behind }
  | typeAlias (file : FileDecl) (front behind : List (AliasDecl Code))
      (host : AliasDecl (Option Code)) (before after : Code) {x y : TypeDecl Code}
      (h : TypeDecl.SameBut d e x y) :
      SameBut d e
        { file with aliases := front ++ host.fill (Code.withObject before x after) :: behind }
        { file with aliases := front ++ host.fill (Code.withObject before y after) :: behind }
  | comment (file : FileDecl) (before after : Code) {x y : TypeDecl Code}
      (h : TypeDecl.SameBut d e x y) :
      SameBut d e { file with comment := Code.withObject before x after }
        { file with comment := Code.withObject before y after }

/-- Files that are the same but for interchangeable types are printed alike. -/
theorem SameBut.printedAlike {d e : TypeDecl Code} {file other : FileDecl}
    (h : SameBut d e file other) (hinterchangeable : d.Interchangeable e) :
    file.PrintedAlike other := by
  cases h with
  | type file front behind h =>
    have hxy := h.interchangeable hinterchangeable
    have hname := hxy.printed.name
    rw [TypeDecl.printed, TypeDecl.printed, TypeDecl.name_map, TypeDecl.name_map] at hname
    refine ⟨rfl, ?_, rfl, fun imports => ?_, fun name => ?_⟩
    · simp only [context, List.filterMap_append, List.filterMap_cons, hname]
    · simp only [tokens, List.flatMap_append, List.flatMap_cons, hxy.printed.tokens_eq]
    · simp only [declaredNames, List.mem_append, List.flatMap_append, List.flatMap_cons,
        hxy.mem_declaredNames]
  | @typeAlias file front behind host before after x y h =>
    have hxy := h.interchangeable hinterchangeable
    have hprinted : (host.fill (Code.withObject before x after)).printed =
        (host.fill (Code.withObject before y after)).printed := by
      rw [AliasDecl.printed_fill, AliasDecl.printed_fill, hxy.tokens_withObject]
    refine ⟨rfl, ?_, rfl, fun imports => ?_, fun name => ?_⟩
    · simp only [context, List.map_append, List.map_cons]
      rfl
    · simp only [tokens, List.flatMap_append, List.flatMap_cons, hprinted]
    · simp only [declaredNames, List.flatMap_append, List.flatMap_cons]
      rfl
  | comment file before after h =>
    have hxy := h.interchangeable hinterchangeable
    refine ⟨rfl, rfl, rfl, fun imports => ?_, fun _ => Iff.rfl⟩
    rw [tokens, tokens, hxy.tokens_withObject]

end FileDecl

/-! ### Reordered parts -/

namespace TypePart.Reordered

/-- **The order of members of different kinds does not matter.**  Let two lists hold the same parts,
those of every kind in the same order; the order of modifiers is free.  Added to the same draft,
both give a valid type or neither does.  The two types have the same text outside of every file, and
two files that are the same but for them have the same text. -/
theorem check_iff_and_render_eq {parts others : List TypePart} (h : Reordered parts others)
    (draft : TypeDraft) :
    ((∃ d, (parts.foldl TypeDraft.add draft).check = .ok d) ↔
      ∃ e, (others.foldl TypeDraft.add draft).check = .ok e) ∧
    ∀ d e, (parts.foldl TypeDraft.add draft).check = .ok d →
      (others.foldl TypeDraft.add draft).check = .ok e →
        d.text = e.text ∧
          ∀ file other, FileDecl.SameBut d e file other → file.render = other.render := by
  have hsame := h.sameMembers draft
  simp only [TypeDraft.check, accept_eq_ok_iff, h.repeatedConstant_eq draft]
  refine ⟨by simp only [exists_eq_right', hsame.faults_eq_nil_iff], ?_⟩
  rintro d e ⟨hd, rfl⟩ ⟨-, rfl⟩
  have hinterchangeable := hsame.interchangeable (hsame.functions_eq hd)
  refine ⟨?_, fun file other hfile => (hfile.printedAlike hinterchangeable).render_eq⟩
  rw [TypeDecl.text, TypeDecl.text, hinterchangeable.printed.tokens_eq]

/-- Functions of a class `Point`, with a secondary constructor between them. -/
def pointFunctions : List TypePart :=
  [.function (FunctionDecl.start (some "move")), .function (FunctionDecl.start none),
    .function (FunctionDecl.start (some "scale"))]

/-- A primary constructor, the property that it declares, and a static property. -/
def pointProperties : List TypePart :=
  [.primary { FunctionDecl.start none with
      parameters := [ParameterDecl.start "x" (.primitive .int)] },
    .property { PropertyDecl.start "x" (.primitive .int) with initializer := some [.text "x"] },
    .property { PropertyDecl.start "origin" (.primitive .int) with isStatic := true }]

/-- The same functions and properties in another order. -/
def mixedPointParts : List TypePart :=
  pointProperties ++ [.function (FunctionDecl.start none),
    .function (FunctionDecl.start (some "move")), .function (FunctionDecl.start (some "scale"))]

/-- A file with a class `Shape` around a type. -/
def shapeFile (d : TypeDecl Code) : FileDecl :=
  { FileDecl.start "app" "Shape" with
    types := [{ (TypeDraft.start .plainClass (some "Shape")).decl with types := [d] }] }

theorem sameBut_shapeFile (d e : TypeDecl Code) :
    FileDecl.SameBut d e (shapeFile d) (shapeFile e) :=
  .type (.start "app" "Shape") [] [] (.type _ [] [] .here)

theorem reordered_pointParts : Reordered (pointFunctions ++ pointProperties) mixedPointParts := by
  refine ⟨List.perm_append_comm.trans (List.Perm.append_left _ (.swap _ _ _)), fun k _ => ?_⟩
  cases k <;> rfl

/-- In both orders the class is accepted, and it stands with the same text in a file. -/
theorem check_iff_and_render_eq_point :
    Reordered (pointFunctions ++ pointProperties) mixedPointParts ∧
      ∃ d e,
        TypeDecl.build .plainClass (some "Point") (pointFunctions ++ pointProperties) = .ok d ∧
        TypeDecl.build .plainClass (some "Point") mixedPointParts = .ok e ∧
        d.text = e.text ∧ (shapeFile e).render =
          "package app\n\nclass Shape \x7b\n  class Point(val x: Int) \x7b\n" ++
          "    companion object \x7b\n      val origin: Int\n    \x7d\n\n    constructor()\n\n" ++
          "    fun move() \x7b\n    \x7d\n\n    fun scale() \x7b\n    \x7d\n  \x7d\n\x7d\n" := by
  obtain ⟨haccepted, hsame⟩ :=
    check_iff_and_render_eq reordered_pointParts (.start .plainClass (some "Point"))
  obtain ⟨e, he⟩ := haccepted.1 ⟨_, rfl⟩
  obtain ⟨htext, hrender⟩ := hsame _ e rfl he
  refine ⟨reordered_pointParts, _, e, rfl, he, htext, ?_⟩
  rw [← hrender _ _ (sameBut_shapeFile _ e)]
  decide +kernel

end TypePart.Reordered

end KotlinSource
