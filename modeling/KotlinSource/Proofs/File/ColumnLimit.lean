import KotlinSource.Name.Standard
import KotlinSource.Proofs.Printing.Spacing

/-!
# The column limit of a file

What a file says is settled before its lines are filled: the column limit only decides which of its
break points break.  If code asks for no two break points side by side, the limit also holds for
every line that could still have been broken: a line that goes on at a break point has no more
characters than the limit.

## Main definitions

* `FileDecl.items`: the characters and break points of a file, with what becomes of these.
* `FileDecl.withLimit`: a file under another column limit.

## Main results

* `FileDecl.length_line_le_columnLimit`: lines that go on at a break point.
* `FileDecl.forall₂_sameButBreak_items`: two column limits.
-/

namespace KotlinSource

namespace FileDecl

/-- The characters and break points of a file, with what becomes of the break points. -/
def items (file : FileDecl) : List Item :=
  decided file.options.columnLimit file.options.indent.unit []
    (writtenGlyphs file.options.indent.unit file.operations)

theorem render_eq_itemsText (file : FileDecl) :
    file.render = String.ofList (itemsText file.options.indent.unit file.items) :=
  layout_eq_itemsText file.options file.operations

/-! ### Lines that go on -/

/-- **Lines that go on at a break point keep to the limit.**  If code asks for no two break points
side by side, a line of the file has no more characters than the column limit as soon as it goes on
at a break point, be it one that code asks for or one between parameters, annotation members or type
arguments.  Apart from that, a break point at which the line does not break stands at its end. -/
theorem length_line_le_columnLimit (file : FileDecl)
    (h : WrapsApart file.options.indent.unit file.operations) :
    file.render = String.ofList (itemsText file.options.indent.unit file.items) ∧
      (∀ front b back, file.items = front ++ .point b .kept :: back →
        (lastLine (itemsText file.options.indent.unit front) ++ b.unbroken ++
          firstLine (itemsText file.options.indent.unit back)).length ≤
            file.options.columnLimit) ∧
      ∀ front b back, file.items = front ++ .point b .dropped :: back →
        firstLine (itemsText file.options.indent.unit back) = [] := by
  refine ⟨file.render_eq_itemsText, fun front b back hitems => ?_, fun front b back hitems => ?_⟩
  · exact (pointsApart_writtenGlyphs h).length_line_le hitems
  · exact firstLine_eq_nil_of_dropped hitems

/-- A file with a class whose function has parameters, type arguments and code with break points;
its lines have at most 30 columns. -/
def serviceFile : FileDecl :=
  let service := (TypeDraft.start .plainClass (some "Service")).decl
  let list : TypeName :=
    .declared ⟨StandardClass.list.className, [.primitive .int], false⟩
  { start "app" "Service" with
    types := [{ service with
      functions := [{ FunctionDecl.start (some "call") with
        parameters := [ParameterDecl.start "first" list, ParameterDecl.start "second" list]
        body := [.beginStatement, .text "send(first,", .wrap, .text "second,", .wrap,
          .text "third)\n", .endStatement] }] }]
    options := { columnLimit := 30 } }

/-- The line of the call goes on at both of its break points and is as long as the limit allows. -/
theorem length_line_le_columnLimit_service :
    WrapsApart serviceFile.options.indent.unit serviceFile.operations ∧
      serviceFile.render = "package app\n\nclass Service \x7b\n  fun call(first: List<Int>,\n" ++
        "    second: List<Int>) \x7b\n    send(first, second, third)\n  \x7d\n\x7d\n" ∧
      ∃ front back, serviceFile.items = front ++ .point ⟨3, true⟩ .kept :: back ∧
        (lastLine (itemsText [' ', ' '] front) ++ [' '] ++
          firstLine (itemsText [' ', ' '] back)).length ≤ 30 := by
  have hwraps : WrapsApart serviceFile.options.indent.unit serviceFile.operations :=
    .of_pointsApart (by decide +kernel)
  have hkept : Item.point ⟨3, true⟩ .kept ∈ serviceFile.items := by decide +kernel
  obtain ⟨front, back, hitems⟩ := List.append_of_mem hkept
  exact ⟨hwraps, by decide +kernel, front, back, hitems,
    (length_line_le_columnLimit serviceFile hwraps).2.1 front _ back hitems⟩

/-! ### Two column limits -/

/-- The file under another column limit. -/
def withLimit (file : FileDecl) (limit : Nat) : FileDecl :=
  { file with options := { file.options with columnLimit := limit } }

/-- What is written for a file, and with it every import line, does not depend on the limit. -/
theorem operations_withLimit (file : FileDecl) (limit : Nat) :
    (file.withLimit limit).operations = file.operations := rfl

/-- **The column limit changes nothing but break points.**  Under two column limits a file has the
same import lines, and its two texts are written from the same characters and break points, which
differ only in that the line breaks at some break points in one text and goes on there in the
other. -/
theorem forall₂_sameButBreak_items (file : FileDecl) (limit limit' : Nat) :
    (file.withLimit limit).importTable.lines = (file.withLimit limit').importTable.lines ∧
      (file.withLimit limit).render =
        String.ofList (itemsText file.options.indent.unit (file.withLimit limit).items) ∧
      (file.withLimit limit').render =
        String.ofList (itemsText file.options.indent.unit (file.withLimit limit').items) ∧
      List.Forall₂ Item.SameButBreak (file.withLimit limit).items
        (file.withLimit limit').items := by
  refine ⟨rfl, render_eq_itemsText _, render_eq_itemsText _, ?_⟩
  rw [items, items, operations_withLimit, operations_withLimit]
  exact forall₂_sameButBreak_decided limit limit' _ [] [] _

end FileDecl

end KotlinSource
