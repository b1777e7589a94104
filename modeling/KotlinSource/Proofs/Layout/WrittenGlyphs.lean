import KotlinSource.Layout.Writer
import KotlinSource.Proofs.Layout.BreakDecisions

/-!
# What a writer has written

A writer only adds to its text.  Three operations write break points: a space at which the line may
break, a comma with such a space behind it, and a break point without width.  In comments these
write characters or nothing, as all other operations do everywhere.

The break points of the first kind are those that code asks for.  Code may ask for two of them with
nothing in between; that it does not is a condition on the operations and on what is written for
them.

## Main definitions

* `Writer.glyphs`, `writtenGlyphs`: the characters and break points that a writer has written.
* `Writer.lead`: what a line starts with in front of its text.
* `Writer.Continues`: a writer that has written some more characters.
* `LayoutOp.isBreakable`: the operations that may write a break point.
* `WrapsApart`: code asks for no two break points side by side.

## Main results

* `Writer.continues_step`: operations that only write characters.
* `WrapsApart.of_pointsApart`: break points with text between them.
* `layout_eq_itemsText`: the text of a list of operations, through what becomes of its break points.
* `exists_layout_chars`, `exists_layout_text`: characters, and text without line breaks, are written
  in one piece.
-/

namespace KotlinSource

theorem glyphs_append (front back : List Atom) :
    glyphs (front ++ back) = glyphs front ++ glyphs back := List.flatMap_append

namespace Writer

/-- The characters and break points that a writer has written. -/
def glyphs (w : Writer) : List Glyph := KotlinSource.glyphs w.atoms.reverse

/-- The second writer has written what the first one has, and some characters behind it. -/
def Continues (w w' : Writer) : Prop := ∃ chars : List Char, w'.glyphs = w.glyphs ++ chars.map .char

theorem Continues.refl (w : Writer) : w.Continues w := ⟨[], (List.append_nil _).symm⟩

theorem Continues.trans {w₁ w₂ w₃ : Writer} (h : w₁.Continues w₂) (h' : w₂.Continues w₃) :
    w₁.Continues w₃ := by
  obtain ⟨chars, h⟩ := h
  obtain ⟨chars', h'⟩ := h'
  exact ⟨chars ++ chars', by rw [h', h, List.map_append, List.append_assoc]⟩

variable (unit : List Char) (w : Writer)

/-! ### Characters -/

@[simp] theorem glyphs_append (chars : List Char) :
    (w.append chars).glyphs = w.glyphs ++ chars.map .char := by
  simp [glyphs, append, KotlinSource.glyphs, Atom.glyphs]

@[simp] theorem glyphs_appendPoint (wide : Bool) :
    (w.appendPoint wide).glyphs = w.glyphs ++ [.point ⟨w.continuationLevel, wide⟩] := by
  simp [glyphs, appendPoint, KotlinSource.glyphs, Atom.glyphs]

/-- The indentation of the current level. -/
def indentation : List Char := (List.replicate w.level unit).flatten

/-- A line break, in an empty line of a comment behind the marker. -/
theorem glyphs_emitNewline :
    (w.emitNewline unit).glyphs = w.glyphs ++
      ((if (w.inDoc || w.inComment) && w.atLineStart then
          w.indentation unit ++ w.emptyLineMarker else []) ++ ['\n']).map .char := by
  simp only [emitNewline]
  split_ifs
  · show (((w.appendIndentation unit).append w.emptyLineMarker).append ['\n']).glyphs = _
    rw [glyphs_append, glyphs_append, appendIndentation, glyphs_append]
    simp [indentation]
  · exact w.glyphs_append ['\n']

/-- A character of a line, the first one behind the indentation and the marker. -/
theorem glyphs_emitInLine (c : Char) :
    (w.emitInLine unit c).glyphs = w.glyphs ++
      ((if w.atLineStart then w.indentation unit ++ w.lineMarker else []) ++ [c]).map .char := by
  simp only [emitInLine]
  split_ifs
  · show (((w.appendIndentation unit).append w.lineMarker).append [c]).glyphs = _
    rw [glyphs_append, glyphs_append, appendIndentation, glyphs_append]
    simp [indentation]
  · exact w.glyphs_append [c]

/-- What comes in front of the next character: the indentation and the marker of a comment at the
start of a line, and nothing in a line. -/
def lead : List Char := if w.atLineStart then w.indentation unit ++ w.lineMarker else []

/-- Characters in a line that has begun. -/
theorem glyphs_foldl_emitChar {chars : List Char} (hchars : '\n' ∉ chars) {w : Writer}
    (hw : w.atLineStart = false) :
    (chars.foldl (emitChar unit) w).glyphs = w.glyphs ++ chars.map .char ∧
      (chars.foldl (emitChar unit) w).atLineStart = false := by
  induction chars generalizing w with
  | nil => exact ⟨(List.append_nil _).symm, hw⟩
  | cons c chars ih =>
    obtain ⟨hc, hrest⟩ := List.ne_and_not_mem_of_not_mem_cons hchars
    have hfirst : w.emitChar unit c = w.emitInLine unit c := if_neg (Ne.symm hc)
    obtain ⟨hglyphs, hstart⟩ := ih hrest (w := w.emitInLine unit c) rfl
    rw [List.foldl_cons, hfirst]
    refine ⟨?_, hstart⟩
    rw [hglyphs, glyphs_emitInLine, hw]
    simp

/-- Text without line breaks stays in its line. -/
theorem glyphs_emit_of_notMem {s : String} (hs : s ≠ "") (hline : '\n' ∉ s.toList) :
    (w.emit unit s).glyphs = w.glyphs ++ (w.lead unit ++ s.toList).map .char ∧
      (w.emit unit s).atLineStart = false := by
  obtain ⟨c, cs, hcs⟩ := List.exists_cons_of_ne_nil (mt String.toList_eq_nil_iff.1 hs)
  rw [hcs] at hline
  obtain ⟨hc, hrest⟩ := List.ne_and_not_mem_of_not_mem_cons hline
  have hfirst : w.emit unit s = cs.foldl (emitChar unit) (w.emitInLine unit c) := by
    rw [emit, hcs, List.foldl_cons, emitChar, if_neg (Ne.symm hc)]
  obtain ⟨hglyphs, hstart⟩ := glyphs_foldl_emitChar unit hrest (w := w.emitInLine unit c) rfl
  rw [hfirst, hglyphs, glyphs_emitInLine, hcs]
  exact ⟨by simp [lead], hstart⟩

/-- A character is written, maybe behind others that its line starts with. -/
theorem exists_glyphs_emitChar (c : Char) :
    ∃ chars : List Char, (w.emitChar unit c).glyphs = w.glyphs ++ (chars ++ [c]).map .char := by
  rw [emitChar]
  split_ifs with hc
  · rw [hc]
    exact ⟨_, w.glyphs_emitNewline unit⟩
  · exact ⟨_, w.glyphs_emitInLine unit c⟩

/-- Text is written, and not nothing for a text that is not empty. -/
theorem exists_glyphs_emit (s : String) :
    ∃ chars : List Char, (w.emit unit s).glyphs = w.glyphs ++ chars.map .char ∧
      (chars = [] → s = "") := by
  have hfold : ∀ (cs : List Char) (w : Writer), ∃ chars : List Char,
      (cs.foldl (emitChar unit) w).glyphs = w.glyphs ++ chars.map .char ∧
        (chars = [] → cs = []) := by
    intro cs
    induction cs with
    | nil => exact fun w => ⟨[], (List.append_nil _).symm, fun _ => rfl⟩
    | cons c cs ih =>
      intro w
      obtain ⟨first, hfirst⟩ := exists_glyphs_emitChar unit w c
      obtain ⟨others, hothers, -⟩ := ih (w.emitChar unit c)
      refine ⟨first ++ [c] ++ others, ?_, by simp⟩
      rw [List.foldl_cons, hothers, hfirst, List.append_assoc, ← List.map_append]
  obtain ⟨chars, hchars, hnil⟩ := hfold s.toList w
  exact ⟨chars, hchars, fun h => String.toList_eq_nil_iff.1 (hnil h)⟩

theorem continues_emit (s : String) : w.Continues (w.emit unit s) := by
  obtain ⟨chars, hchars, -⟩ := exists_glyphs_emit unit w s
  exact ⟨chars, hchars⟩

theorem continues_endLine : w.Continues (w.endLine unit) := by
  rw [endLine]
  split_ifs
  · exact continues_emit unit w _
  · exact .refl w

theorem continues_blankLine : w.Continues (w.blankLine unit) := by
  simp only [blankLine]
  split_ifs
  · exact (continues_endLine unit w).trans (continues_emit unit _ _)
  · exact continues_endLine unit w
  · exact .refl w

/-! ### Operations -/

end Writer

/-- The operations that may write a break point. -/
def LayoutOp.isBreakable : LayoutOp → Bool
  | .wrap => true
  | .comma => true
  | .wrapTight => true
  | _ => false

namespace Writer

variable (unit : List Char) (w : Writer)

/-- All other operations only write characters. -/
theorem continues_step {op : LayoutOp} (h : op.isBreakable = false) :
    w.Continues (w.step unit op) := by
  cases op with
  | text s => exact continues_emit unit w s
  | indent levels => exact .refl w
  | unindent levels => exact .refl w
  | beginStatement => exact .refl w
  | endStatement => exact .refl w
  | wrap => cases h
  | comma => cases h
  | wrapTight => cases h
  | blankLine => exact continues_blankLine unit w
  | endLine => exact continues_endLine unit w
  | openDoc => exact continues_emit unit w _
  | closeDoc =>
    exact (continues_endLine unit w).trans
      (continues_emit unit { w.endLine unit with inDoc := false } _)
  | openComment => exact .refl w
  | closeComment => exact continues_endLine unit w
  | suspend => exact .refl w
  | resume => exact .refl w

/-- A space at which the line may break is a break point, or text in comments. -/
theorem glyphs_wrap :
    (∃ b, (w.wrap unit).glyphs = w.glyphs ++ [.point b]) ∨
      ∃ chars : List Char, chars ≠ [] ∧ (w.wrap unit).glyphs = w.glyphs ++ chars.map .char := by
  rw [wrap]
  split_ifs
  · obtain ⟨chars, hchars, hnil⟩ := exists_glyphs_emit unit w " "
    exact .inr ⟨chars, fun h => absurd (hnil h) (by decide), hchars⟩
  · exact .inl ⟨_, w.glyphs_appendPoint true⟩

/-- A break point without width is nothing in comments. -/
theorem glyphs_wrapTight :
    (∃ b, (w.step unit .wrapTight).glyphs = w.glyphs ++ [.point b]) ∨
      (w.step unit .wrapTight).glyphs = w.glyphs := by
  rw [step]
  split_ifs
  · exact .inr rfl
  · exact .inl ⟨_, w.glyphs_appendPoint false⟩

/-- No operation takes back what has been written. -/
theorem glyphs_prefix_step (op : LayoutOp) : w.glyphs <+: (w.step unit op).glyphs := by
  have hwrap : ∀ w : Writer, w.glyphs <+: (w.wrap unit).glyphs := by
    intro w
    rcases w.glyphs_wrap unit with ⟨b, h⟩ | ⟨chars, -, h⟩
    · exact ⟨_, h.symm⟩
    · exact ⟨_, h.symm⟩
  by_cases hop : op.isBreakable = false
  · obtain ⟨chars, hchars⟩ := w.continues_step unit hop
    exact ⟨_, hchars.symm⟩
  · cases op with
    | wrap => exact hwrap w
    | comma =>
      obtain ⟨chars, hchars⟩ := w.continues_emit unit ","
      exact List.IsPrefix.trans ⟨_, hchars.symm⟩ (hwrap _)
    | wrapTight =>
      rcases w.glyphs_wrapTight unit with ⟨b, h⟩ | h
      · exact ⟨_, h.symm⟩
      · exact h ▸ List.prefix_rfl
    | _ => exact absurd rfl hop

end Writer

/-- The characters and break points that are written for a list of operations. -/
def writtenGlyphs (unit : List Char) (ops : List LayoutOp) : List Glyph :=
  (Writer.start.run unit ops).glyphs

section Written

variable (unit : List Char)

theorem writtenGlyphs_append_singleton (ops : List LayoutOp) (op : LayoutOp) :
    writtenGlyphs unit (ops ++ [op]) = ((Writer.start.run unit ops).step unit op).glyphs := by
  rw [writtenGlyphs, Writer.run_append]
  rfl

/-- Operations add to what is written. -/
theorem writtenGlyphs_prefix_append (ops more : List LayoutOp) :
    writtenGlyphs unit ops <+: writtenGlyphs unit (ops ++ more) := by
  induction more using List.reverseRecOn with
  | nil => simp
  | append_singleton more op ih =>
    rw [← List.append_assoc, writtenGlyphs_append_singleton]
    exact ih.trans (Writer.glyphs_prefix_step unit _ op)

/-- Code asks for no two break points side by side: between two of them something is written. -/
def WrapsApart (ops : List LayoutOp) : Prop :=
  ∀ before between behind, ops = before ++ .wrap :: (between ++ .wrap :: behind) → ∀ b b',
    writtenGlyphs unit (before ++ .wrap :: (between ++ [.wrap])) ≠
      writtenGlyphs unit before ++ [.point b, .point b']

variable {unit}

theorem WrapsApart.left {ops more : List LayoutOp} (h : WrapsApart unit (ops ++ more)) :
    WrapsApart unit ops := by
  intro before between behind hops
  exact h before between (behind ++ more) (by simp [hops])

/-- If no two break points at all stand side by side, code asks for no such ones. -/
theorem WrapsApart.of_pointsApart {ops : List LayoutOp} (h : PointsApart (writtenGlyphs unit ops)) :
    WrapsApart unit ops := by
  rintro before between behind rfl b b' hwritten
  have hops : before ++ .wrap :: (between ++ [.wrap]) ++ behind =
      before ++ .wrap :: (between ++ .wrap :: behind) := by simp
  obtain ⟨rest, hrest⟩ :=
    writtenGlyphs_prefix_append unit (before ++ .wrap :: (between ++ [.wrap])) behind
  rw [hops, hwritten, List.append_assoc] at hrest
  have hpoints : PointsApart (.point b :: .point b' :: rest) :=
    PointsApart.suffix (hrest ▸ h) (List.suffix_append _ _)
  exact Bool.noConfusion hpoints.startsWithPoint_eq_false

end Written

/-- The text of a writer is what it has written, with its break points placed. -/
theorem Writer.fill_atoms_eq_placed (options : FormatOptions) (w : Writer) :
    fill options.columnLimit options.indent.unit w.atoms.reverse =
      String.ofList (placed options.columnLimit options.indent.unit [] w.glyphs) := by
  rw [fill, (Fill.sound_start options.columnLimit).text_foldl_step
    options.indent.newline_not_mem_unit w.atoms.reverse]
  rfl

/-- The text of a list of operations is what is written for them, with what becomes of its break
points. -/
theorem layout_eq_itemsText (options : FormatOptions) (ops : List LayoutOp) :
    layout options ops = String.ofList (itemsText options.indent.unit
      (decided options.columnLimit options.indent.unit []
        (writtenGlyphs options.indent.unit ops))) := by
  rw [layout, Writer.fill_atoms_eq_placed, placed_eq_append_itemsText, List.nil_append]
  rfl

/-- Operations that only write characters are written in one piece. -/
theorem exists_layout_chars (options : FormatOptions) {before ops : List LayoutOp}
    {chars : List Char}
    (h : writtenGlyphs options.indent.unit (before ++ ops) =
      writtenGlyphs options.indent.unit before ++ chars.map .char) (after : List LayoutOp) :
    ∃ front back : List Item,
      front.map Item.glyph = writtenGlyphs options.indent.unit before ∧
        layout options (before ++ ops ++ after) =
          String.ofList (itemsText options.indent.unit front ++ chars ++
            itemsText options.indent.unit back) := by
  obtain ⟨rest, hrest⟩ := writtenGlyphs_prefix_append options.indent.unit (before ++ ops) after
  obtain ⟨front, back, hdecided, hfront, -⟩ := exists_decided_append_chars options.columnLimit
    options.indent.unit [] (writtenGlyphs options.indent.unit before) chars rest
  refine ⟨front, back, hfront, ?_⟩
  rw [layout_eq_itemsText, ← hrest, h, List.append_assoc, hdecided, itemsText_append,
    itemsText_append, itemsText_chars, List.append_assoc]

/-- Text without line breaks is written in one piece, behind what has been written before and the
indentation and marker of its line. -/
theorem exists_layout_text (options : FormatOptions) (before after : List LayoutOp) {s : String}
    (hs : s ≠ "") (hline : '\n' ∉ s.toList) :
    ∃ front back : List Item,
      front.map Item.glyph = writtenGlyphs options.indent.unit before ++
        ((Writer.start.run options.indent.unit before).lead options.indent.unit).map .char ∧
      layout options (before ++ .text s :: after) =
        String.ofList (itemsText options.indent.unit front) ++ s ++
          String.ofList (itemsText options.indent.unit back) := by
  have hemit := Writer.glyphs_emit_of_notMem options.indent.unit
    (Writer.start.run options.indent.unit before) hs hline
  obtain ⟨rest, hrest⟩ := writtenGlyphs_prefix_append options.indent.unit (before ++ [.text s]) after
  have hwritten : writtenGlyphs options.indent.unit (before ++ .text s :: after) =
      writtenGlyphs options.indent.unit before ++
        ((Writer.start.run options.indent.unit before).lead options.indent.unit).map .char ++
          (s.toList.map .char ++ rest) := by
    rw [List.append_cons, ← hrest, writtenGlyphs_append_singleton, Writer.step, hemit.1]
    simp [writtenGlyphs]
  obtain ⟨front, back, hdecided, hfront, -⟩ := exists_decided_append_chars options.columnLimit
    options.indent.unit [] (writtenGlyphs options.indent.unit before ++
      ((Writer.start.run options.indent.unit before).lead options.indent.unit).map .char)
    s.toList rest
  refine ⟨front, back, hfront, ?_⟩
  rw [layout_eq_itemsText, hwritten, hdecided, itemsText_append, itemsText_append, itemsText_chars,
    String.ofList_append, String.ofList_append, String.ofList_toList, String.append_assoc]

end KotlinSource
