import KotlinSource.Proofs.Layout.WrittenGlyphs

/-!
# The lines of comments

In a comment a writer starts every line with indentation and the marker of the comment: `//` in line
comments and ` *` in documentation.  The marker comes with the first character of a line, or with
the line break if the line stays empty, and there are no break points.  This holds as long as no
other comment is opened or closed: the modes of the writer are not stacked, so that behind the end
of a documentation comment it is in no documentation any more.

## Main definitions

* `IsMarkedLine`, `linesText`: lines that start with a marker, and the text of lines.
* `LayoutOp.isCommentMark`: the operations that open and close comments.
* `Writer.Marked`, `Writer.InComment`: a writer inside of a comment.

## Main results

* `Writer.InComment.step`, `Writer.InComment.run`: all other operations keep to the marker.
* `exists_layout_comment`, `exists_layout_documentation`: line comments and documentation in the
  text of a list of operations.
-/

namespace KotlinSource

/-! ### Lines with markers -/

/-- A line that starts with indentation and a marker. -/
def IsMarkedLine (unit marker line : List Char) : Prop :=
  '\n' ∉ line ∧ ∃ level, (List.replicate level unit).flatten ++ marker <+: line

/-- Lines, each with a line break behind it. -/
def linesText (lines : List (List Char)) : List Char := lines.flatMap (· ++ ['\n'])

theorem linesText_append_singleton (lines : List (List Char)) (line : List Char) :
    linesText (lines ++ [line]) = linesText lines ++ line ++ ['\n'] := by
  simp [linesText]

theorem IsMarkedLine.append_singleton {unit marker line : List Char}
    (h : IsMarkedLine unit marker line) {c : Char} (hc : c ≠ '\n') :
    IsMarkedLine unit marker (line ++ [c]) := by
  obtain ⟨hline, level, hstart⟩ := h
  exact ⟨by simp [hline, hc.symm], level, hstart.trans (List.prefix_append _ _)⟩

/-- The operations that open and close comments. -/
def LayoutOp.isCommentMark : LayoutOp → Bool
  | .openDoc => true
  | .closeDoc => true
  | .openComment => true
  | .closeComment => true
  | _ => false

namespace Writer

/-! ### The marker of a writer -/

/-- The marker of the comment that a writer is in. -/
def marker? (w : Writer) : Option (List Char) :=
  if w.inDoc then some [' ', '*'] else if w.inComment then some ['/', '/'] else none

section Markers

variable {w : Writer} {marker : List Char} (h : w.marker? = some marker)

include h

theorem inDoc_or_inComment_of_marker : (w.inDoc || w.inComment) = true := by
  rw [marker?] at h
  split_ifs at h with hdoc hcomment
  · simp [hdoc]
  · simp [hcomment]

theorem emptyLineMarker_of_marker : w.emptyLineMarker = marker := by
  rw [marker?] at h
  rw [emptyLineMarker]
  split_ifs at h ⊢
  · exact Option.some.inj h
  · exact Option.some.inj h

theorem lineMarker_of_marker : w.lineMarker = marker ++ [' '] := by
  rw [marker?] at h
  rw [lineMarker]
  split_ifs at h ⊢
  · rw [← Option.some.inj h]
    rfl
  · rw [← Option.some.inj h]
    rfl

theorem newline_notMem_of_marker : '\n' ∉ marker := by
  rw [marker?] at h
  split_ifs at h
  · simp [← Option.some.inj h]
  · simp [← Option.some.inj h]

end Markers

/-! ### Characters in comments -/

variable {unit marker : List Char} {base : List Glyph} {w : Writer}

/-- A writer in a comment with the given marker.  Since it had written `base`, it has written lines
with the marker and behind them, in the line that is not ended yet, `last`. -/
structure Marked (unit marker : List Char) (base : List Glyph) (lines : List (List Char))
    (last : List Char) (w : Writer) : Prop where
  marker_eq : w.marker? = some marker
  glyphs_eq : w.glyphs = base ++ (linesText lines ++ last).map .char
  isMarkedLine : ∀ line ∈ lines, IsMarkedLine unit marker line
  last_eq_nil : w.atLineStart = true → last = []
  last_isMarkedLine : w.atLineStart = false → IsMarkedLine unit marker last
  atLineStart_of_not_started : w.started = false → w.atLineStart = true

/-- A writer in a comment with the given marker, which since it had written `base` has written lines
with the marker only. -/
def InComment (unit marker : List Char) (base : List Glyph) (w : Writer) : Prop :=
  ∃ lines last, Marked unit marker base lines last w

theorem marker?_emitNewline (unit : List Char) (w : Writer) :
    (w.emitNewline unit).marker? = w.marker? := by
  simp only [emitNewline]
  split_ifs <;> rfl

theorem marker?_emitInLine (unit : List Char) (w : Writer) (c : Char) :
    (w.emitInLine unit c).marker? = w.marker? := by
  simp only [emitInLine]
  split_ifs <;> rfl

variable {lines : List (List Char)} {last : List Char}

/-- A line break ends a line with the marker. -/
theorem Marked.emitNewline (hunit : '\n' ∉ unit) (h : Marked unit marker base lines last w) :
    ∃ line, Marked unit marker base (lines ++ [line]) [] (w.emitNewline unit) := by
  have hended : ∀ line, IsMarkedLine unit marker line →
      (w.emitNewline unit).glyphs = base ++ (linesText lines ++ line ++ ['\n']).map .char →
      Marked unit marker base (lines ++ [line]) [] (w.emitNewline unit) := by
    intro line hline hglyphs
    refine ⟨(marker?_emitNewline unit w).trans h.marker_eq, ?_, ?_, fun _ => rfl, ?_, fun _ => rfl⟩
    · rw [hglyphs, linesText_append_singleton, List.append_nil]
    · exact List.forall_mem_append.2 ⟨h.isMarkedLine, List.forall_mem_singleton.2 hline⟩
    · exact fun hstart => Bool.noConfusion hstart
  cases hstart : w.atLineStart with
  | true =>
    refine ⟨w.indentation unit ++ marker, hended _ ⟨?_, w.level, List.prefix_rfl⟩ ?_⟩
    · simp [indentation, newline_notMem_indentation hunit, newline_notMem_of_marker h.marker_eq]
    · rw [glyphs_emitNewline, inDoc_or_inComment_of_marker h.marker_eq, hstart, h.glyphs_eq,
        emptyLineMarker_of_marker h.marker_eq, h.last_eq_nil hstart]
      simp
  | false =>
    refine ⟨last, hended last (h.last_isMarkedLine hstart) ?_⟩
    rw [glyphs_emitNewline, hstart, h.glyphs_eq]
    simp

/-- A character goes behind the marker. -/
theorem Marked.emitInLine (hunit : '\n' ∉ unit) (h : Marked unit marker base lines last w)
    {c : Char} (hc : c ≠ '\n') :
    ∃ last', Marked unit marker base lines last' (w.emitInLine unit c) := by
  have hlonger : ∀ last', IsMarkedLine unit marker last' →
      (w.emitInLine unit c).glyphs = base ++ (linesText lines ++ last').map .char →
      Marked unit marker base lines last' (w.emitInLine unit c) := by
    intro last' hlast hglyphs
    refine ⟨(marker?_emitInLine unit w c).trans h.marker_eq, hglyphs, h.isMarkedLine, ?_,
      fun _ => hlast, ?_⟩
    · exact fun hstart => Bool.noConfusion hstart
    · exact fun hstarted => Bool.noConfusion hstarted
  cases hstart : w.atLineStart with
  | true =>
    refine ⟨w.indentation unit ++ (marker ++ [' ']) ++ [c], hlonger _ ⟨?_, w.level, ?_⟩ ?_⟩
    · simp [indentation, newline_notMem_indentation hunit, newline_notMem_of_marker h.marker_eq, hc.symm]
    · exact ⟨[' ', c], by simp [indentation]⟩
    · rw [glyphs_emitInLine, hstart, h.glyphs_eq, lineMarker_of_marker h.marker_eq,
        h.last_eq_nil hstart]
      simp
  | false =>
    refine ⟨last ++ [c], hlonger _ ((h.last_isMarkedLine hstart).append_singleton hc) ?_⟩
    rw [glyphs_emitInLine, hstart, h.glyphs_eq]
    simp

/-- Text keeps to the marker. -/
theorem InComment.emit (hunit : '\n' ∉ unit) (h : InComment unit marker base w) (s : String) :
    InComment unit marker base (w.emit unit s) := by
  rw [Writer.emit]
  induction s.toList generalizing w with
  | nil => exact h
  | cons c cs ih =>
    obtain ⟨lines, last, h⟩ := h
    refine ih ?_
    rw [emitChar]
    split_ifs with hc
    · obtain ⟨line, hline⟩ := h.emitNewline hunit
      exact ⟨_, _, hline⟩
    · obtain ⟨last', hlast⟩ := h.emitInLine hunit hc
      exact ⟨_, _, hlast⟩

/-! ### Operations in comments -/

theorem InComment.inDoc_or_inComment (h : InComment unit marker base w) :
    (w.inDoc || w.inComment) = true := by
  obtain ⟨_, _, h⟩ := h
  exact inDoc_or_inComment_of_marker h.marker_eq

theorem InComment.endLine (hunit : '\n' ∉ unit) (h : InComment unit marker base w) :
    InComment unit marker base (w.endLine unit) := by
  rw [Writer.endLine]
  split_ifs
  · exact h.emit hunit "\n"
  · exact h

theorem InComment.blankLine (hunit : '\n' ∉ unit) (h : InComment unit marker base w) :
    InComment unit marker base (w.blankLine unit) := by
  simp only [Writer.blankLine]
  split_ifs
  · exact (h.endLine hunit).emit hunit "\n"
  · exact h.endLine hunit
  · exact h

/-- In a comment a space at which the line might break is a space. -/
theorem InComment.wrap (hunit : '\n' ∉ unit) (h : InComment unit marker base w) :
    InComment unit marker base (w.wrap unit) := by
  rw [Writer.wrap, if_pos h.inDoc_or_inComment]
  exact h.emit hunit " "

/-- The operations that neither open nor close a comment keep to the marker. -/
theorem InComment.step (hunit : '\n' ∉ unit) (h : InComment unit marker base w) {op : LayoutOp}
    (hop : op.isCommentMark = false) : InComment unit marker base (w.step unit op) := by
  cases op with
  | text s => exact h.emit hunit s
  | wrap => exact h.wrap hunit
  | comma => exact (h.emit hunit ",").wrap hunit
  | wrapTight =>
    rw [Writer.step, if_pos h.inDoc_or_inComment]
    exact h
  | blankLine => exact h.blankLine hunit
  | endLine => exact h.endLine hunit
  | openDoc => cases hop
  | closeDoc => cases hop
  | openComment => cases hop
  | closeComment => cases hop
  | _ =>
    -- these change neither the modes of the writer nor what it has written
    obtain ⟨lines, last, h⟩ := h
    exact ⟨lines, last, h.marker_eq, h.glyphs_eq, h.isMarkedLine, h.last_eq_nil,
      h.last_isMarkedLine, h.atLineStart_of_not_started⟩

theorem InComment.run (hunit : '\n' ∉ unit) (h : InComment unit marker base w)
    {ops : List LayoutOp} (hops : ∀ op ∈ ops, op.isCommentMark = false) :
    InComment unit marker base (w.run unit ops) := by
  induction ops generalizing w with
  | nil => exact h
  | cons op ops ih =>
    obtain ⟨hop, hrest⟩ := List.forall_mem_cons.1 hops
    exact ih (h.step hunit hop) hrest

/-! ### The beginning and the end of comments -/

/-- Text and the end of its line, behind the indentation and the marker if it starts a line. -/
theorem glyphs_emit_line (unit : List Char) (w : Writer) {s : String} (hs : s ≠ "")
    (hline : '\n' ∉ s.toList) :
    (w.emit unit (s ++ "\n")).glyphs = w.glyphs ++
      ((if w.atLineStart then w.indentation unit ++ w.lineMarker else []) ++
        (s.toList ++ ['\n'])).map .char := by
  obtain ⟨hglyphs, hstart⟩ := glyphs_emit_of_notMem unit w hs hline
  have hnewline : w.emit unit (s ++ "\n") = (w.emit unit s).emitNewline unit := by
    rw [emit_append]
    rfl
  rw [hnewline, glyphs_emitNewline, hstart, hglyphs]
  simp [lead]

/-- Documentation starts with a line `/**`. -/
theorem exists_glyphs_openDoc (unit : List Char) (w : Writer) :
    ∃ chars : List Char, (w.step unit .openDoc).glyphs =
      w.glyphs ++ (chars ++ ['/', '*', '*']).map .char ++ [.char '\n'] := by
  have hline := w.glyphs_emit_line unit (s := "/**") (by decide) (by decide)
  refine ⟨if w.atLineStart then w.indentation unit ++ w.lineMarker else [], ?_⟩
  exact hline.trans (by simp)

/-- Behind this line the writer is in documentation. -/
theorem inComment_openDoc (unit : List Char) (w : Writer) :
    InComment unit [' ', '*'] (w.step unit .openDoc).glyphs (w.step unit .openDoc) :=
  ⟨[], [], rfl, by simp [linesText], by simp, fun _ => rfl, fun h => Bool.noConfusion h,
    fun _ => rfl⟩

/-- The end of a line in a comment. -/
theorem InComment.exists_marked_endLine (hunit : '\n' ∉ unit) (h : InComment unit marker base w) :
    ∃ lines, Marked unit marker base lines [] (w.endLine unit) ∧
      (w.endLine unit).atLineStart = true := by
  obtain ⟨lines, last, h⟩ := h
  cases hstart : w.atLineStart with
  | true =>
    have hsame : w.endLine unit = w := by rw [Writer.endLine, if_neg (by simp [hstart])]
    rw [hsame]
    exact ⟨lines, h.last_eq_nil hstart ▸ h, hstart⟩
  | false =>
    have hstarted : w.started = true := by
      rw [← Bool.not_eq_false]
      intro hstarted
      exact Bool.noConfusion (hstart.symm.trans (h.atLineStart_of_not_started hstarted))
    have hnewline : w.endLine unit = w.emitNewline unit := by
      rw [Writer.endLine, if_pos (by simp [hstart, hstarted])]
      rfl
    obtain ⟨line, hline⟩ := h.emitNewline hunit
    rw [hnewline]
    exact ⟨_, hline, rfl⟩

end Writer

/-- What documentation ends with: a line ` */`, which in line comments has their marker. -/
def IsDocumentationEnd (unit text : List Char) : Prop :=
  ∃ level, ∃ marker ∈ [[], ['/', '/', ' ']],
    text = (List.replicate level unit).flatten ++ marker ++ [' ', '*', '/', '\n']

namespace Writer

variable {unit : List Char} {base : List Glyph} {w : Writer}

/-- Documentation ends with a line of its own. -/
theorem InComment.exists_glyphs_closeDoc (hunit : '\n' ∉ unit)
    (h : InComment unit [' ', '*'] base w) :
    ∃ lines closing, (∀ line ∈ lines, IsMarkedLine unit [' ', '*'] line) ∧
      IsDocumentationEnd unit closing ∧
      (w.step unit .closeDoc).glyphs = base ++ (linesText lines ++ closing).map .char := by
  obtain ⟨lines, hmarked, hstart⟩ := h.exists_marked_endLine hunit
  have hline := glyphs_emit_line unit { w.endLine unit with inDoc := false } (s := " */")
    (by decide) (by decide)
  refine ⟨lines, _, hmarked.isMarkedLine, ⟨(w.endLine unit).level,
    if (w.endLine unit).inComment then ['/', '/', ' '] else [], ?_, rfl⟩, ?_⟩
  · split_ifs <;> simp
  · refine hline.trans ?_
    rw [if_pos hstart]
    show (w.endLine unit).glyphs ++ _ = _
    rw [hmarked.glyphs_eq]
    simp [lineMarker, indentation]

end Writer

/-! ### Comments in a text -/

theorem layout_eq_placed (options : FormatOptions) (ops : List LayoutOp) :
    layout options ops = String.ofList (placed options.columnLimit options.indent.unit []
      (writtenGlyphs options.indent.unit ops)) := by
  rw [layout, Writer.fill_atoms_eq_placed]
  rfl

/-- The text of a writer that has written no break points is what it has written. -/
theorem Writer.fill_atoms_eq_ofList (options : FormatOptions) {w : Writer} {chars : List Char}
    (h : w.glyphs = chars.map .char) :
    fill options.columnLimit options.indent.unit w.atoms.reverse = String.ofList chars := by
  rw [fill_atoms_eq_placed, h, ← List.append_nil (List.map _ _), placed_chars]
  rfl

/-- Text without break points is written as it is. -/
theorem layout_eq_ofList (options : FormatOptions) {ops : List LayoutOp} {chars : List Char}
    (h : writtenGlyphs options.indent.unit ops = chars.map .char) :
    layout options ops = String.ofList chars := Writer.fill_atoms_eq_ofList options h

/-- Line comments at the top of a text: all their lines have the marker. -/
theorem exists_layout_comment (options : FormatOptions) {comment : List LayoutOp}
    (hcomment : ∀ op ∈ comment, op.isCommentMark = false) (after : List LayoutOp) :
    ∃ lines rest, (∀ line ∈ lines, IsMarkedLine options.indent.unit ['/', '/'] line) ∧
      layout options (.openComment :: comment ++ [.closeComment]) =
        String.ofList (linesText lines) ∧
      layout options (.openComment :: comment ++ [.closeComment] ++ after) =
        String.ofList (linesText lines ++ rest) := by
  have hunit := options.indent.newline_not_mem_unit
  have hopen : Writer.InComment options.indent.unit ['/', '/'] []
      (Writer.start.step options.indent.unit .openComment) :=
    ⟨[], [], rfl, rfl, by simp, fun _ => rfl, fun h => Bool.noConfusion h, fun _ => rfl⟩
  obtain ⟨lines, hmarked, -⟩ := (hopen.run hunit hcomment).exists_marked_endLine hunit
  have hwritten : writtenGlyphs options.indent.unit (.openComment :: comment ++ [.closeComment]) =
      (linesText lines).map .char := by
    rw [writtenGlyphs_append_singleton]
    refine hmarked.glyphs_eq.trans ?_
    rw [List.nil_append, List.append_nil]
  obtain ⟨others, hothers⟩ := writtenGlyphs_prefix_append options.indent.unit
    (.openComment :: comment ++ [.closeComment]) after
  have hchars := placed_chars options.columnLimit options.indent.unit [] (linesText lines)
  refine ⟨lines, itemsText options.indent.unit (decided options.columnLimit options.indent.unit
    (linesText lines) others), hmarked.isMarkedLine, ?_, ?_⟩
  · exact layout_eq_ofList options hwritten
  · rw [layout_eq_placed, ← hothers, hwritten, hchars, placed_eq_append_itemsText]
    rfl

/-- Documentation in a text: the lines between `/**` and ` */` have the marker. -/
theorem exists_layout_documentation (options : FormatOptions) (before : List LayoutOp)
    {doc : List LayoutOp} (hdoc : ∀ op ∈ doc, op.isCommentMark = false) (after : List LayoutOp) :
    ∃ front lines closing rest,
      (∀ line ∈ lines, IsMarkedLine options.indent.unit [' ', '*'] line) ∧
      IsDocumentationEnd options.indent.unit closing ∧
      layout options (before ++ [.openDoc]) = String.ofList (front ++ ['/', '*', '*', '\n']) ∧
      layout options (before ++ [.openDoc] ++ doc ++ [.closeDoc]) =
        String.ofList (front ++ ['/', '*', '*', '\n'] ++ linesText lines ++ closing) ∧
      layout options (before ++ [.openDoc] ++ doc ++ [.closeDoc] ++ after) =
        String.ofList (front ++ ['/', '*', '*', '\n'] ++ linesText lines ++ closing ++ rest) := by
  have hunit := options.indent.newline_not_mem_unit
  obtain ⟨chars, hopen⟩ := (Writer.start.run options.indent.unit before).exists_glyphs_openDoc
    options.indent.unit
  rw [← writtenGlyphs_append_singleton, ← writtenGlyphs] at hopen
  have hinside := (Writer.inComment_openDoc options.indent.unit
    (Writer.start.run options.indent.unit before)).run hunit hdoc
  obtain ⟨lines, closing, hlines, hclosing, hclosed⟩ := hinside.exists_glyphs_closeDoc hunit
  have hwritten : writtenGlyphs options.indent.unit (before ++ [.openDoc] ++ doc ++ [.closeDoc]) =
      writtenGlyphs options.indent.unit (before ++ [.openDoc]) ++
        (linesText lines ++ closing).map .char := by
    rw [writtenGlyphs_append_singleton, writtenGlyphs_append_singleton, Writer.run_append,
      Writer.run_append]
    exact hclosed
  obtain ⟨others, hothers⟩ := writtenGlyphs_prefix_append options.indent.unit
    (before ++ [.openDoc] ++ doc ++ [.closeDoc]) after
  -- the text up to the line break behind `/**` does not depend on what follows
  obtain ⟨front, hfront⟩ := exists_placed_append_chars options.columnLimit options.indent.unit []
    (writtenGlyphs options.indent.unit before) (chars ++ ['/', '*', '*', '\n'])
  have hplaced : ∀ rest, placed options.columnLimit options.indent.unit []
      (writtenGlyphs options.indent.unit (before ++ [.openDoc]) ++ rest) =
        placed options.columnLimit options.indent.unit
          (front ++ chars ++ ['/', '*', '*', '\n']) rest := by
    intro rest
    have hline : (chars ++ ['/', '*', '*']).map Glyph.char ++ [.char '\n'] =
        (chars ++ ['/', '*', '*', '\n']).map .char := by simp
    rw [hopen, List.append_assoc, List.singleton_append, placed_append_newline, List.append_assoc,
      hline, hfront, List.append_assoc]
  refine ⟨front ++ chars, lines, closing, itemsText options.indent.unit
    (decided options.columnLimit options.indent.unit
      (front ++ chars ++ ['/', '*', '*', '\n'] ++ (linesText lines ++ closing)) others),
    hlines, hclosing, ?_, ?_, ?_⟩
  · rw [layout_eq_placed, ← List.append_nil (writtenGlyphs _ _), hplaced]
    rfl
  · rw [layout_eq_placed, hwritten, hplaced, ← List.append_nil (List.map _ _), placed_chars]
    simp [placed]
  · rw [layout_eq_placed, ← hothers, hwritten, List.append_assoc, hplaced, placed_chars,
      placed_eq_append_itemsText]
    simp

end KotlinSource
