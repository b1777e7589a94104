import KotlinSource.Proofs.Layout.CommentLines

/-!
# Inside and outside of comments

A writer is in documentation, in line comments, in both or in neither.  Only the marks of comments
change that.  Outside of comments lines have no marker: a line break is nothing but that, and what a
line starts with is its indentation.

## Main definitions

* `Writer.mode`: whether a writer is in documentation and whether it is in line comments.
* `Writer.InCode`: a writer outside of comments.
* `Writer.OpensLine`: a writer whose next character stands behind indentation and marker.

## Main results

* `Writer.mode_step`: only the marks of comments change the mode.
* `Writer.OpensLine.glyphs_emit_line`: a line with its end.
-/

namespace KotlinSource

namespace Writer

variable (unit : List Char) (w : Writer)

/-! ### The mode of a writer -/

/-- Whether a writer is in documentation, and whether it is in line comments. -/
def mode : Bool × Bool := (w.inDoc, w.inComment)

theorem mode_emitChar (c : Char) : (w.emitChar unit c).mode = w.mode := by
  simp only [emitChar, emitNewline, emitInLine]
  split_ifs <;> rfl

@[simp] theorem mode_emit (s : String) : (w.emit unit s).mode = w.mode := by
  rw [emit]
  induction s.toList generalizing w with
  | nil => rfl
  | cons c cs ih => rw [List.foldl_cons, ih, mode_emitChar]

@[simp] theorem mode_endLine : (w.endLine unit).mode = w.mode := by
  rw [endLine]
  split_ifs
  · exact w.mode_emit unit "\n"
  · rfl

@[simp] theorem mode_blankLine : (w.blankLine unit).mode = w.mode := by
  simp only [blankLine]
  split_ifs
  · exact ((w.endLine unit).mode_emit unit "\n").trans (w.mode_endLine unit)
  · exact w.mode_endLine unit
  · rfl

@[simp] theorem mode_wrap : (w.wrap unit).mode = w.mode := by
  rw [wrap]
  split_ifs
  · exact w.mode_emit unit " "
  · rfl

/-- Only the marks of comments change the mode. -/
theorem mode_step {op : LayoutOp} (h : op.isCommentMark = false) :
    (w.step unit op).mode = w.mode := by
  cases op with
  | text s => exact w.mode_emit unit s
  | wrap => exact w.mode_wrap unit
  | comma => exact ((w.emit unit ",").mode_wrap unit).trans (w.mode_emit unit ",")
  | wrapTight =>
    rw [step]
    split_ifs <;> rfl
  | blankLine => exact w.mode_blankLine unit
  | endLine => exact w.mode_endLine unit
  | openDoc => cases h
  | closeDoc => cases h
  | openComment => cases h
  | closeComment => cases h
  | _ => rfl

variable {w}

theorem lineMarker_congr {w' : Writer} (h : w.mode = w'.mode) : w.lineMarker = w'.lineMarker := by
  obtain ⟨hdoc, hcomment⟩ := Prod.mk.inj h
  rw [lineMarker, lineMarker, hdoc, hcomment]

/-- A writer outside of comments. -/
def InCode (w : Writer) : Prop := w.mode = (false, false)

theorem inCode_start : start.InCode := rfl

namespace InCode

variable (h : w.InCode)

include h

theorem inDoc : w.inDoc = false := congrArg Prod.fst h

theorem inComment : w.inComment = false := congrArg Prod.snd h

theorem lineMarker_eq_nil : w.lineMarker = [] := by
  simp [lineMarker, h.inDoc, h.inComment]

/-- Outside of comments a line break is nothing but that. -/
theorem glyphs_emitNewline : (w.emitNewline unit).glyphs = w.glyphs ++ [.char '\n'] := by
  rw [Writer.glyphs_emitNewline]
  simp [h.inDoc, h.inComment]

/-- Outside of comments a line starts with its indentation. -/
theorem glyphs_emitInLine (c : Char) :
    (w.emitInLine unit c).glyphs = w.glyphs ++
      ((if w.atLineStart then w.indentation unit else []) ++ [c]).map .char := by
  rw [Writer.glyphs_emitInLine, h.lineMarker_eq_nil, List.append_nil]

end InCode

/-! ### The start of a line -/

/-- What comes next stands behind the indentation of the current level and the marker: the next
character starts a line, or there is nothing that it would have in front of it. -/
def OpensLine (w : Writer) : Prop := w.atLineStart = true ∨ w.level = 0 ∧ w.lineMarker = []

theorem opensLine_start : start.OpensLine := .inr ⟨rfl, rfl⟩

theorem OpensLine.lead_eq (h : w.OpensLine) : w.lead unit = w.indentation unit ++ w.lineMarker := by
  rcases h with h | ⟨hlevel, hmarker⟩
  · rw [lead, if_pos h]
  · rw [lead, indentation, hlevel, hmarker]
    split_ifs <;> rfl

theorem emit_newline (s : String) : w.emit unit (s ++ "\n") = (w.emit unit s).emitNewline unit := by
  rw [emit_append]
  rfl

/-- A line break starts a line. -/
theorem atLineStart_emit_newline (s : String) : (w.emit unit (s ++ "\n")).atLineStart = true := by
  rw [emit_newline]
  rfl

/-- A line with its end, behind the indentation and the marker. -/
theorem OpensLine.glyphs_emit_line (h : w.OpensLine) {s : String} (hs : s ≠ "")
    (hline : '\n' ∉ s.toList) :
    (w.emit unit (s ++ "\n")).glyphs =
      w.glyphs ++ (w.indentation unit ++ w.lineMarker ++ s.toList ++ ['\n']).map .char := by
  rw [Writer.glyphs_emit_line unit w hs hline]
  show w.glyphs ++ (w.lead unit ++ (s.toList ++ ['\n'])).map .char = _
  rw [h.lead_eq, List.append_assoc, List.append_assoc, List.append_assoc]

end Writer

end KotlinSource
