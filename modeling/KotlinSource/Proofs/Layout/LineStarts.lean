import KotlinSource.Proofs.Layout.Modes

/-!
# Where lines start

A writer that takes its next character for the start of a line has ended the line before, apart from
break points that have been asked for since.  These hold no text: whatever becomes of them, they
write spaces or indentation.  So what is written at the start of a line has only blanks in front of
it in its line.  Line comments are the exception, as they start a line by themselves.

A writer that has written something can end its line whenever it is asked to.

## Main definitions

* `IsBlank`, `isSeen`: the characters of indentation, and those that are seen.
* `EndsLine`: text with nothing but break points in its last line.
* `Writer.EndsLines`: a writer that starts lines only where lines have ended.

## Main results

* `Writer.EndsLines.step`: all operations but the start of line comments keep to that.
* `Writer.atLineStart_endLine`, `Writer.atLineStart_blankLine`: writers that end their line.
* `exists_layout_lineStart`: what is written at the start of a line, in the text.
-/

namespace KotlinSource

/-! ### Blanks -/

/-- The characters of indentation. -/
def IsBlank (c : Char) : Prop := c = ' ' ∨ c = '\t'

/-- The characters that are neither blank nor a line break. -/
def isSeen (c : Char) : Bool := c != ' ' && c != '\t' && c != '\n'

theorem Indent.isBlank_of_mem_unit {i : Indent} {c : Char} (h : c ∈ i.unit) : IsBlank c := by
  cases i with
  | spaces width => exact .inl (List.eq_of_mem_replicate h)
  | tab => exact .inr (List.mem_singleton.1 h)

theorem Indent.isBlank_of_mem_levels {i : Indent} {level : Nat} {c : Char}
    (h : c ∈ (List.replicate level i.unit).flatten) : IsBlank c := by
  obtain ⟨l, hl, hc⟩ := List.mem_flatten.1 h
  rw [List.eq_of_mem_replicate hl] at hc
  exact isBlank_of_mem_unit hc

/-- Whatever becomes of a break point, it writes blanks and line breaks. -/
theorem Decision.isBlank_or_eq_newline {i : Indent} {b : Break} {d : Decision} {c : Char}
    (h : c ∈ d.chars i.unit b) : IsBlank c ∨ c = '\n' := by
  cases d with
  | dropped => simp [Decision.chars] at h
  | kept =>
    rw [Decision.chars, Break.unbroken] at h
    split_ifs at h
    · exact .inl (.inl (List.mem_singleton.1 h))
    · simp at h
  | broken =>
    rcases List.mem_cons.1 h with hc | hc
    · exact .inr hc
    · exact .inl (Indent.isBlank_of_mem_levels hc)

/-! ### Texts that end their last line -/

/-- Text with nothing but break points in its last line. -/
def EndsLine (gs : List Glyph) : Prop :=
  ∃ front points : List Glyph, gs = front ++ points ∧ (∀ g ∈ points, g.isPoint = true) ∧
    (front = [] ∨ ∃ before, front = before ++ [.char '\n'])

theorem endsLine_nil : EndsLine [] := ⟨[], [], rfl, by simp, .inl rfl⟩

theorem endsLine_append_newline (gs : List Glyph) : EndsLine (gs ++ [.char '\n']) :=
  ⟨gs ++ [.char '\n'], [], (List.append_nil _).symm, by simp, .inr ⟨gs, rfl⟩⟩

theorem EndsLine.append_point {gs : List Glyph} (h : EndsLine gs) (b : Break) :
    EndsLine (gs ++ [.point b]) := by
  obtain ⟨front, points, rfl, hpoints, hfront⟩ := h
  refine ⟨front, points ++ [.point b], List.append_assoc .., ?_, hfront⟩
  exact List.forall_mem_append.2 ⟨hpoints, List.forall_mem_singleton.2 rfl⟩

theorem mem_of_mem_lastLine {c : Char} {chars : List Char} (h : c ∈ lastLine chars) :
    c ∈ chars ∧ c ≠ '\n' := by
  have hmem := List.mem_reverse.1 h
  exact ⟨List.mem_reverse.1 ((List.takeWhile_sublist _).subset hmem),
    by simpa using List.mem_takeWhile_imp hmem⟩

/-- What stands behind a line break holds the last line. -/
theorem mem_of_mem_lastLine_append_newline {c : Char} {front chars : List Char}
    (h : c ∈ lastLine (front ++ '\n' :: chars)) : c ∈ chars ∧ c ≠ '\n' := by
  rw [lastLine_append_of_mem List.mem_cons_self] at h
  obtain ⟨hmem, hc⟩ := mem_of_mem_lastLine h
  exact ⟨(List.mem_cons.1 hmem).resolve_left hc, hc⟩

/-- Behind a text that ends its last line, indentation has only blanks in front of it. -/
theorem EndsLine.isBlank_of_mem_lastLine {i : Indent} {gs : List Glyph} (h : EndsLine gs)
    {level : Nat} {items : List Item}
    (hitems : items.map Item.glyph = gs ++ (List.replicate level i.unit).flatten.map .char)
    {c : Char} (hc : c ∈ lastLine (itemsText i.unit items)) : IsBlank c := by
  obtain ⟨front, points, rfl, hpoints, hfront⟩ := h
  obtain ⟨ended, spaces, rfl, hended, hspaces⟩ := List.map_eq_append_iff.1 hitems
  obtain ⟨done, undecided, rfl, hdone, hundecided⟩ := List.map_eq_append_iff.1 hended
  -- behind the last line break there are only break points and the indentation
  have hblank : ∀ c ∈ itemsText i.unit (undecided ++ spaces), IsBlank c ∨ c = '\n' := by
    rw [itemsText_append, eq_chars_of_map_glyph hspaces, itemsText_chars]
    intro c hmem
    rcases List.mem_append.1 hmem with hmem | hmem
    · obtain ⟨item, hitem, hchars⟩ := List.mem_flatMap.1 hmem
      have hpoint := hpoints item.glyph (hundecided ▸ List.mem_map_of_mem hitem)
      cases item with
      | char c => cases hpoint
      | point b d => exact Decision.isBlank_or_eq_newline hchars
    · exact .inl (Indent.isBlank_of_mem_levels hmem)
  have hmem : c ∈ itemsText i.unit (undecided ++ spaces) ∧ c ≠ '\n' := by
    rw [List.append_assoc, itemsText_append] at hc
    rcases hfront with rfl | ⟨before, rfl⟩
    · rw [List.map_eq_nil_iff.1 hdone] at hc
      exact mem_of_mem_lastLine hc
    · obtain ⟨first, last, rfl, -, hlast⟩ := List.map_eq_append_iff.1 hdone
      have hnewline : last = [.char '\n'] := @eq_chars_of_map_glyph _ ['\n'] hlast
      rw [hnewline, itemsText_append, List.append_assoc] at hc
      exact mem_of_mem_lastLine_append_newline hc
  exact (hblank c hmem.1).resolve_right hmem.2

namespace Writer

/-! ### Writers that start lines where lines end -/

/-- A writer that takes its next character for the start of a line only where one has ended. -/
def EndsLines (w : Writer) : Prop := w.atLineStart = true → EndsLine w.glyphs

theorem endsLines_start : start.EndsLines := fun h => Bool.noConfusion h

variable (unit : List Char) {w : Writer}

theorem endsLines_emitNewline (w : Writer) : (w.emitNewline unit).EndsLines := by
  intro _
  rw [glyphs_emitNewline, List.map_append, ← List.append_assoc]
  exact endsLine_append_newline _

theorem endsLines_emitChar (w : Writer) (c : Char) : (w.emitChar unit c).EndsLines := by
  rw [emitChar]
  split_ifs
  · exact w.endsLines_emitNewline unit
  · exact fun hstart => Bool.noConfusion hstart

theorem EndsLines.emit (h : w.EndsLines) (s : String) : (w.emit unit s).EndsLines := by
  rw [Writer.emit]
  induction s.toList generalizing w with
  | nil => exact h
  | cons c cs ih => exact ih (w.endsLines_emitChar unit c)

theorem EndsLines.endLine (h : w.EndsLines) : (w.endLine unit).EndsLines := by
  rw [Writer.endLine]
  split_ifs
  · exact h.emit unit _
  · exact h

theorem EndsLines.blankLine (h : w.EndsLines) : (w.blankLine unit).EndsLines := by
  simp only [Writer.blankLine]
  split_ifs
  · exact (h.endLine unit).emit unit _
  · exact h.endLine unit
  · exact h

theorem EndsLines.appendPoint (h : w.EndsLines) (wide : Bool) : (w.appendPoint wide).EndsLines := by
  intro hstart
  rw [glyphs_appendPoint]
  exact (h hstart).append_point _

theorem EndsLines.wrap (h : w.EndsLines) : (w.wrap unit).EndsLines := by
  rw [Writer.wrap]
  split_ifs
  · exact h.emit unit _
  · exact h.appendPoint true

/-- All operations but the start of line comments start lines only where lines have ended. -/
theorem EndsLines.step (h : w.EndsLines) {op : LayoutOp} (hop : op ≠ .openComment) :
    (w.step unit op).EndsLines := by
  cases op with
  | text s => exact h.emit unit s
  | wrap => exact h.wrap unit
  | comma => exact (h.emit unit ",").wrap unit
  | wrapTight =>
    rw [Writer.step]
    split_ifs
    · exact h
    · exact h.appendPoint false
  | blankLine => exact h.blankLine unit
  | endLine => exact h.endLine unit
  | openDoc => exact h.emit unit "/**\n"
  | closeDoc =>
    have hclosed : ({ w.endLine unit with inDoc := false } : Writer).EndsLines := h.endLine unit
    exact hclosed.emit unit " */\n"
  | openComment => exact absurd rfl hop
  | closeComment => exact h.endLine unit
  | _ => exact h

/-! ### Writers that have written something -/

theorem started_emit (hw : w.started = true) (s : String) : (w.emit unit s).started = true := by
  have hchar : ∀ (w : Writer) (c : Char), (w.emitChar unit c).started = true := by
    intro w c
    rw [emitChar]
    split_ifs <;> rfl
  rw [emit]
  induction s.toList generalizing w with
  | nil => exact hw
  | cons c cs ih => exact ih (hchar w c)

theorem started_endLine (hw : w.started = true) : (w.endLine unit).started = true := by
  rw [endLine]
  split_ifs
  · exact started_emit unit hw _
  · exact hw

theorem started_blankLine (hw : w.started = true) : (w.blankLine unit).started = true := by
  simp only [blankLine, if_pos hw]
  split_ifs
  · exact started_emit unit (started_endLine unit hw) _
  · exact started_endLine unit hw

theorem started_wrap (hw : w.started = true) : (w.wrap unit).started = true := by
  rw [wrap]
  split_ifs
  · exact started_emit unit hw _
  · exact hw

/-- What has been written stays. -/
theorem started_step (hw : w.started = true) (op : LayoutOp) : (w.step unit op).started = true := by
  cases op with
  | text s => exact started_emit unit hw s
  | wrap => exact started_wrap unit hw
  | comma => exact started_wrap unit (started_emit unit hw ",")
  | wrapTight =>
    rw [step]
    split_ifs <;> exact hw
  | blankLine => exact started_blankLine unit hw
  | endLine => exact started_endLine unit hw
  | openDoc => exact started_emit unit hw "/**\n"
  | closeDoc =>
    exact started_emit unit (w := { w.endLine unit with inDoc := false })
      (started_endLine unit hw) _
  | closeComment => exact started_endLine unit hw
  | _ => exact hw

theorem started_emit_newline (w : Writer) (s : String) :
    (w.emit unit (s ++ "\n")).started = true := by
  rw [emit_newline]
  rfl

/-- A writer that has written something ends its line when it is asked to. -/
theorem atLineStart_endLine (hw : w.started = true) : (w.endLine unit).atLineStart = true := by
  rw [endLine, hw, Bool.true_and]
  split_ifs with hline
  · rfl
  · simpa using hline

theorem atLineStart_blankLine (hw : w.started = true) : (w.blankLine unit).atLineStart = true := by
  simp only [blankLine, if_pos hw]
  split_ifs
  · rfl
  · exact atLineStart_endLine unit hw

/-- Documentation ends its last line. -/
theorem atLineStart_closeDoc (w : Writer) : (w.step unit .closeDoc).atLineStart = true :=
  atLineStart_emit_newline (w := { w.endLine unit with inDoc := false }) unit " */"

end Writer

/-! ### The text at the start of a line -/

/-- What is written at the start of a line has nothing but blanks in front of it in its line. -/
theorem exists_layout_lineStart (options : FormatOptions) {ops rest : List LayoutOp}
    (hends : EndsLine (writtenGlyphs options.indent.unit ops)) {level : Nat} {chars : List Char}
    {gs : List Glyph}
    (h : writtenGlyphs options.indent.unit (ops ++ rest) =
      writtenGlyphs options.indent.unit ops ++
        ((List.replicate level options.indent.unit).flatten ++ chars).map .char ++ gs) :
    ∃ front back : List Item,
      front.map Item.glyph = writtenGlyphs options.indent.unit ops ++
        (List.replicate level options.indent.unit).flatten.map .char ∧
      layout options (ops ++ rest) = String.ofList
        (itemsText options.indent.unit front ++ chars ++ itemsText options.indent.unit back) ∧
      ∀ c ∈ lastLine (itemsText options.indent.unit front), IsBlank c := by
  obtain ⟨front, back, hdecided, hfront, -⟩ := exists_decided_append_chars options.columnLimit
    options.indent.unit [] (writtenGlyphs options.indent.unit ops ++
      (List.replicate level options.indent.unit).flatten.map .char) chars gs
  refine ⟨front, back, hfront, ?_, fun c hc => hends.isBlank_of_mem_lastLine hfront hc⟩
  have hwritten : writtenGlyphs options.indent.unit (ops ++ rest) =
      writtenGlyphs options.indent.unit ops ++
        (List.replicate level options.indent.unit).flatten.map .char ++
          (chars.map .char ++ gs) := by
    rw [h]
    simp only [List.map_append, List.append_assoc]
  rw [layout_eq_itemsText, hwritten, hdecided, itemsText_append, itemsText_append, itemsText_chars,
    List.append_assoc]

end KotlinSource
