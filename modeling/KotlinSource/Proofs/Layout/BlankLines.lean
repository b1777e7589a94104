import KotlinSource.Proofs.Layout.WholeLines
import KotlinSource.Proofs.Layout.Modes

/-!
# Blank lines

A writer counts the line breaks at the end of its text, and knows whether it is at the start of a
line and whether it has written anything.  It keeps these by hand while its text passes through a
filler, which holds text back, drops break points in front of line breaks and breaks lines on its
own.  Outside of comments they still say what the text in the end is like: a line break is written
whatever break point stands in front of it, and a break point at the end writes nothing.

The one exception are two spaces at which the line may break with nothing in between, as the first
one is then written although no text stands behind it.

## Main definitions

* `newlinesAtEnd`: the number of line breaks at the end of a text.
* `Writer.output`: the text that comes out if nothing else is written.
* `Writer.Tracks`: a writer that knows how its text ends.
* `LayoutOp.isPlain`, `WrapsSpaced`: the operations outside of comments, and lists of them with text
  between any two spaces at which the line may break.

## Main results

* `placed_append_newline_end`, `placed_append_point`: line breaks and break points at the end.
* `Writer.Tracks.step`, `Writer.tracks_run`: what a writer knows stays right.
* `Writer.Tracks.output_blankLine`: a blank line fills up to two line breaks.
* `FillingWriter.blankLine_collapses`: what a writer counts, and what a blank line does.
-/

namespace KotlinSource

/-! ### Line breaks at the end of a text -/

/-- The number of line breaks at the end of a text. -/
def newlinesAtEnd (chars : List Char) : Nat := (chars.reverse.takeWhile (· == '\n')).length

@[simp] theorem newlinesAtEnd_nil : newlinesAtEnd [] = 0 := rfl

@[simp] theorem newlinesAtEnd_append_newline (chars : List Char) :
    newlinesAtEnd (chars ++ ['\n']) = newlinesAtEnd chars + 1 := by
  simp [newlinesAtEnd]

@[simp] theorem newlinesAtEnd_append_replicate (chars : List Char) (n : Nat) :
    newlinesAtEnd (chars ++ List.replicate n '\n') = newlinesAtEnd chars + n := by
  induction n with
  | zero => simp
  | succ n ih =>
    rw [List.replicate_succ', ← List.append_assoc, newlinesAtEnd_append_newline, ih, Nat.add_assoc]

theorem newlinesAtEnd_append_of_ne (chars : List Char) {c : Char} (hc : c ≠ '\n') :
    newlinesAtEnd (chars ++ [c]) = 0 := by
  simp [newlinesAtEnd, hc]

theorem newlinesAtEnd_pos_iff {chars : List Char} :
    0 < newlinesAtEnd chars ↔ chars ≠ [] ∧ chars.getLast? = some '\n' := by
  cases chars using List.reverseRecOn with
  | nil => simp
  | append_singleton chars c =>
    by_cases hc : c = '\n'
    · simp [hc]
    · simp [newlinesAtEnd_append_of_ne chars hc, hc]

/-! ### Line breaks and break points at the end -/

section Placed

variable (limit : Nat) (unit before : List Char)

/-- A break point sees the end of the text where it would see a line break or, behind other text,
another break point. -/
theorem placement_append_last (b : Break) {gs : List Glyph} {last : Glyph}
    (hlast : textAhead [last] = []) (hpoint : gs = [] → startsWithPoint [last] = false) :
    placement limit unit before b (gs ++ [last]) = placement limit unit before b gs := by
  have hahead : ∀ gs : List Glyph, textAhead (gs ++ [last]) = textAhead gs := by
    intro gs
    induction gs with
    | nil => exact hlast
    | cons g gs ih =>
      cases g with
      | char c => rw [List.cons_append, textAhead, textAhead, ih]
      | point b => rfl
  have hstarts : startsWithPoint (gs ++ [last]) = startsWithPoint gs := by
    cases gs with
    | nil => exact hpoint rfl
    | cons g gs => cases g <;> rfl
  rw [placement, placement, hahead, hstarts]

/-- A line break at the end changes nothing in front of it: a break point drops there as it does at
the end. -/
theorem placed_append_newline_end (gs : List Glyph) :
    placed limit unit before (gs ++ [.char '\n']) = placed limit unit before gs ++ ['\n'] := by
  induction gs generalizing before with
  | nil => rfl
  | cons g gs ih =>
    cases g with
    | char c => exact ih _
    | point b =>
      rw [List.cons_append, placed, placed, ih,
        placement_append_last limit unit before b rfl fun _ => rfl]

/-- A break point at the end writes nothing, nor does it change what stands in front of it unless
that is a break point as well. -/
theorem placed_append_point {gs : List Glyph} (hlast : ∀ front b, gs ≠ front ++ [.point b])
    (b : Break) : placed limit unit before (gs ++ [.point b]) = placed limit unit before gs := by
  induction gs generalizing before with
  | nil => simp [placed, placement, textAhead, startsWithPoint]
  | cons g gs ih =>
    have hrest : ∀ front b, gs ≠ front ++ [.point b] := by
      rintro front b rfl
      exact hlast (g :: front) b rfl
    cases g with
    | char c => exact ih _ hrest
    | point b' =>
      have hne : gs ≠ [] := fun hnil => hlast [] b' (by rw [hnil, List.nil_append])
      rw [List.cons_append, placed, placed, ih _ hrest,
        placement_append_last limit unit before b' rfl fun hnil => absurd hnil hne]

end Placed

/-! ### What a writer knows about its text -/

namespace Writer

variable (limit : Nat) (unit : List Char)

/-- The text that comes out if nothing else is written, held back or not. -/
def output (w : Writer) : List Char := placed limit unit [] w.glyphs

theorem text_filled (hunit : '\n' ∉ unit) (w : Writer) :
    (w.filled limit unit).out.text = w.output limit unit :=
  (Fill.sound_start limit).text_foldl_step hunit w.atoms.reverse

/-- A writer outside of comments that knows how its text ends. -/
structure Tracks (w : Writer) : Prop where
  inCode : w.InCode
  started_iff : w.started = true ↔ w.output limit unit ≠ []
  trailing_eq : w.trailing = newlinesAtEnd (w.output limit unit)
  atLineStart_iff : w.atLineStart = true ↔ 0 < newlinesAtEnd (w.output limit unit)

theorem tracks_start : start.Tracks limit unit :=
  have houtput : start.output limit unit = [] := rfl
  ⟨inCode_start, iff_of_false Bool.false_ne_true fun hne => hne houtput, rfl,
    iff_of_false Bool.false_ne_true (Nat.lt_irrefl 0)⟩

namespace Tracks

variable {limit unit} {w : Writer} (h : w.Tracks limit unit)

include h

/-! ### Characters -/

theorem output_emitNewline :
    (w.emitNewline unit).output limit unit = w.output limit unit ++ ['\n'] := by
  rw [output, h.inCode.glyphs_emitNewline, placed_append_newline_end, output]

theorem emitNewline : (w.emitNewline unit).Tracks limit unit := by
  have hmode : (w.emitNewline unit).mode = w.mode := w.mode_emitChar unit '\n'
  have htrailing : (w.emitNewline unit).trailing = w.trailing + 1 := by
    simp [Writer.emitNewline, h.inCode.inDoc, h.inCode.inComment, append]
  constructor
  · exact hmode.trans h.inCode
  · rw [h.output_emitNewline]
    exact iff_of_true rfl (by simp)
  · rw [h.output_emitNewline, newlinesAtEnd_append_newline, htrailing, h.trailing_eq]
  · rw [h.output_emitNewline, newlinesAtEnd_append_newline]
    exact iff_of_true rfl (Nat.succ_pos _)

/-- A character that is no line break is the last one of the text, whatever its line starts with. -/
theorem emitInLine {c : Char} (hc : c ≠ '\n') : (w.emitInLine unit c).Tracks limit unit := by
  have hmode : (w.emitInLine unit c).mode = w.mode := by
    rw [← w.mode_emitChar unit c, emitChar, if_neg hc]
  obtain ⟨front, hfront⟩ := exists_placed_append_chars limit unit [] w.glyphs
    ((if w.atLineStart then w.indentation unit else []) ++ [c])
  have houtput : ∃ front, (w.emitInLine unit c).output limit unit = front ++ [c] := by
    rw [output, h.inCode.glyphs_emitInLine, hfront, ← List.append_assoc]
    exact ⟨_, rfl⟩
  obtain ⟨front, houtput⟩ := houtput
  constructor
  · exact hmode.trans h.inCode
  · rw [houtput]
    exact iff_of_true rfl (by simp)
  · rw [houtput, newlinesAtEnd_append_of_ne front hc]
    rfl
  · rw [houtput, newlinesAtEnd_append_of_ne front hc]
    exact iff_of_false Bool.false_ne_true (Nat.lt_irrefl 0)

theorem emitChar (c : Char) : (w.emitChar unit c).Tracks limit unit := by
  rw [Writer.emitChar]
  split_ifs with hc
  · exact h.emitNewline
  · exact h.emitInLine hc

theorem emit (s : String) : (w.emit unit s).Tracks limit unit := by
  rw [Writer.emit]
  induction s.toList generalizing w with
  | nil => exact h
  | cons c cs ih => exact ih (h.emitChar c)

/-! ### Blank lines -/

theorem endLine : (w.endLine unit).Tracks limit unit := by
  rw [Writer.endLine]
  split_ifs
  · exact h.emit "\n"
  · exact h

theorem blankLine : (w.blankLine unit).Tracks limit unit := by
  simp only [Writer.blankLine]
  split_ifs
  · exact h.endLine.emit "\n"
  · exact h.endLine
  · exact h

theorem blankLine_eq_of_nil (hnil : w.output limit unit = []) : w.blankLine unit = w := by
  rw [Writer.blankLine, if_neg fun hstarted => h.started_iff.1 hstarted hnil]

/-- A line that is ended stays as it is when it is to be ended. -/
theorem endLine_eq_of_pos (hpos : 0 < newlinesAtEnd (w.output limit unit)) :
    w.endLine unit = w := by
  rw [Writer.endLine, h.atLineStart_iff.2 hpos, Bool.not_true, Bool.and_false, if_neg (by decide)]

theorem blankLine_eq_of_two_le (htwo : 2 ≤ newlinesAtEnd (w.output limit unit)) :
    w.blankLine unit = w := by
  have hnot : ¬w.trailing < 2 := by
    rw [h.trailing_eq]
    omega
  simp only [Writer.blankLine, h.endLine_eq_of_pos (by omega), if_neg hnot, ite_self]

/-- A blank line fills up to two line breaks: it ends the line if it is not ended, and leaves one
empty line. -/
theorem output_blankLine (hne : w.output limit unit ≠ [])
    (hlt : newlinesAtEnd (w.output limit unit) < 2) :
    (w.blankLine unit).output limit unit =
      w.output limit unit ++
        List.replicate (2 - newlinesAtEnd (w.output limit unit)) '\n' := by
  have hstarted := h.started_iff.2 hne
  by_cases hpos : 0 < newlinesAtEnd (w.output limit unit)
  · have hone : newlinesAtEnd (w.output limit unit) = 1 := by omega
    have hblank : w.blankLine unit = w.emitNewline unit := by
      simp only [Writer.blankLine, if_pos hstarted, h.endLine_eq_of_pos hpos, h.trailing_eq,
        if_pos hlt]
      rfl
    rw [hblank, h.output_emitNewline, hone]
    rfl
  · have hzero : newlinesAtEnd (w.output limit unit) = 0 := by omega
    have hline : w.atLineStart = false := Bool.eq_false_iff.2 (mt h.atLineStart_iff.1 hpos)
    have hend : w.endLine unit = w.emitNewline unit := by
      rw [Writer.endLine, hstarted, hline]
      rfl
    have htrailing : (w.emitNewline unit).trailing < 2 := by
      rw [h.emitNewline.trailing_eq, h.output_emitNewline, newlinesAtEnd_append_newline, hzero]
      decide
    have hblank : w.blankLine unit = (w.emitNewline unit).emitNewline unit := by
      simp only [Writer.blankLine, if_pos hstarted, hend, if_pos htrailing]
      rfl
    rw [hblank, h.emitNewline.output_emitNewline, h.output_emitNewline, hzero, List.append_assoc]
    rfl

theorem newlinesAtEnd_blankLine (hne : w.output limit unit ≠ [])
    (hlt : newlinesAtEnd (w.output limit unit) < 2) :
    newlinesAtEnd ((w.blankLine unit).output limit unit) = 2 := by
  rw [h.output_blankLine hne hlt, newlinesAtEnd_append_replicate]
  omega

theorem blankLine_blankLine : (w.blankLine unit).blankLine unit = w.blankLine unit := by
  by_cases hnil : w.output limit unit = []
  · rw [h.blankLine_eq_of_nil hnil, h.blankLine_eq_of_nil hnil]
  · by_cases hlt : newlinesAtEnd (w.output limit unit) < 2
    · exact h.blankLine.blankLine_eq_of_two_le (h.newlinesAtEnd_blankLine hnil hlt).ge
    · rw [h.blankLine_eq_of_two_le (not_lt.1 hlt), h.blankLine_eq_of_two_le (not_lt.1 hlt)]

/-! ### Break points -/

/-- A space at which the line may break is not text yet. -/
theorem wrap (hlast : ∀ front b, w.glyphs ≠ front ++ [.point b]) :
    (w.wrap unit).Tracks limit unit := by
  have hwrap : w.wrap unit = w.appendPoint true := by
    rw [Writer.wrap, h.inCode.inDoc, h.inCode.inComment]
    rfl
  have houtput : (w.appendPoint true).output limit unit = w.output limit unit := by
    rw [output, glyphs_appendPoint, placed_append_point _ _ _ hlast, output]
  rw [hwrap]
  constructor
  · exact h.inCode
  · rw [houtput]
    exact h.started_iff
  · rw [houtput]
    exact h.trailing_eq
  · rw [houtput]
    exact h.atLineStart_iff

end Tracks

end Writer

/-! ### Operations -/

/-- The operations outside of comments, with a space at which the line may break as the only kind of
break point. -/
def LayoutOp.isPlain : LayoutOp → Bool
  | .comma => false
  | .wrapTight => false
  | op => !op.isCommentMark

/-- Text that is not empty, or a space at which the line may break. -/
def LayoutOp.isTextOrWrap : LayoutOp → Bool
  | .text s => s != ""
  | .wrap => true
  | _ => false

/-- Between any two spaces at which the line may break there is text: among those spaces and the
texts that are not empty, no two spaces are neighbours. -/
def WrapsSpaced (ops : List LayoutOp) : Prop :=
  (ops.filter LayoutOp.isTextOrWrap).IsChain fun op next => op = .wrap → next ≠ .wrap

instance (ops : List LayoutOp) : Decidable (WrapsSpaced ops) :=
  inferInstanceAs (Decidable (List.IsChain _ _))

theorem WrapsSpaced.left {ops more : List LayoutOp} (h : WrapsSpaced (ops ++ more)) :
    WrapsSpaced ops := by
  rw [WrapsSpaced, List.filter_append] at h
  exact (List.isChain_append.1 h).1

namespace Writer

variable {limit : Nat} {unit : List Char}

theorem Tracks.step {w : Writer} (h : w.Tracks limit unit) {op : LayoutOp}
    (hop : op.isPlain = true)
    (hwrap : op = .wrap → ∀ front b, w.glyphs ≠ front ++ [.point b]) :
    (w.step unit op).Tracks limit unit := by
  cases op with
  | text s => exact h.emit s
  | wrap => exact h.wrap (hwrap rfl)
  | blankLine => exact h.blankLine
  | endLine => exact h.endLine
  | comma => cases hop
  | wrapTight => cases hop
  | openDoc => cases hop
  | closeDoc => cases hop
  | openComment => cases hop
  | closeComment => cases hop
  | _ => exact ⟨h.inCode, h.started_iff, h.trailing_eq, h.atLineStart_iff⟩

/-- What has been written ends with a break point only if no text has been written since the last
request for one. -/
theorem exists_filter_eq_of_endsWithPoint {ops : List LayoutOp}
    (hops : ∀ op ∈ ops, op.isPlain = true) {before : List Glyph} {b : Break}
    (h : (Writer.start.run unit ops).glyphs = before ++ [.point b]) :
    ∃ earlier, ops.filter LayoutOp.isTextOrWrap = earlier ++ [.wrap] := by
  induction ops using List.reverseRecOn generalizing before b with
  | nil => exact absurd h (by simp [run, start, glyphs, KotlinSource.glyphs])
  | append_singleton ops op ih =>
    obtain ⟨hops, hop⟩ := List.forall_mem_append.1 hops
    replace hop := hop op (List.mem_singleton_self op)
    rw [run_append] at h
    rw [List.filter_append]
    by_cases hwrap : op = .wrap
    · exact ⟨ops.filter LayoutOp.isTextOrWrap, by rw [hwrap]; rfl⟩
    -- any other operation writes characters, none of them if the text still ends with the point
    have hbreak : op.isBreakable = false := by cases op <;> trivial
    obtain ⟨chars, hchars⟩ := (Writer.start.run unit ops).continues_step unit hbreak
    obtain ⟨rfl, hglyphs⟩ := eq_of_append_chars_eq_append_point (hchars.symm.trans h)
    have hsilent : op.isTextOrWrap = false := by
      cases op with
      | text s =>
        obtain ⟨written, hwritten, hnil⟩ := exists_glyphs_emit unit (Writer.start.run unit ops) s
        have hsame : _ ++ written.map Glyph.char = _ ++ List.map Glyph.char [] :=
          hwritten.symm.trans hchars
        simpa [LayoutOp.isTextOrWrap] using hnil (by simpa using List.append_cancel_left hsame)
      | wrap => exact absurd rfl hwrap
      | _ => rfl
    rw [List.filter_singleton, hsilent, cond_false, List.append_nil]
    exact ih hops hglyphs

/-- Outside of comments a writer knows how its text ends, behind every list of operations with text
between any two break points. -/
theorem tracks_run {ops : List LayoutOp} (hops : ∀ op ∈ ops, op.isPlain = true)
    (hwraps : WrapsSpaced ops) : (Writer.start.run unit ops).Tracks limit unit := by
  induction ops using List.reverseRecOn with
  | nil => exact tracks_start limit unit
  | append_singleton ops op ih =>
    obtain ⟨hops, hop⟩ := List.forall_mem_append.1 hops
    rw [run_append]
    refine (ih hops hwraps.left).step (hop op (List.mem_singleton_self op)) ?_
    intro hop before b hglyphs
    obtain ⟨earlier, hearlier⟩ := exists_filter_eq_of_endsWithPoint hops hglyphs
    rw [WrapsSpaced, List.filter_append, hearlier, hop, List.append_assoc] at hwraps
    have hneighbours := (List.isChain_append.1 hwraps).2.1
    exact (List.isChain_cons_cons.1 hneighbours).1 rfl rfl

end Writer

/-- **Blank lines collapse.**  For every unit of indentation and column limit and every list of
operations outside of comments, in which between any two spaces at which the line may break there is
text: the text that has come out behind them, with what is still held back, ends in as many line
breaks as the writer counts, and the writer is at the start of a line exactly if there is text and
it ends with a line break.  Then a blank line changes nothing if there is no text or it ends in two
line breaks or more, and otherwise adds the line breaks that are missing to two; a second blank line
changes nothing.

Where spaces at which the line may break stand does not matter otherwise: they may be the first
operations, and the first ones of their line. -/
theorem FillingWriter.blankLine_collapses (options : FormatOptions) (ops : List LayoutOp)
    (hops : ∀ op ∈ ops, op.isPlain = true) (hwraps : WrapsSpaced ops) :
    let limit := options.columnLimit
    let unit := options.indent.unit
    let w := FillingWriter.start.run limit unit ops
    let text := w.out.text
    let blank := w.blankLine limit unit
    layout options ops = String.ofList text ∧
      w.trailing = newlinesAtEnd text ∧
      (w.atLineStart = true ↔ text ≠ [] ∧ text.getLast? = some '\n') ∧
      (text = [] → blank = w) ∧
      (text ≠ [] → newlinesAtEnd text < 2 →
        blank.out.text = text ++ List.replicate (2 - newlinesAtEnd text) '\n' ∧
          newlinesAtEnd blank.out.text = 2) ∧
      (2 ≤ newlinesAtEnd text → blank = w) ∧
      blank.blankLine limit unit = blank := by
  intro limit unit w text blank
  have hunit : '\n' ∉ unit := options.indent.newline_not_mem_unit
  have h : (Writer.start.run unit ops).Tracks limit unit := Writer.tracks_run hops hwraps
  have hw : w = (Writer.start.run unit ops).filled limit unit :=
    (Writer.start.filled_run limit unit ops).symm
  have hblank : blank = ((Writer.start.run unit ops).blankLine unit).filled limit unit := by
    rw [Writer.filled_blankLine, ← hw]
  have htext : text = (Writer.start.run unit ops).output limit unit := by
    rw [← Writer.text_filled limit unit hunit, ← hw]
  have hblankText : blank.out.text =
      ((Writer.start.run unit ops).blankLine unit).output limit unit := by
    rw [hblank, Writer.text_filled limit unit hunit]
  refine ⟨(text_out_run options ops).symm, ?_, ?_, ?_, ?_, ?_, ?_⟩
  · rw [hw, htext]
    exact h.trailing_eq
  · rw [hw, ← newlinesAtEnd_pos_iff, htext]
    exact h.atLineStart_iff
  · intro hnil
    rw [hblank, h.blankLine_eq_of_nil (htext ▸ hnil), hw]
  · intro hne hlt
    rw [hblankText, htext]
    rw [htext] at hne hlt
    exact ⟨h.output_blankLine hne hlt, h.newlinesAtEnd_blankLine hne hlt⟩
  · intro htwo
    rw [hblank, h.blankLine_eq_of_two_le (htext ▸ htwo), hw]
  · rw [hblank, ← Writer.filled_blankLine, h.blankLine_blankLine]

/-- A statement that breaks at its first space, and whose second one is held back in front of the
blank line. -/
theorem FillingWriter.blankLine_collapses_heldSpace :
    let options : FormatOptions := { columnLimit := 10 }
    let ops : List LayoutOp := [.beginStatement, .text "val x =", .wrap, .text "read()",
      .endStatement, .wrap]
    let w := FillingWriter.start.run options.columnLimit options.indent.unit ops
    let blank := w.blankLine options.columnLimit options.indent.unit
    (∀ op ∈ ops, op.isPlain = true) ∧ WrapsSpaced ops ∧
      layout options ops = "val x =\n  read()" ∧ w.trailing = 0 ∧
      String.ofList blank.out.text = "val x =\n  read()\n\n" ∧
      blank.blankLine options.columnLimit options.indent.unit = blank := by
  intro options ops w blank
  have hops : ∀ op ∈ ops, op.isPlain = true := by decide
  have hwraps : WrapsSpaced ops := by decide
  have htext : w.out.text = "val x =\n  read()".toList := by decide
  obtain ⟨hlayout, htrailing, -, -, hblank, -, htwice⟩ :=
    FillingWriter.blankLine_collapses options ops hops hwraps
  have hblankText := (hblank (by rw [htext]; decide) (by rw [htext]; decide)).1
  refine ⟨hops, hwraps, ?_, ?_, ?_, htwice⟩
  · rw [hlayout, htext, String.ofList_toList]
  · rw [htrailing, htext]
    decide
  · rw [hblankText, htext]
    decide

end KotlinSource
