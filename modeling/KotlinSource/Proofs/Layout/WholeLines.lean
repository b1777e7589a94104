import KotlinSource.Proofs.Layout.BreakPlacement
import KotlinSource.Layout.Writer
import KotlinSource.Text.Separated
import Mathlib.Logic.Function.Iterate

/-!
# Writing whole lines into the filler

`Writer` goes through a text character by character and collects atoms, which are filled when
everything has been written.  A writer may as well cut a text at its line breaks, hand every line
to the filler in one piece, and let the filler decide about break points while it writes.  This
file defines that writer and shows that the two are the same: behind every list of operations the
second one is in the state of the first one, with the atoms filled.

The filler decides about a break point piece by piece.  That it makes no difference how a text is
cut into pieces is a property of its states, not only of the text that comes out in the end
(`Fill.append_append`); the writer cuts texts into lines and lines into pieces, and needs it for
both.

## Main definitions

* `FillingWriter`: the state of a writer that fills lines while it writes.
* `FillingWriter.line`, `FillingWriter.emit`: the effect of a line and of a text.
* `FillingWriter.step`, `FillingWriter.run`: the effect of one operation and of a list of them.
* `FillingWriter.step?`, `FillingWriter.run?`: the same if levels are machine words.
* `Writer.filled`: a writer with its atoms filled.

## Main results

* `Fill.append_append`: two pieces of text are one piece.
* `FillingWriter.emit_eq_foldl`: whole lines are the same as single characters.
* `Writer.filled_step`, `Writer.filled_run`: both writers go through the same states.
* `Writer.filled_step?`, `Writer.filled_run?`: and so they do if levels are machine words.
* `FillingWriter.emit_emit_of_run`: cutting a text into pieces does not matter.
-/

namespace KotlinSource

namespace Fill

/-! ### Pieces of text in the filler -/

theorem columnBehind_eq (column : Nat) (chars : List Char) :
    columnBehind column chars =
      if '\n' ∈ chars then (lastLine chars).length else column + chars.length := by
  simp [columnBehind, lastLine]

theorem columnBehind_append (column : Nat) (a b : List Char) :
    columnBehind column (a ++ b) = columnBehind (columnBehind column a) b := by
  rw [columnBehind_eq, columnBehind_eq, columnBehind_eq]
  by_cases hb : '\n' ∈ b
  · simp [hb, lastLine_append_of_mem hb]
  · by_cases ha : '\n' ∈ a
    · simp [ha, hb, lastLine_append_of_notMem hb]
    · simp [ha, hb, Nat.add_assoc]

theorem takeWhile_append_of_notMem {a : List Char} (ha : '\n' ∉ a) (b : List Char) :
    (a ++ b).takeWhile (· != '\n') = a ++ b.takeWhile (· != '\n') :=
  List.takeWhile_append_of_pos fun c hc => by simpa using fun e : c = '\n' => ha (e ▸ hc)

theorem takeWhile_append_of_mem {a : List Char} (ha : '\n' ∈ a) (b : List Char) :
    (a ++ b).takeWhile (· != '\n') = a.takeWhile (· != '\n') := by
  obtain ⟨front, behind, rfl⟩ := List.append_of_mem ha
  simp [List.takeWhile_append]

variable (limit : Nat) (unit : List Char) (f : Fill)

theorem write_write (a b : List Char) : (f.write a).write b = f.write (a ++ b) := by
  simp [write, columnBehind_append]

@[simp] theorem append_nil : f.append limit unit [] = f := by
  simp [append]

/-- Hold back more text behind the pending break point. -/
def hold (f : Fill) (chars : List Char) : Fill :=
  { f with held := chars.reverse ++ f.held, column := f.column + chars.length }

/-- Decide the pending break point in front of a line break, with `line` still to be written on the
current line. -/
def decideBefore (line : List Char) : Fill :=
  if line = [] ∧ f.held = [] then f.dropPoint
  else if f.column + line.length ≤ limit then f.keepLine
  else f.breakLine unit

variable {f}

/-- Behind a decided break point text is written as it is. -/
theorem append_of_decided (hp : f.pending = none) (chars : List Char) :
    f.append limit unit chars = f.write chars := by
  by_cases h : chars = []
  · simp [h, append, write, columnBehind]
  · rw [append, if_neg h, if_pos hp]

@[simp] theorem pending_decideBefore (f : Fill) (line : List Char) :
    (f.decideBefore limit unit line).pending = none := by
  rw [decideBefore]
  split_ifs
  · exact pending_dropPoint f
  · exact pending_keepLine f
  · exact pending_breakLine f unit

/-- A line break decides, by the text in front of it. -/
theorem append_of_mem {chars : List Char} (h : '\n' ∈ chars) {p : Break}
    (hp : f.pending = some p) :
    f.append limit unit chars =
      (f.decideBefore limit unit (chars.takeWhile (· != '\n'))).write chars := by
  simp only [append, decideBefore, hp, reduceCtorEq, if_false, if_pos h,
    if_neg (List.ne_nil_of_mem h)]
  split_ifs <;> rfl

/-- Text without a line break is held back if it fits. -/
theorem append_of_notMem {chars : List Char} (h : '\n' ∉ chars) (hne : chars ≠ []) {p : Break}
    (hp : f.pending = some p) :
    f.append limit unit chars =
      if f.column + chars.length ≤ limit then f.hold chars
      else (f.breakLine unit).write chars := by
  simp only [append, hold, hp, reduceCtorEq, if_false, if_neg h, if_neg hne,
    takeWhile_eq_self_of_notMem h]

/-- Text that is held back may be written behind the decision as well. -/
theorem keepLine_hold {chars : List Char} (h : '\n' ∉ chars) {p : Break}
    (hp : f.pending = some p) : (f.hold chars).keepLine = f.keepLine.write chars := by
  simp [keepLine, hold, write, columnBehind, hp, h]

theorem breakLine_hold {chars : List Char} (h : '\n' ∉ chars) {p : Break}
    (hp : f.pending = some p) :
    (f.hold chars).breakLine unit = (f.breakLine unit).write chars := by
  simp only [breakLine, hold, hp, write, columnBehind, if_neg h, List.length_append,
    List.length_reverse, List.append_assoc]
  simp [Nat.add_assoc, Nat.add_comm chars.length]

/-- A piece that fits is held back, and the next piece decides as both of them would. -/
theorem append_hold {a : List Char} (ha : '\n' ∉ a) (hne : a ≠ []) {p : Break}
    (hp : f.pending = some p) (hfits : f.column + a.length ≤ limit) (b : List Char) :
    (f.hold a).append limit unit b = f.append limit unit (a ++ b) := by
  have hheld : (f.hold a).held ≠ [] := by simp [hold, hne]
  have hpending : (f.hold a).pending = some p := hp
  have hcolumn : ∀ line : List Char,
      (f.hold a).column + line.length ≤ limit ↔ f.column + (a ++ line).length ≤ limit := by
    intro line
    simp [hold, Nat.add_assoc]
  by_cases hb : '\n' ∈ b
  · rw [append_of_mem limit unit hb hpending,
      append_of_mem limit unit (List.mem_append_right a hb) hp,
      takeWhile_append_of_notMem ha, ← write_write]
    simp only [decideBefore, hheld, hcolumn, hne, List.append_eq_nil_iff, and_false, false_and,
      if_false]
    split_ifs
    · rw [keepLine_hold ha hp]
    · rw [breakLine_hold unit ha hp]
  · have hab : '\n' ∉ a ++ b := by simp [ha, hb]
    rw [append_of_notMem limit unit hab (by simp [hne]) hp]
    by_cases hbnil : b = []
    · simp [hbnil, hfits]
    · rw [append_of_notMem limit unit hb hbnil hpending]
      simp only [hcolumn]
      split_ifs
      · simp [hold, Nat.add_assoc]
      · rw [breakLine_hold unit ha hp, write_write]

/-- A piece that does not fit breaks the line, whatever comes behind it. -/
theorem append_append_of_not_fits {a : List Char} (ha : '\n' ∉ a) (hne : a ≠ []) {p : Break}
    (hp : f.pending = some p) (hfits : ¬f.column + a.length ≤ limit) (b : List Char) :
    f.append limit unit (a ++ b) = (f.breakLine unit).write (a ++ b) := by
  by_cases hb : '\n' ∈ b
  · have hover : ¬f.column + (a ++ b.takeWhile (· != '\n')).length ≤ limit := by
      rw [List.length_append]
      omega
    rw [append_of_mem limit unit (List.mem_append_right a hb) hp, takeWhile_append_of_notMem ha,
      decideBefore, if_neg (by simp [hne]), if_neg hover]
  · have hover : ¬f.column + (a ++ b).length ≤ limit := by
      rw [List.length_append]
      omega
    rw [append_of_notMem limit unit (by simp [ha, hb]) (by simp [hne]) hp, if_neg hover]

/-- Two pieces of text are one piece, in every state of the filler. -/
theorem append_append (f : Fill) (a b : List Char) :
    f.append limit unit (a ++ b) = (f.append limit unit a).append limit unit b := by
  by_cases hne : a = []
  · simp [hne]
  cases hp : f.pending with
  | none =>
    have hwrite : (f.write a).pending = none := hp
    rw [append_of_decided limit unit hp, append_of_decided limit unit hp,
      append_of_decided limit unit hwrite, write_write]
  | some p =>
    by_cases ha : '\n' ∈ a
    · have hwrite :
          ((f.decideBefore limit unit (a.takeWhile (· != '\n'))).write a).pending = none :=
        pending_decideBefore limit unit f _
      rw [append_of_mem limit unit (List.mem_append_left b ha) hp, takeWhile_append_of_mem ha,
        append_of_mem limit unit ha hp, append_of_decided limit unit hwrite, write_write]
    · by_cases hfits : f.column + a.length ≤ limit
      · rw [append_of_notMem limit unit ha hne hp, if_pos hfits,
          append_hold limit unit ha hne hp hfits]
      · have hwrite : ((f.breakLine unit).write a).pending = none := pending_breakLine f unit
        rw [append_append_of_not_fits limit unit ha hne hp hfits,
          append_of_notMem limit unit ha hne hp, if_neg hfits,
          append_of_decided limit unit hwrite, write_write]

/-- Text that is repeated may be written piece by piece. -/
theorem append_flatten_replicate (f : Fill) (n : Nat) (chars : List Char) :
    f.append limit unit (List.replicate n chars).flatten =
      (fun f : Fill => f.append limit unit chars)^[n] f := by
  induction n generalizing f with
  | zero => simp
  | succ n ih =>
    rw [List.replicate_succ, List.flatten_cons, append_append, ih, Function.iterate_succ_apply]

end Fill

/-! ### A writer that fills lines -/

/-- The state of a writer that hands its text to a filler. -/
structure FillingWriter where
  /-- The level of indentation. -/
  level : Nat
  /-- The levels of the open statements, innermost first. -/
  statements : List Nat
  /-- The statements set aside, those set aside last first. -/
  suspended : List (List Nat)
  /-- Inside a documentation comment. -/
  inDoc : Bool
  /-- Inside line comments. -/
  inComment : Bool
  /-- The next character starts a line that is to be indented. -/
  atLineStart : Bool
  /-- The number of line breaks written last in a row. -/
  trailing : Nat
  /-- Whether anything has been written. -/
  started : Bool
  /-- What the filler has written and what it holds back. -/
  out : Fill
  deriving DecidableEq, Repr

namespace FillingWriter

/-- A writer that has written nothing. -/
def start : FillingWriter := ⟨0, [], [], false, false, false, 0, false, Fill.start⟩

variable (limit : Nat) (unit : List Char) (w : FillingWriter)

/-- Hand characters to the filler. -/
def append (chars : List Char) : FillingWriter :=
  { w with out := w.out.append limit unit chars }

/-- Write the indentation of the current level, one unit after the other. -/
def appendIndentation : FillingWriter :=
  { w with out := (fun f : Fill => f.append limit unit unit)^[w.level] w.out }

/-- What stands before the text of a line in a comment. -/
def lineMarker : List Char :=
  if w.inDoc then [' ', '*', ' '] else if w.inComment then ['/', '/', ' '] else []

/-- What stands in an empty line in a comment. -/
def emptyLineMarker : List Char :=
  if w.inDoc then [' ', '*'] else ['/', '/']

/-- Write a line break.  An empty line in a comment gets its marker. -/
def newline : FillingWriter :=
  let marked :=
    if (w.inDoc || w.inComment) && w.atLineStart then
      { (w.appendIndentation limit unit).append limit unit w.emptyLineMarker with trailing := 0 }
    else w
  { marked.append limit unit ['\n'] with
    atLineStart := true, trailing := marked.trailing + 1, started := true }

/-- Write text without line breaks.  At the start of a line it gets the indentation and, in a
comment, the marker before it. -/
def line (chars : List Char) : FillingWriter :=
  if chars = [] then w
  else
    let indented :=
      if w.atLineStart then
        (w.appendIndentation limit unit).append limit unit w.lineMarker
      else w
    { indented.append limit unit chars with atLineStart := false, trailing := 0, started := true }

/-- Write lines with line breaks between them. -/
def lines (w : FillingWriter) : List (List Char) → FillingWriter
  | [] => w
  | first :: rest =>
    rest.foldl (fun w chars => (w.newline limit unit).line limit unit chars)
      (w.line limit unit first)

/-- Write text, line by line. -/
def emit (s : String) : FillingWriter := w.lines limit unit (Text.pieces '\n' s.toList)

/-- End the line unless it is ended already. -/
def endLine : FillingWriter :=
  if w.started && !w.atLineStart then w.emit limit unit "\n" else w

/-- End the line, and leave one empty line unless there is one.  Nothing happens before the first
character. -/
def blankLine : FillingWriter :=
  if w.started then
    let ended := w.endLine limit unit
    if ended.trailing < 2 then ended.emit limit unit "\n" else ended
  else w

/-- The level of a continuation line: one below the innermost statement, or below the current
level outside of statements. -/
def continuationLevel : Nat := w.statements.headD w.level + 1

/-- Hand a break point to the filler. -/
def appendPoint (wide : Bool) : FillingWriter :=
  { w with out := w.out.point ⟨w.continuationLevel, wide⟩ }

/-- Write a space at which the line may break; lines of comments do not break. -/
def wrap : FillingWriter :=
  if w.inDoc || w.inComment then w.emit limit unit " " else w.appendPoint true

/-- The effect of an operation. -/
def step (w : FillingWriter) : LayoutOp → FillingWriter
  | .text s => w.emit limit unit s
  | .indent levels => { w with level := w.level + levels }
  | .unindent levels => { w with level := w.level - levels }
  | .beginStatement => { w with statements := w.level :: w.statements }
  | .endStatement => { w with statements := w.statements.tail }
  | .wrap => w.wrap limit unit
  | .comma => (w.emit limit unit ",").wrap limit unit
  | .wrapTight => if w.inDoc || w.inComment then w else w.appendPoint false
  | .blankLine => w.blankLine limit unit
  | .endLine => w.endLine limit unit
  | .openDoc => { w.emit limit unit "/**\n" with inDoc := true }
  | .closeDoc => { w.endLine limit unit with inDoc := false }.emit limit unit " */\n"
  | .openComment => { w with atLineStart := true, inComment := true }
  | .closeComment => { w.endLine limit unit with inComment := false }
  | .suspend => { w with statements := [], suspended := w.statements :: w.suspended }
  | .resume =>
    { w with statements := w.suspended.headD w.statements, suspended := w.suspended.tail }

/-- The effect of a list of operations. -/
def run (ops : List LayoutOp) : FillingWriter := ops.foldl (step limit unit) w

/-! ### Levels in machine words -/

section LevelWords

variable (words : LevelWords)

/-- Go deeper by some levels. -/
def raise? (levels : Nat) : Option FillingWriter :=
  (words.add? w.level levels).map fun level => { w with level := level }

/-- Hand a break point to the filler. -/
def appendPoint? (wide : Bool) : Option FillingWriter :=
  (words.add? (w.statements.headD w.level) 1).map fun level =>
    { w with out := w.out.point ⟨level, wide⟩ }

/-- Write a space at which the line may break. -/
def wrap? : Option FillingWriter :=
  if w.inDoc || w.inComment then some (w.emit limit unit " ") else w.appendPoint? words true

/-- The effect of an operation if levels are machine words. -/
def step? (w : FillingWriter) : LayoutOp → Option FillingWriter
  | .indent levels => w.raise? words levels
  | .wrap => w.wrap? limit unit words
  | .comma => (w.emit limit unit ",").wrap? limit unit words
  | .wrapTight => if w.inDoc || w.inComment then some w else w.appendPoint? words false
  | op => some (w.step limit unit op)

/-- The effect of a list of operations if levels are machine words. -/
def run? (ops : List LayoutOp) : Option FillingWriter := ops.foldlM (step? limit unit words) w

end LevelWords

/-! ### Lines and characters -/

/-- Write a character. -/
def emitChar (w : FillingWriter) (c : Char) : FillingWriter :=
  if c = '\n' then w.newline limit unit else w.line limit unit [c]

@[simp] theorem line_nil : w.line limit unit [] = w := rfl

/-- Two pieces of a line are one piece: the second one does not start the line again. -/
theorem line_append {a b : List Char} (ha : a ≠ []) :
    w.line limit unit (a ++ b) = (w.line limit unit a).line limit unit b := by
  by_cases hb : b = []
  · simp [hb]
  · simp [line, ha, hb, append, Fill.append_append]

/-- Whole lines are the same as single characters. -/
theorem lines_pieces (chars : List Char) :
    w.lines limit unit (Text.pieces '\n' chars) = chars.foldl (emitChar limit unit) w := by
  induction chars generalizing w with
  | nil => rfl
  | cons c chars ih =>
    obtain ⟨first, rest, hpieces⟩ :=
      List.exists_cons_of_ne_nil (Text.pieces_ne_nil '\n' chars)
    rw [List.foldl_cons, ← ih, emitChar, Text.pieces, hpieces]
    split_ifs with hc
    · rfl
    · rw [lines, lines, ← line_append limit unit w (List.cons_ne_nil c [])]
      rfl

theorem emit_eq_foldl (s : String) :
    w.emit limit unit s = s.toList.foldl (emitChar limit unit) w :=
  lines_pieces limit unit w s.toList

end FillingWriter

/-! ### Both writers -/

namespace Writer

variable (limit : Nat) (unit : List Char) (w : Writer)

/-- A writer with its atoms filled. -/
def filled : FillingWriter :=
  ⟨w.level, w.statements, w.suspended, w.inDoc, w.inComment, w.atLineStart, w.trailing, w.started,
    w.atoms.reverse.foldl (Fill.step limit unit) Fill.start⟩

@[simp] theorem filled_append (chars : List Char) :
    (w.append chars).filled limit unit = (w.filled limit unit).append limit unit chars := by
  simp [filled, append, FillingWriter.append, Fill.step]

@[simp] theorem filled_appendIndentation :
    (w.appendIndentation unit).filled limit unit =
      (w.filled limit unit).appendIndentation limit unit := by
  rw [appendIndentation, filled_append, FillingWriter.append, Fill.append_flatten_replicate]
  rfl

@[simp] theorem filled_appendPoint (wide : Bool) :
    (w.appendPoint wide).filled limit unit = (w.filled limit unit).appendPoint wide := by
  simp [filled, appendPoint, FillingWriter.appendPoint, Fill.step, continuationLevel,
    FillingWriter.continuationLevel]

/-- A line break, with the marker of a comment in an empty line. -/
theorem filled_emitNewline :
    (w.emitNewline unit).filled limit unit = (w.filled limit unit).newline limit unit := by
  have hended : ∀ (v : Writer) (trailing : Nat),
      ({ v.append ['\n'] with atLineStart := true, trailing, started := true } : Writer).filled
          limit unit =
        { (v.filled limit unit).append limit unit ['\n'] with
          atLineStart := true, trailing, started := true } := by
    intro v trailing
    rw [← filled_append]
    rfl
  by_cases h : ((w.inDoc || w.inComment) && w.atLineStart) = true
  · have h' : (((w.filled limit unit).inDoc || (w.filled limit unit).inComment) &&
        (w.filled limit unit).atLineStart) = true := h
    have hmarked : ((w.appendIndentation unit).append w.emptyLineMarker).filled limit unit =
        ((w.filled limit unit).appendIndentation limit unit).append limit unit
          (w.filled limit unit).emptyLineMarker := by
      rw [filled_append, filled_appendIndentation]
      rfl
    simp only [emitNewline, FillingWriter.newline, if_pos h, if_pos h', ← hmarked]
    exact hended _ 1
  · have h' : ¬(((w.filled limit unit).inDoc || (w.filled limit unit).inComment) &&
        (w.filled limit unit).atLineStart) = true := h
    simp only [emitNewline, FillingWriter.newline, if_neg h, if_neg h']
    exact hended w _

/-- A character that is no line break is a line of one character. -/
theorem filled_emitInLine (c : Char) :
    (w.emitInLine unit c).filled limit unit = (w.filled limit unit).line limit unit [c] := by
  have hbegun : ∀ v : Writer,
      ({ v.append [c] with atLineStart := false, trailing := 0, started := true } : Writer).filled
          limit unit =
        { (v.filled limit unit).append limit unit [c] with
          atLineStart := false, trailing := 0, started := true } := by
    intro v
    rw [← filled_append]
    rfl
  have hmarked : ((w.appendIndentation unit).append w.lineMarker).filled limit unit =
      ((w.filled limit unit).appendIndentation limit unit).append limit unit
        (w.filled limit unit).lineMarker := by
    rw [filled_append, filled_appendIndentation]
    rfl
  by_cases h : w.atLineStart = true
  · have h' : (w.filled limit unit).atLineStart = true := h
    simp only [emitInLine, FillingWriter.line, List.cons_ne_nil, if_false, if_pos h, if_pos h',
      ← hmarked]
    exact hbegun _
  · have h' : ¬(w.filled limit unit).atLineStart = true := h
    simp only [emitInLine, FillingWriter.line, List.cons_ne_nil, if_false, if_neg h, if_neg h']
    exact hbegun w

/-- Text, character by character and line by line. -/
@[simp] theorem filled_emit (s : String) :
    (w.emit unit s).filled limit unit = (w.filled limit unit).emit limit unit s := by
  rw [FillingWriter.emit_eq_foldl, emit]
  induction s.toList generalizing w with
  | nil => rfl
  | cons c cs ih =>
    have hc : (w.emitChar unit c).filled limit unit =
        (w.filled limit unit).emitChar limit unit c := by
      rw [emitChar, FillingWriter.emitChar]
      split_ifs
      · exact filled_emitNewline limit unit w
      · exact filled_emitInLine limit unit w c
    rw [List.foldl_cons, List.foldl_cons, ih, hc]

@[simp] theorem filled_endLine :
    (w.endLine unit).filled limit unit = (w.filled limit unit).endLine limit unit := by
  rw [endLine, apply_ite (filled limit unit), filled_emit]
  rfl

@[simp] theorem filled_blankLine :
    (w.blankLine unit).filled limit unit = (w.filled limit unit).blankLine limit unit := by
  simp only [blankLine, apply_ite (filled limit unit), filled_emit, filled_endLine]
  rw [FillingWriter.blankLine, ← filled_endLine]
  rfl

@[simp] theorem filled_wrap :
    (w.wrap unit).filled limit unit = (w.filled limit unit).wrap limit unit := by
  rw [wrap, apply_ite (filled limit unit), filled_emit, filled_appendPoint]
  rfl

/-- Both writers do the same. -/
theorem filled_step (op : LayoutOp) :
    (w.step unit op).filled limit unit = (w.filled limit unit).step limit unit op := by
  cases op with
  | text s => exact filled_emit limit unit w s
  | wrap => exact filled_wrap limit unit w
  | comma => rw [step, filled_wrap, filled_emit, FillingWriter.step]
  | wrapTight =>
    rw [step, apply_ite (filled limit unit), filled_appendPoint]
    rfl
  | blankLine => exact filled_blankLine limit unit w
  | endLine => exact filled_endLine limit unit w
  | openDoc =>
    rw [FillingWriter.step, ← filled_emit]
    rfl
  | closeDoc =>
    rw [step, filled_emit, FillingWriter.step, ← filled_endLine]
    rfl
  | closeComment =>
    rw [FillingWriter.step, ← filled_endLine]
    rfl
  | _ => rfl

theorem filled_run (ops : List LayoutOp) :
    (w.run unit ops).filled limit unit = (w.filled limit unit).run limit unit ops := by
  induction ops generalizing w with
  | nil => rfl
  | cons op ops ih =>
    rw [run, List.foldl_cons, ← run, ih, filled_step]
    rfl

section LevelWords

variable (words : LevelWords)

theorem filled_appendPoint? (wide : Bool) :
    (w.appendPoint? words wide).map (filled limit unit) =
      (w.filled limit unit).appendPoint? words wide := by
  rw [appendPoint?, Option.map_map]
  refine congrArg (Option.map · _) (funext fun level => ?_)
  simp [filled, Fill.step]

theorem filled_wrap? :
    (w.wrap? words unit).map (filled limit unit) =
      (w.filled limit unit).wrap? limit unit words := by
  rw [wrap?, apply_ite (Option.map (filled limit unit)), Option.map_some, filled_emit,
    filled_appendPoint?]
  rfl

/-- Both writers do the same if levels are machine words, and fail together. -/
theorem filled_step? (op : LayoutOp) :
    (w.step? words unit op).map (filled limit unit) =
      (w.filled limit unit).step? limit unit words op := by
  cases op with
  | indent levels =>
    rw [step?, raise?, Option.map_map]
    rfl
  | wrap => exact filled_wrap? limit unit w words
  | comma => rw [step?, filled_wrap?, filled_emit, FillingWriter.step?]
  | wrapTight =>
    rw [step?, apply_ite (Option.map (filled limit unit)), Option.map_some, filled_appendPoint?]
    rfl
  | _ => exact congrArg some (filled_step limit unit w _)

theorem filled_run? (ops : List LayoutOp) :
    (w.run? words unit ops).map (filled limit unit) =
      (w.filled limit unit).run? limit unit words ops := by
  induction ops generalizing w with
  | nil => rfl
  | cons op ops ih =>
    rw [run?, FillingWriter.run?, List.foldlM_cons, List.foldlM_cons, ← filled_step?]
    cases w.step? words unit op with
    | none => rfl
    | some next => exact ih next

end LevelWords

end Writer

namespace FillingWriter

/-- The text of a list of operations is the text that the filling writer has in the end. -/
theorem text_out_run (options : FormatOptions) (ops : List LayoutOp) :
    String.ofList (start.run options.columnLimit options.indent.unit ops).out.text =
      layout options ops := by
  have hrun := Writer.start.filled_run options.columnLimit options.indent.unit ops
  have hstart : Writer.start.filled options.columnLimit options.indent.unit = start := rfl
  rw [← hstart, ← hrun]
  rfl

/-- The same if levels are machine words. -/
theorem text_out_run? (words : LevelWords) (options : FormatOptions) (ops : List LayoutOp) :
    (start.run? options.columnLimit options.indent.unit words ops).map
        (fun w => String.ofList w.out.text) = layout? words options ops := by
  have hstart : Writer.start.filled options.columnLimit options.indent.unit = start := rfl
  rw [← hstart, ← Writer.filled_run?, Option.map_map]
  rfl

/-- Text in two pieces, in every state. -/
theorem emit_emit (limit : Nat) (unit : List Char) (w : FillingWriter) (s t : String) :
    (w.emit limit unit s).emit limit unit t = w.emit limit unit (s ++ t) := by
  simp only [emit_eq_foldl, String.toList_append, List.foldl_append]

/-- **Cutting a text into pieces does not matter.**  For every column limit, unit of indentation and
list of operations, and all texts `s` and `t`: behind the operations, writing `s` and then `t`
leaves a writer that hands whole lines to the filler in the same state as writing both at once, with
what has been written, what is held back and the pending break point.  That state is the one in
which the writer of `layout` is behind the same operations, with its atoms filled, and `layout`
gives the text that has been written in it in the end. -/
theorem emit_emit_of_run (options : FormatOptions) (ops : List LayoutOp) (s t : String) :
    let limit := options.columnLimit
    let unit := options.indent.unit
    let w := start.run limit unit ops
    (w.emit limit unit s).emit limit unit t = w.emit limit unit (s ++ t) ∧
      w = (Writer.start.run unit ops).filled limit unit ∧
      w.emit limit unit (s ++ t) =
        (Writer.start.run unit (ops ++ [.text s, .text t])).filled limit unit ∧
      String.ofList (w.emit limit unit (s ++ t)).out.text =
        layout options (ops ++ [.text (s ++ t)]) := by
  intro limit unit w
  have hrun : ∀ ops, start.run limit unit ops = (Writer.start.run unit ops).filled limit unit :=
    fun ops => (Writer.start.filled_run limit unit ops).symm
  have hsteps : ∀ more, w.run limit unit more = start.run limit unit (ops ++ more) := by
    intro more
    simp [w, run]
  refine ⟨emit_emit limit unit w s t, hrun ops, ?_, ?_⟩
  · rw [← emit_emit, ← hrun, ← hsteps]
    rfl
  · rw [← text_out_run, ← hsteps]
    rfl

end FillingWriter

end KotlinSource
