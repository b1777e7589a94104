import KotlinSource.Proofs.Layout.LineStarts
import KotlinSource.Proofs.Printing.Modes

/-!
# Lines of printed code

Printed code stands in some place of a text, behind and in front of other code.  What it starts with
begins a line of the text if the code in front of it has ended its line and it starts with a
character that is seen.  Both can be told from the printed code alone, whatever place it stands in,
as long as the writer is outside of comments there and starts lines only where lines have ended.

## Main definitions

* `Writer.IsSettled`, `Settles`: such writers, and printed code that leaves them so.
* `EndsItsLine`, `KeepsLineStart`: printed code that ends its line, and printed code that leaves a
  writer at the start of a line.
* `Opens`, `StartsVisibly`: what printed code starts with.
* `TextPlace`, `TextPlace.text`: a place in a text, and the text with printed code in it.
* `TextPlace.BeginsLine`: characters that begin a line of the text.
* `FileDecl.place`: the place of everything in a file.

## Main results

* `nestClosed_settles`, `settles_code`: declarations and code.
* `Opens.beginsLine`: code that stands behind the end of a line.
* `FileDecl.exists_settled_place`: the types of a file stand in places where writers are settled.
-/

namespace KotlinSource

/-! ### Invariants of printing -/

/-- What every operation of printed code keeps is kept by the whole of it. -/
theorem Writer.print_invariant {I : Writer → Prop} {unit : List Char} {tokens : Tokens}
    (hstep : ∀ op, .layout op ∈ tokens → ∀ w : Writer, I w → I (w.step unit op))
    (hemit : ∀ s, ∀ w : Writer, I w → I (w.emit unit s)) {w : Writer} (h : I w)
    (context : NamingContext) (table : Option ImportTable) (scopes : List Scope) :
    I (w.print unit context table scopes tokens) := by
  induction tokens generalizing w scopes with
  | nil => exact h
  | cons t rest ih =>
    rw [← List.singleton_append, print_append_tokens]
    refine ih (fun op hop => hstep op (List.mem_cons_of_mem t hop)) ?_ _
    cases t with
    | layout op => exact hstep op List.mem_cons_self w h
    | reference r => exact hemit _ w h
    | enter => exact h
    | leave => exact h

@[simp] theorem Writer.print_nil (w : Writer) (unit : List Char) (context : NamingContext)
    (table : Option ImportTable) (scopes : List Scope) :
    w.print unit context table scopes [] = w := rfl

@[simp] theorem Writer.print_operation (w : Writer) (unit : List Char) (context : NamingContext)
    (table : Option ImportTable) (scopes : List Scope) (op : LayoutOp) :
    w.print unit context table scopes (operation op) = w.step unit op := rfl

@[simp] theorem Writer.print_word (w : Writer) (unit : List Char) (context : NamingContext)
    (table : Option ImportTable) (scopes : List Scope) (s : String) :
    w.print unit context table scopes (word s) = w.emit unit s := rfl

section Print

variable {w : Writer} (unit : List Char) (context : NamingContext) (table : Option ImportTable)
  (scopes : List Scope) (tokens : Tokens)

theorem Writer.started_print (h : w.started = true) :
    (w.print unit context table scopes tokens).started = true :=
  print_invariant (I := fun w => w.started = true) (fun op _ _ hw => started_step unit hw op)
    (fun s _ hw => started_emit unit hw s) h context table scopes

theorem Writer.glyphs_prefix_print :
    w.glyphs <+: (w.print unit context table scopes tokens).glyphs :=
  print_invariant (I := fun last => w.glyphs <+: last.glyphs)
    (fun op _ last h => h.trans (last.glyphs_prefix_step unit op))
    (fun s last h => h.trans (last.glyphs_prefix_step unit (.text s))) List.prefix_rfl context table
    scopes

end Print

/-! ### Code that leaves writers settled -/

/-- A writer outside of comments that starts lines only where lines have ended. -/
structure Writer.IsSettled (w : Writer) : Prop where
  inCode : w.InCode
  endsLines : w.EndsLines

theorem Writer.isSettled_start : Writer.start.IsSettled := ⟨inCode_start, endsLines_start⟩

/-- Printed code that leaves a writer settled: it brings it back out of documentation, and it does
not start line comments. -/
structure Settles (tokens : Tokens) : Prop where
  keepsInCode : KeepsInCode tokens
  openComment_notMem : .layout .openComment ∉ tokens

theorem Writer.EndsLines.print {w : Writer} (h : w.EndsLines) {tokens : Tokens}
    (htokens : .layout .openComment ∉ tokens) (unit : List Char) (context : NamingContext)
    (table : Option ImportTable) (scopes : List Scope) :
    (w.print unit context table scopes tokens).EndsLines := by
  refine print_invariant (I := Writer.EndsLines) (fun op hop w hw => hw.step unit ?_)
    (fun s w hw => hw.emit unit s) h context table scopes
  rintro rfl
  exact htokens hop

theorem Writer.IsSettled.print {w : Writer} (h : w.IsSettled) {tokens : Tokens}
    (htokens : Settles tokens) (unit : List Char) (context : NamingContext)
    (table : Option ImportTable) (scopes : List Scope) :
    (w.print unit context table scopes tokens).IsSettled where
  inCode := h.inCode.print htokens.keepsInCode unit context table scopes
  endsLines := h.endsLines.print htokens.openComment_notMem unit context table scopes

theorem appendClosed_settles : AppendClosed Settles where
  nil := ⟨appendClosed_keepsInCode.nil, by simp⟩
  append hleft hright :=
    ⟨appendClosed_keepsInCode.append hleft.keepsInCode hright.keepsInCode, by
      simp [hleft.openComment_notMem, hright.openComment_notMem]⟩

theorem settles_layout {op : LayoutOp} (h : op.isCommentMark = false) : Settles [.layout op] := by
  refine ⟨keepsInCode_layout h, fun hmem => ?_⟩
  obtain rfl : .openComment = op := by simpa using hmem
  cases h

theorem settles_reference (r : Reference) : Settles [.reference r] :=
  ⟨fun _ => ⟨rfl, id⟩, by simp⟩

theorem nestClosed_settles : NestClosed Settles := by
  refine .of_flat appendClosed_settles (fun op hop => ?_) settles_reference ?_
  · refine settles_layout ?_
    cases op with
    | openDoc => cases hop
    | closeDoc => cases hop
    | openComment => cases hop
    | closeComment => cases hop
    | _ => rfl
  · intro b inside hinside
    refine ⟨nestClosed_keepsInCode.around b hinside.keepsInCode, ?_⟩
    cases b <;>
      simp [Bracket.around, Bracket.opening, Bracket.closing, operation, hinside.openComment_notMem]

theorem bodyClosed_settles {κ : Type} (d : TypeDecl κ) : BodyClosed Settles d := by
  intro name hname inside hinside
  exact ⟨bodyClosed_keepsInCode d name hname inside hinside.keepsInCode, by
    simp [hinside.openComment_notMem]⟩

theorem settles_code (code : Code) : Settles code.tokens := by
  refine nestClosed_settles.codeTokens (fun i => ?_) (fun t => bodyClosed_settles t) code
  cases i with
  | object decl => exact appendClosed_settles.nil
  | type t => exact nestClosed_settles.typeTokens t
  | member m => exact settles_reference _
  | _ => exact settles_layout rfl

/-! ### Code that ends its line -/

/-- Printed code behind which a writer that has written something is at the start of a line. -/
def EndsItsLine (tokens : Tokens) : Prop :=
  ∀ (w : Writer) (unit : List Char) (context : NamingContext) (table : Option ImportTable)
    (scopes : List Scope), w.started = true →
    (w.print unit context table scopes tokens).atLineStart = true

/-- Printed code that leaves a writer at the start of a line if it was there. -/
def KeepsLineStart (tokens : Tokens) : Prop :=
  ∀ (w : Writer) (unit : List Char) (context : NamingContext) (table : Option ImportTable)
    (scopes : List Scope), w.atLineStart = true →
    (w.print unit context table scopes tokens).atLineStart = true

theorem endsItsLine_word (s : String) : EndsItsLine (word (s ++ "\n")) :=
  fun w unit _ _ _ _ => w.atLineStart_emit_newline unit s

theorem endsItsLine_endLine : EndsItsLine (operation .endLine) :=
  fun _ unit _ _ _ hw => Writer.atLineStart_endLine unit hw

theorem endsItsLine_blankLine : EndsItsLine (operation .blankLine) :=
  fun _ unit _ _ _ hw => Writer.atLineStart_blankLine unit hw

/-- The end of printed code decides. -/
theorem EndsItsLine.append_left {tokens : Tokens} (h : EndsItsLine tokens) (front : Tokens) :
    EndsItsLine (front ++ tokens) := by
  intro w unit context table scopes hw
  rw [Writer.print_append_tokens]
  exact h _ _ _ _ _ (Writer.started_print unit context table scopes front hw)

theorem EndsItsLine.append {tokens behind : Tokens} (h : EndsItsLine tokens)
    (hbehind : KeepsLineStart behind) : EndsItsLine (tokens ++ behind) := by
  intro w unit context table scopes hw
  rw [Writer.print_append_tokens]
  exact hbehind _ _ _ _ _ (h _ _ _ _ _ hw)

theorem appendClosed_keepsLineStart : AppendClosed KeepsLineStart where
  nil _ _ _ _ _ hw := hw
  append hleft hright w unit context table scopes hw := by
    rw [Writer.print_append_tokens]
    exact hright _ _ _ _ _ (hleft _ _ _ _ _ hw)

/-- The operations that write nothing. -/
def LayoutOp.isSilent : LayoutOp → Bool
  | .indent _ => true
  | .unindent _ => true
  | .beginStatement => true
  | .endStatement => true
  | .suspend => true
  | .resume => true
  | _ => false

theorem keepsLineStart_operation {op : LayoutOp} (h : op.isSilent = true) :
    KeepsLineStart (operation op) := by
  intro w unit context table scopes hw
  cases op with
  | indent => exact hw
  | unindent => exact hw
  | beginStatement => exact hw
  | endStatement => exact hw
  | suspend => exact hw
  | resume => exact hw
  | _ => cases h

/-- Documentation ends its last line. -/
theorem keepsLineStart_documentation (doc : Tokens) : KeepsLineStart (documentation doc) := by
  rw [documentation]
  split_ifs
  · exact appendClosed_keepsLineStart.nil
  · intro w unit context table scopes _
    rw [Writer.print_append_tokens, Writer.print_operation]
    exact Writer.atLineStart_closeDoc unit _

theorem keepsLineStart_annotationLines (annotations : List (AnnotationUse Tokens)) :
    KeepsLineStart (annotationLines annotations) := by
  refine appendClosed_keepsLineStart.flatMap fun a _ w unit context table scopes _ => ?_
  rw [Writer.print_append_tokens, Writer.print_word]
  exact Writer.atLineStart_emit_newline unit ""

/-! ### What code starts with -/

/-- Printed code that starts with the given characters, behind the indentation of its line. -/
def Opens (chars : List Char) (tokens : Tokens) : Prop :=
  ∀ (w : Writer) (unit : List Char) (context : NamingContext) (table : Option ImportTable)
    (scopes : List Scope), w.InCode → w.atLineStart = true →
    ∃ rest, (w.print unit context table scopes tokens).glyphs =
      w.glyphs ++ (w.indentation unit ++ chars).map .char ++ rest

theorem Opens.append {chars : List Char} {tokens : Tokens} (h : Opens chars tokens)
    (behind : Tokens) : Opens chars (tokens ++ behind) := by
  intro w unit context table scopes hcode hstart
  obtain ⟨rest, hrest⟩ := h w unit context table scopes hcode hstart
  rw [Writer.print_append_tokens]
  obtain ⟨more, hmore⟩ := Writer.glyphs_prefix_print (w := w.print unit context table scopes tokens)
    unit context table (tokens.foldl scopesAfter scopes) behind
  exact ⟨rest ++ more, by rw [← hmore, hrest, List.append_assoc]⟩

/-- Setting open statements aside and opening a statement writes nothing. -/
theorem Opens.operation_append {chars : List Char} {tokens : Tokens} (h : Opens chars tokens)
    {op : LayoutOp} (hop : op = .suspend ∨ op = .beginStatement) :
    Opens chars (operation op ++ tokens) := by
  intro w unit context table scopes hcode hstart
  rw [Writer.print_append_tokens]
  rcases hop with rfl | rfl
  · exact h { w with statements := [], suspended := w.statements :: w.suspended } unit context table
      scopes hcode hstart
  · exact h { w with statements := w.level :: w.statements } unit context table scopes hcode hstart

/-- The first character of a text. -/
theorem opens_word {s : String} {c : Char} (hs : c ∈ s.toList.head?) (hc : c ≠ '\n') :
    Opens [c] (word s) := by
  intro w unit context table scopes hcode hstart
  obtain ⟨cs, hs⟩ := List.head?_eq_some_iff.1 hs
  have hemit : w.emit unit s = (w.emitInLine unit c).emit unit (String.ofList cs) := by
    rw [Writer.emit, Writer.emit, hs, List.foldl_cons, Writer.emitChar, if_neg hc,
      String.toList_ofList]
  obtain ⟨chars, hchars⟩ := Writer.continues_emit unit (w.emitInLine unit c) (String.ofList cs)
  refine ⟨chars.map .char, ?_⟩
  rw [Writer.print_word, hemit, hchars, hcode.glyphs_emitInLine, if_pos hstart]

/-- A line of text with its end. -/
theorem opens_line {s : String} (hs : s ≠ "") (hline : '\n' ∉ s.toList) :
    Opens (s.toList ++ ['\n']) (word (s ++ "\n")) := by
  intro w unit context table scopes hcode hstart
  refine ⟨[], ?_⟩
  rw [Writer.print_word, Writer.OpensLine.glyphs_emit_line unit (.inl hstart) hs hline,
    hcode.lineMarker_eq_nil, List.append_nil, List.append_nil, List.append_assoc]

/-- Printed code that starts with a character that is seen. -/
def StartsVisibly (tokens : Tokens) : Prop := ∃ c, isSeen c = true ∧ Opens [c] tokens

namespace StartsVisibly

theorem word {s : String} (h : s.toList.head?.any isSeen = true) :
    StartsVisibly (KotlinSource.word s) := by
  obtain ⟨c, hc, hseen⟩ := (Option.any_eq_true _ _).1 h
  refine ⟨c, hseen, opens_word hc ?_⟩
  rintro rfl
  exact Bool.noConfusion hseen

/-- Keywords are seen. -/
theorem modifierWord (m : Modifier) : StartsVisibly (KotlinSource.word (m.keyword ++ " ")) := by
  cases m <;> exact word (by decide)

variable {tokens : Tokens} (h : StartsVisibly tokens)

include h

theorem append (behind : Tokens) : StartsVisibly (tokens ++ behind) := by
  obtain ⟨c, hc, hopens⟩ := h
  exact ⟨c, hc, hopens.append behind⟩

theorem operation_append {op : LayoutOp} (hop : op = .suspend ∨ op = .beginStatement) :
    StartsVisibly (operation op ++ tokens) := by
  obtain ⟨c, hc, hopens⟩ := h
  exact ⟨c, hc, hopens.operation_append hop⟩

/-- Documentation starts with its mark. -/
theorem documentation_append (doc : Tokens) : StartsVisibly (documentation doc ++ tokens) := by
  rw [documentation]
  split_ifs
  · exact h
  · have hmark : StartsVisibly (KotlinSource.operation .openDoc) :=
      word (s := "/**\n") (by decide)
    rw [List.append_assoc, List.append_assoc]
    exact hmark.append _

/-- An annotation use starts with its sign. -/
theorem annotationLines_append (annotations : List (AnnotationUse Tokens)) :
    StartsVisibly (annotationLines annotations ++ tokens) := by
  cases annotations with
  | nil => exact h
  | cons a rest =>
    have hsign : StartsVisibly (KotlinSource.word "@") := word (by decide)
    simp only [annotationLines, List.flatMap_cons, AnnotationUse.tokens, List.append_assoc]
    exact hsign.append _

/-- The words of modifiers may stand in front. -/
theorem modifierWords_append (hidden modifiers : List Modifier) :
    StartsVisibly (modifierWords hidden modifiers ++ tokens) := by
  rw [modifierWords]
  cases modifiers.filter fun m => !hidden.contains m with
  | nil => exact h
  | cons m rest =>
    rw [List.flatMap_cons, List.append_assoc]
    exact (modifierWord m).append _

end StartsVisibly

/-! ### Places in a text -/

/-- A place in a text: how the text is laid out, how references are written in the place, and what
stands in front of it and behind it. -/
structure TextPlace where
  options : FormatOptions
  context : NamingContext
  table : Option ImportTable
  scopes : List Scope
  before : List LayoutOp
  after : List LayoutOp

namespace TextPlace

/-- The place of a text of its own, outside of every file. -/
def detached : TextPlace := ⟨{}, .detached, none, [], [], []⟩

variable (place : TextPlace) (left right : Tokens)

/-- The writer behind printed code in the place. -/
def writer : Writer :=
  (Writer.start.run place.options.indent.unit place.before).print place.options.indent.unit
    place.context place.table place.scopes left

/-- The text with printed code in the place. -/
def text (tokens : Tokens) : String :=
  layout place.options
    (place.before ++ place.context.writeIn place.table place.scopes tokens ++ place.after)

/-- The place between two parts of printed code in a place. -/
def between : TextPlace where
  options := place.options
  context := place.context
  table := place.table
  scopes := left.foldl scopesAfter place.scopes
  before := place.before ++ place.context.writeIn place.table place.scopes left
  after :=
    place.context.writeIn place.table (left.foldl scopesAfter place.scopes) right ++ place.after

/-- A place in which a writer arrives settled. -/
def IsSettled : Prop := (place.writer []).IsSettled

theorem isSettled_detached : detached.IsSettled := Writer.isSettled_start

/-- The text of printed code on its own. -/
theorem text_detached (tokens : Tokens) : detached.text tokens = Tokens.detached tokens := by
  rw [text, Tokens.detached, Tokens.layout, NamingContext.write]
  exact congrArg _ (List.append_nil _)

theorem writer_between (tokens : Tokens) :
    (place.between left right).writer tokens = place.writer (left ++ tokens) := by
  rw [writer, writer, Writer.print_append_tokens]
  exact congrArg (fun w : Writer => w.print _ _ _ _ _) (Writer.run_append _ _ _ _)

theorem writer_append :
    place.writer (left ++ right) = (place.writer left).print place.options.indent.unit place.context
      place.table (left.foldl scopesAfter place.scopes) right := Writer.print_append_tokens ..

theorem isSettled_between :
    (place.between left right).IsSettled ↔ (place.writer left).IsSettled := by
  rw [IsSettled, writer_between, List.append_nil]

/-- Code that closes the bodies in it leaves the text of its place as it is. -/
theorem text_between {tokens : Tokens}
    (h : tokens.foldl scopesAfter (left.foldl scopesAfter place.scopes) =
      left.foldl scopesAfter place.scopes) :
    (place.between left right).text tokens = place.text (left ++ tokens ++ right) := by
  simp only [text, between, NamingContext.writeIn_append, h, List.append_assoc]

/-- Where printed code begins a line: in the text of the two parts in the place, the second one
starts with the characters, and these stand behind what is written for the first one and the
indentation of the line, with nothing but blanks in front of them in their line. -/
def BeginsLine (chars : List Char) : Prop :=
  ∃ front back : List Item,
    front.map Item.glyph = (place.writer left).glyphs ++
      ((place.writer left).indentation place.options.indent.unit).map .char ∧
    place.text (left ++ right) = String.ofList (itemsText place.options.indent.unit front ++
      chars ++ itemsText place.options.indent.unit back) ∧
    ∀ c ∈ lastLine (itemsText place.options.indent.unit front), IsBlank c

end TextPlace

/-- What is written behind ended lines begins a line. -/
theorem TextPlace.beginsLine_of_glyphs {place : TextPlace} {left right : Tokens}
    {chars : List Char} {gs : List Glyph} (hends : EndsLine (place.writer left).glyphs)
    (hgs : (place.writer (left ++ right)).glyphs = (place.writer left).glyphs ++
      ((place.writer left).indentation place.options.indent.unit ++ chars).map .char ++ gs) :
    place.BeginsLine left right chars := by
  let ops := place.before ++ place.context.writeIn place.table place.scopes left
  let rest := place.context.writeIn place.table (left.foldl scopesAfter place.scopes) right
  have hleft : writtenGlyphs place.options.indent.unit ops = (place.writer left).glyphs :=
    congrArg Writer.glyphs (Writer.run_append _ _ _ _)
  have hright : writtenGlyphs place.options.indent.unit (ops ++ rest) =
      (place.writer left).glyphs ++
        ((place.writer left).indentation place.options.indent.unit ++ chars).map .char ++ gs := by
    rw [← hgs, place.writer_append, writtenGlyphs, Writer.run_append, Writer.run_append]
    rfl
  obtain ⟨more, hmore⟩ :=
    writtenGlyphs_prefix_append place.options.indent.unit (ops ++ rest) place.after
  have htext :
      place.text (left ++ right) = layout place.options (ops ++ (rest ++ place.after)) := by
    rw [TextPlace.text, NamingContext.writeIn_append, List.append_assoc, List.append_assoc,
      List.append_assoc]
  have hwritten : writtenGlyphs place.options.indent.unit (ops ++ (rest ++ place.after)) =
      writtenGlyphs place.options.indent.unit ops ++
        ((place.writer left).indentation place.options.indent.unit ++ chars).map .char ++
          (gs ++ more) := by
    rw [← List.append_assoc, ← hmore, hright, hleft, List.append_assoc]
  obtain ⟨front, back, hfront, hlayout, hblank⟩ :=
    exists_layout_lineStart place.options (hleft ▸ hends) hwritten
  exact ⟨front, back, hfront.trans (congrArg (· ++ _) hleft), htext.trans hlayout, hblank⟩

/-- Code that stands behind the end of a line begins a line. -/
theorem Opens.beginsLine {chars : List Char} {left right : Tokens} (h : Opens chars right)
    {place : TextPlace} (hw : (place.writer left).IsSettled)
    (hstart : (place.writer left).atLineStart = true) : place.BeginsLine left right chars := by
  obtain ⟨gs, hgs⟩ := h (place.writer left) place.options.indent.unit place.context place.table
    (left.foldl scopesAfter place.scopes) hw.inCode hstart
  exact TextPlace.beginsLine_of_glyphs (hw.endsLines hstart) (by rw [place.writer_append, hgs])

/-- A line with its end is a line of the text, behind its indentation. -/
theorem TextPlace.BeginsLine.exists_mem_splitAt {place : TextPlace} {left right : Tokens}
    {s : String} (h : place.BeginsLine left right (s.toList ++ ['\n'])) (hs : '\n' ∉ s.toList) :
    ∃ blanks : List Char, (∀ c ∈ blanks, IsBlank c) ∧
      String.ofList blanks ++ s ∈ Text.splitAt '\n' (place.text (left ++ right)) := by
  obtain ⟨front, back, -, htext, hblank⟩ := h
  let last := lastLine (itemsText place.options.indent.unit front)
  refine ⟨last, hblank, ?_⟩
  have hline : '\n' ∉ (String.ofList last ++ s).toList := by
    rw [String.toList_append, String.toList_ofList, List.mem_append, not_or]
    exact ⟨fun hmem => (mem_of_mem_lastLine hmem).2 rfl, hs⟩
  have hended : ∀ behind, String.ofList last ++ s ∈
      Text.splitAt '\n' (String.ofList last ++ s ++ String.singleton '\n' ++ behind) := by
    intro behind
    rw [Text.splitAt_append, Text.splitAt_of_notMem hline]
    exact List.mem_cons_self
  rw [htext]
  let behind := String.ofList (itemsText place.options.indent.unit back)
  rcases exists_append_lastLine (itemsText place.options.indent.unit front) with
    hfront | ⟨before, hfront⟩
  · have hwhole : String.ofList (itemsText place.options.indent.unit front ++ (s.toList ++ ['\n']) ++
        itemsText place.options.indent.unit back) =
          String.ofList last ++ s ++ String.singleton '\n' ++ behind := by
      rw [hfront, ← String.toList_inj]
      simp [last, behind]
    rw [hwhole]
    exact hended behind
  · have hwhole : String.ofList (itemsText place.options.indent.unit front ++ (s.toList ++ ['\n']) ++
        itemsText place.options.indent.unit back) =
          String.ofList before ++ String.singleton '\n' ++
            (String.ofList last ++ s ++ String.singleton '\n' ++ behind) := by
      rw [hfront, ← String.toList_inj]
      simp [last, behind]
    rw [hwhole, Text.splitAt_append]
    exact List.mem_append_right _ (hended behind)

/-! ### Places in a file -/

namespace FileDecl

variable (file : FileDecl)

/-- The place of everything in a file. -/
def place : TextPlace := ⟨file.options, file.context, some file.importTable, [], [], []⟩

theorem text_place : file.place.text (file.tokens file.importTable.lines) = file.render := by
  rw [render, operations, NamingContext.write, TextPlace.text]
  exact congrArg _ (List.append_nil _)

/-- The comment of a file starts a line by itself, but nothing stands in front of it. -/
theorem isSettled_topComment : (file.place.writer (topComment file.comment.tokens)).IsSettled := by
  rw [topComment]
  split_ifs
  · exact Writer.isSettled_start
  · have hcode := settles_code file.comment
    constructor
    · have hdoc := (hcode.keepsInCode (false, true)).2 rfl
      rw [Writer.InCode, TextPlace.writer, Writer.mode_print, List.foldl_append, List.foldl_append]
      exact Prod.ext hdoc rfl
    · have hopened : (Writer.start.step file.options.indent.unit .openComment).EndsLines :=
        fun _ => endsLine_nil
      have hcomment := hopened.print hcode.openComment_notMem file.options.indent.unit file.context
        (some file.importTable) []
      rw [TextPlace.writer, Writer.print_append_tokens]
      exact hcomment.step _ (show LayoutOp.closeComment ≠ .openComment by decide)

/-- The types of a file stand in settled places. -/
theorem exists_settled_place {d : TypeDecl Code} (hd : d ∈ file.types) :
    ∃ place : TextPlace, place.IsSettled ∧ place.text d.printed.tokens = file.render := by
  obtain ⟨earlier, later, htypes⟩ := List.append_of_mem hd
  let lines := file.importTable.lines
  let between := packageLine file.package ++ importLines lines ++
    (file.aliases.flatMap fun d => operation .blankLine ++ d.printed.tokens) ++
    (earlier.flatMap fun d => operation .blankLine ++ d.printed.tokens) ++ operation .blankLine
  let right := later.flatMap fun d => operation .blankLine ++ d.printed.tokens
  have htokens : file.tokens lines =
      topComment file.comment.tokens ++ between ++ d.printed.tokens ++ right := by
    simp only [tokens, htypes, List.flatMap_append, List.flatMap_cons, List.append_assoc, between,
      right]
  have hbetween : Settles between := by
    have happend := @nestClosed_settles.append
    have hblank := nestClosed_settles.blankLine
    refine happend (happend (happend (happend (NestClosed.ite appendClosed_settles.nil ?_)
      (NestClosed.ite appendClosed_settles.nil (happend hblank ?_))) ?_) ?_) hblank
    · exact happend hblank (nestClosed_settles.word _)
    · exact appendClosed_settles.flatMap fun i _ => nestClosed_settles.word _
    · refine appendClosed_settles.flatMap fun d _ => happend hblank
        (nestClosed_settles.aliasTokens ?_)
      rw [AliasDecl.printed, AliasDecl.pieces_map]
      exact List.forall_mem_map.2 fun piece _ => settles_code piece
    · exact appendClosed_settles.flatMap fun d _ => happend hblank
        (nestClosed_settles.printedType (fun piece _ => settles_code piece) fun t _ =>
          bodyClosed_settles t)
  refine ⟨file.place.between (topComment file.comment.tokens ++ between) right, ?_, ?_⟩
  · rw [TextPlace.isSettled_between, TextPlace.writer_append]
    exact file.isSettled_topComment.print hbetween ..
  · rw [TextPlace.text_between, ← htokens, text_place]
    exact d.scopesAfter_printed (.inl rfl) _

end FileDecl

end KotlinSource
