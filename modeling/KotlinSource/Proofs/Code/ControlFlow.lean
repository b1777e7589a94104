import KotlinSource.Proofs.Code.CallTrees
import KotlinSource.Proofs.Printing.Modes
import KotlinSource.Proofs.Printing.TextRuns

/-!
# Control flow is printed as a block structure

Statements and blocks are written as a flat list of instructions, and nothing but the level of the
writer tells which block a line belongs to.  A call writes one line and moves the level, so that a
list of calls writes the lines of the tree that it describes, each behind the indentation of the
blocks around it: as a text of its own, and one level deeper between the braces of a function.

## Main definitions

* `levelledText`: lines behind the indentation of their levels.
* `Writer.WroteLines`: how a writer has written such lines.
* `BracesBalanced`: every brace is closed behind the one that opens it.

## Main results

* `Writer.wroteLines_print_call`, `Writer.wroteLines_print`: what a call and a list of calls write.
* `levels_after_calls`: well-nested calls leave the levels as they were.
* `WellNested.flow_of_calls`: the text of well-nested calls, on their own and as the body of a
  function.
-/

namespace KotlinSource

/-! ### Writing lines -/

/-- Lines, each behind the indentation of its level and a marker. -/
def levelledText (unit marker : List Char) (lines : List (Nat × String)) : List Char :=
  lines.flatMap fun l => (List.replicate l.1 unit).flatten ++ marker ++ l.2.toList ++ ['\n']

theorem levelledText_append (unit marker : List Char) (front back : List (Nat × String)) :
    levelledText unit marker (front ++ back) =
      levelledText unit marker front ++ levelledText unit marker back := List.flatMap_append

namespace Writer

/-- The second writer has written what the first one has, and some lines behind it. -/
structure WroteLines (unit : List Char) (lines : List (Nat × String)) (w w' : Writer) : Prop where
  glyphs_eq : w'.glyphs = w.glyphs ++ (levelledText unit w.lineMarker lines).map .char
  opensLine : w'.OpensLine
  atLineStart : w.atLineStart = true → w'.atLineStart = true
  mode_eq : w'.mode = w.mode

variable {unit : List Char} {w : Writer}

theorem WroteLines.refl (h : w.OpensLine) : WroteLines unit [] w w :=
  ⟨(List.append_nil _).symm, h, id, rfl⟩

theorem WroteLines.trans {w₁ w₂ w₃ : Writer} {lines lines' : List (Nat × String)}
    (h : WroteLines unit lines w₁ w₂) (h' : WroteLines unit lines' w₂ w₃) :
    WroteLines unit (lines ++ lines') w₁ w₃ where
  glyphs_eq := by
    rw [h'.glyphs_eq, h.glyphs_eq, lineMarker_congr h.mode_eq, levelledText_append,
      List.map_append, List.append_assoc]
  opensLine := h'.opensLine
  atLineStart hstart := h'.atLineStart (h.atLineStart hstart)
  mode_eq := h'.mode_eq.trans h.mode_eq

/-- Text and the end of its line. -/
theorem WroteLines.emit (h : w.OpensLine) {s : String} (hs : s ≠ "") (hline : '\n' ∉ s.toList) :
    WroteLines unit [(w.level, s)] w (w.emit unit (s ++ "\n")) where
  glyphs_eq := by
    rw [h.glyphs_emit_line unit hs hline, levelledText, List.flatMap_singleton]
    rfl
  opensLine := .inl (atLineStart_emit_newline unit s)
  atLineStart _ := atLineStart_emit_newline unit s
  mode_eq := w.mode_emit unit _

/-- A level less does not move the start of a line. -/
theorem OpensLine.unindent (h : w.OpensLine) (levels : Nat) :
    OpensLine { w with level := w.level - levels } :=
  h.imp id fun ⟨hlevel, hmarker⟩ => ⟨by rw [hlevel, Nat.zero_sub], hmarker⟩

variable (context : NamingContext) (table : Option ImportTable) (scopes : List Scope)

/-- A plain call writes one line, on the level of the blocks that stay open around it. -/
theorem wroteLines_print_call (h : w.OpensLine) {call : FlowCall} (hcall : call.IsPlain) :
    WroteLines unit [(w.level - call.closes, call.line)] w
      (w.print unit context table scopes (Code.tokens call.instructions)) := by
  have hemit : ∀ w' : Writer, w'.OpensLine →
      WroteLines unit [(w'.level, call.line)] w' (w'.emit unit (call.line ++ "\n")) :=
    fun w' h' => .emit h' hcall.line_ne_empty hcall.newline_notMem_line
  cases call with
  | statement text =>
    have hline := hemit { w with statements := w.level :: w.statements } h
    rw [emit_append] at hline
    exact ⟨hline.glyphs_eq, hline.opensLine, hline.atLineStart, hline.mode_eq⟩
  | openBlock header =>
    have hline := hemit w h
    have hpieces : w.emit unit (header ++ " \x7b" ++ "\n") =
        (w.emit unit header).emit unit " \x7b\n" := by
      rw [String.append_assoc, emit_append]
      rfl
    have hstart : ((w.emit unit header).emit unit " \x7b\n").atLineStart = true :=
      atLineStart_emit_newline unit " \x7b"
    rw [FlowCall.line, hpieces] at hline
    exact ⟨hline.glyphs_eq, .inl hstart, fun _ => hstart, hline.mode_eq⟩
  | nextBlock header =>
    let w' : Writer := { w with level := w.level - 1 }
    have hline := hemit w' (h.unindent 1)
    have hpieces : w'.emit unit ("\x7d " ++ header ++ " \x7b" ++ "\n") =
        ((w'.emit unit "\x7d ").emit unit header).emit unit " \x7b\n" := by
      rw [String.append_assoc, String.append_assoc, emit_append, emit_append]
      rfl
    have hstart : (((w'.emit unit "\x7d ").emit unit header).emit unit " \x7b\n").atLineStart =
        true := atLineStart_emit_newline unit " \x7b"
    rw [FlowCall.line, hpieces] at hline
    exact ⟨hline.glyphs_eq, .inl hstart, fun _ => hstart, hline.mode_eq⟩
  | closeBlock =>
    have hline := hemit { w with level := w.level - 1 } (h.unindent 1)
    exact ⟨hline.glyphs_eq, hline.opensLine, hline.atLineStart, hline.mode_eq⟩

/-- What becomes of the levels over the instructions of a call. -/
theorem levels_after_call (l : Levels) (call : FlowCall) :
    l.after (Code.tokens call.instructions) =
      { l with level := l.level - call.closes + call.opens } := by
  cases call <;> rfl

/-- Plain calls write their lines. -/
theorem wroteLines_print (h : w.OpensLine) {calls : List FlowCall}
    (hcalls : ∀ call ∈ calls, call.IsPlain) :
    WroteLines unit (linesFrom w.level calls) w
      (w.print unit context table scopes (Code.tokens (calls.flatMap FlowCall.instructions))) := by
  induction calls generalizing w with
  | nil => exact .refl h
  | cons call calls ih =>
    obtain ⟨hcall, hrest⟩ := List.forall_mem_cons.1 hcalls
    have hline : WroteLines unit [(w.level - call.closes, call.line)] w _ :=
      wroteLines_print_call context table scopes h hcall
    have hlevel : (w.print unit context table scopes (Code.tokens call.instructions)).level =
        w.level - call.closes + call.opens := by
      have hlevels := w.levels_print unit context table scopes (Code.tokens call.instructions)
      rw [levels_after_call] at hlevels
      exact congrArg Levels.level hlevels
    have hbehind := ih hline.opensLine hrest
    rw [hlevel] at hbehind
    rw [List.flatMap_cons, print_append]
    exact hline.trans hbehind

end Writer

/-- Calls that leave as many blocks open as are open in front of them leave the levels as they
were. -/
theorem levels_after_calls {calls : List FlowCall} {n m : Nat}
    (h : calls.foldlM FlowCall.openAfter? n = some m) {l : Levels} {base : Nat}
    (hl : l.level = base + n) :
    l.after (Code.tokens (calls.flatMap FlowCall.instructions)) = { l with level := base + m } := by
  induction calls generalizing n l with
  | nil =>
    obtain rfl := Option.some.inj h
    rw [← hl]
    rfl
  | cons call calls ih =>
    obtain ⟨k, hcall, hrest⟩ := Option.bind_eq_some_iff.1 ((List.foldlM_cons ..).symm.trans h)
    have hlevel : l.level - call.closes + call.opens = base + k := by
      rw [hl]
      cases call with
      | statement text =>
        obtain rfl := Option.some.inj hcall
        rfl
      | openBlock header =>
        obtain rfl := Option.some.inj hcall
        rfl
      | nextBlock header =>
        rw [FlowCall.openAfter?] at hcall
        split_ifs at hcall with hn
        obtain rfl := Option.some.inj hcall
        simp only [FlowCall.closes, FlowCall.opens]
        omega
      | closeBlock =>
        rw [FlowCall.openAfter?] at hcall
        split_ifs at hcall with hn
        obtain rfl := Option.some.inj hcall
        simp only [FlowCall.closes, FlowCall.opens]
        omega
    rw [List.flatMap_cons, Code.tokens_append, Levels.after_append, Writer.levels_after_call,
      hlevel]
    exact ih hrest rfl

/-! ### Braces -/

/-- The number of open braces behind a character, if there is one for the character to close. -/
def braceAfter? (n : Nat) (c : Char) : Option Nat :=
  if c = '\x7b' then some (n + 1)
  else if c = '\x7d' then if n = 0 then none else some (n - 1)
  else some n

/-- Text whose braces are balanced. -/
def BracesBalanced (chars : List Char) : Prop := chars.foldlM braceAfter? 0 = some 0

/-- Characters without braces do not count. -/
theorem foldlM_braceAfter?_of_forall {chars : List Char} (h : ∀ c ∈ chars, c ∉ ['\x7b', '\x7d'])
    (n : Nat) : chars.foldlM braceAfter? n = some n := by
  induction chars with
  | nil => rfl
  | cons c chars ih =>
    obtain ⟨hc, hrest⟩ := List.forall_mem_cons.1 h
    have hnone : braceAfter? n c = some n := by
      simp only [List.mem_cons, List.not_mem_nil, or_false, not_or] at hc
      rw [braceAfter?, if_neg hc.1, if_neg hc.2]
    rw [List.foldlM_cons, hnone]
    exact ih hrest

theorem IsPlainText.foldlM_braceAfter? {s : String} (h : IsPlainText s) (n : Nat) :
    s.toList.foldlM braceAfter? n = some n := by
  refine foldlM_braceAfter?_of_forall (fun c hc hbrace => h.2 c hc ?_) n
  simp only [List.mem_cons, List.not_mem_nil, or_false] at hbrace ⊢
  tauto

/-- The braces of a line are those of the blocks that its call closes and opens. -/
theorem FlowCall.IsPlain.foldlM_braceAfter?_line {call : FlowCall} (h : call.IsPlain) (n : Nat) :
    call.line.toList.foldlM braceAfter? n = call.openAfter? n := by
  cases call with
  | statement text => exact IsPlainText.foldlM_braceAfter? h n
  | openBlock header =>
    rw [FlowCall.line, String.toList_append, List.foldlM_append,
      IsPlainText.foldlM_braceAfter? h n]
    rfl
  | nextBlock header =>
    rw [FlowCall.line, String.toList_append, String.toList_append, List.foldlM_append,
      List.foldlM_append]
    cases n with
    | zero => rfl
    | succ n =>
      show ((some n).bind fun k => (header.toList.foldlM braceAfter? k)).bind _ = _
      rw [Option.bind_some, IsPlainText.foldlM_braceAfter? h n]
      rfl
  | closeBlock => cases n <;> rfl

/-- The braces of the lines of plain calls are those of their blocks. -/
theorem foldlM_braceAfter?_levelledText {unit : List Char}
    (hunit : ∀ c ∈ unit, c ∉ ['\x7b', '\x7d']) {calls : List FlowCall}
    (hcalls : ∀ call ∈ calls, call.IsPlain) (level n : Nat) :
    (levelledText unit [] (linesFrom level calls)).foldlM braceAfter? n =
      calls.foldlM FlowCall.openAfter? n := by
  induction calls generalizing level n with
  | nil => rfl
  | cons call calls ih =>
    obtain ⟨hcall, hrest⟩ := List.forall_mem_cons.1 hcalls
    have hindentation : ∀ c ∈ (List.replicate (level - call.closes) unit).flatten,
        c ∉ ['\x7b', '\x7d'] := by
      intro c hc
      obtain ⟨piece, hpiece, hmem⟩ := List.mem_flatten.1 hc
      rw [List.eq_of_mem_replicate hpiece] at hmem
      exact hunit c hmem
    rw [linesFrom, levelledText, List.flatMap_cons, ← levelledText, List.append_nil,
      List.foldlM_append, List.foldlM_append, List.foldlM_append, List.foldlM_cons,
      foldlM_braceAfter?_of_forall hindentation]
    simp only [Option.bind_eq_bind, Option.bind_some, hcall.foldlM_braceAfter?_line]
    cases call.openAfter? n with
    | none => rfl
    | some m => exact ih hrest _ m

/-! ### The body of a function -/

namespace Writer

variable {unit : List Char} {w : Writer}

/-- The writer behind an opening brace that ends its line. -/
def openBrace (w : Writer) (unit : List Char) : Writer :=
  { w.emit unit " \x7b\n" with level := (w.emit unit " \x7b\n").level + 1 }

/-- The writer in front of the closing brace. -/
def closeBody (w : Writer) : Writer := { w with level := w.level - 1 }

theorem level_openBrace : (w.openBrace unit).level = w.level + 1 :=
  congrArg (· + 1) (w.level_emit unit " \x7b\n")

theorem atLineStart_openBrace : (w.openBrace unit).atLineStart = true :=
  w.atLineStart_emit_newline unit " \x7b"

theorem lineMarker_openBrace : (w.openBrace unit).lineMarker = w.lineMarker :=
  lineMarker_congr (w.mode_emit unit _)

theorem glyphs_openBrace :
    (w.openBrace unit).glyphs = w.glyphs ++ (w.lead unit ++ [' ', '\x7b', '\n']).map .char :=
  w.glyphs_emit_line unit (s := " \x7b") (by decide) (by decide)

variable (context : NamingContext) (table : Option ImportTable) (scopes : List Scope)

/-- A block of code that ends its last line. -/
theorem print_block {code : Tokens}
    (h : ((w.openBrace unit).print unit context table scopes code).atLineStart = true) :
    w.print unit context table scopes (block (code ++ operation .endLine) ++ word "\n") =
      ((w.openBrace unit).print unit context table scopes code).closeBody.emit unit
        ("\x7d" ++ "\n") := by
  let written := (w.openBrace unit).print unit context table scopes code
  have hended : written.endLine unit = written := by
    rw [endLine, h]
    simp
  have htokens : block (code ++ operation .endLine) ++ word "\n" =
      word " \x7b\n" ++ operation (.indent 1) ++ (code ++
        (operation .endLine ++ operation (.unindent 1) ++ word "\x7d" ++ word "\n")) := by
    simp only [block, List.append_assoc]
  rw [htokens, print_append_tokens, print_append_tokens]
  show ((written.endLine unit).closeBody.emit unit "\x7d").emit unit "\n" = _
  rw [hended, emit_append]

/-- Plain calls between the braces of a function: behind the opening brace, which ends its line,
their lines are one level deeper than the closing brace. -/
theorem glyphs_print_block {calls : List FlowCall} (hnested : WellNested calls)
    (hplain : ∀ call ∈ calls, call.IsPlain) :
    (w.print unit context table scopes (block (Code.tokens
        (calls.flatMap FlowCall.instructions) ++ operation .endLine) ++ word "\n")).glyphs =
      w.glyphs ++ (w.lead unit ++ [' ', '\x7b', '\n'] ++ levelledText unit w.lineMarker
        (linesFrom (w.level + 1) calls ++ [(w.level, "\x7d")])).map .char := by
  let written := (w.openBrace unit).print unit context table scopes
    (Code.tokens (calls.flatMap FlowCall.instructions))
  have hbody : WroteLines unit (linesFrom (w.openBrace unit).level calls) (w.openBrace unit)
      written := wroteLines_print context table scopes (.inl atLineStart_openBrace) hplain
  -- the body ends its last line, so that the brace starts one
  have hstart : written.atLineStart = true := hbody.atLineStart atLineStart_openBrace
  have hclosing : written.closeBody.level = w.level := by
    have hlevels := (w.openBrace unit).levels_print unit context table scopes
      (Code.tokens (calls.flatMap FlowCall.instructions))
    rw [levels_after_calls hnested (Nat.add_zero _).symm] at hlevels
    have hwritten : written.level = (w.openBrace unit).level := congrArg Levels.level hlevels
    rw [closeBody, hwritten, level_openBrace, Nat.add_sub_cancel]
  have hmarker : written.closeBody.lineMarker = w.lineMarker :=
    (lineMarker_congr (w := written.closeBody) hbody.mode_eq).trans lineMarker_openBrace
  have hclosed : WroteLines unit [(written.closeBody.level, "\x7d")] written.closeBody
      (written.closeBody.emit unit ("\x7d" ++ "\n")) := by
    have hopens : written.closeBody.OpensLine := .inl hstart
    exact .emit hopens (by decide) (by decide)
  have hlines : written.closeBody.glyphs = _ := hbody.glyphs_eq
  rw [level_openBrace, glyphs_openBrace, lineMarker_openBrace] at hlines
  rw [print_block context table scopes hstart, hclosed.glyphs_eq, hlines, hmarker, hclosing,
    levelledText_append]
  simp only [List.map_append, List.append_assoc]

end Writer

/-- The text of plain calls on their own. -/
theorem layout_calls (options : FormatOptions) (context : NamingContext)
    (table : Option ImportTable) {calls : List FlowCall} (hplain : ∀ call ∈ calls, call.IsPlain) :
    layout options (context.write table (Code.tokens (calls.flatMap FlowCall.instructions))) =
      String.ofList (levelledText options.indent.unit [] (linesFrom 0 calls)) :=
  layout_eq_ofList options
    (Writer.wroteLines_print context table [] Writer.opensLine_start hplain).glyphs_eq

theorem Indent.brace_notMem_unit (i : Indent) : ∀ c ∈ i.unit, c ∉ ['\x7b', '\x7d'] := by
  cases i with
  | spaces width =>
    intro c hc
    rw [List.eq_of_mem_replicate hc]
    decide
  | tab => simp [Indent.unit]

section Functions

variable (options : FormatOptions) (context : NamingContext) (table : Option ImportTable)
  (f : FunctionDecl Code) (inInterface : Bool) (before after : Tokens)

/-- In front of the body of a function the writer is in no comment if it was in none before, and on
the level on which it was before if the other code in the function takes back its indentation. -/
theorem frame_of_print_head :
    let unit := options.indent.unit
    let start := Writer.start.run unit (context.write table before)
    let w := Writer.start.run unit (context.write table (before ++ f.printed.head inInterface))
    (start.InCode → w.InCode) ∧
      ((∀ piece ∈ f.headPieces, KeepsLevel (Code.tokens piece)) → w.level = start.level) := by
  intro unit start w
  have hpieces : ∀ {P : Tokens → Prop}, (∀ piece ∈ f.headPieces, P (Code.tokens piece)) →
      ∀ piece ∈ f.printed.headPieces, P piece := by
    intro P h
    rw [FunctionDecl.printed, FunctionDecl.headPieces_map]
    exact List.forall_mem_map.2 h
  have hw : w = start.print unit context table (before.foldl scopesAfter [])
      (f.printed.head inInterface) := Writer.start.print_append_tokens unit context table [] _ _
  rw [hw]
  refine ⟨fun h => h.print ?_ unit context table _, fun h => ?_⟩
  · exact nestClosed_keepsInCode.functionHead (hpieces fun piece _ => keepsInCode_code piece) _
  · have hlevels := start.levels_print unit context table (before.foldl scopesAfter [])
      (f.printed.head inInterface)
    exact (congrArg Levels.level hlevels).trans
      (nestClosed_keepsLevel.functionHead (hpieces h) inInterface _)

variable {f inInterface}

/-- The text of plain calls as the body of a function. -/
theorem exists_layout_functionBody {calls : List FlowCall} (hnested : WellNested calls)
    (hplain : ∀ call ∈ calls, call.IsPlain) (hbody : f.body = calls.flatMap FlowCall.instructions)
    (hbraces : f.printed.isBodiless inInterface = false) :
    let unit := options.indent.unit
    let w := Writer.start.run unit (context.write table (before ++ f.printed.head inInterface))
    ∃ front back,
      layout options (context.write table (before ++ f.printed.tokens inInterface ++ after)) =
        String.ofList (front ++ [' ', '\x7b', '\n'] ++ levelledText unit w.lineMarker
          (linesFrom (w.level + 1) calls ++ [(w.level, "\x7d")]) ++ back) := by
  intro unit w
  let scopes := (before ++ f.printed.head inInterface).foldl scopesAfter []
  let body := block (Code.tokens (calls.flatMap FlowCall.instructions) ++ operation .endLine) ++
    word "\n"
  have htokens : before ++ f.printed.tokens inInterface ++ after =
      before ++ f.printed.head inInterface ++ body ++ after := by
    rw [FunctionDecl.tokens_eq_of_isBodiless_eq_false hbraces,
      show f.printed.body = Code.tokens f.body from rfl, hbody]
    simp only [body, List.append_assoc]
  have hwritten : writtenGlyphs unit (context.write table (before ++ f.printed.head inInterface) ++
      context.writeIn table scopes body) = _ :=
    (congrArg Writer.glyphs (Writer.start.run_append unit _ _)).trans
      (w.glyphs_print_block context table scopes hnested hplain)
  obtain ⟨front, back, -, hlayout⟩ := exists_layout_chars options hwritten
    (context.writeIn table (body.foldl scopesAfter scopes) after)
  refine ⟨itemsText unit front ++ w.lead unit, itemsText unit back, ?_⟩
  have hwrite : context.write table (before ++ f.printed.head inInterface ++ body ++ after) =
      context.write table (before ++ f.printed.head inInterface) ++
        context.writeIn table scopes body ++
          context.writeIn table (body.foldl scopesAfter scopes) after := by
    rw [context.write_append, context.write_append]
    simp only [scopes, List.foldl_append]
  rw [htokens, hwrite, hlayout]
  simp only [List.append_assoc]
  rfl

end Functions

/-- **Control flow is printed as a block structure.**  Well-nested calls with plain headers and
statements describe exactly one tree and go through.  Their code is written as the printer of the
tree says: a line for every statement, header and closing brace, behind the indentation of the
blocks around it, under every unit of indentation and column limit.  The braces of that text are
balanced, and the level, the open statements and those set aside are behind the code what they were
in front of it.  As the body of a function that is written with braces, wherever the function
stands, the same lines stand one level deeper than the closing brace behind them; outside of
comments they have no marker, and the closing brace is on the level of the function if the other
code in the function takes back its indentation. -/
theorem WellNested.flow_of_calls {calls : List FlowCall} (hnested : WellNested calls)
    (hplain : ∀ call ∈ calls, call.IsPlain) :
    ∃ (flow : Flow) (code : Code),
      (∀ flow' : Flow, flow'.calls = calls ↔ flow' = flow) ∧ flowCode calls = .ok code ∧
      (∀ (options : FormatOptions) (context : NamingContext) (table : Option ImportTable),
        layout options (context.write table code.tokens) =
            String.ofList (levelledText options.indent.unit [] (flow.lines 0)) ∧
          BracesBalanced (levelledText options.indent.unit [] (flow.lines 0))) ∧
      (∀ l : Levels, l.after code.tokens = l) ∧
      ∀ (f : FunctionDecl Code) (inInterface : Bool), f.body = code →
        f.printed.isBodiless inInterface = false →
        ∀ (options : FormatOptions) (context : NamingContext) (table : Option ImportTable)
          (before after : Tokens),
          let unit := options.indent.unit
          let start := Writer.start.run unit (context.write table before)
          let w := Writer.start.run unit
            (context.write table (before ++ f.printed.head inInterface))
          (start.InCode → w.lineMarker = []) ∧
          ((∀ piece ∈ f.headPieces, KeepsLevel (Code.tokens piece)) → w.level = start.level) ∧
          ∃ front back,
            layout options (context.write table
                (before ++ f.printed.tokens inInterface ++ after)) =
              String.ofList (front ++ [' ', '\x7b', '\n'] ++
                levelledText unit w.lineMarker (flow.lines (w.level + 1) ++ [(w.level, "\x7d")]) ++
                back) := by
  obtain ⟨flow, hflow⟩ := Flow.exists_calls_eq hnested
  have hlines : ∀ level, linesFrom level calls = flow.lines level := by
    intro level
    have hall := flow.linesFrom_calls level []
    rwa [List.append_nil, hflow, linesFrom, List.append_nil] at hall
  refine ⟨flow, calls.flatMap FlowCall.instructions, fun flow' => ⟨fun h => ?_, fun h => h ▸ hflow⟩,
    flowCode_eq_ok hplain, fun options context table => ⟨?_, ?_⟩, fun l => ?_, ?_⟩
  · exact Flow.eq_of_calls_eq (h.trans hflow.symm)
  · rw [← hlines]
    exact layout_calls options context table hplain
  · rw [← hlines]
    have hbraces := foldlM_braceAfter?_levelledText options.indent.brace_notMem_unit hplain 0 0
    exact hbraces.trans hnested
  · exact levels_after_calls hnested rfl
  · intro f inInterface hbody hbraces options context table before after unit start w
    obtain ⟨hmode, hlevel⟩ := frame_of_print_head options context table f inInterface before
    refine ⟨fun h => (hmode h).lineMarker_eq_nil, hlevel, ?_⟩
    rw [← hlines]
    exact exists_layout_functionBody options context table before after hnested hplain hbody hbraces

/-- A construct with two blocks, the second one without statements, and a statement behind it. -/
theorem WellNested.flow_of_calls_else :
    let calls : List FlowCall := [.openBlock "if (a)", .openBlock "while (b)", .statement "f()",
      .closeBlock, .nextBlock "else", .closeBlock, .statement "g()"]
    WellNested calls ∧ (∀ call ∈ calls, call.IsPlain) ∧
      ∃ code, flowCode calls = .ok code ∧ code.text =
        "if (a) \x7b\n  while (b) \x7b\n    f()\n  \x7d\n\x7d else \x7b\n\x7d\ng()\n" := by
  intro calls
  have hnested : WellNested calls := by decide
  have hplain : ∀ call ∈ calls, call.IsPlain := by simp [calls, FlowCall.IsPlain, IsPlainText]
  obtain ⟨flow, code, hflow, hcode, hlayout, -⟩ := flow_of_calls hnested hplain
  obtain rfl := (hflow (.construct "if (a)" (.construct "while (b)" (.statement "f()" .done) .none
    .done) (.next "else" .done .none) (.statement "g()" .done))).1 rfl
  exact ⟨hnested, hplain, code, hcode, (hlayout {} .detached none).1.trans (by decide)⟩

end KotlinSource
