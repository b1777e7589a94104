import KotlinSource.Proofs.Code.ControlFlow
import KotlinSource.Proofs.Layout.Indentation
import KotlinSource.Proofs.Printing.MemberLines

/-!
# The bodies of functions

A function with a body is written with its body between braces, whatever it is a member of.  Without
braces are written the abstract functions, the functions of interfaces and the constructors that
have no body; no abstract function is built with one.  What is expected or external is written
without braces as well, but may be built with a body, which is then lost.

## Main definitions

* `Glyph.char?`: the characters among what has been written.
* `TextPlace.WritesBraced`: code stands between braces in a text, with all that it brings.

## Main results

* `Writer.exists_glyphs_run`: a writer drops no character.
* `TextPlace.writesBraced`: a block of code stands between braces.
* `FunctionDecl.isBodiless_printed`: the functions that are written without braces.
* `Holder.exists_tokens_eq_function`: a function stands in the code of what holds it.
* `FunctionDecl.writes_body_of_build`: the bodies of functions are written, unless they are expected
  or external.
-/

namespace KotlinSource

/-! ### Characters that are brought along -/

/-- The character, if it is one. -/
def Glyph.char? : Glyph → Option Char
  | .char c => some c
  | .point _ => none

/-- What becomes of the break points drops no character. -/
theorem filterMap_char?_sublist_itemsText (unit : List Char) (items : List Item) :
    ((items.map Item.glyph).filterMap Glyph.char?).Sublist (itemsText unit items) := by
  induction items with
  | nil => exact .slnil
  | cons i items ih =>
    rw [itemsText_cons]
    cases i with
    | char c => exact ih.cons_cons c
    | point b d => exact ih.trans (List.sublist_append_right _ _)

theorem filterMap_char?_map_char (chars : List Char) :
    (chars.map Glyph.char).filterMap Glyph.char? = chars := by
  rw [List.filterMap_map]
  exact List.filterMap_some

namespace Writer

variable (unit : List Char) (w : Writer)

/-- All characters of a text are written. -/
theorem exists_glyphs_emit_sublist (s : String) :
    ∃ chars : List Char, (w.emit unit s).glyphs = w.glyphs ++ chars.map .char ∧
      s.toList.Sublist chars := by
  rw [emit]
  induction s.toList generalizing w with
  | nil => exact ⟨[], (List.append_nil _).symm, .slnil⟩
  | cons c cs ih =>
    obtain ⟨first, hfirst⟩ := exists_glyphs_emitChar unit w c
    obtain ⟨others, hothers, hsublist⟩ := ih (w.emitChar unit c)
    refine ⟨first ++ c :: others, ?_, ?_⟩
    · rw [List.foldl_cons, hothers, hfirst]
      simp
    · exact (hsublist.cons_cons c).trans (List.sublist_append_right _ _)

/-- A writer drops no character of the texts that its operations bring along. -/
theorem exists_glyphs_run (ops : List LayoutOp) :
    ∃ written, (w.run unit ops).glyphs = w.glyphs ++ written ∧
      (ops.flatMap (·.broughtText.toList)).Sublist (written.filterMap Glyph.char?) := by
  induction ops generalizing w with
  | nil => exact ⟨[], (List.append_nil _).symm, .slnil⟩
  | cons op ops ih =>
    have hstep : ∃ written, (w.step unit op).glyphs = w.glyphs ++ written ∧
        op.broughtText.toList.Sublist (written.filterMap Glyph.char?) := by
      by_cases htext : ∃ s, op = .text s
      · obtain ⟨s, rfl⟩ := htext
        obtain ⟨chars, hchars, hsublist⟩ := w.exists_glyphs_emit_sublist unit s
        refine ⟨chars.map .char, hchars, ?_⟩
        rw [filterMap_char?_map_char]
        exact hsublist
      · obtain ⟨written, hwritten⟩ := w.glyphs_prefix_step unit op
        have hbrought : op.broughtText = "" := by
          cases op with
          | text s => exact absurd ⟨s, rfl⟩ htext
          | _ => rfl
        refine ⟨written, hwritten.symm, ?_⟩
        rw [hbrought]
        exact List.nil_sublist _
    obtain ⟨first, hfirst, hsublist⟩ := hstep
    obtain ⟨others, hothers, hsublist'⟩ := ih (w.step unit op)
    refine ⟨first ++ others, ?_, ?_⟩
    · rw [run, List.foldl_cons, ← run, hothers, hfirst, List.append_assoc]
    · rw [List.flatMap_cons, List.filterMap_append]
      exact hsublist.append hsublist'

end Writer

/-! ### Code between braces -/

/-- What is written between two runs of characters stands between them in the text. -/
theorem exists_layout_between (options : FormatOptions) {ops : List LayoutOp}
    {before between behind : List Glyph} {opening closing : List Char}
    (h : writtenGlyphs options.indent.unit ops =
      before ++ (opening.map .char ++ (between ++ (closing.map .char ++ behind)))) :
    ∃ front inside back : List Item,
      layout options ops = String.ofList (itemsText options.indent.unit front ++ opening ++
        itemsText options.indent.unit inside ++ closing ++ itemsText options.indent.unit back) ∧
      front.map Item.glyph = before ∧ inside.map Item.glyph = between := by
  have hmap := (map_glyph_decided options.columnLimit options.indent.unit [] _).trans h
  obtain ⟨front, items, hitems, hfront, hmap⟩ := List.map_eq_append_iff.1 hmap
  obtain ⟨first, items, rfl, hopening, hmap⟩ := List.map_eq_append_iff.1 hmap
  obtain ⟨inside, items, rfl, hinside, hmap⟩ := List.map_eq_append_iff.1 hmap
  obtain ⟨last, back, rfl, hclosing, -⟩ := List.map_eq_append_iff.1 hmap
  rw [eq_chars_of_map_glyph hopening, eq_chars_of_map_glyph hclosing] at hitems
  refine ⟨front, inside, back, ?_, hfront, hinside⟩
  rw [layout_eq_itemsText, hitems]
  simp only [itemsText_append, itemsText_chars, List.append_assoc]

/-- In the text code stands between braces that end their lines, behind other code in the place.  In
between is what a writer writes that prints the code, instruction by instruction, behind the opening
brace and ends its line, up to the indentation of the closing brace.  It holds all characters that
the code brings along, with its references as they are written there, in their order. -/
def TextPlace.WritesBraced (place : TextPlace) (left : Tokens) (code : Code) (text : String) :
    Prop :=
  let unit := place.options.indent.unit
  let opened := left ++ (word " \x7b\n" ++ operation (.indent 1))
  let closed := opened ++ code.tokens ++ (operation .endLine ++ operation (.unindent 1))
  ∃ front inside back : List Item,
    text = String.ofList (itemsText unit front ++ [' ', '\x7b', '\n'] ++ itemsText unit inside ++
      ['\x7d', '\n'] ++ itemsText unit back) ∧
    front.map Item.glyph =
      (place.writer left).glyphs ++ ((place.writer left).lead unit).map .char ∧
    (place.writer opened).glyphs ++ inside.map Item.glyph =
      (place.writer closed).glyphs ++ ((place.writer closed).lead unit).map .char ∧
    ((place.context.writeIn place.table (opened.foldl scopesAfter place.scopes)
      code.tokens).flatMap (·.broughtText.toList)).Sublist (itemsText unit inside)

namespace TextPlace

variable (place : TextPlace) (left right : Tokens) (code : Code)

/-- Behind other code in the place the writer drops no character of the texts that code brings
along. -/
theorem exists_glyphs_writer_append :
    ∃ written, (place.writer (left ++ right)).glyphs = (place.writer left).glyphs ++ written ∧
      ((place.context.writeIn place.table (left.foldl scopesAfter place.scopes) right).flatMap
        (·.broughtText.toList)).Sublist (written.filterMap Glyph.char?) := by
  rw [writer_append, Writer.print]
  exact Writer.exists_glyphs_run ..

/-- The text of a place starts with what is written for the code on the left. -/
theorem exists_writtenGlyphs_eq :
    ∃ rest, writtenGlyphs place.options.indent.unit
        (place.before ++ place.context.writeIn place.table place.scopes (left ++ right) ++
          place.after) =
      (place.writer left).glyphs ++ rest := by
  obtain ⟨rest, hrest⟩ := writtenGlyphs_prefix_append place.options.indent.unit
    (place.before ++ place.context.writeIn place.table place.scopes left)
    (place.context.writeIn place.table (left.foldl scopesAfter place.scopes) right ++ place.after)
  refine ⟨rest, ?_⟩
  have hleft : writtenGlyphs place.options.indent.unit
      (place.before ++ place.context.writeIn place.table place.scopes left) =
      (place.writer left).glyphs := congrArg Writer.glyphs (Writer.run_append _ _ _ _)
  rw [← hleft, hrest, NamingContext.writeIn_append]
  simp only [List.append_assoc]

/-- A block of code stands between braces. -/
theorem writesBraced :
    place.WritesBraced left code
      (place.text (left ++ (block (code.tokens ++ operation .endLine) ++ word "\n") ++ right)) := by
  let unit := place.options.indent.unit
  let opened := left ++ (word " \x7b\n" ++ operation (.indent 1))
  let closed := opened ++ code.tokens ++ (operation .endLine ++ operation (.unindent 1))
  have htokens : left ++ (block (code.tokens ++ operation .endLine) ++ word "\n") =
      closed ++ (word "\x7d" ++ word "\n") := by
    simp only [block, closed, opened, List.append_assoc]
  -- the characters of both braces, and what is written between them
  have hopened : (place.writer opened).glyphs = (place.writer left).glyphs ++
      ((place.writer left).lead unit ++ [' ', '\x7b', '\n']).map .char := by
    rw [place.writer_append]
    exact Writer.glyphs_openBrace (w := place.writer left)
  obtain ⟨body, hbody, hsublist⟩ := place.exists_glyphs_writer_append opened code.tokens
  obtain ⟨ending, hending, -⟩ := place.exists_glyphs_writer_append (opened ++ code.tokens)
    (operation .endLine ++ operation (.unindent 1))
  have hclosed : (place.writer closed).glyphs =
      (place.writer opened).glyphs ++ (body ++ ending) := by
    rw [hending, hbody, List.append_assoc]
  have hbrace : (place.writer (closed ++ (word "\x7d" ++ word "\n"))).glyphs =
      (place.writer closed).glyphs ++
        ((place.writer closed).lead unit ++ ['\x7d', '\n']).map .char := by
    rw [place.writer_append]
    exact (place.writer closed).glyphs_emit_line unit (s := "\x7d") (by decide) (by decide)
  obtain ⟨rest, hwritten⟩ :=
    place.exists_writtenGlyphs_eq (closed ++ (word "\x7d" ++ word "\n")) right
  have hparts : writtenGlyphs unit (place.before ++ place.context.writeIn place.table place.scopes
        (closed ++ (word "\x7d" ++ word "\n") ++ right) ++ place.after) =
      ((place.writer left).glyphs ++ ((place.writer left).lead unit).map .char) ++
        ([' ', '\x7b', '\n'].map .char ++
          ((body ++ ending ++ ((place.writer closed).lead unit).map .char) ++
            (['\x7d', '\n'].map .char ++ rest))) := by
    rw [hwritten, hbrace, hclosed, hopened]
    simp only [List.map_append, List.append_assoc]
  obtain ⟨front, inside, back, hlayout, hfront, hinside⟩ :=
    exists_layout_between place.options hparts
  refine ⟨front, inside, back, ?_, hfront, ?_, ?_⟩
  · rw [text, htokens, hlayout]
  · show (place.writer opened).glyphs ++ _ =
      (place.writer closed).glyphs ++ ((place.writer closed).lead unit).map .char
    rw [hinside, hclosed, List.append_assoc, List.append_assoc, List.append_assoc]
  · refine hsublist.trans (List.Sublist.trans ?_ (filterMap_char?_sublist_itemsText unit inside))
    rw [hinside, List.append_assoc, List.filterMap_append]
    exact List.sublist_append_left _ _

end TextPlace

/-! ### Functions -/

namespace FunctionDecl

/-- An abstract function is only built without a body. -/
theorem body_eq_nil_of_build {name : Option String} {parts : List FunctionPart}
    {f : FunctionDecl Code} (hf : build name parts = .ok f) (habstract : .abstract ∈ f.modifiers) :
    f.body = [] := by
  obtain ⟨hfaults, rfl⟩ := accept_eq_ok_iff.1 hf
  simp only [faults, List.append_eq_nil_iff, faultIf_eq_nil_iff] at hfaults
  obtain ⟨⟨-, hbody⟩, -⟩ := hfaults
  simpa [hasBody, habstract] using hbody

/-- Without braces are written the functions that leave their bodies to others, and those without a
body that need not have one. -/
theorem isBodiless_printed (f : FunctionDecl Code) (inInterface : Bool) :
    f.printed.isBodiless inInterface = true ↔
      (.abstract ∈ f.modifiers ∨ .expected ∈ f.modifiers ∨ .external ∈ f.modifiers) ∨
        f.body = [] ∧ (inInterface = true ∨ f.isConstructor = true) := by
  have hbody : f.printed.body.isEmpty = f.body.isEmpty := Code.isEmpty_tokens f.body
  have hmodifiers : f.printed.modifiers = f.modifiers := rfl
  have hconstructor : f.printed.isConstructor = f.isConstructor := rfl
  rw [isBodiless, hbody, hmodifiers, hconstructor]
  simp

/-- A function is written without braces if nothing but the end of its line stands behind its
head. -/
theorem tokens_eq_head_iff (f : FunctionDecl Tokens) (inInterface : Bool) :
    f.tokens inInterface = f.head inInterface ++ word "\n" ↔ f.isBodiless inInterface = true := by
  constructor
  · intro htokens
    by_contra hbodiless
    rw [tokens_eq_of_isBodiless_eq_false (Bool.eq_false_iff.2 hbodiless),
      List.append_assoc] at htokens
    have hblock := congrArg List.length (List.append_cancel_left htokens)
    simp [block, word] at hblock
  · intro hbodiless
    rw [tokens, if_pos hbodiless, List.append_nil]
    rfl

end FunctionDecl

/-- A function stands in the code of what holds it, also where a type is written as an expression,
and at any depth. -/
theorem Holder.exists_tokens_eq_function {holder : Holder} {f : FunctionDecl Code}
    (hf : f ∈ holder.decl.functions) (hkind : holder.decl.kind ≠ .annotationClass) :
    (∃ left right, holder.decl.printed.expressionTokens =
      left ++ f.printed.tokens (holder.decl.kind == .interface) ++ right) ∧
    ∀ d left right, (Holder.type d).Within left holder right →
      ∃ left' right', d.printed.tokens =
        left' ++ f.printed.tokens (holder.decl.kind == .interface) ++ right' := by
  obtain ⟨front, back, hparts⟩ := List.append_of_mem
    (TypeDecl.member_mem_bodyParts.2 (TypeDecl.HasMember.function hf hkind))
  constructor
  · have hgroups := holder.decl.printed.partsTokens_bodyParts
    rw [show holder.decl.printed.bodyParts = _ from hparts, partsTokens_append,
      partsTokens_cons] at hgroups
    refine ⟨operation .suspend ++ word "object" ++ holder.decl.printed.objectSupertype ++
      word " \x7b\n" ++ operation (.indent 1) ++ partsTokens front,
      partsTokens back ++ operation (.unindent 1) ++ word "\x7d" ++ operation .resume, ?_⟩
    rw [TypeDecl.expressionTokens, TypeDecl.objectTokens, ← hgroups]
    simp only [block, BodyPart.tokens, Member.tokens, List.append_assoc]
  · intro d left right hwithin
    have htokens : d.printed.tokens = left ++ holder.member.tokens ++ right := hwithin.tokens_eq
    rw [Holder.tokens_eq_of_parts hparts] at htokens
    exact ⟨left ++ holder.before front, holder.behind back ++ right, by
      rw [htokens]
      simp only [Member.tokens, List.append_assoc]⟩

/-- **The bodies of functions are written.**  Whatever a function is built from, it is written
without braces exactly if it is expected or external, or has no body and is abstract, a constructor
or in an interface.  If it has a body and is neither expected nor external, all instructions of the
body are printed in their order between braces behind the head of the function.  In every place of
every text, under every unit of indentation and column limit, these braces stand there with all that
the body brings along in between.

A function is written in this way on its own and in the code of what holds it: a class, an
interface, an enum, an object or the body of an enum constant, at any depth, or an object
expression.  The members of an annotation class are not written as functions. -/
theorem FunctionDecl.writes_body_of_build {name : Option String} {parts : List FunctionPart}
    {f : FunctionDecl Code} (hf : build name parts = .ok f) :
    (∀ inInterface,
      f.printed.tokens inInterface = f.printed.head inInterface ++ word "\n" ↔
        (.expected ∈ f.modifiers ∨ .external ∈ f.modifiers) ∨
          f.body = [] ∧
            (.abstract ∈ f.modifiers ∨ inInterface = true ∨ f.isConstructor = true)) ∧
    (f.body ≠ [] → .expected ∉ f.modifiers → .external ∉ f.modifiers → ∀ inInterface,
      f.printed.tokens inInterface =
        f.printed.head inInterface ++
          block (f.body.flatMap (Code.expandInstruction Instruction.tokens
            TypeDecl.expressionTokens) ++ operation .endLine) ++ word "\n" ∧
      ∀ (place : TextPlace) (left right : Tokens),
        place.WritesBraced (left ++ f.printed.head inInterface) f.body
          (place.text (left ++ f.printed.tokens inInterface ++ right))) ∧
    f.text = TextPlace.detached.text ([] ++ f.printed.tokens false ++ []) ∧
    ∀ holder : Holder, f ∈ holder.decl.functions → holder.decl.kind ≠ .annotationClass →
      (∃ left right, holder.decl.printed.expressionTokens =
        left ++ f.printed.tokens (holder.decl.kind == .interface) ++ right) ∧
      ∀ d left right, (Holder.type d).Within left holder right →
        ∃ left' right', d.printed.tokens =
          left' ++ f.printed.tokens (holder.decl.kind == .interface) ++ right' := by
  have habstract := body_eq_nil_of_build hf
  refine ⟨fun inInterface => ?_, fun hbody hexpected hexternal inInterface => ?_, ?_,
    fun holder hmem hkind => holder.exists_tokens_eq_function hmem hkind⟩
  · rw [tokens_eq_head_iff, isBodiless_printed]
    tauto
  · have hbraces : f.printed.isBodiless inInterface = false := by
      rw [Bool.eq_false_iff, Ne, isBodiless_printed]
      tauto
    have htokens := tokens_eq_of_isBodiless_eq_false hbraces
    have hcode : f.printed.body = f.body.tokens := rfl
    refine ⟨?_, fun place left right => ?_⟩
    · rw [htokens, hcode, Code.tokens, Code.expand_eq_flatMap]
    · have hwrites := place.writesBraced (left ++ f.printed.head inInterface) right f.body
      rw [htokens, hcode]
      simpa only [List.append_assoc] using hwrites
  · rw [List.nil_append, List.append_nil, TextPlace.text_detached]
    rfl

/-- The body of a function that reads a value. -/
def readBody : Code := [.beginStatement, .text "read()", .text "\n", .endStatement]

/-- A function of an interface stands with its body between braces. -/
theorem FunctionDecl.writes_body_of_build_load :
    ∃ f, build (some "load") [.modifiers [.suspend], .body readBody] = .ok f ∧
      f.body ≠ [] ∧ .expected ∉ f.modifiers ∧ .external ∉ f.modifiers ∧
      TextPlace.detached.text ([] ++ f.printed.tokens true ++ []) =
        "suspend fun load() \x7b\n  read()\n\x7d\n" ∧
      TextPlace.detached.WritesBraced ([] ++ f.printed.head true) readBody
        "suspend fun load() \x7b\n  read()\n\x7d\n" := by
  let f : FunctionDecl Code :=
    { FunctionDecl.start (some "load") with modifiers := [.suspend], body := readBody }
  have hbuild : build (some "load") [.modifiers [.suspend], .body readBody] = .ok f := rfl
  have hbody : f.body ≠ [] := List.cons_ne_nil _ _
  have hexpected : .expected ∉ f.modifiers := by decide
  have hexternal : .external ∉ f.modifiers := by decide
  have htext : TextPlace.detached.text ([] ++ f.printed.tokens true ++ []) =
      "suspend fun load() \x7b\n  read()\n\x7d\n" := by decide +kernel
  obtain ⟨-, hwrites⟩ := (writes_body_of_build hbuild).2.1 hbody hexpected hexternal true
  exact ⟨f, hbuild, hbody, hexpected, hexternal, htext, htext ▸ hwrites TextPlace.detached [] []⟩

/-- An external function is built with its body and written without it. -/
theorem FunctionDecl.text_externalFunction :
    ∃ f, build (some "load") [.modifiers [.external], .body readBody] = .ok f ∧ f.body = readBody ∧
      f.text = "external fun load()\n" ∧ '\x7b' ∉ f.text.toList := by
  refine ⟨_, rfl, rfl, ?_, ?_⟩
  · decide +kernel
  · decide +kernel

end KotlinSource
