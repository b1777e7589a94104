import KotlinSource.Proofs.Layout.Levels
import KotlinSource.Proofs.Naming.Shadowing

/-!
# What a printed type leaves behind

A type can stand in the middle of a statement, as an anonymous type in code.  It is printed with the
open statements set aside, so that the code in it may open and close statements as it likes; behind
it the writer has the open statements, the statements set aside and the scopes that it had in front
of it.  It also has the level that it had if every piece of code in the type, at any depth, takes
back the indentation that it makes and no other one.  So the lines behind a type are continued as
they would be behind a word.

## Main definitions

* `Levels.after`: what becomes of the level and of the statements over printed code.
* `Writer.print`: the writer behind printed code.
* `KeepsSuspended`, `KeepsLevel`: printed code that leaves the statements set aside or the level as
  they were.
* `Code.IsIndentBalanced`: code that takes back the indentation that it makes.
* `TypeDecl.HasCode`: the code in a type, at any depth.

## Main results

* `nestClosed_keepsSuspended`, `nestClosed_keepsLevel`: declarations.
* `keepsSuspended_code`, `keepsLevel_code`: code with anonymous types in it.
* `TypeDecl.frame_of_print`: the writer behind a printed type.
-/

namespace KotlinSource

/-! ### Levels over printed code -/

namespace Levels

/-- What becomes of the levels over a token. -/
def afterToken (l : Levels) : Token → Levels
  | .layout op => l.step op
  | _ => l

/-- What becomes of the levels over printed code. -/
def after (l : Levels) (tokens : Tokens) : Levels := tokens.foldl afterToken l

theorem after_append (l : Levels) (left right : Tokens) :
    l.after (left ++ right) = (l.after left).after right := List.foldl_append

theorem after_around (l : Levels) (b : Bracket) (inside : Tokens) :
    l.after (b.around inside) = ((l.step b.opening).after inside).step b.closing := by
  rw [Bracket.around, after_append, after_append]
  rfl

/-- Operations that open and close nothing leave the levels as they are. -/
theorem step_of_isFlat (l : Levels) {op : LayoutOp} (h : op.isFlat = true) : l.step op = l := by
  cases op with
  | text s => rfl
  | wrap => rfl
  | comma => rfl
  | wrapTight => rfl
  | blankLine => rfl
  | endLine => rfl
  | _ => cases h

end Levels

/-- The writer behind printed code in the given scopes. -/
def Writer.print (w : Writer) (unit : List Char) (context : NamingContext)
    (table : Option ImportTable) (scopes : List Scope) (tokens : Tokens) : Writer :=
  w.run unit (context.writeIn table scopes tokens)

/-- Printed code is written part by part, from the scopes in which its first part ends. -/
theorem Writer.print_append_tokens (w : Writer) (unit : List Char) (context : NamingContext)
    (table : Option ImportTable) (scopes : List Scope) (left right : Tokens) :
    w.print unit context table scopes (left ++ right) =
      (w.print unit context table scopes left).print unit context table
        (left.foldl scopesAfter scopes) right := by
  rw [print, NamingContext.writeIn_append, run_append, ← print, ← print]

/-- What is written for references does not matter. -/
theorem Writer.levels_print (w : Writer) (unit : List Char) (context : NamingContext)
    (table : Option ImportTable) (scopes : List Scope) (tokens : Tokens) :
    (w.print unit context table scopes tokens).levels = w.levels.after tokens := by
  rw [print, levels_run]
  generalize w.levels = l
  induction tokens generalizing l scopes with
  | nil => rfl
  | cons t rest ih =>
    rw [NamingContext.writeIn, locate, List.map_append, Levels.run, List.foldl_append, ← Levels.run,
      ← NamingContext.writeIn, ih, Levels.after, Levels.after, List.foldl_cons]
    cases t <;> rfl

/-! ### Statements set aside -/

/-- Printed code that leaves the statements set aside as they were. -/
def KeepsSuspended (tokens : Tokens) : Prop :=
  ∀ l : Levels, (l.after tokens).suspended = l.suspended

theorem appendClosed_keepsSuspended : AppendClosed KeepsSuspended where
  nil _ := rfl
  append hleft hright l := by rw [Levels.after_append, hright, hleft]

/-- The operations that set statements aside and bring them back. -/
def LayoutOp.movesStatements : LayoutOp → Bool
  | .suspend => true
  | .resume => true
  | _ => false

/-- The other operations do not look at the statements set aside. -/
theorem keepsSuspended_layout {op : LayoutOp} (h : op.movesStatements = false) :
    KeepsSuspended [.layout op] := by
  intro l
  cases op with
  | suspend => cases h
  | resume => cases h
  | _ => rfl

/-- Behind code with the open statements set aside these are open again. -/
theorem KeepsSuspended.statements_after_aside {inside : Tokens} (h : KeepsSuspended inside)
    (l : Levels) :
    (l.after (Bracket.aside.around inside)).statements = l.statements ∧
      (l.after (Bracket.aside.around inside)).suspended = l.suspended := by
  have hinside : ((l.step Bracket.aside.opening).after inside).suspended =
      l.statements :: l.suspended := h _
  rw [Levels.after_around]
  generalize (l.step Bracket.aside.opening).after inside = last at hinside ⊢
  show last.suspended.headD last.statements = l.statements ∧ last.suspended.tail = l.suspended
  rw [hinside]
  exact ⟨rfl, rfl⟩

theorem nestClosed_keepsSuspended : NestClosed KeepsSuspended := by
  refine .of_flat appendClosed_keepsSuspended (fun op hop l => ?_) (fun r l => rfl) ?_
  · exact congrArg Levels.suspended (l.step_of_isFlat hop)
  · intro b inside hinside
    cases b with
    | aside => exact fun l => (hinside.statements_after_aside l).2
    | _ =>
      exact appendClosed_keepsSuspended.append (appendClosed_keepsSuspended.append
        (keepsSuspended_layout rfl) hinside) (keepsSuspended_layout rfl)

/-- The bounds of bodies do not touch the levels. -/
theorem bodyClosed_keepsSuspended {κ : Type} (d : TypeDecl κ) : BodyClosed KeepsSuspended d :=
  fun _ _ _ hinside => appendClosed_keepsSuspended.append
    (appendClosed_keepsSuspended.append (fun _ => rfl) hinside) fun _ => rfl

/-- Code may open and close statements as it likes, as the anonymous types in it do not. -/
theorem keepsSuspended_code (code : Code) : KeepsSuspended code.tokens := by
  refine nestClosed_keepsSuspended.codeTokens (fun i => ?_) (fun t => bodyClosed_keepsSuspended t)
    code
  cases i with
  | object decl => exact appendClosed_keepsSuspended.nil
  | type t => exact nestClosed_keepsSuspended.typeTokens t
  | member m => exact fun _ => rfl
  | _ => exact keepsSuspended_layout rfl

/-! ### Indentation -/

/-- Printed code that leaves the level as it was. -/
def KeepsLevel (tokens : Tokens) : Prop := ∀ l : Levels, (l.after tokens).level = l.level

theorem appendClosed_keepsLevel : AppendClosed KeepsLevel where
  nil _ := rfl
  append hleft hright l := by rw [Levels.after_append, hright, hleft]

/-- A level of indentation is taken back. -/
theorem KeepsLevel.indentation {inside : Tokens} (h : KeepsLevel inside) :
    KeepsLevel (Bracket.indentation.around inside) := by
  intro l
  have hinside : ((l.step Bracket.indentation.opening).after inside).level = l.level + 1 := h _
  rw [Levels.after_around]
  show ((l.step Bracket.indentation.opening).after inside).level - 1 = l.level
  omega

theorem nestClosed_keepsLevel : NestClosed KeepsLevel := by
  refine .of_flat appendClosed_keepsLevel (fun op hop l => ?_) (fun r l => rfl) ?_
  · exact congrArg Levels.level (l.step_of_isFlat hop)
  · intro b inside hinside
    cases b with
    | indentation => exact hinside.indentation
    | _ =>
      exact appendClosed_keepsLevel.append (appendClosed_keepsLevel.append (fun _ => rfl) hinside)
        fun _ => rfl

theorem bodyClosed_keepsLevel {κ : Type} (d : TypeDecl κ) : BodyClosed KeepsLevel d :=
  fun _ _ _ hinside => appendClosed_keepsLevel.append
    (appendClosed_keepsLevel.append (fun _ => rfl) hinside) fun _ => rfl

/-- The levels that code is in behind an instruction, counted from those it starts with: none if it
would take back indentation that is not its own. -/
def Instruction.indentAfter? (n : Nat) : Instruction → Option Nat
  | .indent => some (n + 1)
  | .unindent => if n = 0 then none else some (n - 1)
  | _ => some n

/-- Code that takes back the indentation that it makes, and never more than that. -/
def Code.IsIndentBalanced (code : Code) : Prop := code.foldlM Instruction.indentAfter? 0 = some 0

instance (code : Code) : Decidable code.IsIndentBalanced := inferInstanceAs (Decidable (_ = _))

/-- The code in a type, at any depth: in the type itself, in its members and in the types nested in
it, and in the anonymous types in this code. -/
inductive TypeDecl.HasCode : TypeDecl Code → Code → Prop
  | here {d : TypeDecl Code} {code : Code} (h : code ∈ d.pieces) : HasCode d code
  | inside {d decl : TypeDecl Code} {piece code : Code} (h : piece ∈ d.pieces)
      (hobject : .object decl ∈ piece) (hcode : HasCode decl code) : HasCode d code

/-- An instruction that is counted changes the level as it is counted. -/
theorem level_after_instruction {i : Instruction} (hobject : ∀ decl, i ≠ .object decl) {n m : Nat}
    (h : i.indentAfter? n = some m) {l : Levels} {base : Nat} (hl : l.level = base + n) :
    (l.after i.tokens).level = base + m := by
  cases i with
  | object decl => exact absurd rfl (hobject decl)
  | indent =>
    obtain rfl := Option.some.inj h
    show l.level + 1 = base + (n + 1)
    omega
  | unindent =>
    rw [Instruction.indentAfter?] at h
    split_ifs at h with hn
    obtain rfl := Option.some.inj h
    show l.level - 1 = base + (n - 1)
    omega
  | type t =>
    obtain rfl := Option.some.inj h
    exact (nestClosed_keepsLevel.typeTokens t l).trans hl
  | _ =>
    obtain rfl := Option.some.inj h
    exact hl

/-- Code whose anonymous types hold nothing but balanced code changes the level by its own
indentation. -/
theorem level_after_code {code : Code}
    (hobjects : ∀ decl, .object decl ∈ code → ∀ piece, decl.HasCode piece → piece.IsIndentBalanced)
    {n m : Nat} (h : code.foldlM Instruction.indentAfter? n = some m) {l : Levels} {base : Nat}
    (hl : l.level = base + n) : (l.after code.tokens).level = base + m := by
  induction code using Code.induction generalizing n m l base with
  | nil =>
    obtain rfl := Option.some.inj h
    exact hl
  | cons i rest hpieces ih =>
    obtain ⟨k, hi, hrest⟩ := Option.bind_eq_some_iff.1 ((List.foldlM_cons ..).symm.trans h)
    rw [Code.tokens, Code.expand_cons, Levels.after_append]
    refine ih (fun decl hdecl => hobjects decl (List.mem_cons_of_mem i hdecl)) hrest ?_
    by_cases hobject : ∃ decl, i = .object decl
    · obtain ⟨decl, rfl⟩ := hobject
      obtain rfl := Option.some.inj hi
      have hbalanced := hobjects decl List.mem_cons_self
      have hcode : ∀ piece ∈ decl.pieces, KeepsLevel (Code.tokens piece) := by
        intro piece hpiece l
        exact hpieces decl rfl piece hpiece
          (fun inner hinner code hcode => hbalanced code (.inside hpiece hinner hcode))
          (hbalanced piece (.here hpiece)) rfl
      rw [Code.expandInstruction_object_tokens]
      exact (nestClosed_keepsLevel.printedObject hcode
        (fun t _ => bodyClosed_keepsLevel t) l).trans hl
    · have hnone : ∀ decl, i ≠ .object decl := fun decl hdecl => hobject ⟨decl, hdecl⟩
      rw [Code.expandInstruction_tokens_of_ne hnone]
      exact level_after_instruction hnone hi hl

theorem keepsLevel_code {code : Code} (h : code.IsIndentBalanced)
    (hobjects : ∀ decl, .object decl ∈ code → ∀ piece, decl.HasCode piece → piece.IsIndentBalanced) :
    KeepsLevel code.tokens := fun _ => level_after_code hobjects h rfl

/-! ### Printed types -/

/-- A type, declared or written as an expression, is printed with the open statements set aside. -/
theorem NestClosed.exists_printed_eq {P : Tokens → Prop} (hP : NestClosed P) {d : TypeDecl Code}
    {tokens : Tokens} (htokens : tokens = d.printed.tokens ∨ tokens = d.printed.expressionTokens)
    (hpieces : ∀ piece ∈ d.pieces, P piece.tokens) (hbodies : ∀ t : TypeDecl Code, BodyClosed P t) :
    ∃ inside, P inside ∧ tokens = Bracket.aside.around inside := by
  rcases htokens with rfl | rfl
  · exact hP.exists_printedType_eq hpieces fun t _ => hbodies t
  · exact hP.exists_printedObject_eq hpieces fun t _ => hbodies t

namespace TypeDecl

section Printed

variable (d : TypeDecl Code) {tokens : Tokens}
  (htokens : tokens = d.printed.tokens ∨ tokens = d.printed.expressionTokens)

include htokens

/-- A type closes the bodies of the types in it. -/
theorem scopesAfter_printed (scopes : List Scope) : tokens.foldl scopesAfter scopes = scopes := by
  obtain ⟨inside, hinside, rfl⟩ := printClosed_balanced.nestClosed.exists_printed_eq htokens
    (fun piece _ => balanced_code piece) fun t => bodyClosed_balanced t
  exact (printClosed_balanced.nestClosed.around .aside hinside).closed scopes

/-- A type leaves the open statements and those set aside as they were. -/
theorem statements_after_printed (l : Levels) :
    (l.after tokens).statements = l.statements ∧ (l.after tokens).suspended = l.suspended := by
  obtain ⟨inside, hinside, rfl⟩ := nestClosed_keepsSuspended.exists_printed_eq htokens
    (fun piece _ => keepsSuspended_code piece) fun t => bodyClosed_keepsSuspended t
  exact hinside.statements_after_aside l

/-- A type with balanced code leaves the level as it was. -/
theorem level_after_printed (hbalanced : ∀ code, d.HasCode code → code.IsIndentBalanced)
    (l : Levels) : (l.after tokens).level = l.level := by
  have hpieces : ∀ piece ∈ d.pieces, KeepsLevel (Code.tokens piece) := fun piece hpiece =>
    keepsLevel_code (hbalanced piece (.here hpiece)) fun inner hinner code hcode =>
      hbalanced code (.inside hpiece hinner hcode)
  obtain ⟨inside, hinside, rfl⟩ := nestClosed_keepsLevel.exists_printed_eq htokens hpieces
    fun t => bodyClosed_keepsLevel t
  exact nestClosed_keepsLevel.around .aside hinside l

/-- **A type leaves the stacks of the writer as they were.**  Behind a type, declared or written as
an expression, what follows is written in the scopes in front of it, with the same names and with
the same import table, and the open statements and those set aside are the same.  So as long as a
statement that was open in front of the type is open, and no other one is opened, its lines are
continued as they would be behind text.  If all code in the type takes back the indentation that it
makes, the level is the same as well, and all lines are continued as they would be behind text. -/
theorem frame_of_print (unit : List Char) (context : NamingContext) (table : Option ImportTable)
    (scopes : List Scope) (w : Writer) :
    tokens.foldl scopesAfter scopes = scopes ∧
      (∀ rest, w.print unit context table scopes (tokens ++ rest) =
        (w.print unit context table scopes tokens).print unit context table scopes rest) ∧
      (w.print unit context table scopes tokens).statements = w.statements ∧
      (w.print unit context table scopes tokens).suspended = w.suspended ∧
      (∀ s more, .beginStatement ∉ more → ((w.emit unit s).run unit more).statements ≠ [] →
        ((w.print unit context table scopes tokens).run unit more).continuationLevel =
          ((w.emit unit s).run unit more).continuationLevel) ∧
      ((∀ code, d.HasCode code → code.IsIndentBalanced) →
        (w.print unit context table scopes tokens).level = w.level ∧
          ∀ s more, ((w.print unit context table scopes tokens).run unit more).continuationLevel =
            ((w.emit unit s).run unit more).continuationLevel) := by
  have hscopes := d.scopesAfter_printed htokens scopes
  have hlevels := w.levels_print unit context table scopes tokens
  obtain ⟨hstatements, hsuspended⟩ := d.statements_after_printed htokens w.levels
  refine ⟨hscopes, fun rest => ?_, (congrArg Levels.statements hlevels).trans hstatements,
    (congrArg Levels.suspended hlevels).trans hsuspended, fun s more hmore hopen => ?_,
    fun hbalanced => ?_⟩
  · rw [Writer.print_append_tokens, hscopes]
  · have hsame : w.levels.SameStatements (w.levels.after tokens) :=
      ⟨hstatements.symm, hsuspended.symm⟩
    have hmoreOpen : (w.levels.run more).statements ≠ [] := by
      rw [← w.levels_emit unit s, ← Writer.levels_run]
      exact hopen
    rw [Writer.continuationLevel_run, Writer.continuationLevel_run, hlevels, Writer.levels_emit]
    exact ((hsame.run hmore).continuation_eq hmoreOpen).symm
  · have hlevel := d.level_after_printed htokens hbalanced w.levels
    have hequal : (w.print unit context table scopes tokens).levels = w.levels :=
      hlevels.trans (Levels.ext hlevel hstatements hsuspended)
    refine ⟨congrArg Levels.level hequal, fun s more => ?_⟩
    rw [Writer.continuationLevel_run, Writer.continuationLevel_run, hequal, Writer.levels_emit]

end Printed

/-- An anonymous type with a function that closes a statement which it has not opened, and opens one
which it does not close. -/
def strayType : TypeDecl Code :=
  { (TypeDraft.start .plainClass none).decl with
    functions := [{ FunctionDecl.start (some "run") with
      body := [.endStatement, .text "first\n", .indent, .text "second\n", .unindent,
        .beginStatement] }] }

/-- A file with a property whose initial value is a call with this type as its first argument. -/
def strayFile : FileDecl :=
  let property := { PropertyDecl.start "x" (.primitive .int) with
    initializer := some [.text "call(", .object strayType, .text ",", .wrap, .text "last)"] }
  { FileDecl.start "app" "A" with
    types := [{ (TypeDraft.start .plainClass (some "A")).decl with properties := [property] }]
    options := { columnLimit := 8 } }

/-- Behind this type, in a statement at level one, the statement is still open; the line behind the
type is continued at level two, as it would be behind text. -/
theorem frame_of_print_stray :
    let w : Writer := { Writer.start with level := 1, statements := [1] }
    let behind := w.print [' ', ' '] .detached none [] strayType.printed.expressionTokens
    (∀ code, strayType.HasCode code → code.IsIndentBalanced) ∧
      behind.statements = [1] ∧ behind.level = 1 ∧
      LayoutOp.beginStatement ∉ [LayoutOp.text ","] ∧
      ((w.emit [' ', ' '] "0").run [' ', ' '] [.text ","]).statements ≠ [] ∧
      (behind.run [' ', ' '] [.text ","]).continuationLevel = 2 ∧
      strayFile.render = "package app\n\nclass A \x7b\n  val x: Int = call(object \x7b\n" ++
        "    fun run() \x7b\n      first\n        second\n    \x7d\n  \x7d,\n    last)\n\x7d\n" := by
  intro w behind
  have hpieces : strayType.pieces = [[], [], [], [], [.endStatement, .text "first\n", .indent,
      .text "second\n", .unindent, .beginStatement]] := rfl
  have hbalanced : ∀ code, strayType.HasCode code → code.IsIndentBalanced := by
    rintro code (hcode | ⟨hpiece, hobject, -⟩)
    · rw [hpieces] at hcode
      revert code
      decide
    · rw [hpieces] at hpiece
      simp only [List.mem_cons, List.not_mem_nil, or_false] at hpiece
      rcases hpiece with rfl | rfl | rfl | rfl | rfl <;> simp at hobject
  obtain ⟨-, -, hstatements, -, hopen, hlevel⟩ := strayType.frame_of_print (.inr rfl) [' ', ' ']
    .detached none [] w
  have hmore : LayoutOp.beginStatement ∉ [LayoutOp.text ","] := by decide
  have hstatement : ((w.emit [' ', ' '] "0").run [' ', ' '] [.text ","]).statements ≠ [] := by
    decide
  exact ⟨hbalanced, hstatements, (hlevel hbalanced).1, hmore, hstatement,
    (hopen "0" [.text ","] hmore hstatement).trans (by decide), by decide +kernel⟩

end TypeDecl

end KotlinSource
