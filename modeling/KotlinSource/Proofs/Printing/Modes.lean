import KotlinSource.Proofs.Layout.Modes
import KotlinSource.Proofs.Printing.Nesting

/-!
# Printed code outside of comments

A writer that is outside of comments in front of printed code is outside of comments behind it: the
printer closes the documentation that it opens, and only the top comment of a file is written as
line comments.  The converse fails.  The end of documentation leaves a writer outside of
documentation wherever it was before.

## Main definitions

* `modeAfter`: what becomes of the mode of a writer over a token.
* `KeepsInCode`: printed code that leaves a writer outside of comments.

## Main results

* `Writer.mode_print`: the mode of a writer behind printed code.
* `nestClosed_keepsInCode`, `keepsInCode_code`: declarations and code.
* `Writer.InCode.print`: a writer behind such code.
-/

namespace KotlinSource

/-- What becomes of the mode of a writer over a token: whether it is in documentation, and whether
it is in line comments. -/
def modeAfter (mode : Bool × Bool) : Token → Bool × Bool
  | .layout .openDoc => (true, mode.2)
  | .layout .closeDoc => (false, mode.2)
  | .layout .openComment => (mode.1, true)
  | .layout .closeComment => (mode.1, false)
  | _ => mode

/-- An operation changes the mode as its token says. -/
theorem Writer.mode_step_eq_modeAfter (unit : List Char) (w : Writer) (op : LayoutOp) :
    (w.step unit op).mode = modeAfter w.mode (.layout op) := by
  cases op with
  | openDoc => exact congrArg (fun mode : Bool × Bool => (true, mode.2)) (w.mode_emit unit "/**\n")
  | closeDoc =>
    refine (mode_emit unit { w.endLine unit with inDoc := false } " */\n").trans ?_
    exact congrArg (fun mode : Bool × Bool => (false, mode.2)) (w.mode_endLine unit)
  | openComment => rfl
  | closeComment =>
    exact congrArg (fun mode : Bool × Bool => (mode.1, false)) (w.mode_endLine unit)
  | _ => exact w.mode_step unit rfl

/-- What is written for references does not matter. -/
theorem Writer.mode_print (w : Writer) (unit : List Char) (context : NamingContext)
    (table : Option ImportTable) (scopes : List Scope) (tokens : Tokens) :
    (w.print unit context table scopes tokens).mode = tokens.foldl modeAfter w.mode := by
  induction tokens generalizing w scopes with
  | nil => rfl
  | cons t rest ih =>
    rw [← List.singleton_append, print_append_tokens, ih, List.foldl_append]
    congr 1
    cases t with
    | layout op => exact w.mode_step_eq_modeAfter unit op
    | reference r => exact w.mode_emit unit _
    | enter => rfl
    | leave => rfl

/-- Printed code that neither starts nor ends line comments, and that leaves a writer outside of
documentation if it was outside of it before. -/
def KeepsInCode (tokens : Tokens) : Prop :=
  ∀ mode, (tokens.foldl modeAfter mode).2 = mode.2 ∧
    (mode.1 = false → (tokens.foldl modeAfter mode).1 = false)

theorem appendClosed_keepsInCode : AppendClosed KeepsInCode where
  nil _ := ⟨rfl, id⟩
  append {left right} hleft hright mode := by
    obtain ⟨hcomment, hdoc⟩ := hleft mode
    obtain ⟨hcomment', hdoc'⟩ := hright (left.foldl modeAfter mode)
    rw [List.foldl_append]
    exact ⟨hcomment'.trans hcomment, fun h => hdoc' (hdoc h)⟩

theorem keepsInCode_layout {op : LayoutOp} (h : op.isCommentMark = false) :
    KeepsInCode [.layout op] := by
  intro mode
  cases op with
  | openDoc => cases h
  | closeDoc => cases h
  | openComment => cases h
  | closeComment => cases h
  | _ => exact ⟨rfl, id⟩

theorem nestClosed_keepsInCode : NestClosed KeepsInCode := by
  refine .of_flat appendClosed_keepsInCode (fun op hop => ?_) (fun r _ => ⟨rfl, id⟩) ?_
  · refine keepsInCode_layout ?_
    cases op with
    | openDoc => cases hop
    | closeDoc => cases hop
    | openComment => cases hop
    | closeComment => cases hop
    | _ => rfl
  · intro b inside hinside
    cases b with
    | documentation =>
      intro mode
      rw [Bracket.around, List.foldl_append, List.foldl_append]
      exact ⟨(hinside (true, mode.2)).1, fun _ => rfl⟩
    | _ =>
      exact appendClosed_keepsInCode.append (appendClosed_keepsInCode.append
        (keepsInCode_layout rfl) hinside) (keepsInCode_layout rfl)

/-- The bounds of bodies do not touch the mode. -/
theorem bodyClosed_keepsInCode {κ : Type} (d : TypeDecl κ) : BodyClosed KeepsInCode d :=
  fun _ _ _ hinside => appendClosed_keepsInCode.append
    (appendClosed_keepsInCode.append (fun _ => ⟨rfl, id⟩) hinside) fun _ => ⟨rfl, id⟩

theorem keepsInCode_code (code : Code) : KeepsInCode code.tokens := by
  refine nestClosed_keepsInCode.codeTokens (fun i => ?_) (fun t => bodyClosed_keepsInCode t) code
  cases i with
  | object decl => exact appendClosed_keepsInCode.nil
  | type t => exact nestClosed_keepsInCode.typeTokens t
  | member m => exact fun _ => ⟨rfl, id⟩
  | _ => exact keepsInCode_layout rfl

/-- A writer outside of comments is outside of comments behind printed declarations. -/
theorem Writer.InCode.print {w : Writer} (h : w.InCode) {tokens : Tokens}
    (htokens : KeepsInCode tokens) (unit : List Char) (context : NamingContext)
    (table : Option ImportTable) (scopes : List Scope) :
    (w.print unit context table scopes tokens).InCode := by
  obtain ⟨hcomment, hdoc⟩ := htokens w.mode
  rw [InCode, mode_print]
  exact Prod.ext (hdoc h.inDoc) (hcomment.trans h.inComment)

end KotlinSource
