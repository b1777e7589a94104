import KotlinSource.Proofs.Layout.WordLevels
import KotlinSource.Proofs.Naming.Shadowing
import Mathlib.Algebra.Order.BigOperators.Group.List

/-!
# The levels of a file

A file is printed with operations that go one level deeper at a time.  So a machine that keeps
levels in words comes to a sum that does not fit only if a file has about as many operations as there
are words, and below that the text of the file is that of exact levels.

## Main definitions

* `RaisesByOne`: printed code that goes one level deeper at a time.

## Main results

* `nestClosed_raisesByOne`, `raisesByOne_code`: declarations and code.
* `FileDecl.raised_le_one`: the operations of a file.
* `FileDecl.layout?_operations`: the text of a file if levels are machine words.
-/

namespace KotlinSource

/-- Printed code that goes one level deeper at a time. -/
def RaisesByOne (tokens : Tokens) : Prop := ∀ op, .layout op ∈ tokens → op.raised ≤ 1

theorem appendClosed_raisesByOne : AppendClosed RaisesByOne where
  nil _ h := (List.not_mem_nil h).elim
  append hleft hright op h := (List.mem_append.1 h).elim (hleft op) (hright op)

theorem raisesByOne_layout {op : LayoutOp} (h : op.raised ≤ 1) : RaisesByOne [.layout op] := by
  intro op' hmem
  obtain rfl : op' = op := by simpa using hmem
  exact h

theorem raisesByOne_reference (r : Reference) : RaisesByOne [.reference r] := by
  intro op h
  simp at h

theorem nestClosed_raisesByOne : NestClosed RaisesByOne := by
  refine .of_flat appendClosed_raisesByOne (fun op hop => raisesByOne_layout ?_)
    raisesByOne_reference ?_
  · cases op with
    | indent => cases hop
    | _ => exact Nat.zero_le 1
  · intro b inside hinside
    have hopening : b.opening.raised ≤ 1 := by cases b <;> decide
    have hclosing : b.closing.raised ≤ 1 := by cases b <;> decide
    exact appendClosed_raisesByOne.append
      (appendClosed_raisesByOne.append (raisesByOne_layout hopening) hinside)
      (raisesByOne_layout hclosing)

theorem bodyClosed_raisesByOne {κ : Type} (d : TypeDecl κ) : BodyClosed RaisesByOne d := by
  intro name hname inside hinside op h
  exact hinside op (by simpa using h)

theorem raisesByOne_code (code : Code) : RaisesByOne code.tokens := by
  refine nestClosed_raisesByOne.codeTokens (fun i => ?_) (fun t => bodyClosed_raisesByOne t) code
  cases i with
  | object decl => exact appendClosed_raisesByOne.nil
  | type t => exact nestClosed_raisesByOne.typeTokens t
  | member m => exact raisesByOne_reference _
  | indent => exact raisesByOne_layout (Nat.le_refl 1)
  | _ => exact raisesByOne_layout (Nat.zero_le 1)

namespace FileDecl

variable (file : FileDecl)

theorem raisesByOne_tokens (imports : List Import) : RaisesByOne (file.tokens imports) := by
  have happend := @nestClosed_raisesByOne.append
  have hblank := nestClosed_raisesByOne.blankLine
  have hnil := appendClosed_raisesByOne.nil
  have hmark : ∀ {op : LayoutOp}, op.raised = 0 → RaisesByOne (operation op) :=
    fun h => raisesByOne_layout (h ▸ Nat.zero_le 1)
  have htop : RaisesByOne (topComment file.comment.tokens ++ packageLine file.package) :=
    happend
      (NestClosed.ite hnil (happend (happend (hmark rfl) (raisesByOne_code _)) (hmark rfl)))
      (NestClosed.ite hnil (happend hblank (nestClosed_raisesByOne.word _)))
  have hlines : RaisesByOne (importLines imports) :=
    NestClosed.ite hnil (happend hblank
      (appendClosed_raisesByOne.flatMap fun _ _ => nestClosed_raisesByOne.word _))
  refine happend (happend (happend htop hlines) ?_) ?_
  · refine appendClosed_raisesByOne.flatMap fun d _ => happend hblank
      (nestClosed_raisesByOne.aliasTokens ?_)
    rw [AliasDecl.printed, AliasDecl.pieces_map]
    exact List.forall_mem_map.2 fun piece _ => raisesByOne_code piece
  · exact appendClosed_raisesByOne.flatMap fun d _ => happend hblank
      (nestClosed_raisesByOne.printedType (fun piece _ => raisesByOne_code piece) fun t _ =>
        bodyClosed_raisesByOne t)

theorem layout_mem_of_mem_locate {op : LayoutOp} {scopes : List Scope} {tokens : Tokens}
    (h : .layout op ∈ locate scopes tokens) : .layout op ∈ tokens := by
  induction tokens generalizing scopes with
  | nil => cases h
  | cons t rest ih =>
    rcases List.mem_append.1 h with hfirst | hrest
    · cases t with
      | layout op' =>
        obtain rfl : op = op' := by simpa [locateToken] using hfirst
        exact List.mem_cons_self
      | reference r => simp [locateToken] at hfirst
      | enter => cases hfirst
      | leave => cases hfirst
    · exact List.mem_cons_of_mem t (ih hrest)

/-- The operations of a file go one level deeper at a time. -/
theorem raised_le_one {op : LayoutOp} (h : op ∈ file.operations) : op.raised ≤ 1 := by
  obtain ⟨located, hmem, rfl⟩ := List.mem_map.1 h
  cases located with
  | layout op => exact file.raisesByOne_tokens _ op (layout_mem_of_mem_locate hmem)
  | reference scopes r => exact Nat.zero_le 1

/-- **Levels in machine words do not change a file.**  If there are more words than a file has
operations, with one to spare, every level fits, and the text is that of exact levels. -/
theorem layout?_operations {words : LevelWords} (h : file.operations.length + 1 < words.count) :
    layout? words file.options file.operations = some file.render := by
  refine layout?_eq_some file.options (Nat.lt_of_le_of_lt (Nat.succ_le_succ ?_) h)
  have hsum : (file.operations.map LayoutOp.raised).sum ≤
      (file.operations.map LayoutOp.raised).length • 1 :=
    List.sum_le_card_nsmul _ 1 (List.forall_mem_map.2 fun _ hop => file.raised_le_one hop)
  simpa using hsum

end FileDecl

end KotlinSource
