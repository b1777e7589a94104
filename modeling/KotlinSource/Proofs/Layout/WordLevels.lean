import KotlinSource.Proofs.Layout.Levels
import Mathlib.Algebra.GroupWithZero.Nat
import Mathlib.Algebra.Order.BigOperators.Group.List

/-!
# Levels in machine words

A writer that keeps its levels in machine words goes through the same states as one with exact sums,
as long as every sum fits.  If sums that do not fit make the program fail, it goes through these
states or fails; if they are taken modulo the number of words, it never fails.

Levels get greater only where an operation asks for it.  So every sum fits if all that the
operations ask for fits together, and then the text is that of exact sums.

## Main definitions

* `LayoutOp.raised`: how much deeper an operation goes.
* `Levels.Within`: levels that are at most a given one.

## Main results

* `LevelWords.add?_eq_none_iff`: the sums at which the program fails.
* `Writer.step?_eq_some`, `Writer.run?_eq_some`: sums that fit.
* `Writer.eq_step_of_step?`, `Writer.eq_run_of_run?`: a program that fails at other sums.
* `Writer.isSome_run?`: a program that does not fail.
* `layout?_eq_some`: operations that do not go too deep.
-/

namespace KotlinSource

/-! ### Sums -/

namespace LevelWords

variable {words : LevelWords} {a b c : Nat}

theorem add?_eq_some_of_lt (h : a + b < words.count) : words.add? a b = some (a + b) := if_pos h

/-- The program fails at a sum exactly if the sum does not fit, and such sums make it fail. -/
theorem add?_eq_none_iff :
    words.add? a b = none ↔ words.overflow = .fails ∧ words.count ≤ a + b := by
  rw [add?]
  split_ifs with hfits
  · simp [hfits]
  · cases words.overflow <;> simp [Nat.le_of_not_lt hfits]

/-- A sum at which the program may fail is exact. -/
theorem eq_of_add?_of_fails (hfails : words.overflow = .fails) (h : words.add? a b = some c) :
    c = a + b := by
  rw [add?, hfails] at h
  split_ifs at h
  exact (Option.some.inj h).symm

/-- Without failures every sum is one modulo the number of words. -/
theorem add?_of_wraps (hwraps : words.overflow = .wraps) :
    words.add? a b = some ((a + b) % words.count) := by
  rw [add?, hwraps]
  split_ifs with hfits
  · rw [Nat.mod_eq_of_lt hfits]
  · rfl

end LevelWords

/-! ### Single operations -/

namespace Writer

variable {words : LevelWords} {unit : List Char} {w w' : Writer} {op : LayoutOp}

/-- A break point whose continuation line has a level that fits. -/
theorem appendPoint?_eq_some (h : w.levels.continuation < words.count) (wide : Bool) :
    w.appendPoint? words wide = some (w.appendPoint wide) := by
  have hsum : w.continuationLevel? words = some w.continuationLevel :=
    LevelWords.add?_eq_some_of_lt h
  rw [appendPoint?, hsum]
  rfl

theorem wrap?_eq_some (h : w.levels.continuation < words.count) :
    w.wrap? words unit = some (w.wrap unit) := by
  rw [wrap?, wrap, appendPoint?_eq_some h]
  split_ifs <;> rfl

/-- As long as the sums of levels fit, an operation has its effect. -/
theorem step?_eq_some (h : w.levels.Fits words op) :
    w.step? words unit op = some (w.step unit op) := by
  cases op with
  | indent levels =>
    have hsum : words.add? w.level levels = some (w.level + levels) :=
      LevelWords.add?_eq_some_of_lt h
    rw [step?, raise?, hsum]
    rfl
  | wrap => exact wrap?_eq_some h
  | comma =>
    have hcontinuation : (w.emit unit ",").levels.continuation < words.count := by
      rw [levels_emit]
      exact h
    exact wrap?_eq_some hcontinuation
  | wrapTight =>
    rw [step?, step, appendPoint?_eq_some h]
    split_ifs <;> rfl
  | _ => rfl

theorem eq_appendPoint_of_appendPoint? (hfails : words.overflow = .fails) {wide : Bool}
    (h : w.appendPoint? words wide = some w') : w' = w.appendPoint wide := by
  obtain ⟨level, hlevel, rfl⟩ := Option.map_eq_some_iff.1 h
  rw [LevelWords.eq_of_add?_of_fails hfails hlevel]
  rfl

theorem eq_wrap_of_wrap? (hfails : words.overflow = .fails) (h : w.wrap? words unit = some w') :
    w' = w.wrap unit := by
  rw [wrap?] at h
  rw [wrap]
  split_ifs at h ⊢
  · exact (Option.some.inj h).symm
  · exact eq_appendPoint_of_appendPoint? hfails h

/-- If sums that do not fit make the program fail, an operation has its effect or fails. -/
theorem eq_step_of_step? (hfails : words.overflow = .fails) (h : w.step? words unit op = some w') :
    w' = w.step unit op := by
  cases op with
  | indent levels =>
    obtain ⟨level, hlevel, rfl⟩ := Option.map_eq_some_iff.1 h
    rw [LevelWords.eq_of_add?_of_fails hfails hlevel]
    rfl
  | wrap => exact eq_wrap_of_wrap? hfails h
  | comma => exact eq_wrap_of_wrap? hfails h
  | wrapTight =>
    rw [step?] at h
    rw [step]
    split_ifs at h ⊢
    · exact (Option.some.inj h).symm
    · exact eq_appendPoint_of_appendPoint? hfails h
  | _ => exact (Option.some.inj h).symm

theorem isSome_wrap? (hwraps : words.overflow = .wraps) : (w.wrap? words unit).isSome := by
  rw [wrap?, appendPoint?, continuationLevel?, LevelWords.add?_of_wraps hwraps]
  split_ifs <;> rfl

/-- If sums are taken modulo the number of words, no operation fails. -/
theorem isSome_step? (hwraps : words.overflow = .wraps) : (w.step? words unit op).isSome := by
  cases op with
  | indent levels =>
    rw [step?, raise?, LevelWords.add?_of_wraps hwraps]
    rfl
  | wrap => exact isSome_wrap? hwraps
  | comma => exact isSome_wrap? hwraps
  | wrapTight =>
    rw [step?, appendPoint?, continuationLevel?, LevelWords.add?_of_wraps hwraps]
    split_ifs <;> rfl
  | _ => rfl

/-! ### Lists of operations -/

variable {ops : List LayoutOp}

theorem run?_cons {next : Writer} (h : w.step? words unit op = some next) :
    w.run? words unit (op :: ops) = next.run? words unit ops := by
  rw [run?, List.foldlM_cons, h]
  rfl

theorem run?_cons_eq_none (h : w.step? words unit op = none) :
    w.run? words unit (op :: ops) = none := by
  rw [run?, List.foldlM_cons, h]
  rfl

theorem run?_eq_some (h : ∀ front op behind, ops = front ++ op :: behind →
    (w.levels.run front).Fits words op) : w.run? words unit ops = some (w.run unit ops) := by
  induction ops generalizing w with
  | nil => rfl
  | cons op ops ih =>
    refine Option.bind_eq_some_iff.2 ⟨_, step?_eq_some (h [] op ops rfl), ih ?_⟩
    intro front op' behind hsplit
    rw [levels_step]
    exact h (op :: front) op' behind (congrArg (op :: ·) hsplit)

theorem eq_run_of_run? (hfails : words.overflow = .fails)
    (h : w.run? words unit ops = some w') : w' = w.run unit ops := by
  induction ops generalizing w with
  | nil => exact (Option.some.inj h).symm
  | cons op ops ih =>
    obtain ⟨next, hnext, hrest⟩ := Option.bind_eq_some_iff.1 h
    rw [ih hrest, eq_step_of_step? hfails hnext]
    rfl

theorem isSome_run? (hwraps : words.overflow = .wraps) : (w.run? words unit ops).isSome := by
  induction ops generalizing w with
  | nil => rfl
  | cons op ops ih =>
    obtain ⟨next, hnext⟩ := Option.isSome_iff_exists.1
      (isSome_step? hwraps : (w.step? words unit op).isSome)
    rw [run?_cons hnext]
    exact ih

end Writer

/-! ### How deep operations go -/

/-- How much deeper an operation goes. -/
def LayoutOp.raised : LayoutOp → Nat
  | .indent levels => levels
  | _ => 0

namespace Levels

/-- Levels that are at most a given one. -/
structure Within (bound : Nat) (l : Levels) : Prop where
  level_le : l.level ≤ bound
  statement_le : ∀ s ∈ l.statements, s ≤ bound
  suspended_le : ∀ statements ∈ l.suspended, ∀ s ∈ statements, s ≤ bound

variable {bound : Nat} {l : Levels}

theorem Within.mono (h : l.Within bound) {bound' : Nat} (hle : bound ≤ bound') :
    l.Within bound' where
  level_le := Nat.le_trans h.level_le hle
  statement_le s hs := Nat.le_trans (h.statement_le s hs) hle
  suspended_le statements hmem s hs := Nat.le_trans (h.suspended_le statements hmem s hs) hle

theorem Within.continuation_le (h : l.Within bound) : l.continuation ≤ bound + 1 := by
  rw [continuation]
  cases hstatements : l.statements with
  | nil => exact Nat.succ_le_succ h.level_le
  | cons s rest => exact Nat.succ_le_succ (h.statement_le s (hstatements ▸ List.mem_cons_self))

/-- An operation makes levels greater by what it goes deeper. -/
theorem Within.step (h : l.Within bound) (op : LayoutOp) :
    (l.step op).Within (bound + op.raised) := by
  cases op with
  | indent levels =>
    have hmono := h.mono (Nat.le_add_right bound levels)
    exact ⟨Nat.add_le_add_right h.level_le levels, hmono.statement_le, hmono.suspended_le⟩
  | unindent levels =>
    exact ⟨Nat.le_trans (Nat.sub_le ..) h.level_le, h.statement_le, h.suspended_le⟩
  | beginStatement =>
    exact ⟨h.level_le, List.forall_mem_cons.2 ⟨h.level_le, h.statement_le⟩, h.suspended_le⟩
  | endStatement =>
    exact ⟨h.level_le, fun s hs => h.statement_le s (List.mem_of_mem_tail hs), h.suspended_le⟩
  | suspend =>
    exact ⟨h.level_le, fun s hs => (List.not_mem_nil hs).elim,
      List.forall_mem_cons.2 ⟨h.statement_le, h.suspended_le⟩⟩
  | resume =>
    refine ⟨h.level_le, ?_, fun statements hmem =>
      h.suspended_le statements (List.mem_of_mem_tail hmem)⟩
    show ∀ s ∈ l.suspended.headD l.statements, s ≤ bound
    cases hsuspended : l.suspended with
    | nil => exact h.statement_le
    | cons statements rest =>
      exact h.suspended_le statements (hsuspended ▸ List.mem_cons_self)
  | _ => exact h

theorem Within.run (h : l.Within bound) (ops : List LayoutOp) :
    (l.run ops).Within (bound + (ops.map LayoutOp.raised).sum) := by
  induction ops generalizing l bound with
  | nil => exact h
  | cons op ops ih =>
    have hrest := ih (h.step op)
    rwa [Nat.add_assoc, ← List.sum_cons, ← List.map_cons] at hrest

/-- Sums fit if there is room for one more level than the operations have asked for. -/
theorem Within.fits (h : l.Within bound) {words : LevelWords} {op : LayoutOp}
    (hbound : bound + op.raised + 1 < words.count) : l.Fits words op := by
  have hlevel := h.level_le
  have hcontinuation : l.continuation < words.count := by
    have hle := h.continuation_le
    omega
  cases op with
  | indent levels =>
    have hbound : bound + levels + 1 < words.count := hbound
    show l.level + levels < words.count
    omega
  | wrap => exact hcontinuation
  | comma => exact hcontinuation
  | wrapTight => exact hcontinuation
  | _ => trivial

end Levels

/-- **Operations that do not go too deep.**  If all levels that a list of operations asks for fit
into a word together, with one more for a continuation line, the text is that of exact levels. -/
theorem layout?_eq_some {words : LevelWords} (options : FormatOptions) {ops : List LayoutOp}
    (h : (ops.map LayoutOp.raised).sum + 1 < words.count) :
    layout? words options ops = some (layout options ops) := by
  have hrun : Writer.start.run? words options.indent.unit ops =
      some (Writer.start.run options.indent.unit ops) := by
    refine Writer.run?_eq_some fun front op behind hsplit => ?_
    have hstart : Writer.start.levels.Within 0 :=
      ⟨Nat.le_refl 0, List.forall_mem_nil _, List.forall_mem_nil _⟩
    refine (hstart.run front).fits ?_
    rw [hsplit, List.map_append, List.map_cons, List.sum_append, List.sum_cons] at h
    omega
  rw [layout?, hrun]
  rfl

end KotlinSource
