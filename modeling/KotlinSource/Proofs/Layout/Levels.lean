import KotlinSource.Layout.Writer
import Mathlib.Logic.Basic
import Mathlib.Tactic.SplitIfs

/-!
# Levels and open statements

The level of a writer and its open statements decide how far the continuation lines behind a break
point are indented.  They change with six of the operations only, and what becomes of them does not
depend on anything else in the writer.

If levels are machine words, going deeper and continuing a line add levels that may not fit.

## Main definitions

* `Levels`: the level, the open statements and those set aside.
* `Levels.step`, `Levels.run`: what becomes of them.
* `Levels.step?`, `Levels.run?`, `Levels.Fits`: the same if levels are machine words, and operations
  whose sums of levels fit.

## Main results

* `Writer.levels_step`, `Writer.levels_run`: the levels of a writer.
* `Writer.levels_step?`, `Writer.levels_run?`: the same if levels are machine words.
* `Levels.SameStatements.continuation_eq`: the continuation lines of a statement that is open.
-/

namespace KotlinSource

/-- The level of a writer, with its open statements and those set aside. -/
@[ext] structure Levels where
  /-- The level of indentation. -/
  level : Nat
  /-- The levels of the open statements, innermost first. -/
  statements : List Nat
  /-- The statements set aside, those set aside last first. -/
  suspended : List (List Nat)
  deriving DecidableEq, Repr

namespace Levels

/-- The effect of an operation. -/
def step (l : Levels) : LayoutOp → Levels
  | .indent levels => { l with level := l.level + levels }
  | .unindent levels => { l with level := l.level - levels }
  | .beginStatement => { l with statements := l.level :: l.statements }
  | .endStatement => { l with statements := l.statements.tail }
  | .suspend => { l with statements := [], suspended := l.statements :: l.suspended }
  | .resume =>
    { l with statements := l.suspended.headD l.statements, suspended := l.suspended.tail }
  | _ => l

/-- The effect of a list of operations. -/
def run (l : Levels) (ops : List LayoutOp) : Levels := ops.foldl step l

/-- The level of a continuation line. -/
def continuation (l : Levels) : Nat := l.statements.headD l.level + 1

variable (words : LevelWords)

/-- The effect of an operation if levels are machine words. -/
def step? (l : Levels) : LayoutOp → Option Levels
  | .indent levels => (words.add? l.level levels).map fun level => { l with level := level }
  | op => some (l.step op)

/-- The effect of a list of operations if levels are machine words. -/
def run? (l : Levels) (ops : List LayoutOp) : Option Levels := ops.foldlM (step? words) l

/-- Whatever levels an operation adds, the sum fits into a word. -/
def Fits (l : Levels) : LayoutOp → Prop
  | .indent levels => l.level + levels < words.count
  | .wrap => l.continuation < words.count
  | .comma => l.continuation < words.count
  | .wrapTight => l.continuation < words.count
  | _ => True

end Levels

namespace Writer

variable (unit : List Char) (w : Writer)

/-- The levels of a writer. -/
def levels : Levels := ⟨w.level, w.statements, w.suspended⟩

theorem levels_emitChar (c : Char) : (w.emitChar unit c).levels = w.levels := by
  simp only [emitChar, emitNewline, emitInLine]
  split_ifs <;> rfl

@[simp] theorem levels_emit (s : String) : (w.emit unit s).levels = w.levels := by
  rw [emit]
  induction s.toList generalizing w with
  | nil => rfl
  | cons c cs ih => rw [List.foldl_cons, ih, levels_emitChar]

theorem level_emit (s : String) : (w.emit unit s).level = w.level :=
  congrArg Levels.level (w.levels_emit unit s)

@[simp] theorem levels_endLine : (w.endLine unit).levels = w.levels := by
  rw [endLine]
  split_ifs
  · exact w.levels_emit unit "\n"
  · rfl

@[simp] theorem levels_wrap : (w.wrap unit).levels = w.levels := by
  rw [wrap]
  split_ifs
  · exact w.levels_emit unit " "
  · rfl

/-- Text and the marks of comments leave the levels as they are. -/
theorem levels_step (op : LayoutOp) : (w.step unit op).levels = w.levels.step op := by
  cases op with
  | text s => exact w.levels_emit unit s
  | wrap => exact w.levels_wrap unit
  | comma => exact ((w.emit unit ",").levels_wrap unit).trans (w.levels_emit unit ",")
  | wrapTight =>
    rw [step]
    split_ifs <;> rfl
  | blankLine =>
    simp only [step, blankLine]
    split_ifs
    · exact ((w.endLine unit).levels_emit unit "\n").trans (w.levels_endLine unit)
    · exact w.levels_endLine unit
    · rfl
  | endLine => exact w.levels_endLine unit
  | openDoc => exact w.levels_emit unit "/**\n"
  | closeDoc =>
    exact (levels_emit unit { w.endLine unit with inDoc := false } " */\n").trans
      (w.levels_endLine unit)
  | closeComment => exact w.levels_endLine unit
  | _ => rfl

theorem levels_run (ops : List LayoutOp) : (w.run unit ops).levels = w.levels.run ops := by
  induction ops generalizing w with
  | nil => rfl
  | cons op ops ih =>
    rw [run, List.foldl_cons, ← run, ih, levels_step]
    rfl

/-- The levels of a writer decide how the lines behind it are continued. -/
theorem continuationLevel_run (ops : List LayoutOp) :
    (w.run unit ops).continuationLevel = (w.levels.run ops).continuation := by
  rw [← levels_run]
  rfl

variable {unit : List Char} {w w' : Writer} {words : LevelWords}

/-- A break point leaves the levels as they are, also if its own level is a machine word. -/
theorem levels_appendPoint? {wide : Bool} (h : w.appendPoint? words wide = some w') :
    w'.levels = w.levels := by
  obtain ⟨level, -, rfl⟩ := Option.map_eq_some_iff.1 h
  rfl

theorem levels_wrap? (h : w.wrap? words unit = some w') : w'.levels = w.levels := by
  rw [wrap?] at h
  split_ifs at h
  · obtain rfl := Option.some.inj h
    exact w.levels_emit unit " "
  · exact levels_appendPoint? h

/-- What becomes of the levels of a writer if they are machine words. -/
theorem levels_step? {op : LayoutOp} (h : w.step? words unit op = some w') :
    w.levels.step? words op = some w'.levels := by
  cases op with
  | indent levels =>
    obtain ⟨level, hlevel, rfl⟩ := Option.map_eq_some_iff.1 h
    exact Option.map_eq_some_iff.2 ⟨level, hlevel, rfl⟩
  | wrap => exact congrArg some (levels_wrap? h).symm
  | comma => exact congrArg some ((levels_wrap? h).trans (w.levels_emit unit ",")).symm
  | wrapTight =>
    rw [step?] at h
    split_ifs at h
    · exact congrArg some (congrArg levels (Option.some.inj h))
    · exact congrArg some (levels_appendPoint? h).symm
  | _ =>
    obtain rfl := Option.some.inj h
    exact congrArg some (w.levels_step unit _).symm

theorem levels_run? {ops : List LayoutOp} (h : w.run? words unit ops = some w') :
    w.levels.run? words ops = some w'.levels := by
  induction ops generalizing w with
  | nil =>
    obtain rfl := Option.some.inj h
    rfl
  | cons op ops ih =>
    obtain ⟨next, hnext, hrest⟩ := Option.bind_eq_some_iff.1 h
    exact Option.bind_eq_some_iff.2 ⟨next.levels, levels_step? hnext, ih hrest⟩

end Writer

namespace Levels

variable {l l' : Levels}

/-- Two levels with the same statements. -/
structure SameStatements (l l' : Levels) : Prop where
  statements_eq : l.statements = l'.statements
  suspended_eq : l.suspended = l'.suspended

theorem SameStatements.step (h : l.SameStatements l') {op : LayoutOp}
    (hop : op ≠ .beginStatement) : (l.step op).SameStatements (l'.step op) := by
  obtain ⟨hstatements, hsuspended⟩ := h
  cases op with
  | beginStatement => exact absurd rfl hop
  | endStatement => exact ⟨congrArg List.tail hstatements, hsuspended⟩
  | suspend => exact ⟨rfl, congrArg₂ List.cons hstatements hsuspended⟩
  | resume =>
    exact ⟨congrArg₂ List.headD hsuspended hstatements, congrArg List.tail hsuspended⟩
  | _ => exact ⟨hstatements, hsuspended⟩

/-- Only the beginning of a statement looks at the level. -/
theorem SameStatements.run (h : l.SameStatements l') {ops : List LayoutOp}
    (hops : .beginStatement ∉ ops) : (l.run ops).SameStatements (l'.run ops) := by
  induction ops generalizing l l' with
  | nil => exact h
  | cons op ops ih =>
    obtain ⟨hop, hrest⟩ := List.ne_and_not_mem_of_not_mem_cons hops
    exact ih (h.step hop.symm) hrest

/-- The continuation lines of an open statement start from the level of the statement. -/
theorem SameStatements.continuation_eq (h : l.SameStatements l') (hopen : l.statements ≠ []) :
    l.continuation = l'.continuation := by
  obtain ⟨level, rest, hstatements⟩ := List.exists_cons_of_ne_nil hopen
  rw [continuation, continuation, ← h.statements_eq, hstatements]
  rfl

end Levels

end KotlinSource
