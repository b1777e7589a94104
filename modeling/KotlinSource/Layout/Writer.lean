import KotlinSource.Layout.Filling
import KotlinSource.Layout.Options

/-!
# Writing with indentation, statements and comments

A writer turns layout operations into a text with break points.  Indentation is written when the
first character of a line arrives, so that empty lines hold nothing.  Inside documentation and
line comments every line starts with its marker, and lines do not break.  The continuation lines of
a statement stand one level deeper than the statement.

Nothing that a writer does depends on the column limit: lines are filled from its atoms later.

A machine keeps levels in words, in which not every sum of levels fits.  `Writer.step?` says what
becomes of such sums, and fails if the program does; as long as all sums fit, it is `Writer.step`.

## Main definitions

* `LayoutOp`: the operations.
* `Writer`: the state of a writer, with the atoms written so far.
* `Writer.emit`: the effect of text, character by character.
* `Writer.step`, `Writer.run`: the effect of one operation and of a list of operations.
* `layout`: the text of a list of operations.
* `LevelWords`, `Writer.step?`, `layout?`: the same if levels are machine words.

## Main results

* `Writer.emit_append`: cutting a text into pieces does not matter.
-/

namespace KotlinSource

/-- An operation of a writer. -/
inductive LayoutOp where
  /-- Write text. -/
  | text (s : String)
  /-- Go deeper by some levels. -/
  | indent (levels : Nat)
  /-- Go less deep by some levels, at most to level zero. -/
  | unindent (levels : Nat)
  /-- Open a statement at the current level. -/
  | beginStatement
  /-- Close the innermost open statement, if there is one. -/
  | endStatement
  /-- A space at which the line may break. -/
  | wrap
  /-- A comma, and behind it a space at which the line may break. -/
  | comma
  /-- A break point without width. -/
  | wrapTight
  /-- End the line, and leave one empty line unless there is one. -/
  | blankLine
  /-- End the line unless it is ended already. -/
  | endLine
  /-- Open a documentation comment. -/
  | openDoc
  /-- Close the documentation comment. -/
  | closeDoc
  /-- Open a run of line comments. -/
  | openComment
  /-- Close the run of line comments. -/
  | closeComment
  /-- Set the open statements aside. -/
  | suspend
  /-- Bring back the statements that were set aside last. -/
  | resume
  deriving DecidableEq, Repr

/-- The state of a writer. -/
structure Writer where
  /-- The level of indentation. -/
  level : Nat
  /-- The levels of the open statements, innermost first. -/
  statements : List Nat
  /-- The statements set aside, those set aside last first. -/
  suspended : List (List Nat)
  /-- Inside a documentation comment. -/
  inDoc : Bool
  /-- Inside line comments. -/
  inComment : Bool
  /-- The next character starts a line that is to be indented. -/
  atLineStart : Bool
  /-- The number of line breaks written last in a row. -/
  trailing : Nat
  /-- Whether anything has been written. -/
  started : Bool
  /-- The atoms written, the last one first. -/
  atoms : List Atom
  deriving DecidableEq, Repr

namespace Writer

/-- A writer that has written nothing. -/
def start : Writer := ⟨0, [], [], false, false, false, 0, false, []⟩

variable (unit : List Char)

/-- Write characters as they are. -/
def append (w : Writer) (cs : List Char) : Writer :=
  { w with atoms := .text cs :: w.atoms }

/-- Write the indentation of the current level. -/
def appendIndentation (w : Writer) : Writer :=
  w.append (List.replicate w.level unit).flatten

/-- What stands before the text of a line in a comment. -/
def lineMarker (w : Writer) : List Char :=
  if w.inDoc then [' ', '*', ' '] else if w.inComment then ['/', '/', ' '] else []

/-- What stands in an empty line in a comment. -/
def emptyLineMarker (w : Writer) : List Char :=
  if w.inDoc then [' ', '*'] else ['/', '/']

/-- Write a line break.  An empty line in a comment gets its marker. -/
def emitNewline (w : Writer) : Writer :=
  let marked :=
    if (w.inDoc || w.inComment) && w.atLineStart then
      { (w.appendIndentation unit).append w.emptyLineMarker with trailing := 0 }
    else w
  { marked.append ['\n'] with
    atLineStart := true, trailing := marked.trailing + 1, started := true }

/-- Write a character that is no line break.  The first one of a line gets the indentation and,
in a comment, the marker before it. -/
def emitInLine (w : Writer) (c : Char) : Writer :=
  let indented :=
    if w.atLineStart then (w.appendIndentation unit).append w.lineMarker else w
  { indented.append [c] with atLineStart := false, trailing := 0, started := true }

/-- Write a character. -/
def emitChar (w : Writer) (c : Char) : Writer :=
  if c = '\n' then w.emitNewline unit else w.emitInLine unit c

/-- Write text. -/
def emit (w : Writer) (s : String) : Writer := s.toList.foldl (emitChar unit) w

/-- End the line unless it is ended already. -/
def endLine (w : Writer) : Writer :=
  if w.started && !w.atLineStart then w.emit unit "\n" else w

/-- End the line, and leave one empty line unless there is one.  Nothing happens before the first
character. -/
def blankLine (w : Writer) : Writer :=
  if w.started then
    let ended := w.endLine unit
    if ended.trailing < 2 then ended.emit unit "\n" else ended
  else w

/-- The level of a continuation line: one below the innermost statement, or below the current
level outside of statements. -/
def continuationLevel (w : Writer) : Nat := w.statements.headD w.level + 1

/-- Write a break point. -/
def appendPoint (w : Writer) (wide : Bool) : Writer :=
  { w with atoms := .point ⟨w.continuationLevel, wide⟩ :: w.atoms }

/-- Write a space at which the line may break; lines of comments do not break. -/
def wrap (w : Writer) : Writer :=
  if w.inDoc || w.inComment then w.emit unit " " else w.appendPoint true

/-- The effect of an operation, with exact sums of levels. -/
def step (w : Writer) : LayoutOp → Writer
  | .text s => w.emit unit s
  | .indent levels => { w with level := w.level + levels }
  | .unindent levels => { w with level := w.level - levels }
  | .beginStatement => { w with statements := w.level :: w.statements }
  | .endStatement => { w with statements := w.statements.tail }
  | .wrap => w.wrap unit
  | .comma => (w.emit unit ",").wrap unit
  | .wrapTight => if w.inDoc || w.inComment then w else w.appendPoint false
  | .blankLine => w.blankLine unit
  | .endLine => w.endLine unit
  | .openDoc => { w.emit unit "/**\n" with inDoc := true }
  | .closeDoc => { w.endLine unit with inDoc := false }.emit unit " */\n"
  | .openComment => { w with atLineStart := true, inComment := true }
  | .closeComment => { w.endLine unit with inComment := false }
  | .suspend => { w with statements := [], suspended := w.statements :: w.suspended }
  | .resume =>
    { w with statements := w.suspended.headD w.statements, suspended := w.suspended.tail }

/-- The effect of a list of operations. -/
def run (w : Writer) (ops : List LayoutOp) : Writer := ops.foldl (step unit) w

/-- Cutting a text into pieces does not matter. -/
theorem emit_append (w : Writer) (s t : String) :
    w.emit unit (s ++ t) = (w.emit unit s).emit unit t := by
  simp [emit]

theorem run_append (w : Writer) (ops more : List LayoutOp) :
    w.run unit (ops ++ more) = (w.run unit ops).run unit more := by
  simp [run]

end Writer

/-- The text of a list of operations. -/
def layout (options : FormatOptions) (ops : List LayoutOp) : String :=
  fill options.columnLimit options.indent.unit
    (Writer.start.run options.indent.unit ops).atoms.reverse

/-! ### Levels in machine words -/

/-- What becomes of a sum that does not fit into a machine word. -/
inductive Overflow where
  /-- The program fails. -/
  | fails
  /-- The sum is taken modulo the number of words. -/
  | wraps
  deriving DecidableEq, Repr

/-- The machine words in which levels are kept. -/
structure LevelWords where
  /-- The number of words; the greatest level is one less. -/
  count : Nat
  overflow : Overflow
  deriving DecidableEq, Repr

namespace LevelWords

/-- Words of 64 bits, of which there are two to the power of 64. -/
def ofOverflow (overflow : Overflow) : LevelWords := ⟨18446744073709551616, overflow⟩

/-- The sum of two levels. -/
def add? (words : LevelWords) (a b : Nat) : Option Nat :=
  if a + b < words.count then some (a + b)
  else
    match words.overflow with
    | .fails => none
    | .wraps => some ((a + b) % words.count)

end LevelWords

namespace Writer

variable (words : LevelWords) (unit : List Char)

/-- Go deeper by some levels. -/
def raise? (w : Writer) (levels : Nat) : Option Writer :=
  (words.add? w.level levels).map fun level => { w with level := level }

/-- The level of a continuation line. -/
def continuationLevel? (w : Writer) : Option Nat := words.add? (w.statements.headD w.level) 1

/-- Write a break point. -/
def appendPoint? (w : Writer) (wide : Bool) : Option Writer :=
  (w.continuationLevel? words).map fun level => { w with atoms := .point ⟨level, wide⟩ :: w.atoms }

/-- Write a space at which the line may break. -/
def wrap? (w : Writer) : Option Writer :=
  if w.inDoc || w.inComment then some (w.emit unit " ") else w.appendPoint? words true

/-- The effect of an operation if levels are machine words.  Only going deeper adds levels, and so
does a break point, for the continuation line behind it. -/
def step? (w : Writer) : LayoutOp → Option Writer
  | .indent levels => w.raise? words levels
  | .wrap => w.wrap? words unit
  | .comma => (w.emit unit ",").wrap? words unit
  | .wrapTight => if w.inDoc || w.inComment then some w else w.appendPoint? words false
  | op => some (w.step unit op)

/-- The effect of a list of operations if levels are machine words. -/
def run? (w : Writer) (ops : List LayoutOp) : Option Writer := ops.foldlM (step? words unit) w

end Writer

/-- The text of a list of operations if levels are machine words. -/
def layout? (words : LevelWords) (options : FormatOptions) (ops : List LayoutOp) : Option String :=
  (Writer.start.run? words options.indent.unit ops).map fun w =>
    fill options.columnLimit options.indent.unit w.atoms.reverse

end KotlinSource
