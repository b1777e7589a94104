/-!
# Filling lines up to a column limit

A text with break points is a list of atoms, each a piece of text, which may hold line breaks, or a
break point.  The text behind a break point is held back until it is known whether it fits on the
current line.  If it does, the break point becomes a space, or nothing if it has no width; if it
does not, the break point becomes a line break and the indentation of the continuation line.  The
decision is made for one break point at a time, at the first piece that does not fit, at the next
break point, at the next line break or at the end.

A break point directly before a line break or at the end of the text writes nothing.

## Main definitions

* `Break`, `Atom`: break points, and the atoms of a text.
* `Fill`: what has been written, and what is held back.
* `Fill.append`, `Fill.point`: the effect of a piece of text and of a break point.
* `fill`: the text of a list of atoms.
-/

namespace KotlinSource

/-- A place where a line may break. -/
structure Break where
  /-- The levels of indentation of the continuation line. -/
  level : Nat
  /-- Whether the break point is a space when the line does not break there. -/
  wide : Bool
  deriving DecidableEq, Repr

/-- An atom of a text that may break. -/
inductive Atom where
  | text (chars : List Char)
  | point (b : Break)
  deriving DecidableEq, Repr

/-- The columns that a break point takes when the line does not break there. -/
def Break.width (b : Break) : Nat := if b.wide then 1 else 0

/-- What a break point writes when the line does not break there. -/
def Break.unbroken (b : Break) : List Char := if b.wide then [' '] else []

/-- What a break point writes when the line breaks there. -/
def Break.broken (unit : List Char) (b : Break) : List Char :=
  '\n' :: (List.replicate b.level unit).flatten

/-- What has been written of a text, and what is held back behind the last break point. -/
structure Fill where
  /-- The characters written, the last one first. -/
  written : List Char
  /-- The column behind everything written or held back, as if the line did not break. -/
  column : Nat
  /-- The characters held back, the last one first. -/
  held : List Char
  /-- The break point that is not decided yet. -/
  pending : Option Break
  deriving DecidableEq, Repr

namespace Fill

/-- Nothing written, nothing held back. -/
def start : Fill := ⟨[], 0, [], none⟩

/-- The column behind a text that starts at a column. -/
def columnBehind (column : Nat) (chars : List Char) : Nat :=
  if '\n' ∈ chars then (chars.reverse.takeWhile (· != '\n')).length else column + chars.length

/-- Write text behind everything that has been written. -/
def write (f : Fill) (chars : List Char) : Fill :=
  { f with written := chars.reverse ++ f.written, column := columnBehind f.column chars }

/-- Decide the pending break point: the line does not break there. -/
def keepLine (f : Fill) : Fill :=
  match f.pending with
  | none => f
  | some b => ⟨f.held ++ b.unbroken ++ f.written, f.column, [], none⟩

/-- Decide the pending break point: the line breaks there. -/
def breakLine (unit : List Char) (f : Fill) : Fill :=
  match f.pending with
  | none => f
  | some b =>
    ⟨f.held ++ (b.broken unit).reverse ++ f.written, unit.length * b.level + f.held.length, [], none⟩

/-- Drop the pending break point. -/
def dropPoint (f : Fill) : Fill :=
  match f.pending with
  | none => f
  | some b => { f with column := f.column - b.width, pending := none }

/-- The effect of a piece of text.  Behind a break point that is not decided yet, a piece without a
line break is held back as long as it fits, and a line break decides. -/
def append (limit : Nat) (unit : List Char) (f : Fill) (chars : List Char) : Fill :=
  let line := chars.takeWhile (· != '\n')
  let fits := f.column + line.length ≤ limit
  if chars = [] then f
  else if f.pending = none then f.write chars
  else if '\n' ∈ chars then
    if line = [] ∧ f.held = [] then f.dropPoint.write chars
    else if fits then f.keepLine.write chars
    else (f.breakLine unit).write chars
  else if fits then
    { f with held := chars.reverse ++ f.held, column := f.column + chars.length }
  else (f.breakLine unit).write chars

/-- The effect of a break point. -/
def point (f : Fill) (b : Break) : Fill :=
  let decided := f.keepLine
  { decided with column := decided.column + b.width, pending := some b }

/-- The effect of an atom. -/
def step (limit : Nat) (unit : List Char) (f : Fill) : Atom → Fill
  | .text chars => f.append limit unit chars
  | .point b => f.point b

/-- The whole text.  A break point at the end writes nothing. -/
def text (f : Fill) : List Char :=
  if f.held.isEmpty then f.written.reverse else f.keepLine.written.reverse

end Fill

/-- The text of a list of atoms with lines of at most `limit` columns, as far as its break points
allow. -/
def fill (limit : Nat) (unit : List Char) (atoms : List Atom) : String :=
  String.ofList (atoms.foldl (Fill.step limit unit) Fill.start).text

end KotlinSource
