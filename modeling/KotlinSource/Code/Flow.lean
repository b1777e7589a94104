import KotlinSource.Template.Interpretation

/-!
# Statements and control flow

Code grows by statements, which end their lines, and by blocks between braces.  A block is opened
by its header, as in `if (x > 0)`, may be followed by further blocks of the same construct, as in
`else`, and is closed.

## Main definitions

* `Code.statement`: a statement on its own lines.
* `Code.beginFlow`, `Code.nextFlow`, `Code.endFlow`: the braces of blocks.
* `Code.join`: pieces of code with a separator between neighbours.
-/

namespace KotlinSource.Code

/-- A statement.  Where its line breaks, it goes on one level deeper. -/
def statement (template : String) (arguments : List Argument) : Except TemplateError Code := do
  let body ← Template.interpret template arguments
  return .beginStatement :: body ++ [.text "\n", .endStatement]

/-- Whether a header has its opening brace already. -/
def opensBlock (header : String) : Bool :=
  (Unicode.trimEnd header.toList).getLast? == some '\x7b'

/-- The header of a block and its opening brace, unless the header has it. -/
def beginFlow (template : String) (arguments : List Argument) : Except TemplateError Code := do
  let header ← Template.interpret template arguments
  return header ++ [.text (if opensBlock template then "\n" else " \x7b\n"), .indent]

/-- The end of a block and the start of the next one of the same construct. -/
def nextFlow (template : String) (arguments : List Argument) : Except TemplateError Code := do
  let header ← Template.interpret template arguments
  return .unindent :: .text "\x7d " :: header ++ [.text " \x7b\n", .indent]

/-- The end of a block. -/
def endFlow : Code := [.unindent, .text "\x7d\n"]

/-- Pieces of code with the code of `separator`, a template without directives that take an
argument, between neighbours. -/
def join (codes : List Code) (separator : String) : Except TemplateError Code := do
  let between ← Template.interpret separator []
  return between.intercalate codes

end KotlinSource.Code
