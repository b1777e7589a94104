import KotlinSource.Code.Expansion
import KotlinSource.Lexical.StringLiteral
import KotlinSource.Printing.Members

/-!
# Printing code

Code is printed instruction by instruction; an anonymous type in it is written as an object
expression.

## Main definitions

* `Code.tokens`: the tokens of a piece of code.
* `Code.text`, `TypeDecl.text`, …: the text of code and declarations outside of every file.
-/

namespace KotlinSource

/-- The tokens of an instruction that holds no code. -/
def Instruction.tokens : Instruction → Tokens
  | .text s => word s
  | .name s => nameWord s
  | .stringLiteral value => word (quoted value)
  | .type t => t.tokens
  | .member m => [.reference (.member m)]
  | .object _ => []
  | .indent => operation (.indent 1)
  | .unindent => operation (.unindent 1)
  | .beginStatement => operation .beginStatement
  | .endStatement => operation .endStatement
  | .wrap => operation .wrap

namespace Code

/-- The tokens of a piece of code. -/
def tokens (code : Code) : Tokens := expand Instruction.tokens TypeDecl.expressionTokens code

theorem tokens_append (left right : Code) : tokens (left ++ right) = left.tokens ++ right.tokens :=
  expand_append ..

/-- The text of a piece of code outside of every file. -/
def text (code : Code) : String := Tokens.detached code.tokens

/-- Whether two pieces of code have the same text. -/
def hasTextOf (left right : Code) : Bool := left.text == right.text

end Code

/-- An annotation use with its code printed. -/
def AnnotationUse.printed (a : AnnotationUse Code) : AnnotationUse Tokens := a.map Code.tokens

/-- A parameter with its code printed. -/
def ParameterDecl.printed (p : ParameterDecl Code) : ParameterDecl Tokens := p.map Code.tokens

/-- A property with its code printed. -/
def PropertyDecl.printed (p : PropertyDecl Code) : PropertyDecl Tokens := p.map Code.tokens

/-- A function with its code printed. -/
def FunctionDecl.printed (f : FunctionDecl Code) : FunctionDecl Tokens := f.map Code.tokens

/-- A type with its code printed. -/
def TypeDecl.printed (d : TypeDecl Code) : TypeDecl Tokens := d.map Code.tokens

/-- A type alias with its code printed. -/
def AliasDecl.printed (d : AliasDecl Code) : AliasDecl Tokens := d.map Code.tokens

/-! ### The text of declarations outside of every file -/

/-- The text of an annotation use. -/
def AnnotationUse.text (a : AnnotationUse Code) : String := Tokens.detached a.printed.tokens

/-- The text of a parameter. -/
def ParameterDecl.text (p : ParameterDecl Code) : String := Tokens.detached p.printed.tokens

/-- The text of a property. -/
def PropertyDecl.text (p : PropertyDecl Code) : String := Tokens.detached p.printed.tokens

/-- The text of a function or constructor. -/
def FunctionDecl.text (f : FunctionDecl Code) : String :=
  Tokens.detached (f.printed.tokens false)

/-- The text of a type. -/
def TypeDecl.text (d : TypeDecl Code) : String := Tokens.detached d.printed.tokens

/-- The text of an object expression. -/
def TypeDecl.expressionText (d : TypeDecl Code) : String :=
  Tokens.detached d.printed.expressionTokens

/-- The text of a type alias. -/
def AliasDecl.text (d : AliasDecl Code) : String := Tokens.detached d.printed.tokens

/-- The text of a type name. -/
def TypeName.text (t : TypeName) : String := Tokens.detached t.tokens

/-- An anonymous type in code is printed as an expression, after the code in it. -/
theorem Code.expandInstruction_object_tokens (decl : TypeDecl Code) :
    Code.expandInstruction Instruction.tokens TypeDecl.expressionTokens (.object decl) =
      decl.printed.expressionTokens := by
  rw [Code.expandInstruction_object, Code.expandType_eq_map]
  rfl

/-- All other instructions are printed by themselves. -/
theorem Code.expandInstruction_tokens_of_ne {i : Instruction} (h : ∀ decl, i ≠ .object decl) :
    Code.expandInstruction Instruction.tokens TypeDecl.expressionTokens i = i.tokens := by
  cases i with
  | object decl => exact absurd rfl (h decl)
  | _ => rfl

end KotlinSource
