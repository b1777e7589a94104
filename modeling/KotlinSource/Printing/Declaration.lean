import KotlinSource.Declaration.Basic
import KotlinSource.Printing.Type

/-!
# Printing declarations

The tokens of annotation uses, parameters, properties, functions and type aliases whose code has
been printed already.

## Main definitions

* `documentation`: a documentation comment.
* `AnnotationUse.tokens`, `ParameterDecl.tokens`, `PropertyDecl.tokens`, `FunctionDecl.tokens`,
  `AliasDecl.tokens`: the declarations.
* `codeArguments`, `initializer`: arguments of a call, and a block of initializing code.
-/

namespace KotlinSource

/-- A documentation comment: nothing without documentation. -/
def documentation (doc : Tokens) : Tokens :=
  if doc.isEmpty then [] else operation .openDoc ++ doc ++ operation .closeDoc

/-- The arguments of a call between parentheses. -/
def codeArguments (arguments : List Tokens) : Tokens :=
  parenthesized (listed (word ", ") arguments)

/-- Code between braces on lines of its own, behind what starts the block. -/
def block (code : Tokens) : Tokens :=
  word " \x7b\n" ++ operation (.indent 1) ++ code ++ operation (.unindent 1) ++ word "\x7d"

/-- A block of code that runs for a type or its instances. -/
def initializer (code : Tokens) : Tokens :=
  word "init" ++ block (code ++ operation .endLine) ++ word "\n"

/-- A value behind an equals sign: nothing without a value. -/
def assigned (value : Option Tokens) : Tokens := value.elim [] fun v => word " = " ++ v

/-- A type behind a colon. -/
def typed (type : TypeName) : Tokens := word ": " ++ type.tokens

/-! ### Annotation uses -/

/-- The values of the members of an annotation.  The name of a single member `value` is not
written. -/
def AnnotationUse.values (a : AnnotationUse Tokens) : Tokens :=
  match a.members with
  | [("value", value)] => value
  | members => listed breakableComma (members.map fun m => nameWord m.1 ++ word " = " ++ m.2)

/-- The tokens of an annotation use. -/
def AnnotationUse.tokens (a : AnnotationUse Tokens) : Tokens :=
  word "@" ++ (TypeName.declared a.type).tokens ++
    if a.members.isEmpty then [] else parenthesized a.values

/-- Annotation uses, each on a line of its own. -/
def annotationLines (annotations : List (AnnotationUse Tokens)) : Tokens :=
  annotations.flatMap fun a => a.tokens ++ word "\n"

/-- Annotation uses in a line, each with a space behind it. -/
def annotationWords (annotations : List (AnnotationUse Tokens)) : Tokens :=
  annotations.flatMap fun a => a.tokens ++ word " "

/-! ### Parameters and properties -/

/-- The tokens of a parameter. -/
def ParameterDecl.tokens (p : ParameterDecl Tokens) : Tokens :=
  annotationWords p.annotations ++ modifierWords [] p.modifiers ++ nameWord p.name ++
    typed p.type ++ assigned p.default

/-- Parameters between parentheses, with a place to break the line between neighbours. -/
def parameterList (parameters : List Tokens) : Tokens :=
  parenthesized (listed breakableComma parameters)

/-- The keyword of a property. -/
def PropertyDecl.keyword {κ : Type} (p : PropertyDecl κ) : String :=
  if p.isMutable then "var " else "val "

/-- The tokens of a property on a line of its own. -/
def PropertyDecl.tokens (p : PropertyDecl Tokens) : Tokens :=
  documentation p.doc ++ annotationLines p.annotations ++ operation .beginStatement ++
    modifierWords [.publicAccess] p.modifiers ++ word p.keyword ++ nameWord p.name ++
    typed p.type ++ assigned p.initializer ++ operation .endLine ++ operation .endStatement

/-! ### Functions -/

namespace FunctionDecl

/-- The modifiers that a function has without saying so. -/
def impliedModifiers (inInterface : Bool) : List Modifier :=
  if inInterface then [.publicAccess, .abstract] else [.publicAccess]

/-- What stands before the parameters of a function. -/
def introduction (f : FunctionDecl Tokens) : Tokens :=
  match f.name with
  | none => word "constructor"
  | some name =>
    word "fun " ++
      (if f.typeVariables.isEmpty then [] else typeVariableList f.typeVariables ++ word " ") ++
      (f.receiver.elim [] fun receiver => receiver.tokens ++ word ".") ++ nameWord name

/-- The return type of a function: nothing for `Unit`. -/
def result (f : FunctionDecl Tokens) : Tokens :=
  match f.returnType with
  | some type => if type.isUnit then [] else typed type
  | none => []

/-- The constructor that a constructor calls first. -/
def delegationTokens (f : FunctionDecl Tokens) : Tokens :=
  f.delegation.elim [] fun d => word (" : " ++ d.target.keyword) ++ codeArguments d.arguments

/-- Whether a function is written without braces: if its modifiers leave the body to others, or if
it has no body and need not have one. -/
def isBodiless (inInterface : Bool) (f : FunctionDecl Tokens) : Bool :=
  [Modifier.abstract, .expected, .external].any f.modifiers.contains ||
    f.body.isEmpty && (inInterface || f.isConstructor)

/-- The tokens of a function, inside an interface or not. -/
def tokens (inInterface : Bool) (f : FunctionDecl Tokens) : Tokens :=
  documentation f.doc ++ annotationLines f.annotations ++
    modifierWords (impliedModifiers inInterface) f.modifiers ++ f.introduction ++
    parameterList (f.parameters.map ParameterDecl.tokens) ++ f.result ++ f.delegationTokens ++
    whereClause f.typeVariables ++
    (if f.isBodiless inInterface then [] else block (f.body ++ operation .endLine)) ++ word "\n"

end FunctionDecl

/-! ### Type aliases -/

/-- The tokens of a type alias. -/
def AliasDecl.tokens (d : AliasDecl Tokens) : Tokens :=
  documentation d.doc ++ annotationLines d.annotations ++
    modifierWords [.publicAccess] d.modifiers ++ word "typealias " ++ nameWord d.name ++
    typeVariableList d.typeVariables ++ word " = " ++ d.type.tokens ++ word "\n"

end KotlinSource
