import KotlinSource.Diagnostic

/-!
# Failures to read a template

## Main definitions

* `Directive`: the directives of a template that take an argument.
* `ArgumentKind`: what an argument is.
* `TemplateFault`, `TemplateError`: why a template cannot be read with its arguments.
* `TemplateError.diagnostic`: the text of such a failure.
-/

namespace KotlinSource

/-- A directive, which takes an argument. -/
inductive Directive where
  /-- The directive `%L`: the argument as it is. -/
  | literal
  /-- The directive `%S`: the argument as a string literal. -/
  | stringLiteral
  /-- The directive `%T`: a type. -/
  | type
  /-- The directive `%N`: a name, escaped if it is a keyword. -/
  | name
  /-- The directive `%M`: a function or property. -/
  | member
  deriving DecidableEq, Repr

/-- The letter of a directive. -/
def Directive.letter : Directive → Char
  | .literal => 'L'
  | .stringLiteral => 'S'
  | .type => 'T'
  | .name => 'N'
  | .member => 'M'

/-- The directive of a letter. -/
def Directive.ofLetter? : Char → Option Directive
  | 'L' => some .literal
  | 'S' => some .stringLiteral
  | 'T' => some .type
  | 'N' => some .name
  | 'M' => some .member
  | _ => none

/-- The words for what a directive takes. -/
def Directive.expectation : Directive → String
  | .literal => "anything"
  | .stringLiteral => "text"
  | .type => "a type"
  | .name => "a name"
  | .member => "a member"

/-- What an argument is. -/
inductive ArgumentKind where
  | text | literal | null | type | member | code | object
  deriving DecidableEq, Repr

/-- The words for what an argument is. -/
def ArgumentKind.label : ArgumentKind → String
  | .text => "text"
  | .literal => "a literal"
  | .null => "null"
  | .type => "a type"
  | .member => "a member"
  | .code => "a code block"
  | .object => "a type spec"

/-- What is wrong with a template or its arguments.  Positions count the characters before a
percent sign; arguments are counted from zero. -/
inductive TemplateFault where
  /-- A percent sign, and perhaps digits, at the end. -/
  | dangling
  /-- A percent sign before something that is no directive. -/
  | unknownDirective (position : Nat) (character : Char)
  /-- A number in a mark, which takes no argument. -/
  | unexpectedIndex (position : Nat) (character : Char)
  /-- The number zero; numbers start at one. -/
  | zeroIndex
  /-- A directive for an argument that is not there. -/
  | missingArgument (index received : Nat)
  /-- A number greater than that of the next argument. -/
  | skipsAhead (index next : Nat)
  /-- Arguments that no directive takes. -/
  | unusedArguments (used received : Nat)
  /-- An argument that its directive does not take. -/
  | argumentKind (index : Nat) (directive : Directive) (found : ArgumentKind)
  /-- A directive for an argument name that is not there. -/
  | missingNamedArgument (name : String)
  /-- An argument whose name cannot stand in a directive. -/
  | invalidArgumentName (name : String)
  deriving DecidableEq, Repr

/-- Why a template cannot be read with its arguments. -/
structure TemplateError where
  template : String
  fault : TemplateFault
  deriving DecidableEq, Repr

/-- The text of a failure to read a template. -/
def TemplateError.diagnostic (e : TemplateError) : Diagnostic :=
  let quoted := "'" ++ e.template ++ "'"
  match e.fault with
  | .dangling =>
    ⟨"format::dangling", "dangling '%' at the end of " ++ quoted,
      some "write '%%' for a literal percent"⟩
  | .unknownDirective position character =>
    ⟨"format::unknown_directive",
      "unknown directive '%" ++ character.toString ++ "' at " ++ position.repr ++ " in " ++ quoted,
      some "directives are %L %S %T %N %M %% %> %< %[ %] %W"⟩
  | .unexpectedIndex position character =>
    ⟨"format::unexpected_index",
      "'%" ++ character.toString ++ "' at " ++ position.repr ++ " in " ++ quoted ++
        " does not take an index", none⟩
  | .zeroIndex =>
    ⟨"format::zero_index", "argument indexes start at 1, found %0 in " ++ quoted, none⟩
  | .missingArgument index received =>
    ⟨"format::missing_argument",
      "missing argument " ++ index.repr ++ " for " ++ quoted ++ " (" ++ received.repr ++ " given)",
      none⟩
  | .skipsAhead index next =>
    ⟨"format::skips_ahead",
      "argument " ++ index.repr ++ " skips ahead of argument " ++ next.repr ++ " in " ++ quoted,
      some "an indexed directive may reuse earlier arguments or take the next one"⟩
  | .unusedArguments used received =>
    ⟨"format::unused_arguments",
      "unused arguments for " ++ quoted ++ ": " ++ used.repr ++ " of " ++ received.repr ++
        " consumed", none⟩
  | .argumentKind index directive found =>
    ⟨"format::argument_kind",
      "'%" ++ directive.letter.toString ++ "' expects " ++ directive.expectation ++
        ", argument " ++ index.repr ++ " is " ++ found.label ++ " in " ++ quoted, none⟩
  | .missingNamedArgument name =>
    ⟨"format::missing_named_argument",
      "missing named argument '" ++ name ++ "' for " ++ quoted, none⟩
  | .invalidArgumentName name =>
    ⟨"format::invalid_argument_name",
      "argument name '" ++ name ++ "' must start with a lowercase letter",
      some "argument names match [a-z][A-Za-z0-9_]*"⟩

end KotlinSource
