import KotlinSource.Code.Basic
import KotlinSource.Template.Piece

/-!
# The code of a template

The directives of a template take their arguments one by one, from left to right.  Each piece of
the template gives a fragment of code: text, which joins the text around it into one instruction,
or instructions, which do not.  The first fault from the left wins; that arguments are left over
shows only at the end.

## Main definitions

* `Argument`: the arguments of a template.
* `Fragment`, `assemble`: what a piece gives, and the code of a list of fragments.
* `Argument.fragment?`: what a directive makes of its argument.
* `Template.bind`: the fragments of a list of pieces.
* `Template.interpret`, `Template.interpretNamed`: the code of a template.
-/

namespace KotlinSource

/-- An argument of a template. -/
inductive Argument where
  /-- Text: a string, a character or a name. -/
  | text (s : String)
  /-- A number or truth value, as it is written. -/
  | literal (s : String)
  | null
  | type (t : TypeName)
  | member (m : MemberName)
  | code (c : Code)
  /-- A type that is written as an object expression. -/
  | object (decl : TypeDecl Code)

/-- What an argument is. -/
def Argument.kind : Argument → ArgumentKind
  | .text _ => .text
  | .literal _ => .literal
  | .null => .null
  | .type _ => .type
  | .member _ => .member
  | .code _ => .code
  | .object _ => .object

/-! ### Fragments -/

/-- What a piece of a template gives. -/
inductive Fragment where
  /-- Text that joins the text around it. -/
  | text (chars : List Char)
  /-- Instructions that end the text before them, even if there are none. -/
  | code (c : Code)

/-- The instruction of a run of text; an empty run has none. -/
def textRun (chars : List Char) : Code :=
  if chars.isEmpty then [] else [.text (String.ofList chars)]

/-- The code of a list of fragments behind a run of text, which is kept in reverse. -/
def assembleAfter (run : List Char) : List Fragment → Code
  | [] => textRun run.reverse
  | .text chars :: rest => assembleAfter (chars.reverse ++ run) rest
  | .code c :: rest => textRun run.reverse ++ c ++ assembleAfter [] rest

/-- The code of a list of fragments. -/
def assemble (fragments : List Fragment) : Code := assembleAfter [] fragments

/-- The fragment of a mark. -/
def Mark.fragment : Mark → Fragment
  | .percent => .text ['%']
  | .indent => .code [.indent]
  | .unindent => .code [.unindent]
  | .beginStatement => .code [.beginStatement]
  | .endStatement => .code [.endStatement]
  | .wrap => .code [.wrap]

/-- What a directive makes of its argument, if it takes an argument of that kind. -/
def Argument.fragment? (a : Argument) (d : Directive) : Option Fragment :=
  match d, a with
  | .literal, .text s => some (.text s.toList)
  | .literal, .literal s => some (.text s.toList)
  | .literal, .null => some (.text "null".toList)
  | .literal, .type t => some (.text t.canonical.toList)
  | .literal, .member m => some (.text m.canonicalName.toList)
  | .literal, .code c => some (.code c)
  | .literal, .object decl => some (.code [.object decl])
  | .stringLiteral, .text s => some (.code [.stringLiteral s])
  | .stringLiteral, .literal s => some (.code [.stringLiteral s])
  | .stringLiteral, .null => some (.text "null".toList)
  | .type, .type t => some (.code [.type t])
  | .name, .text s => some (.code [.name s])
  | .member, .member m => some (.code [.member m])
  | _, _ => none

/-! ### Arguments by position and by name -/

/-- The greatest argument index that a failure can tell. -/
def maxArgumentIndex : Nat := 18446744073709551615

/-- The value of decimal digits. -/
def decimalValue (digits : List Char) : Nat :=
  digits.foldl (fun value c => 10 * value + (c.toNat - '0'.toNat)) 0

/-- The index of the argument that a position stands for, and the number of arguments taken
afterwards, if `taken` are taken before and `received` are there.  A numbered position may take an
argument again, or take the next one. -/
def Position.index (received taken : Nat) : Position → Except TemplateFault (Nat × Nat)
  | .next => .ok (taken, taken + 1)
  | .numbered digits =>
    let number := decimalValue digits
    if number = 0 then .error .zeroIndex
    else if number > maxArgumentIndex then .error (.missingArgument maxArgumentIndex received)
    else if number - 1 > taken then .error (.skipsAhead (number - 1) taken)
    else .ok (number - 1, if number - 1 = taken then taken + 1 else taken)

namespace Template

/-- How directives find their arguments: from the number of arguments taken before, the argument
with its index and the number of arguments taken afterwards. -/
abbrev Lookup (ρ : Type) := Nat → ρ → Except TemplateFault (Nat × Argument × Nat)

/-- Arguments by position. -/
def byPosition (arguments : List Argument) : Lookup Position := fun taken position => do
  let (index, taken) ← position.index arguments.length taken
  match arguments[index]? with
  | some a => return (index, a, taken)
  | none => .error (.missingArgument index arguments.length)

/-- Arguments by name, the first one of a name. -/
def byName (arguments : List (String × Argument)) : Lookup String := fun taken name =>
  match arguments.findIdx? fun a => a.1 == name with
  | some index =>
    match arguments[index]? with
    | some a => .ok (index, a.2, taken)
    | none => .error (.missingNamedArgument name)
  | none => .error (.missingNamedArgument name)

/-- The fragments of a list of pieces behind `taken` arguments, and the number of arguments taken
in the end. -/
def bind {ρ : Type} (lookup : Lookup ρ) (taken : Nat) :
    List (Piece ρ) → Except TemplateFault (List Fragment × Nat)
  | [] => .ok ([], taken)
  | .plain c :: rest => do
    let (fragments, taken) ← bind lookup taken rest
    return (.text [c] :: fragments, taken)
  | .mark m :: rest => do
    let (fragments, taken) ← bind lookup taken rest
    return (m.fragment :: fragments, taken)
  | .directive reference d :: rest => do
    let (index, argument, taken) ← lookup taken reference
    match argument.fragment? d with
    | none => .error (.argumentKind index d argument.kind)
    | some fragment =>
      let (fragments, taken) ← bind lookup taken rest
      return (fragment :: fragments, taken)

/-- The fragments of a reading and the number of arguments taken.  A fault at which reading stopped
comes behind the faults of the pieces before it. -/
def bindReading {ρ : Type} (lookup : Lookup ρ) (reading : Reading ρ) :
    Except TemplateFault (List Fragment × Nat) := do
  let result ← bind lookup 0 reading.pieces
  match reading.fault with
  | some fault => .error fault
  | none => return result

/-- The code of a template, or the fault in it. -/
def interpretPositional (template : String) (arguments : List Argument) :
    Except TemplateFault Code := do
  let (fragments, taken) ← bindReading (byPosition arguments) (positionalPieces template)
  if taken < arguments.length then .error (.unusedArguments taken arguments.length)
  else return assemble fragments

/-- The code of a template with named directives, or the fault in it. -/
def interpretNamedArguments (template : String) (arguments : List (String × Argument)) :
    Except TemplateFault Code :=
  match arguments.find? fun a => !isArgumentName a.1 with
  | some a => .error (.invalidArgumentName a.1)
  | none => do
    let (fragments, _) ← bindReading (byName arguments) (namedPieces template)
    return assemble fragments

/-- The code of a template with positional directives.  Every argument has to be taken. -/
def interpret (template : String) (arguments : List Argument) : Except TemplateError Code :=
  (interpretPositional template arguments).mapError (TemplateError.mk template)

/-- The code of a template with named directives.  Not every argument has to be taken. -/
def interpretNamed (template : String) (arguments : List (String × Argument)) :
    Except TemplateError Code :=
  (interpretNamedArguments template arguments).mapError (TemplateError.mk template)

end Template

end KotlinSource
