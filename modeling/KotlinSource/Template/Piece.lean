import KotlinSource.Template.Error

/-!
# Pieces of a template

A template is read from left to right as a sequence of pieces: plain characters, marks, which take
no argument, and directives, which take one.  Reading stops at the first place that is no piece.
Two dialects differ in how a directive says which argument it takes: by position, as in `%L` and
`%2L`, or by name, as in `%name:L`.

## Main definitions

* `Mark`, `Piece`: the pieces.
* `Position`: how a positional directive says which argument it takes.
* `Template.positionalPieces`, `Template.namedPieces`: the pieces of a template, and the fault at
  which reading stopped.
-/

namespace KotlinSource

/-- A mark in a template, which takes no argument. -/
inductive Mark where
  /-- The mark `%%`, a percent sign. -/
  | percent
  /-- The mark `%>`. -/
  | indent
  /-- The mark `%<`. -/
  | unindent
  /-- The mark `%[`. -/
  | beginStatement
  /-- The mark `%]`. -/
  | endStatement
  /-- The mark `%W`. -/
  | wrap
  deriving DecidableEq, Repr

/-- The mark that a character after a percent sign stands for. -/
def Mark.ofChar? : Char → Option Mark
  | '%' => some .percent
  | '>' => some .indent
  | '<' => some .unindent
  | '[' => some .beginStatement
  | ']' => some .endStatement
  | 'W' => some .wrap
  | _ => none

/-- The character of a mark. -/
def Mark.char : Mark → Char
  | .percent => '%'
  | .indent => '>'
  | .unindent => '<'
  | .beginStatement => '['
  | .endStatement => ']'
  | .wrap => 'W'

/-- A piece of a template.  Its directives say which argument they take by a value of `ρ`. -/
inductive Piece (ρ : Type) where
  | plain (c : Char)
  | mark (m : Mark)
  | directive (argument : ρ) (d : Directive)
  deriving DecidableEq, Repr

/-- How a positional directive says which argument it takes. -/
inductive Position where
  /-- The next argument that has not been taken yet. -/
  | next
  /-- The argument of a number, counted from one; its decimal digits. -/
  | numbered (digits : List Char)
  deriving DecidableEq, Repr

/-- The argument that the digits in front of a directive stand for. -/
def Position.ofDigits (digits : List Char) : Position :=
  if digits.isEmpty then .next else .numbered digits

namespace Template

/-- The pieces of a template up to the first place that is no piece. -/
structure Reading (ρ : Type) where
  pieces : List (Piece ρ)
  /-- The fault at which reading stopped, unless it came to the end. -/
  fault : Option TemplateFault

/-- A reading with one more piece in front. -/
def Reading.cons {ρ : Type} (piece : Piece ρ) (rest : Reading ρ) : Reading ρ :=
  ⟨piece :: rest.pieces, rest.fault⟩

/-- The reading of a template that ends here. -/
def Reading.done {ρ : Type} : Reading ρ := ⟨[], none⟩

/-- The reading of a template that goes on with no piece. -/
def Reading.stop {ρ : Type} (fault : TemplateFault) : Reading ρ := ⟨[], some fault⟩

/-- The decimal digits of ASCII. -/
def isDigit (c : Char) : Bool := '0' ≤ c && c ≤ '9'

/-- The small letters of ASCII. -/
def isSmallLetter (c : Char) : Bool := 'a' ≤ c && c ≤ 'z'

/-- The characters an argument name goes on with. -/
def continuesArgumentName (c : Char) : Bool :=
  isSmallLetter c || ('A' ≤ c && c ≤ 'Z') || isDigit c || c == '_'

/-! ### Positional directives -/

mutual

/-- The pieces from position `offset` on, outside of marks and directives. -/
def positionalFrom (offset : Nat) : List Char → Reading Position
  | [] => .done
  | c :: rest =>
    if c = '%' then positionalAfter offset [] (offset + 1) rest
    else (positionalFrom (offset + 1) rest).cons (.plain c)

/-- The pieces behind the percent sign at position `start`, some digits behind it read already. -/
def positionalAfter (start : Nat) (digits : List Char) (offset : Nat) : List Char → Reading Position
  | [] => .stop .dangling
  | c :: rest =>
    if isDigit c then positionalAfter start (digits ++ [c]) (offset + 1) rest
    else
      match Mark.ofChar? c, Directive.ofLetter? c with
      | some mark, _ =>
        if digits.isEmpty then (positionalFrom (offset + 1) rest).cons (.mark mark)
        else .stop (.unexpectedIndex start c)
      | none, some d =>
        (positionalFrom (offset + 1) rest).cons (.directive (.ofDigits digits) d)
      | none, none => .stop (.unknownDirective start c)

end

/-- The pieces of a template with positional directives. -/
def positionalPieces (template : String) : Reading Position := positionalFrom 0 template.toList

/-! ### Named directives -/

mutual

/-- The pieces from position `offset` on, outside of marks and directives. -/
def namedFrom (offset : Nat) : List Char → Reading String
  | [] => .done
  | c :: rest =>
    if c = '%' then namedAfter offset rest
    else (namedFrom (offset + 1) rest).cons (.plain c)

/-- The pieces behind the percent sign at position `start`. -/
def namedAfter (start : Nat) : List Char → Reading String
  | [] => .stop .dangling
  | c :: rest =>
    match Mark.ofChar? c with
    | some mark => (namedFrom (start + 2) rest).cons (.mark mark)
    | none =>
      if isSmallLetter c then namedIn start c [c] rest
      else .stop (.unknownDirective start c)

/-- The pieces behind the start `name` of an argument name, whose first character is `first`. -/
def namedIn (start : Nat) (first : Char) (name : List Char) : List Char → Reading String
  | [] => .stop (.unknownDirective start first)
  | c :: rest =>
    if continuesArgumentName c then namedIn start first (name ++ [c]) rest
    else if c = ':' then namedLetter start name rest
    else .stop (.unknownDirective start first)

/-- The pieces behind an argument name and its colon. -/
def namedLetter (start : Nat) (name : List Char) : List Char → Reading String
  | [] => .stop (.unknownDirective start ':')
  | c :: rest =>
    match Directive.ofLetter? c with
    | some d =>
      (namedFrom (start + name.length + 3) rest).cons (.directive (String.ofList name) d)
    | none => .stop (.unknownDirective start ':')

end

/-- The pieces of a template with named directives. -/
def namedPieces (template : String) : Reading String := namedFrom 0 template.toList

/-- Whether a text can name an argument. -/
def isArgumentName (name : String) : Bool :=
  match name.toList with
  | [] => false
  | c :: rest => isSmallLetter c && rest.all continuesArgumentName

end Template

end KotlinSource
