import KotlinSource.Declaration.Validity
import KotlinSource.Text.Entries

/-!
# Building declarations

A declaration is built part by part and checked in the end.  A finished declaration can be taken up
again: it is a draft to which parts can be added.

## Main definitions

* `ParameterPart`, `PropertyPart`, `FunctionPart`, `TypePart`, `AliasPart`: the parts.
* `FunctionDecl.start`, `FunctionDecl.add`, …: drafts and how they grow.
* `TypeDraft`: a type to which parts are being added.
* `FunctionDecl.build`, `TypeDecl.build`, …: a checked declaration from its parts.
-/

namespace KotlinSource

/-! ### Annotation uses -/

namespace AnnotationUse

/-- An annotation use without values. -/
def start (type : ClassType) : AnnotationUse Code := ⟨type, []⟩

/-- Give a member a value. -/
def withMember (a : AnnotationUse Code) (name : String) (value : Code) : AnnotationUse Code :=
  { a with members := Text.setEntry name value a.members }

/-- A checked annotation use. -/
def build (type : ClassType) (members : List (String × Code)) :
    Except DeclarationError (AnnotationUse Code) :=
  let a := members.foldl (fun a m => a.withMember m.1 m.2) (start type)
  accept a.faults a

end AnnotationUse

/-! ### Parameters -/

/-- A part of a parameter. -/
inductive ParameterPart where
  | modifiers (ms : List Modifier)
  | annotate (a : AnnotationUse Code)
  /-- The default value; the last one counts. -/
  | default (value : Code)

namespace ParameterDecl

/-- A parameter with a name and a type only. -/
def start (name : String) (type : TypeName) : ParameterDecl Code := ⟨name, type, [], [], none⟩

/-- A parameter with one more part. -/
def add (p : ParameterDecl Code) : ParameterPart → ParameterDecl Code
  | .modifiers ms => { p with modifiers := Modifier.union p.modifiers ms }
  | .annotate a => { p with annotations := p.annotations ++ [a] }
  | .default value => { p with default := some value }

/-- A checked parameter from its parts. -/
def build (name : String) (type : TypeName) (parts : List ParameterPart) :
    Except DeclarationError (ParameterDecl Code) :=
  let p := parts.foldl add (start name type)
  accept p.faults p

end ParameterDecl

/-! ### Properties -/

/-- A part of a property. -/
inductive PropertyPart where
  | doc (code : Code)
  | annotate (a : AnnotationUse Code)
  | modifiers (ms : List Modifier)
  | mutable
  | static
  /-- The initial value; the last one counts. -/
  | initializer (value : Code)

namespace PropertyDecl

/-- A property with a name and a type only. -/
def start (name : String) (type : TypeName) : PropertyDecl Code :=
  ⟨name, type, [], [], [], false, none, false⟩

/-- A property with one more part. -/
def add (p : PropertyDecl Code) : PropertyPart → PropertyDecl Code
  | .doc code => { p with doc := p.doc ++ code }
  | .annotate a => { p with annotations := p.annotations ++ [a] }
  | .modifiers ms => { p with modifiers := Modifier.union p.modifiers ms }
  | .mutable => { p with isMutable := true }
  | .static => { p with isStatic := true }
  | .initializer value => { p with initializer := some value }

/-- A checked property from its parts. -/
def build (name : String) (type : TypeName) (parts : List PropertyPart) :
    Except DeclarationError (PropertyDecl Code) :=
  let p := parts.foldl add (start name type)
  accept p.faults p

end PropertyDecl

/-! ### Functions -/

/-- A part of a function. -/
inductive FunctionPart where
  | doc (code : Code)
  | annotate (a : AnnotationUse Code)
  | modifiers (ms : List Modifier)
  | typeVariable (v : TypeVariable)
  /-- The type that the function extends; the last one counts. -/
  | receiver (type : TypeName)
  | parameter (p : ParameterDecl Code)
  /-- The return type; the last one counts. -/
  | returns (type : TypeName)
  /-- Code at the end of the body. -/
  | body (code : Code)
  /-- The default value of a member of an annotation class; the last one counts. -/
  | default (value : Code)
  /-- The constructor called first; the last one counts. -/
  | delegation (d : Delegation Code)

namespace FunctionDecl

/-- A function with a name only, or a constructor. -/
def start (name : Option String) : FunctionDecl Code :=
  ⟨name, [], [], [], [], none, [], none, [], none, none⟩

/-- A function with one more part. -/
def add (f : FunctionDecl Code) : FunctionPart → FunctionDecl Code
  | .doc code => { f with doc := f.doc ++ code }
  | .annotate a => { f with annotations := f.annotations ++ [a] }
  | .modifiers ms => { f with modifiers := Modifier.union f.modifiers ms }
  | .typeVariable v => { f with typeVariables := f.typeVariables ++ [v] }
  | .receiver type => { f with receiver := some type }
  | .parameter p => { f with parameters := f.parameters ++ [p] }
  | .returns type => { f with returnType := some type }
  | .body code => { f with body := f.body ++ code }
  | .default value => { f with default := some value }
  | .delegation d => { f with delegation := some d }

/-- The function, if it is valid. -/
def check (f : FunctionDecl Code) : Except DeclarationError (FunctionDecl Code) :=
  accept f.faults f

/-- A checked function from its parts. -/
def build (name : Option String) (parts : List FunctionPart) :
    Except DeclarationError (FunctionDecl Code) :=
  (parts.foldl add (start name)).check

end FunctionDecl

/-! ### Types -/

/-- A part of a type. -/
inductive TypePart where
  | doc (code : Code)
  | annotate (a : AnnotationUse Code)
  | modifiers (ms : List Modifier)
  | typeVariable (v : TypeVariable)
  /-- The superclass; the last one counts. -/
  | superclass (type : TypeName)
  /-- An argument for the constructor of the superclass, or of the enum for an enum constant. -/
  | superArgument (code : Code)
  | superinterface (type : TypeName)
  /-- An enum constant with its body. -/
  | constant (name : String) (body : TypeDecl Code)
  | property (p : PropertyDecl Code)
  /-- The primary constructor; the last one counts. -/
  | primary (f : FunctionDecl Code)
  /-- A function or secondary constructor. -/
  | function (f : FunctionDecl Code)
  /-- A nested type. -/
  | type (d : TypeDecl Code)
  | staticBlock (code : Code)
  | initBlock (code : Code)

/-- A type to which parts are being added. -/
structure TypeDraft where
  decl : TypeDecl Code
  /-- The first enum constant that was declared again. -/
  repeatedConstant : Option String

namespace TypeDraft

/-- A type with a kind and perhaps a name only. -/
def start (kind : TypeKind) (name : Option String) : TypeDraft :=
  ⟨⟨kind, name, [], [], [], [], none, [], [], [], [], none, [], [], [], []⟩, none⟩

/-- A finished type, taken up again. -/
def ofDecl (d : TypeDecl Code) : TypeDraft := ⟨d, none⟩

/-- A type with one more enum constant.  A constant that is there already keeps its body. -/
def addConstant (draft : TypeDraft) (name : String) (body : TypeDecl Code) : TypeDraft :=
  if draft.decl.constants.any fun c => c.1 == name then
    { draft with repeatedConstant := draft.repeatedConstant <|> some name }
  else
    { draft with
      decl := { draft.decl with constants := draft.decl.constants ++ [(name, body)] } }

/-- A type with one more part. -/
def add (draft : TypeDraft) (part : TypePart) : TypeDraft :=
  let d := draft.decl
  match part with
  | .doc code => { draft with decl := { d with doc := d.doc ++ code } }
  | .annotate a => { draft with decl := { d with annotations := d.annotations ++ [a] } }
  | .modifiers ms => { draft with decl := { d with modifiers := Modifier.union d.modifiers ms } }
  | .typeVariable v => { draft with decl := { d with typeVariables := d.typeVariables ++ [v] } }
  | .superclass type => { draft with decl := { d with superclass := some type } }
  | .superArgument code =>
    { draft with decl := { d with superArguments := d.superArguments ++ [code] } }
  | .superinterface type =>
    { draft with decl := { d with superinterfaces := d.superinterfaces ++ [type] } }
  | .constant name body => draft.addConstant name body
  | .property p => { draft with decl := { d with properties := d.properties ++ [p] } }
  | .primary f => { draft with decl := { d with primary := some f } }
  | .function f => { draft with decl := { d with functions := d.functions ++ [f] } }
  | .type t => { draft with decl := { d with types := d.types ++ [t] } }
  | .staticBlock code => { draft with decl := { d with staticBlock := d.staticBlock ++ code } }
  | .initBlock code => { draft with decl := { d with initBlock := d.initBlock ++ code } }

/-- The type, if it is valid. -/
def check (draft : TypeDraft) : Except DeclarationError (TypeDecl Code) :=
  accept (draft.decl.faults draft.repeatedConstant) draft.decl

end TypeDraft

namespace TypeDecl

/-- A checked type from its parts. -/
def build (kind : TypeKind) (name : Option String) (parts : List TypePart) :
    Except DeclarationError (TypeDecl Code) :=
  (parts.foldl TypeDraft.add (TypeDraft.start kind name)).check

/-- The body of an enum constant that has none. -/
def emptyBody : TypeDecl Code := (TypeDraft.start .plainClass none).decl

end TypeDecl

/-! ### Type aliases -/

/-- A part of a type alias. -/
inductive AliasPart where
  | doc (code : Code)
  | annotate (a : AnnotationUse Code)
  | modifiers (ms : List Modifier)
  | typeVariable (v : TypeVariable)

namespace AliasDecl

/-- A type alias with a name and a type only. -/
def start (name : String) (type : TypeName) : AliasDecl Code := ⟨name, type, [], [], [], []⟩

/-- A type alias with one more part. -/
def add (d : AliasDecl Code) : AliasPart → AliasDecl Code
  | .doc code => { d with doc := d.doc ++ code }
  | .annotate a => { d with annotations := d.annotations ++ [a] }
  | .modifiers ms => { d with modifiers := Modifier.union d.modifiers ms }
  | .typeVariable v => { d with typeVariables := d.typeVariables ++ [v] }

/-- A checked type alias from its parts. -/
def build (name : String) (type : TypeName) (parts : List AliasPart) :
    Except DeclarationError (AliasDecl Code) :=
  let d := parts.foldl add (start name type)
  accept d.faults d

end AliasDecl

end KotlinSource
