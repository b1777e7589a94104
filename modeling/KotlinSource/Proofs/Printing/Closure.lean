import KotlinSource.File.Rendering
import KotlinSource.Proofs.Code.Induction
import Mathlib.Tactic.SplitIfs

/-!
# What holds of everything printed

Printed declarations are put together from layout operations, references, the printed code in them
and the bodies of types.  A property that holds of operations and references, and of two texts
together as soon as it holds of each, therefore holds of a printed declaration as soon as it holds
of the code in it; types ask in addition that the property holds of their bodies.

The places where the printer itself lets a line break are an exception.  They never stand alone: the
one in a list of type arguments has the list around it, and behind the one between two parts of a
list there is text of the second part.  A property need hold of these lists only.

The printer also never writes an operation that opens something without the one that closes it.  A
property that does not hold of such operations may still go over from what stands between the two to
the whole; this is enough for declarations, though not for the code in them, which indents and opens
statements as it likes.

## Main definitions

* `LeadsWithText`: printed code with text before any place where the line may break.
* `TypeClosed`: properties of printed types.
* `Bracket`, `Bracket.around`: two operations that belong together, with printed code between them.
* `NestClosed`: properties that go over to declarations from the code in them.
* `PrintClosed`: properties that go over from printed parts to what is put together from them.
* `BodyClosed`: properties that go over from the inside of a body to the body of a type.
* `FunctionDecl.head`, `TypeDecl.heading`: what stands before the body of a function or of a type.
* `FileDecl.pieces`, `FileDecl.HasObject`, `FileDecl.allTypes`: the code in a file, the anonymous
  types in that code, and the types of the file.

## Main results

* `NestClosed.functionTokens`, …, `NestClosed.declarationTokens`: printed declarations.
* `NestClosed.exists_declarationTokens_eq`: a declaration sets the open statements aside.
* `NestClosed.codeTokens`, `PrintClosed.codeTokens`, `PrintClosed.fileTokens`: printed code and
  files.
-/

namespace KotlinSource

/-! ### Text before a break -/

/-- Printed code in which text stands before any place where the line may break. -/
inductive LeadsWithText : Tokens → Prop
  | text {s : String} (h : s ≠ "") (rest : Tokens) : LeadsWithText (.layout (.text s) :: rest)
  | skip (s : String) {rest : Tokens} (h : LeadsWithText rest) :
      LeadsWithText (.layout (.text s) :: rest)

namespace LeadsWithText

theorem append {left : Tokens} (h : LeadsWithText left) (right : Tokens) :
    LeadsWithText (left ++ right) := by
  induction h with
  | text h rest => exact .text h _
  | skip s _ ih => exact .skip s ih

/-- The words of modifiers may stand in front. -/
theorem modifierWords_append (hidden modifiers : List Modifier) {rest : Tokens}
    (h : LeadsWithText rest) : LeadsWithText (modifierWords hidden modifiers ++ rest) := by
  rw [modifierWords]
  induction modifiers.filter fun m => !hidden.contains m with
  | nil => exact h
  | cons m _ ih => exact .skip (m.keyword ++ " ") ih

/-- An annotation use starts with its sign. -/
theorem annotationWords_append (annotations : List (AnnotationUse Tokens)) {rest : Tokens}
    (h : LeadsWithText rest) : LeadsWithText (annotationWords annotations ++ rest) := by
  cases annotations with
  | nil => exact h
  | cons a _ => exact .text (by decide) _

theorem parameterTokens (p : ParameterDecl Tokens) : LeadsWithText p.tokens := by
  have htype : LeadsWithText (nameWord p.name ++ (typed p.type ++ assigned p.default)) :=
    .skip _ (.text (by decide) _)
  have hparameter := annotationWords_append p.annotations
    (modifierWords_append [] p.modifiers htype)
  simpa only [ParameterDecl.tokens, List.append_assoc] using hparameter

theorem constructorParameter (d : TypeDecl Tokens) (p : ParameterDecl Tokens) :
    LeadsWithText (d.constructorParameter p) := by
  rw [TypeDecl.constructorParameter]
  split
  · exact parameterTokens p
  · next property _ =>
    have htype : LeadsWithText (word property.keyword ++
        (nameWord p.name ++ (typed p.type ++ assigned p.default))) :=
      .skip _ (.skip _ (.text (by decide) _))
    have hparameter := annotationWords_append (property.annotations ++ p.annotations)
      (modifierWords_append [.publicAccess] (Modifier.union property.modifiers p.modifiers) htype)
    simpa only [List.append_assoc] using hparameter

end LeadsWithText

/-! ### Closed properties -/

/-- A property of printed code that holds of two texts together if it holds of each. -/
structure AppendClosed (P : Tokens → Prop) : Prop where
  nil : P []
  append {left right : Tokens} : P left → P right → P (left ++ right)

/-- A property of printed types: it holds of text and of references, and of a list of type arguments
if it holds of the arguments. -/
structure TypeClosed (P : Tokens → Prop) : Prop extends AppendClosed P where
  word (s : String) : P (word s)
  reference (r : Reference) : P [.reference r]
  arguments {arguments : List Tokens} : (∀ a ∈ arguments, P a) → P (typeArgumentList arguments)

/-- The operations by which the printer itself lets a line break. -/
def LayoutOp.isSeparator : LayoutOp → Bool
  | .comma => true
  | .wrapTight => true
  | _ => false

/-- The operations that open and close nothing. -/
def LayoutOp.isFlat : LayoutOp → Bool
  | .text _ => true
  | .wrap => true
  | .comma => true
  | .wrapTight => true
  | .blankLine => true
  | .endLine => true
  | _ => false

/-- Two operations that belong together: the printer writes neither of them without the other. -/
inductive Bracket where
  /-- The beginning and the end of documentation. -/
  | documentation
  /-- One level of indentation. -/
  | indentation
  /-- The beginning and the end of a statement. -/
  | statement
  /-- Open statements are set aside and brought back. -/
  | aside
  deriving DecidableEq, Repr

namespace Bracket

/-- The first operation. -/
def opening : Bracket → LayoutOp
  | .documentation => .openDoc
  | .indentation => .indent 1
  | .statement => .beginStatement
  | .aside => .suspend

/-- The second operation. -/
def closing : Bracket → LayoutOp
  | .documentation => .closeDoc
  | .indentation => .unindent 1
  | .statement => .endStatement
  | .aside => .resume

/-- Printed code between the two operations. -/
def around (b : Bracket) (inside : Tokens) : Tokens :=
  operation b.opening ++ inside ++ operation b.closing

end Bracket

/-- A property of printed code that holds of text and of the ends of lines, of types, of parts with
places to break the line between them if it holds of the parts and these start with text, and of
printed code in a bracket if it holds of that code. -/
structure NestClosed (P : Tokens → Prop) : Prop extends AppendClosed P where
  word (s : String) : P (word s)
  blankLine : P (operation .blankLine)
  endLine : P (operation .endLine)
  around (b : Bracket) {inside : Tokens} : P inside → P (b.around inside)
  typeTokens (t : TypeName) : P t.tokens
  separated {parts : List Tokens} : (∀ part ∈ parts, P part) →
    (∀ part ∈ parts, LeadsWithText part) → P (listed breakableComma parts)

/-- A property of printed code that holds of single references, of operations other than those by
which the printer lets a line break, of types, and of parts with places to break the line between
them if it holds of the parts and these start with text. -/
structure PrintClosed (P : Tokens → Prop) : Prop extends AppendClosed P where
  layout (op : LayoutOp) (h : op.isSeparator = false) : P [.layout op]
  reference (r : Reference) : P [.reference r]
  typeTokens (t : TypeName) : P t.tokens
  separated {parts : List Tokens} : (∀ part ∈ parts, P part) →
    (∀ part ∈ parts, LeadsWithText part) → P (listed breakableComma parts)

theorem TypeDecl.nestedNames_map {κ κ' : Type} (f : κ → κ') (d : TypeDecl κ) :
    (d.map f).nestedNames = d.nestedNames := by
  rw [nestedNames, nestedNames, map_eq, List.filterMap_map]
  exact congrArg (fun g => List.filterMap g d.types) (funext (name_map f))

theorem TypeDecl.functionNames_map {κ κ' : Type} (f : κ → κ') (d : TypeDecl κ) :
    (d.map f).functionNames = d.functionNames := by
  rw [functionNames, functionNames, map_eq, List.filterMap_map]
  rfl

/-- A property of printed code that goes over from the inside of the body of a type to the body. -/
def BodyClosed {κ : Type} (P : Tokens → Prop) (d : TypeDecl κ) : Prop :=
  ∀ name, d.name = some name → ∀ inside, P inside →
    P ([.enter name d.nestedNames d.functionNames] ++ inside ++ [.leave])

namespace FunctionDecl

/-- What stands before the body of a function. -/
def head (inInterface : Bool) (f : FunctionDecl Tokens) : Tokens :=
  documentation f.doc ++ annotationLines f.annotations ++
    modifierWords (impliedModifiers inInterface) f.modifiers ++ f.introduction ++
    parameterList (f.parameters.map ParameterDecl.tokens) ++ f.result ++ f.delegationTokens ++
    whereClause f.typeVariables

/-- A function that is not written without braces has its body between braces. -/
theorem tokens_eq_of_isBodiless_eq_false {f : FunctionDecl Tokens} {inInterface : Bool}
    (h : f.isBodiless inInterface = false) :
    f.tokens inInterface =
      f.head inInterface ++ block (f.body ++ operation .endLine) ++ word "\n" := by
  rw [tokens, h]
  rfl

end FunctionDecl

/-- What stands before the body of a named type. -/
def TypeDecl.heading (name : String) (d : TypeDecl Tokens) : Tokens :=
  documentation d.documentationTokens ++ annotationLines d.annotations ++
    modifierWords [.publicAccess] d.modifiers ++ word (d.kind.keyword ++ " ") ++ nameWord name ++
    typeVariableList d.typeVariables ++ d.constructorTokens ++ d.supertypes ++
    whereClause d.typeVariables

/-- The groups of members of a type behind its enum constants. -/
def TypeDecl.laterGroups (d : TypeDecl Tokens) : List Tokens :=
  d.companionGroup ++ d.propertyGroup ++ d.initializerGroup ++ d.functionGroups ++
    d.types.map fun t => t.declarationTokens t.memberGroups

theorem TypeDecl.memberGroups_eq (d : TypeDecl Tokens) :
    d.memberGroups =
      constantGroup (d.constants.map fun c => constantTokens c.1 c.2 c.2.memberGroups)
        d.laterGroups ++ d.laterGroups := by
  rw [memberGroups, fold_eq, List.map_map, List.map_map]
  rfl

/-- Whether a property goes over to the body of a type does not depend on the code in the type. -/
theorem bodyClosed_map {κ κ' : Type} (f : κ → κ') {P : Tokens → Prop} {d : TypeDecl κ}
    (h : BodyClosed P d) : BodyClosed P (d.map f) := by
  intro name hname inside hinside
  rw [TypeDecl.name_map] at hname
  rw [TypeDecl.nestedNames_map, TypeDecl.functionNames_map]
  exact h name hname inside hinside

namespace FileDecl

/-- The pieces of code in a file. -/
def pieces (file : FileDecl) : List Code :=
  [file.comment] ++ file.aliases.flatMap AliasDecl.pieces ++ file.types.flatMap TypeDecl.pieces

/-- The anonymous types in the code of a file. -/
def HasObject (file : FileDecl) (decl : TypeDecl Code) : Prop :=
  ∃ code ∈ file.pieces, code.HasObject decl

/-- The types of a file, at any depth. -/
def allTypes (file : FileDecl) : List (TypeDecl Code) :=
  file.types.flatMap fun d => d :: d.innerTypes

end FileDecl

/-! ### Lists -/

namespace AppendClosed

variable {P : Tokens → Prop} (hP : AppendClosed P)

include hP

theorem elim {α : Type} {f : α → Tokens} {o : Option α} (h : ∀ a ∈ o, P (f a)) :
    P (o.elim [] f) := by
  cases o with
  | none => exact hP.nil
  | some a => exact h a rfl

theorem flatten {parts : List Tokens} (h : ∀ part ∈ parts, P part) : P parts.flatten := by
  induction parts with
  | nil => exact hP.nil
  | cons part rest ih =>
    obtain ⟨hpart, hrest⟩ := List.forall_mem_cons.1 h
    exact hP.append hpart (ih hrest)

theorem flatMap {α : Type} {f : α → Tokens} {l : List α} (h : ∀ a ∈ l, P (f a)) :
    P (l.flatMap f) := by
  rw [List.flatMap_def]
  refine hP.flatten ?_
  simpa using h

theorem listed {separator : Tokens} {parts : List Tokens} (hseparator : P separator)
    (h : ∀ part ∈ parts, P part) : P (listed separator parts) := by
  induction parts with
  | nil => exact hP.nil
  | cons part rest ih =>
    obtain ⟨hpart, hrest⟩ := List.forall_mem_cons.1 h
    cases rest with
    | nil =>
      rw [listed_singleton]
      exact hpart
    | cons next rest =>
      rw [listed_cons_cons]
      exact hP.append hpart (hP.append hseparator (ih hrest))

end AppendClosed

/-! ### Types -/

namespace TypeClosed

variable {P : Tokens → Prop}

theorem nullableMark (hP : TypeClosed P) (nullable : Bool) : P (nullableMark nullable) := by
  cases nullable
  · exact hP.nil
  · exact hP.word _

/-- A property that holds of the place where a list of type arguments may break need not care about
where it stands. -/
theorem of_point (hP : AppendClosed P) (hword : ∀ s, P (KotlinSource.word s))
    (hreference : ∀ r, P [.reference r]) (hpoint : P (operation .wrapTight)) : TypeClosed P where
  toAppendClosed := hP
  word := hword
  reference := hreference
  arguments harguments := by
    rw [typeArgumentList]
    split_ifs
    · exact hP.nil
    · exact hP.append (hP.append (hP.append (hword _) hpoint) (hP.listed (hword _) harguments))
        (hword _)

mutual

theorem typeTokens (hP : TypeClosed P) (t : TypeName) : P t.tokens := by
  match t with
  | .primitive p => exact hP.reference _
  | .array element =>
    rw [TypeName.tokens]
    refine hP.append (hP.reference _) (hP.arguments fun a ha => ?_)
    rw [List.mem_singleton.1 ha]
    exact typeTokens hP element
  | .declared type => exact classTokens hP type
  | .variable v => exact hP.append (hP.word _) (hP.nullableMark _)
  | .star => exact hP.word _
  | .producer upper => exact hP.append (hP.word _) (typeTokens hP upper)
  | .consumer lower => exact hP.append (hP.word _) (typeTokens hP lower)

theorem classTokens (hP : TypeClosed P) (c : ClassType) : P (TypeName.classTokens c) := by
  match c with
  | ⟨name, arguments, nullable⟩ =>
    rw [TypeName.classTokens]
    exact hP.append (hP.append (hP.reference _) (hP.arguments (listTokens hP arguments)))
      (hP.nullableMark _)

theorem listTokens (hP : TypeClosed P) (types : List TypeName) :
    ∀ a ∈ TypeName.listTokens types, P a := by
  match types with
  | [] => simp
  | t :: rest =>
    rw [TypeName.listTokens]
    exact List.forall_mem_cons.2 ⟨typeTokens hP t, listTokens hP rest⟩

end

end TypeClosed

namespace NestClosed

variable {P : Tokens → Prop}

theorem ite {c : Prop} [Decidable c] {left right : Tokens} (hleft : P left) (hright : P right) :
    P (if c then left else right) := by
  by_cases hc : c
  · rwa [if_pos hc]
  · rwa [if_neg hc]

/-- A property that holds of every operation which opens and closes nothing need not care about the
places where lines break. -/
theorem of_flat (hP : AppendClosed P) (hflat : ∀ op, op.isFlat = true → P [.layout op])
    (reference : ∀ r, P [.reference r])
    (around : ∀ (b : Bracket) {inside : Tokens}, P inside → P (b.around inside)) :
    NestClosed P where
  toAppendClosed := hP
  word _ := hflat _ rfl
  blankLine := hflat _ rfl
  endLine := hflat _ rfl
  around := around
  typeTokens t :=
    (TypeClosed.of_point hP (fun _ => hflat _ rfl) reference (hflat _ rfl)).typeTokens t
  separated hparts _ := hP.listed (hflat _ rfl) hparts

variable (hP : NestClosed P)

include hP

/-! ### Text, lists and types -/

theorem nameWord (name : String) : P (nameWord name) := hP.word _

theorem parenthesized {inside : Tokens} (h : P inside) : P (parenthesized inside) :=
  hP.append (hP.append (hP.word _) h) (hP.word _)

theorem typeVariableList (vs : List TypeVariable) : P (typeVariableList vs) := by
  refine ite hP.nil ?_
  refine hP.append (hP.append (hP.word _) (hP.listed (hP.word _) ?_)) (hP.word _)
  intro part hpart
  obtain ⟨v, hv, rfl⟩ := List.mem_map.1 hpart
  refine hP.append (hP.append (hP.append ?_ (ite (hP.word _) hP.nil)) (hP.nameWord _)) ?_
  · exact hP.elim fun variance _ => hP.word _
  · split
    · exact hP.append (hP.word _) (hP.typeTokens _)
    · exact hP.nil

theorem whereClause (vs : List TypeVariable) : P (whereClause vs) := by
  refine ite hP.nil (hP.append (hP.word _) (hP.listed (hP.word _) ?_))
  intro part hpart
  obtain ⟨v, hv, hpart⟩ := List.mem_flatMap.1 hpart
  rw [furtherBounds] at hpart
  split_ifs at hpart
  · obtain ⟨bound, hbound, rfl⟩ := List.mem_map.1 hpart
    exact hP.append (hP.append (hP.nameWord _) (hP.word _)) (hP.typeTokens _)
  · simp at hpart

theorem modifierWords (hidden modifiers : List Modifier) : P (modifierWords hidden modifiers) :=
  hP.flatMap fun _ _ => hP.word _

/-! ### Declarations -/

theorem documentation {doc : Tokens} (h : P doc) : P (documentation doc) :=
  ite hP.nil (hP.around .documentation h)

theorem codeArguments {arguments : List Tokens} (h : ∀ a ∈ arguments, P a) :
    P (codeArguments arguments) :=
  hP.parenthesized (hP.listed (hP.word _) h)

theorem block {code : Tokens} (h : P code) : P (block code) := by
  have hbraces := hP.append (hP.append (hP.word " \x7b\n") (hP.around .indentation h))
    (hP.word "\x7d")
  simpa only [KotlinSource.block, Bracket.around, Bracket.opening, Bracket.closing,
    List.append_assoc] using hbraces

theorem initializer {code : Tokens} (h : P code) : P (initializer code) :=
  hP.append (hP.append (hP.word _) (hP.block (hP.append h hP.endLine))) (hP.word _)

theorem assigned {value : Option Tokens} (h : ∀ v ∈ value, P v) : P (assigned value) :=
  hP.elim fun v hv => hP.append (hP.word _) (h v hv)

theorem typed (t : TypeName) : P (typed t) := hP.append (hP.word _) (hP.typeTokens t)

theorem annotationTokens {a : AnnotationUse Tokens} (h : ∀ piece ∈ a.pieces, P piece) :
    P a.tokens := by
  have hvalues : P a.values := by
    rw [AnnotationUse.values]
    split
    · next value hmembers => exact h value (by simp [AnnotationUse.pieces, hmembers])
    · refine hP.separated (List.forall_mem_map.2 fun m hm => ?_)
        (List.forall_mem_map.2 fun m _ => ?_)
      · exact hP.append (hP.append (hP.nameWord _) (hP.word _)) (h m.2 (List.mem_map_of_mem hm))
      · exact .skip _ (.text (by decide) _)
  exact hP.append (hP.append (hP.word _) (hP.typeTokens _)) (ite hP.nil (hP.parenthesized hvalues))

theorem forall_annotationTokens {annotations : List (AnnotationUse Tokens)}
    (h : ∀ piece ∈ annotations.flatMap AnnotationUse.pieces, P piece) :
    ∀ a ∈ annotations, P a.tokens := by
  intro a ha
  exact hP.annotationTokens fun piece hpiece => h piece (List.mem_flatMap_of_mem ha hpiece)

theorem annotationLines {annotations : List (AnnotationUse Tokens)}
    (h : ∀ piece ∈ annotations.flatMap AnnotationUse.pieces, P piece) :
    P (annotationLines annotations) :=
  hP.flatMap fun a ha => hP.append (hP.forall_annotationTokens h a ha) (hP.word _)

theorem annotationWords {annotations : List (AnnotationUse Tokens)}
    (h : ∀ piece ∈ annotations.flatMap AnnotationUse.pieces, P piece) :
    P (annotationWords annotations) :=
  hP.flatMap fun a ha => hP.append (hP.forall_annotationTokens h a ha) (hP.word _)

theorem parameterTokens {p : ParameterDecl Tokens} (h : ∀ piece ∈ p.pieces, P piece) :
    P p.tokens := by
  obtain ⟨hannotations, hdefault⟩ := List.forall_mem_append.1 h
  have hvalue : ∀ v ∈ p.default, P v := fun v hv => hdefault v (Option.mem_toList.2 hv)
  exact hP.append (hP.append (hP.append (hP.append (hP.annotationWords hannotations)
    (hP.modifierWords _ _)) (hP.nameWord _)) (hP.typed _)) (hP.assigned hvalue)

theorem parameterList {parameters : List Tokens} (h : ∀ p ∈ parameters, P p)
    (hlead : ∀ p ∈ parameters, LeadsWithText p) : P (parameterList parameters) :=
  hP.parenthesized (hP.separated h hlead)

theorem propertyTokens {p : PropertyDecl Tokens} (h : ∀ piece ∈ p.pieces, P piece) :
    P p.tokens := by
  obtain ⟨h, hinitializer⟩ := List.forall_mem_append.1 h
  obtain ⟨hdoc, hannotations⟩ := List.forall_mem_append.1 h
  have hvalue : ∀ v ∈ p.initializer, P v := fun v hv => hinitializer v (Option.mem_toList.2 hv)
  have hname := hP.append (hP.append (hP.modifierWords [.publicAccess] p.modifiers)
    (hP.word p.keyword)) (hP.nameWord p.name)
  have hstatement := hP.around .statement (hP.append (hP.append (hP.append hname (hP.typed p.type))
    (hP.assigned hvalue)) hP.endLine)
  have hstart := hP.append (hP.documentation (hdoc _ List.mem_cons_self))
    (hP.annotationLines hannotations)
  simpa only [PropertyDecl.tokens, Bracket.around, Bracket.opening, Bracket.closing,
    List.append_assoc] using hP.append hstart hstatement

theorem functionIntroduction (f : FunctionDecl Tokens) : P f.introduction := by
  rw [FunctionDecl.introduction]
  split
  · exact hP.word _
  · refine hP.append (hP.append (hP.append (hP.word _) ?_) ?_) (hP.nameWord _)
    · exact ite hP.nil (hP.append (hP.typeVariableList _) (hP.word _))
    · exact hP.elim fun receiver _ => hP.append (hP.typeTokens receiver) (hP.word _)

theorem functionResult (f : FunctionDecl Tokens) : P f.result := by
  rw [FunctionDecl.result]
  split
  · exact ite hP.nil (hP.typed _)
  · exact hP.nil

/-- What stands before the body of a function is printed from the other code in the function. -/
theorem functionHead {f : FunctionDecl Tokens} (h : ∀ piece ∈ f.headPieces, P piece)
    (inInterface : Bool) : P (f.head inInterface) := by
  simp only [FunctionDecl.headPieces, List.forall_mem_append] at h
  obtain ⟨⟨⟨hcode, hannotations⟩, hparameters⟩, hdelegation⟩ := h
  have hdoc := hcode f.doc (by simp)
  have hstart := hP.append (hP.append (hP.append (hP.documentation hdoc)
    (hP.annotationLines hannotations)) (hP.modifierWords (FunctionDecl.impliedModifiers inInterface)
    f.modifiers)) (hP.functionIntroduction f)
  have hlist : P (KotlinSource.parameterList (f.parameters.map ParameterDecl.tokens)) := by
    refine hP.parameterList (List.forall_mem_map.2 fun p hp => ?_)
      (List.forall_mem_map.2 fun p _ => .parameterTokens p)
    exact hP.parameterTokens fun piece hpiece =>
      hparameters piece (List.mem_flatMap_of_mem hp hpiece)
  have hcall : P f.delegationTokens := by
    refine hP.elim fun d hd => hP.append (hP.word _) (hP.codeArguments fun a ha => ?_)
    exact hdelegation a (List.mem_flatMap_of_mem (Option.mem_toList.2 hd) ha)
  exact hP.append (hP.append (hP.append (hP.append hstart hlist) (hP.functionResult f)) hcall)
    (hP.whereClause f.typeVariables)

theorem functionTokens {f : FunctionDecl Tokens} (h : ∀ piece ∈ f.pieces, P piece)
    (inInterface : Bool) : P (f.tokens inInterface) := by
  have hhead := hP.functionHead (fun piece hpiece => h piece (f.headPieces_subset_pieces hpiece))
    inInterface
  have hbody := h f.body (by simp [FunctionDecl.pieces])
  exact hP.append (hP.append hhead (ite hP.nil (hP.block (hP.append hbody hP.endLine)))) (hP.word _)

theorem aliasTokens {d : AliasDecl Tokens} (h : ∀ piece ∈ d.pieces, P piece) : P d.tokens := by
  obtain ⟨hdoc, hannotations⟩ := List.forall_mem_append.1 h
  have hstart := hP.append (hP.append (hP.append (hP.documentation (hdoc _ List.mem_cons_self))
    (hP.annotationLines hannotations)) (hP.modifierWords [.publicAccess] d.modifiers))
    (hP.word "typealias ")
  have hname := hP.append (hP.append hstart (hP.nameWord d.name))
    (hP.typeVariableList d.typeVariables)
  exact hP.append (hP.append (hP.append hname (hP.word _)) (hP.typeTokens _)) (hP.word _)

/-! ### Types -/

section Types

variable {d : TypeDecl Tokens}

omit hP in
theorem forall_mem_ownPieces (h : ∀ piece ∈ d.pieces, P piece) : ∀ piece ∈ d.ownPieces, P piece :=
  fun piece hpiece => h piece (d.ownPieces_subset_pieces hpiece)

omit hP in
theorem forall_mem_annotations (h : ∀ piece ∈ d.ownPieces, P piece) :
    ∀ piece ∈ d.annotations.flatMap AnnotationUse.pieces, P piece := by
  simp only [TypeDecl.ownPieces, List.forall_mem_append] at h
  exact h.1.1.1.1.2

omit hP in
theorem forall_mem_pieces_properties (h : ∀ piece ∈ d.ownPieces, P piece)
    {property : PropertyDecl Tokens} (hproperty : property ∈ d.properties) :
    ∀ piece ∈ property.pieces, P piece := by
  simp only [TypeDecl.ownPieces, List.forall_mem_append] at h
  exact fun piece hpiece => h.1.1.2 piece (List.mem_flatMap_of_mem hproperty hpiece)

omit hP in
theorem forall_mem_pieces_functions (h : ∀ piece ∈ d.ownPieces, P piece)
    {f : FunctionDecl Tokens} (hf : f ∈ d.functions ∨ f ∈ d.primary) :
    ∀ piece ∈ f.pieces, P piece := by
  simp only [TypeDecl.ownPieces, List.forall_mem_append] at h
  intro piece hpiece
  rcases hf with hf | hf
  · exact h.2 piece (List.mem_flatMap_of_mem hf hpiece)
  · exact h.1.2 piece (List.mem_flatMap_of_mem (Option.mem_toList.2 hf) hpiece)

omit hP in
theorem mem_properties_of_mem_foldedProperties {property : PropertyDecl Tokens}
    (h : property ∈ d.foldedProperties) : property ∈ d.properties := by
  rw [TypeDecl.foldedProperties] at h
  cases hprimary : d.primary with
  | none => simp [hprimary] at h
  | some constructor =>
    rw [hprimary] at h
    obtain ⟨p, hp, hfolded⟩ := List.mem_filterMap.1 h
    exact List.mem_of_find?_eq_some hfolded

theorem documentationTokens (h : ∀ piece ∈ d.ownPieces, P piece) : P d.documentationTokens := by
  have hdoc : P d.doc := h d.doc (by simp [TypeDecl.ownPieces])
  refine ite hdoc (hP.append (hP.append hdoc (ite hP.nil (hP.word _))) ?_)
  refine hP.flatMap fun property hproperty => ?_
  have hmem := mem_properties_of_mem_foldedProperties (List.mem_of_mem_filter hproperty)
  have hentry := forall_mem_pieces_properties h hmem property.doc (by simp [PropertyDecl.pieces])
  exact hP.append (hP.append (hP.word _) hentry) (ite hP.nil (hP.word _))

theorem constructorParameter (h : ∀ piece ∈ d.ownPieces, P piece) {p : ParameterDecl Tokens}
    (hp : ∀ piece ∈ p.pieces, P piece) : P (d.constructorParameter p) := by
  rw [TypeDecl.constructorParameter]
  split
  · exact hP.parameterTokens hp
  · next property hfolded =>
    have hproperty := forall_mem_pieces_properties h (List.mem_of_find?_eq_some hfolded)
    simp only [PropertyDecl.pieces, ParameterDecl.pieces, List.forall_mem_append] at hproperty hp
    have hannotations : ∀ piece ∈ (property.annotations ++ p.annotations).flatMap
        AnnotationUse.pieces, P piece := by
      rw [List.flatMap_append]
      exact List.forall_mem_append.2 ⟨hproperty.1.2, hp.1⟩
    have hvalue : ∀ v ∈ p.default, P v := fun v hv => hp.2 v (Option.mem_toList.2 hv)
    have hstart := hP.append (hP.append (hP.annotationWords hannotations)
      (hP.modifierWords [.publicAccess] (Modifier.union property.modifiers p.modifiers)))
      (hP.word property.keyword)
    exact hP.append (hP.append (hP.append hstart (hP.nameWord _)) (hP.typed _)) (hP.assigned hvalue)

theorem primaryTokens (h : ∀ piece ∈ d.ownPieces, P piece) {constructor : FunctionDecl Tokens}
    (hprimary : constructor ∈ d.primary) : P (d.primaryTokens constructor) := by
  have hpieces := forall_mem_pieces_functions h (.inr hprimary)
  simp only [FunctionDecl.pieces, List.forall_mem_append] at hpieces
  obtain ⟨⟨⟨⟨-, hannotations⟩, hparameters⟩, -⟩, -⟩ := hpieces
  refine hP.append (ite ?_ hP.nil) (hP.parameterList (List.forall_mem_map.2 fun p hp => ?_)
    (List.forall_mem_map.2 fun p _ => .constructorParameter d p))
  · exact hP.append (hP.append (hP.append (hP.word _) (hP.annotationWords hannotations))
      (hP.modifierWords _ _)) (hP.word _)
  · exact hP.constructorParameter h fun piece hpiece =>
      hparameters piece (List.mem_flatMap_of_mem hp hpiece)

theorem constructorTokens (h : ∀ piece ∈ d.ownPieces, P piece) : P d.constructorTokens := by
  refine ite (ite hP.nil (hP.parameterList (List.forall_mem_map.2 fun f hf => ?_)
      (List.forall_mem_map.2 fun f _ => .text (by decide) _)))
    (hP.elim fun constructor hprimary => hP.primaryTokens h hprimary)
  have hpieces := forall_mem_pieces_functions h (.inl hf)
  simp only [FunctionDecl.pieces, List.forall_mem_append] at hpieces
  have hvalue : ∀ v ∈ f.default, P v := fun v hv => hpieces.1.2 v (Option.mem_toList.2 hv)
  exact hP.append (hP.append (hP.append (hP.word _) (hP.nameWord _))
    (hP.elim fun t _ => hP.typed t)) (hP.assigned hvalue)

omit hP in
theorem forall_mem_superArguments (h : ∀ piece ∈ d.ownPieces, P piece) :
    ∀ piece ∈ d.superArguments, P piece := by
  simp only [TypeDecl.ownPieces, List.forall_mem_append] at h
  exact h.1.1.1.2

theorem supertypes (h : ∀ piece ∈ d.ownPieces, P piece) : P d.supertypes := by
  refine ite hP.nil (hP.append (hP.word _) (hP.listed (hP.word _) fun part hpart => ?_))
  rcases List.mem_append.1 hpart with hpart | hpart
  · obtain ⟨superclass, _, rfl⟩ := List.mem_map.1 hpart
    exact hP.append (hP.typeTokens _)
      (ite (hP.codeArguments (forall_mem_superArguments h)) hP.nil)
  · obtain ⟨superinterface, _, rfl⟩ := List.mem_map.1 hpart
    exact hP.typeTokens _

/-! ### Members -/

theorem propertiesTokens {properties : List (PropertyDecl Tokens)}
    (h : ∀ piece ∈ d.ownPieces, P piece) (hproperties : properties ⊆ d.properties) :
    P (properties.flatMap PropertyDecl.tokens) :=
  hP.flatMap fun _ hproperty =>
    hP.propertyTokens (forall_mem_pieces_properties h (hproperties hproperty))

omit hP in
theorem forall_mem_singleton_unless {c : Prop} [Decidable c] {group : Tokens} (h : P group) :
    ∀ g ∈ (if c then [] else [group]), P g := by
  intro g hg
  split_ifs at hg
  · simp at hg
  · exact List.mem_singleton.1 hg ▸ h

omit hP in
theorem forall_mem_ownCode (h : ∀ piece ∈ d.ownPieces, P piece) :
    P d.staticBlock ∧ P d.initBlock ∧ ∀ constructor ∈ d.primary, P constructor.body := by
  refine ⟨h _ (by simp [TypeDecl.ownPieces]), h _ (by simp [TypeDecl.ownPieces]), ?_⟩
  intro constructor hprimary
  exact forall_mem_pieces_functions h (.inr hprimary) _ (by simp [FunctionDecl.pieces])

theorem companionGroup (h : ∀ piece ∈ d.ownPieces, P piece) : ∀ g ∈ d.companionGroup, P g := by
  refine forall_mem_singleton_unless ?_
  have hproperties : P (d.staticProperties.flatMap PropertyDecl.tokens) :=
    hP.propertiesTokens h List.filter_sublist.subset
  have hcode := hP.initializer (forall_mem_ownCode h).1
  exact hP.append (hP.append (hP.word _) (hP.block (hP.append
    (hP.append hproperties (ite hP.nil hP.blankLine)) (ite hP.nil hcode))))
    (hP.word _)

theorem propertyGroup (h : ∀ piece ∈ d.ownPieces, P piece) : ∀ g ∈ d.propertyGroup, P g := by
  refine forall_mem_singleton_unless (hP.propertiesTokens h ?_)
  refine List.append_subset.2 ⟨?_, List.filter_sublist.subset⟩
  split_ifs
  · exact List.nil_subset _
  · exact List.filter_sublist.subset

theorem initializerGroup (h : ∀ piece ∈ d.ownPieces, P piece) :
    ∀ g ∈ d.initializerGroup, P g := by
  obtain ⟨hstatic, hinit, hprimary⟩ := forall_mem_ownCode h
  refine forall_mem_singleton_unless (hP.initializer ?_)
  exact hP.append (hP.append (ite hP.nil hstatic) (hP.elim hprimary)) hinit

theorem functionGroups (h : ∀ piece ∈ d.ownPieces, P piece) : ∀ g ∈ d.functionGroups, P g := by
  intro g hg
  obtain ⟨f, hf, rfl⟩ := List.mem_map.1 hg
  have hmem : f ∈ d.functions := by
    have hmember : f ∈ d.memberFunctions := by
      rcases List.mem_append.1 hf with hf | hf
      · exact List.mem_of_mem_filter hf
      · exact List.mem_of_mem_filter hf
    rw [TypeDecl.memberFunctions] at hmember
    split_ifs at hmember
    · simp at hmember
    · exact hmember
  exact hP.functionTokens (forall_mem_pieces_functions h (.inl hmem)) _

theorem groupsTokens {groups : List Tokens} (h : ∀ g ∈ groups, P g) :
    P (TypeDecl.groupsTokens groups) := hP.listed hP.blankLine h

theorem constantTokens (name : String) {body : TypeDecl Tokens}
    (h : ∀ piece ∈ body.ownPieces, P piece) {groups : List Tokens} (hgroups : ∀ g ∈ groups, P g) :
    P (TypeDecl.constantTokens name body groups) := by
  have hdoc : P body.doc := h _ (by simp [TypeDecl.ownPieces])
  have hstart := hP.append (hP.append (hP.documentation hdoc)
    (hP.annotationLines (forall_mem_annotations h))) (hP.nameWord name)
  exact hP.append (hP.append hstart (ite hP.nil (hP.codeArguments (forall_mem_superArguments h))))
    (ite hP.nil (hP.block (hP.groupsTokens hgroups)))

theorem constantGroup {constants later : List Tokens} (h : ∀ c ∈ constants, P c) :
    ∀ g ∈ TypeDecl.constantGroup constants later, P g :=
  forall_mem_singleton_unless (hP.append (hP.listed (hP.word _) h) (hP.word _))

/-- What stands before the body of a named type is printed from the code of the type's own. -/
theorem typeHeading (name : String) (h : ∀ piece ∈ d.ownPieces, P piece) : P (d.heading name) := by
  have hstart := hP.append (hP.append (hP.documentation (hP.documentationTokens h))
    (hP.annotationLines (forall_mem_annotations h)))
    (hP.modifierWords [.publicAccess] d.modifiers)
  have hhead := hP.append (hP.append (hP.append hstart (hP.word (d.kind.keyword ++ " ")))
    (hP.nameWord name)) (hP.typeVariableList d.typeVariables)
  exact hP.append (hP.append (hP.append hhead (hP.constructorTokens h)) (hP.supertypes h))
    (hP.whereClause d.typeVariables)

/-- The declaration of a named type is printed with the open statements set aside. -/
theorem exists_namedTokens_eq {name : String} (hname : d.name = some name)
    (h : ∀ piece ∈ d.ownPieces, P piece) {groups : List Tokens} (hgroups : ∀ g ∈ groups, P g)
    (hbody : BodyClosed P d) :
    ∃ inside, P inside ∧ TypeDecl.namedTokens name d groups = Bracket.aside.around inside := by
  have hinside := hP.around .indentation (hP.groupsTokens hgroups)
  have hbodyTokens : P (TypeDecl.bodyTokens name d groups) := by
    refine ite (hP.word _) ?_
    have hbraces := hP.append (hP.append (hP.word " \x7b\n") (hbody name hname _ hinside))
      (hP.word "\x7d\n")
    simpa only [Bracket.around, Bracket.opening, Bracket.closing, List.append_assoc] using hbraces
  refine ⟨_, hP.append (hP.typeHeading name h) hbodyTokens, ?_⟩
  simp only [TypeDecl.namedTokens, TypeDecl.heading, Bracket.around, Bracket.opening,
    Bracket.closing, List.append_assoc]

theorem objectSupertype (h : ∀ piece ∈ d.ownPieces, P piece) : P d.objectSupertype := by
  rw [TypeDecl.objectSupertype]
  split
  · exact hP.append (hP.append (hP.word _) (hP.typeTokens _))
      (hP.codeArguments (forall_mem_superArguments h))
  · exact hP.append (hP.word _) (hP.typeTokens _)
  · exact hP.nil

/-- An object expression is printed with the open statements set aside. -/
theorem exists_objectTokens_eq (h : ∀ piece ∈ d.ownPieces, P piece) {groups : List Tokens}
    (hgroups : ∀ g ∈ groups, P g) :
    ∃ inside, P inside ∧ d.objectTokens groups = Bracket.aside.around inside := by
  refine ⟨_, hP.append (hP.append (hP.word "object") (hP.objectSupertype h))
    (hP.block (hP.groupsTokens hgroups)), ?_⟩
  simp only [TypeDecl.objectTokens, Bracket.around, Bracket.opening, Bracket.closing,
    List.append_assoc]

theorem exists_declarationTokens_eq (h : ∀ piece ∈ d.ownPieces, P piece) {groups : List Tokens}
    (hgroups : ∀ g ∈ groups, P g) (hbody : BodyClosed P d) :
    ∃ inside, P inside ∧ d.declarationTokens groups = Bracket.aside.around inside := by
  rw [TypeDecl.declarationTokens]
  split
  · next name hname => exact hP.exists_namedTokens_eq hname h hgroups hbody
  · exact hP.exists_objectTokens_eq h hgroups

theorem declarationTokens (h : ∀ piece ∈ d.ownPieces, P piece) {groups : List Tokens}
    (hgroups : ∀ g ∈ groups, P g) (hbody : BodyClosed P d) : P (d.declarationTokens groups) := by
  obtain ⟨inside, hinside, heq⟩ := hP.exists_declarationTokens_eq h hgroups hbody
  exact heq ▸ hP.around .aside hinside

/-- The members of a type are printed from the code in the type and the bodies of the types in
it. -/
theorem memberGroups (h : ∀ piece ∈ d.pieces, P piece)
    (hbodies : ∀ t ∈ d.innerTypes, BodyClosed P t) : ∀ g ∈ d.memberGroups, P g := by
  induction d using TypeDecl.induction with
  | node d hconstants htypes =>
    rw [TypeDecl.pieces_eq] at h
    rw [TypeDecl.innerTypes_eq] at hbodies
    simp only [List.forall_mem_append, List.forall_mem_flatMap] at h hbodies
    obtain ⟨⟨hown, hconstantPieces⟩, htypePieces⟩ := h
    obtain ⟨hconstantBodies, htypeBodies⟩ := hbodies
    have hconstantTokens : ∀ c ∈ d.constants,
        P (TypeDecl.constantTokens c.1 c.2 c.2.memberGroups) := by
      intro c hc
      have hpieces := hconstantPieces c hc
      exact hP.constantTokens _ (forall_mem_ownPieces hpieces)
        (hconstants c hc hpieces (hconstantBodies c hc))
    have htypeTokens : ∀ t ∈ d.types, P (t.declarationTokens t.memberGroups) := by
      intro t ht
      have hpieces := htypePieces t ht
      obtain ⟨hbody, hinner⟩ := List.forall_mem_cons.1 (htypeBodies t ht)
      exact hP.declarationTokens (forall_mem_ownPieces hpieces) (htypes t ht hpieces hinner) hbody
    have hlater : ∀ g ∈ d.laterGroups, P g := by
      simp only [TypeDecl.laterGroups, List.forall_mem_append, List.forall_mem_map]
      exact ⟨⟨⟨⟨hP.companionGroup hown, hP.propertyGroup hown⟩, hP.initializerGroup hown⟩,
        hP.functionGroups hown⟩, htypeTokens⟩
    rw [TypeDecl.memberGroups_eq]
    exact List.forall_mem_append.2
      ⟨hP.constantGroup (List.forall_mem_map.2 hconstantTokens), hlater⟩

end Types

/-! ### Types with their code -/

section Code

variable {d : TypeDecl Code} (hpieces : ∀ piece ∈ d.pieces, P piece.tokens)

include hpieces

omit hP in
theorem forall_mem_printed_pieces : ∀ piece ∈ d.printed.pieces, P piece := by
  rw [TypeDecl.printed, TypeDecl.pieces_map]
  exact List.forall_mem_map.2 hpieces

/-- The members of a type with code. -/
theorem printedGroups (hbodies : ∀ t ∈ d.innerTypes, BodyClosed P t) :
    ∀ g ∈ d.printed.memberGroups, P g := by
  refine hP.memberGroups (forall_mem_printed_pieces hpieces) ?_
  rw [TypeDecl.printed, TypeDecl.innerTypes_map]
  exact List.forall_mem_map.2 fun t ht => bodyClosed_map _ (hbodies t ht)

/-- The declaration of a type with code. -/
theorem exists_printedType_eq (hbodies : ∀ t ∈ d :: d.innerTypes, BodyClosed P t) :
    ∃ inside, P inside ∧ d.printed.tokens = Bracket.aside.around inside := by
  obtain ⟨hbody, hinner⟩ := List.forall_mem_cons.1 hbodies
  exact hP.exists_declarationTokens_eq
    (forall_mem_ownPieces (forall_mem_printed_pieces hpieces))
    (hP.printedGroups hpieces hinner) (bodyClosed_map _ hbody)

/-- A type with code as an expression. -/
theorem exists_printedObject_eq (hbodies : ∀ t ∈ d.innerTypes, BodyClosed P t) :
    ∃ inside, P inside ∧ d.printed.expressionTokens = Bracket.aside.around inside :=
  hP.exists_objectTokens_eq (forall_mem_ownPieces (forall_mem_printed_pieces hpieces))
    (hP.printedGroups hpieces hbodies)

theorem printedType (hbodies : ∀ t ∈ d :: d.innerTypes, BodyClosed P t) : P d.printed.tokens := by
  obtain ⟨inside, hinside, heq⟩ := hP.exists_printedType_eq hpieces hbodies
  exact heq ▸ hP.around .aside hinside

theorem printedObject (hbodies : ∀ t ∈ d.innerTypes, BodyClosed P t) :
    P d.printed.expressionTokens := by
  obtain ⟨inside, hinside, heq⟩ := hP.exists_printedObject_eq hpieces hbodies
  exact heq ▸ hP.around .aside hinside

end Code

/-- Printed code, if the property holds of all instructions. -/
theorem codeTokens (hleaf : ∀ i : Instruction, P i.tokens)
    (hbodies : ∀ t : TypeDecl KotlinSource.Code, BodyClosed P t) (code : KotlinSource.Code) :
    P code.tokens := by
  induction code using Code.induction with
  | nil => exact hP.nil
  | cons i rest hobject ih =>
    rw [Code.tokens, Code.expand_cons]
    refine hP.append ?_ ih
    by_cases hi : ∃ decl, i = .object decl
    · obtain ⟨decl, rfl⟩ := hi
      rw [Code.expandInstruction_object_tokens]
      exact hP.printedObject (hobject decl rfl) fun t _ => hbodies t
    · rw [Code.expandInstruction_tokens_of_ne fun decl hdecl => hi ⟨decl, hdecl⟩]
      exact hleaf i

end NestClosed

/-! ### Code and files -/

namespace PrintClosed

variable {P : Tokens → Prop}

/-- A property that holds of every operation need not care about the places where lines break. -/
theorem of_layout (hP : AppendClosed P) (layout : ∀ op, P [.layout op])
    (reference : ∀ r, P [.reference r]) : PrintClosed P where
  toAppendClosed := hP
  layout op _ := layout op
  reference := reference
  typeTokens t := (TypeClosed.of_point hP (fun _ => layout _) reference (layout _)).typeTokens t
  separated hparts _ := hP.listed (layout _) hparts

variable (hP : PrintClosed P)

include hP

/-- What holds of all operations holds of brackets. -/
theorem nestClosed : NestClosed P where
  toAppendClosed := hP.toAppendClosed
  word _ := hP.layout _ rfl
  blankLine := hP.layout _ rfl
  endLine := hP.layout _ rfl
  around b _ h := by
    have hopening : b.opening.isSeparator = false := by cases b <;> rfl
    have hclosing : b.closing.isSeparator = false := by cases b <;> rfl
    exact hP.append (hP.append (hP.layout _ hopening) h) (hP.layout _ hclosing)
  typeTokens := hP.typeTokens
  separated := hP.separated

/-- Printed code, which holds the bodies of the types that its anonymous types declare. -/
theorem codeTokens {code : Code}
    (h : ∀ decl, code.HasObject decl → ∀ t ∈ decl.innerTypes, BodyClosed P t) : P code.tokens := by
  induction code using Code.induction with
  | nil => exact hP.nil
  | cons i rest hobject ih =>
    have hrest := ih fun decl hdecl => h decl hdecl.cons
    rw [Code.tokens, Code.expand_cons]
    refine hP.append ?_ hrest
    cases i with
    | object decl =>
      rw [Code.expandInstruction_object_tokens]
      have hpieces : ∀ piece ∈ decl.pieces, P (Code.tokens piece) := fun piece hpiece =>
        hobject decl rfl piece hpiece fun inner hinner =>
          h inner (.inside List.mem_cons_self hpiece hinner)
      exact hP.nestClosed.printedObject hpieces (h decl (.here List.mem_cons_self))
    | text s => exact hP.layout _ rfl
    | name s => exact hP.layout _ rfl
    | stringLiteral value => exact hP.layout _ rfl
    | type t => exact hP.typeTokens t
    | member m => exact hP.reference _
    | indent => exact hP.layout _ rfl
    | unindent => exact hP.layout _ rfl
    | beginStatement => exact hP.layout _ rfl
    | endStatement => exact hP.layout _ rfl
    | wrap => exact hP.layout _ rfl

/-- A printed file, with any import lines. -/
theorem fileTokens {file : FileDecl}
    (hobjects : ∀ decl, file.HasObject decl → ∀ t ∈ decl.innerTypes, BodyClosed P t)
    (htypes : ∀ t ∈ file.allTypes, BodyClosed P t) (imports : List Import) :
    P (file.tokens imports) := by
  have hnest := hP.nestClosed
  have hcode : ∀ piece ∈ file.pieces, P piece.tokens := fun piece hpiece =>
    hP.codeTokens fun decl hdecl => hobjects decl ⟨piece, hpiece, hdecl⟩
  simp only [FileDecl.pieces, List.forall_mem_append, List.forall_mem_flatMap,
    List.forall_mem_singleton] at hcode
  obtain ⟨⟨hcomment, haliases⟩, htypePieces⟩ := hcode
  have hhead : P (topComment file.comment.tokens ++ packageLine file.package) :=
    hP.append
      (NestClosed.ite hP.nil
        (hP.append (hP.append (hP.layout _ rfl) hcomment) (hP.layout _ rfl)))
      (NestClosed.ite hP.nil (hP.append hnest.blankLine (hnest.word _)))
  have hlines : P (importLines imports) :=
    NestClosed.ite hP.nil (hP.append hnest.blankLine (hP.flatMap fun i _ => hnest.word _))
  refine hP.append (hP.append (hP.append hhead hlines) ?_) ?_
  · refine hP.flatMap fun d hd => hP.append hnest.blankLine (hnest.aliasTokens ?_)
    rw [AliasDecl.printed, AliasDecl.pieces_map]
    exact List.forall_mem_map.2 (haliases d hd)
  · refine hP.flatMap fun d hd => hP.append hnest.blankLine
      (hnest.printedType (htypePieces d hd) ?_)
    exact fun t ht => htypes t (List.mem_flatMap_of_mem hd ht)

end PrintClosed

end KotlinSource
