import KotlinSource.Proofs.Layout.CommentLines
import KotlinSource.Proofs.Naming.Shadowing

/-!
# Comments and documentation in files

Every line of the comment at the top of a file starts with `//`, and every line of documentation
between `/**` and ` */` starts with ` *`, behind indentation.  So nothing in a comment is read as
code, whatever the code that is given as the comment writes.

There is one exception.  An anonymous type in a comment may have members with documentation of their
own, which ends before the comment does; behind it the writer is in no documentation any more, and
the rest of the comment has no markers.

## Main definitions

* `IsUndocumented`: printed code without documentation in it.
* `TypeDecl.HasMemberDoc`, `FileDecl.HasDoc`: the documentation of what a file declares.
* `FileDecl.text`: the text of printed code in a file.

## Main results

* `Code.isUndocumented_tokens`: only anonymous types put documentation into code.
* `FileDecl.HasDoc.documentation_infix`: where the documentation of a file is printed.
* `FileDecl.exists_marked_lines`: the lines of comments and documentation in a file.
* `FileDecl.render_noteFile`: documentation inside of documentation.
-/

namespace KotlinSource

/-! ### Code without documentation -/

/-- Whether a token opens or closes a comment. -/
def Token.isCommentMark : Token → Bool
  | .layout op => op.isCommentMark
  | _ => false

/-- Printed code that opens and closes no comments. -/
def IsUndocumented (tokens : Tokens) : Prop := ∀ t ∈ tokens, t.isCommentMark = false

instance (tokens : Tokens) : Decidable (IsUndocumented tokens) :=
  inferInstanceAs (Decidable (∀ t ∈ tokens, t.isCommentMark = false))

theorem isUndocumented_singleton {t : Token} (h : t.isCommentMark = false) : IsUndocumented [t] :=
  List.forall_mem_singleton.2 h

theorem appendClosed_isUndocumented : AppendClosed IsUndocumented where
  nil _ ht := absurd ht List.not_mem_nil
  append hleft hright := List.forall_mem_append.2 ⟨hleft, hright⟩

/-- Types are printed without documentation. -/
theorem isUndocumented_typeTokens (t : TypeName) : IsUndocumented t.tokens :=
  (TypeClosed.of_point appendClosed_isUndocumented (fun _ => isUndocumented_singleton rfl)
    (fun _ => isUndocumented_singleton rfl) (isUndocumented_singleton rfl)).typeTokens t

/-- Only the anonymous types in a piece of code put documentation into it. -/
theorem Code.isUndocumented_tokens {code : Code}
    (h : ∀ decl, .object decl ∈ code → IsUndocumented decl.printed.expressionTokens) :
    IsUndocumented code.tokens := by
  rw [tokens, expand_eq_flatMap]
  refine appendClosed_isUndocumented.flatMap fun i hi => ?_
  cases i with
  | object decl =>
    rw [expandInstruction_object_tokens]
    exact h decl hi
  | type t => exact isUndocumented_typeTokens t
  | _ => exact isUndocumented_singleton rfl

/-- Writing out the references leaves code without documentation as it is. -/
theorem IsUndocumented.isCommentMark_write {tokens : Tokens} (h : IsUndocumented tokens)
    (context : NamingContext) (table : Option ImportTable) (scopes : List Scope) :
    ∀ op ∈ context.writeIn table scopes tokens, op.isCommentMark = false := by
  induction tokens generalizing scopes with
  | nil => exact fun op hop => absurd hop List.not_mem_nil
  | cons t rest ih =>
    obtain ⟨ht, hrest⟩ := List.forall_mem_cons.1 h
    rw [NamingContext.writeIn, locate, List.map_append, List.forall_mem_append]
    refine ⟨?_, ih hrest _⟩
    cases t with
    | layout op => exact List.forall_mem_singleton.2 ht
    | reference r => exact List.forall_mem_singleton.2 rfl
    | enter type nested functions => exact fun op hop => absurd hop List.not_mem_nil
    | leave => exact fun op hop => absurd hop List.not_mem_nil

/-! ### Where documentation is -/

/-- The documentation that is printed among the members of a type: that of its properties, functions
and enum constants and of the types nested in it, and what these have among their members.  What the
primary constructor declares is documented with the type. -/
inductive TypeDecl.HasMemberDoc : TypeDecl Tokens → Tokens → Prop
  | property {d : TypeDecl Tokens} {property : PropertyDecl Tokens}
      (h : property ∈ d.staticProperties ++ d.instanceProperties) : HasMemberDoc d property.doc
  | function {d : TypeDecl Tokens} {f : FunctionDecl Tokens} (h : f ∈ d.memberFunctions) :
      HasMemberDoc d f.doc
  | constant {d : TypeDecl Tokens} {c : String × TypeDecl Tokens} (h : c ∈ d.constants) :
      HasMemberDoc d c.2.doc
  | inConstant {d : TypeDecl Tokens} {c : String × TypeDecl Tokens} (h : c ∈ d.constants)
      {doc : Tokens} (hdoc : HasMemberDoc c.2 doc) : HasMemberDoc d doc
  | type {d t : TypeDecl Tokens} (h : t ∈ d.types) {name : String} (hname : t.name = some name) :
      HasMemberDoc d t.documentationTokens
  | inType {d t : TypeDecl Tokens} (h : t ∈ d.types) {doc : Tokens} (hdoc : HasMemberDoc t doc) :
      HasMemberDoc d doc

/-- The documentation of the type aliases of a file, of its types and of their members. -/
inductive FileDecl.HasDoc (file : FileDecl) : Tokens → Prop
  | typeAlias {d : AliasDecl Code} (h : d ∈ file.aliases) : HasDoc file d.printed.doc
  | type {d : TypeDecl Code} (h : d ∈ file.types) {name : String} (hname : d.name = some name) :
      HasDoc file d.printed.documentationTokens
  | member {d : TypeDecl Code} (h : d ∈ file.types) {doc : Tokens}
      (hdoc : d.printed.HasMemberDoc doc) : HasDoc file doc

theorem PropertyDecl.documentation_infix_tokens (property : PropertyDecl Tokens) :
    documentation property.doc <:+: property.tokens := by
  simp only [tokens, List.append_assoc]
  exact (List.prefix_append _ _).isInfix

theorem FunctionDecl.documentation_infix_tokens (inInterface : Bool) (f : FunctionDecl Tokens) :
    documentation f.doc <:+: f.tokens inInterface := by
  simp only [tokens, List.append_assoc]
  exact (List.prefix_append _ _).isInfix

theorem AliasDecl.documentation_infix_tokens (d : AliasDecl Tokens) :
    documentation d.doc <:+: d.tokens := by
  simp only [tokens, List.append_assoc]
  exact (List.prefix_append _ _).isInfix

namespace TypeDecl

variable {d : TypeDecl Tokens}

theorem documentation_infix_constantTokens (name : String) (body : TypeDecl Tokens)
    (groups : List Tokens) : documentation body.doc <:+: constantTokens name body groups := by
  simp only [constantTokens, List.append_assoc]
  exact (List.prefix_append _ _).isInfix

theorem documentation_infix_declarationTokens {name : String} (hname : d.name = some name)
    (groups : List Tokens) :
    documentation d.documentationTokens <:+: d.declarationTokens groups := by
  simp only [declarationTokens, hname, namedTokens, List.append_assoc]
  exact (List.prefix_append _ _).isInfix.trans (List.suffix_append _ _).isInfix

theorem infix_groupsTokens_of_mem_laterGroups {group : Tokens} (h : group ∈ d.laterGroups) :
    group <:+: groupsTokens d.memberGroups := by
  refine infix_listed ?_
  rw [memberGroups_eq]
  exact List.mem_append_right _ h

/-- The properties that the primary constructor does not declare are printed among the members. -/
theorem tokens_infix_groupsTokens_of_mem_properties {property : PropertyDecl Tokens}
    (h : property ∈ d.staticProperties ++ d.instanceProperties) :
    property.tokens <:+: groupsTokens d.memberGroups := by
  have hown : property ∈ d.ownProperties → property.tokens <:+: groupsTokens d.memberGroups := by
    intro hmem
    refine (infix_flatMap (f := PropertyDecl.tokens) hmem).trans
      (infix_groupsTokens_of_mem_laterGroups ?_)
    have hgroup : d.ownProperties.flatMap PropertyDecl.tokens ∈ d.propertyGroup := by
      rw [propertyGroup, if_neg (by simpa using List.ne_nil_of_mem hmem)]
      exact List.mem_singleton_self _
    simp only [laterGroups, List.mem_append, hgroup, or_true, true_or]
  by_cases hcompanion : d.hasCompanion = true
  · rcases List.mem_append.1 h with h | h
    · obtain ⟨rest, hgroup⟩ : ∃ rest, d.companionGroup = [word "companion object" ++
          block (d.staticProperties.flatMap PropertyDecl.tokens ++ rest) ++ word "\n"] := by
        rw [companionGroup, if_neg (by simp [hcompanion, List.ne_nil_of_mem h])]
        exact ⟨_, congrArg (fun code => [word "companion object" ++ block code ++ word "\n"])
          (List.append_assoc _ _ _)⟩
      have hblock : property.tokens <:+:
          block (d.staticProperties.flatMap PropertyDecl.tokens ++ rest) :=
        ((infix_flatMap (f := PropertyDecl.tokens) h).trans
          (List.prefix_append _ _).isInfix).trans (infix_block _)
      refine (hblock.trans ⟨word "companion object", word "\n", rfl⟩).trans
        (infix_groupsTokens_of_mem_laterGroups ?_)
      simp only [laterGroups, hgroup, List.mem_append, List.mem_singleton, true_or]
    · exact hown (List.mem_append_right _ h)
  · refine hown ?_
    rwa [ownProperties, if_neg hcompanion]

theorem tokens_infix_groupsTokens_of_mem_functions {f : FunctionDecl Tokens}
    (h : f ∈ d.memberFunctions) :
    f.tokens (d.kind == .interface) <:+: groupsTokens d.memberGroups := by
  refine infix_groupsTokens_of_mem_laterGroups ?_
  have hgroup : f.tokens (d.kind == .interface) ∈ d.functionGroups := by
    refine List.mem_map_of_mem ?_
    simp only [List.mem_append, List.mem_filter, h, true_and]
    cases f.isConstructor <;> simp
  exact List.mem_append_left _ (List.mem_append_right _ hgroup)

/-- The documentation of members is printed among the members. -/
theorem HasMemberDoc.documentation_infix {doc : Tokens} (h : d.HasMemberDoc doc) :
    documentation doc <:+: groupsTokens d.memberGroups := by
  induction h with
  | property h =>
    exact (PropertyDecl.documentation_infix_tokens _).trans
      (tokens_infix_groupsTokens_of_mem_properties h)
  | function h =>
    exact (FunctionDecl.documentation_infix_tokens _ _).trans
      (tokens_infix_groupsTokens_of_mem_functions h)
  | constant h =>
    exact (documentation_infix_constantTokens _ _ _).trans
      (constantTokens_infix_of_mem_constants h)
  | inConstant h _ ih => exact ih.trans (groupsTokens_infix_of_mem_constants h)
  | type h hname =>
    exact (documentation_infix_declarationTokens hname _).trans
      (groupsTokens_infix_of_mem_types h)
  | inType h _ ih =>
    exact (ih.trans (groupsTokens_infix_declarationTokens _ _)).trans
      (groupsTokens_infix_of_mem_types h)

end TypeDecl

namespace FileDecl

/-- The documentation of what a file declares is printed in the file. -/
theorem HasDoc.documentation_infix {file : FileDecl} {doc : Tokens} (h : file.HasDoc doc)
    (imports : List Import) : documentation doc <:+: file.tokens imports := by
  cases h with
  | typeAlias h =>
    have hmem := infix_flatMap (f := fun d => operation .blankLine ++ d.printed.tokens) h
    refine ((AliasDecl.documentation_infix_tokens _).trans
      (List.suffix_append _ _).isInfix).trans (hmem.trans ?_)
    exact (List.suffix_append _ _).isInfix.trans (List.prefix_append _ _).isInfix
  | @type d h name hname =>
    have hname : d.printed.name = some name := (TypeDecl.name_map _ d).trans hname
    exact (TypeDecl.documentation_infix_declarationTokens hname _).trans
      (type_infix_tokens h imports)
  | member h hdoc =>
    exact (hdoc.documentation_infix.trans
      (TypeDecl.groupsTokens_infix_declarationTokens _ _)).trans (type_infix_tokens h imports)

/-! ### The lines of comments and documentation -/

/-- The text of printed code in a file. -/
def text (file : FileDecl) (tokens : Tokens) : String :=
  layout file.options (file.context.write (some file.importTable) tokens)

theorem text_append (file : FileDecl) (left right : Tokens) :
    file.text (left ++ right) = layout file.options
      (file.context.write (some file.importTable) left ++
        file.context.writeIn (some file.importTable) (left.foldl scopesAfter []) right) := by
  rw [text, NamingContext.write_append]

/-- The comment of a file is written first, with its marker in every line. -/
theorem exists_text_comment {file : FileDecl} (h : IsUndocumented file.comment.tokens) :
    ∃ lines rest, (∀ line ∈ lines, IsMarkedLine file.options.indent.unit ['/', '/'] line) ∧
      file.text (topComment file.comment.tokens) = String.ofList (linesText lines) ∧
      file.render = String.ofList (linesText lines ++ rest) := by
  obtain ⟨after, hafter⟩ : ∃ after, file.tokens file.importTable.lines =
      topComment file.comment.tokens ++ after := by
    simp only [tokens, List.append_assoc]
    exact ⟨_, rfl⟩
  have hrender : file.render = file.text (topComment file.comment.tokens ++ after) := by
    rw [← hafter]
    rfl
  by_cases hempty : file.comment.tokens = []
  · refine ⟨[], file.render.toList, by simp, ?_, ?_⟩
    · rw [hempty]
      rfl
    · simp [linesText]
  · have hcomment : topComment file.comment.tokens =
        operation .openComment ++ file.comment.tokens ++ operation .closeComment :=
      if_neg (by simpa using hempty)
    obtain ⟨lines, rest, hlines, htext, hall⟩ := exists_layout_comment file.options
      (h.isCommentMark_write file.context (some file.importTable) [])
      (file.context.writeIn (some file.importTable)
        ((topComment file.comment.tokens).foldl scopesAfter []) after)
    have hwritten : file.context.write (some file.importTable) (topComment file.comment.tokens) =
        .openComment :: file.context.writeIn (some file.importTable) [] file.comment.tokens ++
          [.closeComment] := by
      rw [hcomment, NamingContext.write_append]
      rfl
    refine ⟨lines, rest, hlines, ?_, ?_⟩
    · rw [text, hwritten, htext]
    · rw [hrender, text_append, hwritten, hall]

/-- Documentation has its marker in every line between its first and its last one. -/
theorem exists_text_documentation {file : FileDecl} (before : Tokens) {doc : Tokens}
    (hdoc : doc ≠ []) (h : IsUndocumented doc) (after : Tokens) :
    ∃ front lines closing rest,
      (∀ line ∈ lines, IsMarkedLine file.options.indent.unit [' ', '*'] line) ∧
      IsDocumentationEnd file.options.indent.unit closing ∧
      file.text (before ++ operation .openDoc) = String.ofList (front ++ ['/', '*', '*', '\n']) ∧
      file.text (before ++ documentation doc) =
        String.ofList (front ++ ['/', '*', '*', '\n'] ++ linesText lines ++ closing) ∧
      file.text (before ++ documentation doc ++ after) =
        String.ofList (front ++ ['/', '*', '*', '\n'] ++ linesText lines ++ closing ++ rest) := by
  have hdocumentation : before ++ documentation doc =
      before ++ operation .openDoc ++ doc ++ operation .closeDoc := by
    rw [documentation, if_neg (by simpa using hdoc)]
    simp only [List.append_assoc]
  obtain ⟨front, lines, closing, rest, hlines, hclosing, hopened, hclosed, hall⟩ :=
    exists_layout_documentation file.options (file.context.write (some file.importTable) before)
      (h.isCommentMark_write file.context (some file.importTable)
        ((before ++ operation .openDoc).foldl scopesAfter []))
      (file.context.writeIn (some file.importTable)
        ((before ++ documentation doc).foldl scopesAfter []) after)
  have hwritten : file.context.write (some file.importTable) (before ++ documentation doc) =
      file.context.write (some file.importTable) before ++ [.openDoc] ++
        file.context.writeIn (some file.importTable)
          ((before ++ operation .openDoc).foldl scopesAfter []) doc ++ [.closeDoc] := by
    rw [hdocumentation, NamingContext.write_append, NamingContext.write_append,
      NamingContext.write_append]
    rfl
  refine ⟨front, lines, closing, rest, hlines, hclosing, ?_, ?_, ?_⟩
  · rw [text_append, ← hopened]
    rfl
  · rw [text, hwritten, hclosed]
  · rw [text_append, hwritten, hall]

/-- **Comments stay behind their markers.**  In the comment of a file every line is indentation with
`//` behind it.  The documentation of whatever a file declares is printed in the file, and wherever
documentation is printed, every line between its `/**` and its ` */` is indentation with ` *` behind
it.  What the comment or the documentation is made of does not matter, except for documentation in an
anonymous type in it. -/
theorem exists_marked_lines (file : FileDecl) :
    (IsUndocumented file.comment.tokens →
      ∃ lines rest, (∀ line ∈ lines, IsMarkedLine file.options.indent.unit ['/', '/'] line) ∧
        file.text (topComment file.comment.tokens) = String.ofList (linesText lines) ∧
        file.render = String.ofList (linesText lines ++ rest)) ∧
      (∀ doc, file.HasDoc doc → documentation doc <:+: file.tokens file.importTable.lines) ∧
      ∀ before doc after,
        file.tokens file.importTable.lines = before ++ documentation doc ++ after →
        doc ≠ [] → IsUndocumented doc →
        ∃ front lines closing rest,
          (∀ line ∈ lines, IsMarkedLine file.options.indent.unit [' ', '*'] line) ∧
          IsDocumentationEnd file.options.indent.unit closing ∧
          file.text (before ++ operation .openDoc) =
            String.ofList (front ++ ['/', '*', '*', '\n']) ∧
          file.text (before ++ documentation doc) =
            String.ofList (front ++ ['/', '*', '*', '\n'] ++ linesText lines ++ closing) ∧
          file.render =
            String.ofList (front ++ ['/', '*', '*', '\n'] ++ linesText lines ++ closing ++ rest) := by
  refine ⟨exists_text_comment, fun doc hdoc => hdoc.documentation_infix _, ?_⟩
  intro before doc after htokens hdoc hundocumented
  have hrender : file.render = file.text (before ++ documentation doc ++ after) := by
    rw [← htokens]
    rfl
  rw [hrender]
  exact exists_text_documentation before hdoc hundocumented after

/-- A file with a documented class; in the documentation there is an anonymous type with a property,
whose documentation is given. -/
def noteFile (doc : Code) : FileDecl :=
  let note := { (TypeDraft.start .plainClass none).decl with
    properties := [{ PropertyDecl.start "x" (.primitive .int) with doc := doc }] }
  let type := { (TypeDraft.start .plainClass (some "A")).decl with
    doc := [.text "before\n", .object note, .text "\nafter\n"] }
  { start "app" "A" with types := [type] }

/-- The file with a comment, and without documentation in the anonymous type. -/
def commentedFile : FileDecl :=
  { noteFile [] with comment := [.text "Written by hand.\n\nKeep", .wrap, .text "it."] }

/-- The lines of the comment and of the documentation of this file. -/
theorem exists_marked_lines_commented :
    IsUndocumented commentedFile.comment.tokens ∧
      (∃ lines rest, (∀ line ∈ lines, IsMarkedLine [' ', ' '] ['/', '/'] line) ∧
        commentedFile.render = String.ofList (linesText lines ++ rest)) ∧
      (∀ d ∈ commentedFile.types, d.printed.documentationTokens ≠ [] ∧
        IsUndocumented d.printed.documentationTokens ∧
        ∃ front lines closing rest, (∀ line ∈ lines, IsMarkedLine [' ', ' '] [' ', '*'] line) ∧
          commentedFile.render = String.ofList
            (front ++ ['/', '*', '*', '\n'] ++ linesText lines ++ closing ++ rest)) ∧
      commentedFile.render = "// Written by hand.\n//\n// Keep it.\n\npackage app\n\n" ++
        "/**\n * before\n * object \x7b\n   * val x: Int\n * \x7d\n * after\n */\nclass A\n" := by
  obtain ⟨hcomment, hprinted, hdocumentation⟩ := exists_marked_lines commentedFile
  have hundocumented : IsUndocumented commentedFile.comment.tokens :=
    Code.isUndocumented_tokens fun decl hdecl => by simp [commentedFile] at hdecl
  refine ⟨hundocumented, ?_, fun d hd => ?_, by decide +kernel⟩
  · obtain ⟨lines, rest, hlines, -, hrender⟩ := hcomment hundocumented
    exact ⟨lines, rest, hlines, hrender⟩
  · obtain ⟨hname, hne⟩ : d.name = some "A" ∧ d.printed.documentationTokens ≠ [] ∧
        IsUndocumented d.printed.documentationTokens := by
      obtain rfl := List.mem_singleton.1 hd
      exact ⟨rfl, by decide +kernel, by decide +kernel⟩
    obtain ⟨before, after, htokens⟩ := hprinted _ (.type hd hname)
    obtain ⟨front, lines, closing, rest, hlines, -, -, -, hrender⟩ :=
      hdocumentation before _ after htokens.symm hne.1 hne.2
    exact ⟨hne.1, hne.2, front, lines, closing, rest, hlines, hrender⟩

/-- Behind the documentation of the property the rest of the documentation of the class has no
marker. -/
theorem render_noteFile :
    build "app" "A" ((noteFile [.text "nested\n"]).types.map .type) =
        .ok (noteFile [.text "nested\n"]) ∧
      (noteFile [.text "nested\n"]).render = "package app\n\n/**\n * before\n * object \x7b\n" ++
        "   * /**\n   * nested\n   */\n  val x: Int\n\x7d\nafter\n */\nclass A\n" ∧
      ∀ line ∈ ["  val x: Int", "\x7d", "after"],
        ¬IsMarkedLine (noteFile [.text "nested\n"]).options.indent.unit [' ', '*'] line.toList := by
  refine ⟨rfl, by decide +kernel, ?_⟩
  have hnone : ∀ line ∈ ["  val x: Int", "\x7d", "after"], '*' ∉ line.toList := by decide
  rintro line hline ⟨-, level, hstart⟩
  exact hnone line hline (hstart.subset (by simp))

end FileDecl

end KotlinSource
