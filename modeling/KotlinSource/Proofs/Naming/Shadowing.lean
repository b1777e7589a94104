import KotlinSource.Proofs.Imports.Exactness

/-!
# Functions that hide top-level members

A function of a type hides the top-level functions of its name in the body of the type, so that
these have to be written with their package there.  The scopes around a reference tell which
functions hide it.  Printed code closes every body that it starts and no other one; therefore the
scope of a named type is there wherever something stands in its body, however deep.

Only named types have scopes.  The functions of anonymous types and of the bodies of enum constants
hide nothing.

## Main definitions

* `Balanced`: printed code that closes the bodies that it starts.
* `TypeDecl.printedBody`: the body of a type as it is printed.
* `NamingContext.writeIn`: printed code in the given scopes, with all references written out.

## Main results

* `printClosed_balanced`: printed declarations and code.
* `TypeDecl.mem_scopesAfter_of_printedBody`: the scope of a type inside of its body.
* `FileDecl.printedBody_infix_tokens`: where the bodies of the types of a file are.
* `FileDecl.operations_eq_of_hidden`: members that a function of a named type hides.
* `FileDecl.render_printerFile`: a member that a function of an anonymous type hides.
-/

namespace KotlinSource

/-! ### Balanced code -/

/-- Printed code that closes every body that it starts, and none that was started before. -/
structure Balanced (tokens : Tokens) : Prop where
  /-- In the end the scopes are those of the beginning. -/
  closed (scopes : List Scope) : tokens.foldl scopesAfter scopes = scopes
  /-- On the way they are still there, behind those that have been added. -/
  kept {front back : Tokens} (h : tokens = front ++ back) (scopes : List Scope) :
    scopes <:+ front.foldl scopesAfter scopes

theorem balanced_nil : Balanced [] where
  closed _ := rfl
  kept h scopes := by
    rw [(List.append_eq_nil_iff.1 h.symm).1]
    exact List.suffix_rfl

theorem balanced_singleton {t : Token} (h : ∀ scopes, scopesAfter scopes t = scopes) :
    Balanced [t] where
  closed := h
  kept {front back} hsplit scopes := by
    rcases List.append_eq_cons_iff.1 hsplit.symm with ⟨rfl, -⟩ | ⟨front', rfl, hnil⟩
    · exact List.suffix_rfl
    · rw [(List.append_eq_nil_iff.1 hnil.symm).1, List.foldl_cons, h]
      exact List.suffix_rfl

theorem Balanced.append {left right : Tokens} (hleft : Balanced left) (hright : Balanced right) :
    Balanced (left ++ right) where
  closed scopes := by rw [List.foldl_append, hleft.closed, hright.closed]
  kept {front back} hsplit scopes := by
    rcases List.append_eq_append_iff.1 hsplit with ⟨front', rfl, hback⟩ | ⟨back', hfront, -⟩
    · rw [List.foldl_append, hleft.closed]
      exact hright.kept hback scopes
    · exact hleft.kept hfront scopes

/-- The body of a type is closed where it ends. -/
theorem Balanced.body {inside : Tokens} (h : Balanced inside) (type : String)
    (nested functions : List String) :
    Balanced ([.enter type nested functions] ++ inside ++ [.leave]) where
  closed scopes := by
    rw [List.append_assoc, List.singleton_append, List.foldl_cons, List.foldl_append, h.closed]
    rfl
  kept {front back} hsplit scopes := by
    rw [List.append_assoc, List.singleton_append] at hsplit
    rcases List.append_eq_cons_iff.1 hsplit.symm with ⟨rfl, -⟩ | ⟨front, rfl, hinside⟩
    · exact List.suffix_rfl
    · rcases List.append_eq_append_iff.1 hinside with ⟨last, rfl, hlast⟩ | ⟨back', hfront, -⟩
      · rw [List.foldl_cons, List.foldl_append, h.closed]
        rcases List.append_eq_cons_iff.1 hlast.symm with ⟨rfl, -⟩ | ⟨last', rfl, hnil⟩
        · exact List.suffix_cons _ _
        · rw [(List.append_eq_nil_iff.1 hnil.symm).1]
          exact List.suffix_rfl
      · exact (List.suffix_cons _ _).trans (h.kept hfront _)

/-- Inside of a body there is its scope. -/
theorem Balanced.mem_foldl_of_body {inside front back : Tokens} {type : String}
    {nested functions : List String} {r : Reference} (h : Balanced inside)
    (hsplit : [.enter type nested functions] ++ inside ++ [.leave] =
      front ++ .reference r :: back) (scopes : List Scope) :
    ∃ s ∈ front.foldl scopesAfter scopes, s.functions = functions := by
  rw [List.append_assoc, List.singleton_append] at hsplit
  rcases List.append_eq_cons_iff.1 hsplit.symm with ⟨-, hfirst⟩ | ⟨front, rfl, hinside⟩
  · cases hfirst
  · rcases List.append_eq_append_iff.1 hinside with ⟨last, -, hlast⟩ | ⟨back', hfront, -⟩
    · rcases List.append_eq_cons_iff.1 hlast.symm with ⟨-, hleave⟩ | ⟨last', -, hnil⟩
      · cases hleave
      · simp at hnil
    · have hkept := h.kept hfront (enterScope scopes type nested functions)
      exact ⟨_, hkept.subset List.mem_cons_self, rfl⟩

theorem printClosed_balanced : PrintClosed Balanced :=
  .of_layout ⟨balanced_nil, Balanced.append⟩ (fun _ => balanced_singleton fun _ => rfl)
    fun _ => balanced_singleton fun _ => rfl

theorem bodyClosed_balanced {κ : Type} (d : TypeDecl κ) : BodyClosed Balanced d :=
  fun _ _ _ hinside => hinside.body _ _ _

theorem balanced_code (code : Code) : Balanced code.tokens :=
  printClosed_balanced.codeTokens fun _ _ t _ => bodyClosed_balanced t

theorem balanced_memberGroups (d : TypeDecl Code) : ∀ g ∈ d.printed.memberGroups, Balanced g :=
  printClosed_balanced.nestClosed.printedGroups (fun piece _ => balanced_code piece)
    fun t _ => bodyClosed_balanced t

/-! ### Bodies -/

/-- A reference behind layout operations. -/
theorem IsPlain.exists_of_plain_append {plain tokens front back : Tokens} {r : Reference}
    (h : IsPlain plain) (hsplit : plain ++ tokens = front ++ .reference r :: back) :
    ∃ front', front = plain ++ front' ∧ tokens = front' ++ .reference r :: back := by
  rcases List.append_eq_append_iff.1 hsplit with ⟨front', hfront, htokens⟩ | ⟨between, rfl, hback⟩
  · exact ⟨front', hfront, htokens⟩
  · rcases List.append_eq_cons_iff.1 hback.symm with ⟨rfl, rfl⟩ | ⟨between', rfl, -⟩
    · exact ⟨[], by simp, rfl⟩
    · obtain ⟨op, hop⟩ := h (.reference r) (by simp)
      cases hop

/-- A reference in front of layout operations. -/
theorem IsPlain.exists_of_append_plain {plain tokens front back : Tokens} {r : Reference}
    (h : IsPlain plain) (hsplit : tokens ++ plain = front ++ .reference r :: back) :
    ∃ back', tokens = front ++ .reference r :: back' := by
  rcases List.append_eq_append_iff.1 hsplit with ⟨front', -, rfl⟩ | ⟨back', htokens, hback⟩
  · obtain ⟨op, hop⟩ := h (.reference r) (by simp)
    cases hop
  · rcases List.append_eq_cons_iff.1 hback.symm with ⟨-, rfl⟩ | ⟨back'', rfl, -⟩
    · obtain ⟨op, hop⟩ := h (.reference r) List.mem_cons_self
      cases hop
    · exact ⟨back'', htokens⟩

theorem isPlain_word (s : String) : IsPlain (word s) :=
  fun _ ht => ⟨_, List.mem_singleton.1 ht⟩

namespace TypeDecl

/-- The body of a type as it is printed. -/
def printedBody (name : String) (d : TypeDecl Code) : Tokens :=
  bodyTokens name d.printed d.printed.memberGroups

/-- The scope of a type is there wherever something stands in its body. -/
theorem mem_foldl_of_printedBody {name : String} {d : TypeDecl Code} {front back : Tokens}
    {r : Reference} (h : printedBody name d = front ++ .reference r :: back)
    (scopes : List Scope) :
    ∃ s ∈ front.foldl scopesAfter scopes, s.functions = d.functionNames := by
  rw [printedBody, bodyTokens] at h
  split_ifs at h with hempty
  · obtain ⟨front', -, hnil⟩ := (isPlain_word "\n").exists_of_plain_append
      ((List.append_nil _).trans h)
    simp at hnil
  · have hinside : Balanced (operation (.indent 1) ++ groupsTokens d.printed.memberGroups ++
        operation (.unindent 1)) :=
      printClosed_balanced.nestClosed.around .indentation
        (printClosed_balanced.nestClosed.groupsTokens (balanced_memberGroups d))
    obtain ⟨back', hbody⟩ := (isPlain_word "\x7d\n").exists_of_append_plain h
    simp only [List.append_assoc] at hbody
    obtain ⟨front', rfl, hinner⟩ := (isPlain_word " \x7b\n").exists_of_plain_append hbody
    have hsplit : [.enter name d.printed.nestedNames d.printed.functionNames] ++
        (operation (.indent 1) ++ groupsTokens d.printed.memberGroups ++
          operation (.unindent 1)) ++ [.leave] = front' ++ .reference r :: back' := by
      simpa only [List.append_assoc] using hinner
    rw [List.foldl_append, ← functionNames_map Code.tokens d]
    exact hinside.mem_foldl_of_body hsplit _

end TypeDecl

/-! ### Where bodies are -/

theorem infix_listed {separator part : Tokens} {parts : List Tokens} (h : part ∈ parts) :
    part <:+: listed separator parts := by
  induction parts with
  | nil => cases h
  | cons first rest ih =>
    cases rest with
    | nil =>
      obtain rfl := List.mem_singleton.1 h
      simp only [listed_singleton, List.infix_rfl]
    | cons second rest =>
      rw [listed_cons_cons]
      rcases List.mem_cons.1 h with rfl | h
      · exact (List.prefix_append _ _).isInfix
      · exact ((ih h).trans (List.suffix_append _ _).isInfix).trans
          (List.suffix_append _ _).isInfix

namespace TypeDecl

variable {d : TypeDecl Tokens}

theorem infix_block (code : Tokens) : code <:+: block code :=
  ⟨word " \x7b\n" ++ operation (.indent 1), operation (.unindent 1) ++ word "\x7d",
    by simp [block]⟩

theorem groupsTokens_infix_bodyTokens (name : String) (d : TypeDecl Tokens)
    (groups : List Tokens) : groupsTokens groups <:+: bodyTokens name d groups := by
  rw [bodyTokens]
  split_ifs with hempty
  · rw [List.isEmpty_iff.1 hempty]
    exact List.nil_infix
  · exact ⟨word " \x7b\n" ++ [.enter name d.nestedNames d.functionNames] ++
      operation (.indent 1), operation (.unindent 1) ++ [.leave] ++ word "\x7d\n", by simp⟩

theorem bodyTokens_infix_declarationTokens {name : String} (hname : d.name = some name)
    (groups : List Tokens) : bodyTokens name d groups <:+: d.declarationTokens groups := by
  rw [declarationTokens, hname]
  exact ⟨_, _, rfl⟩

theorem groupsTokens_infix_declarationTokens (d : TypeDecl Tokens) (groups : List Tokens) :
    groupsTokens groups <:+: d.declarationTokens groups := by
  cases hname : d.name with
  | some name =>
    exact (groupsTokens_infix_bodyTokens name d groups).trans
      (bodyTokens_infix_declarationTokens hname groups)
  | none =>
    rw [declarationTokens, hname]
    exact (infix_block _).trans ⟨_, _, rfl⟩

theorem groupsTokens_infix_constantTokens (name : String) (body : TypeDecl Tokens)
    (groups : List Tokens) : groupsTokens groups <:+: constantTokens name body groups := by
  rw [constantTokens]
  split_ifs with _ hempty hempty
  · rw [List.isEmpty_iff.1 hempty]
    exact List.nil_infix
  · exact (infix_block _).trans (List.suffix_append _ _).isInfix
  · rw [List.isEmpty_iff.1 hempty]
    exact List.nil_infix
  · exact (infix_block _).trans (List.suffix_append _ _).isInfix

/-- The members of a type are printed among those of the type that it is nested in. -/
theorem groupsTokens_infix_of_mem_types {t : TypeDecl Tokens} (ht : t ∈ d.types) :
    t.declarationTokens t.memberGroups <:+: groupsTokens d.memberGroups := by
  refine infix_listed ?_
  rw [memberGroups_eq, laterGroups]
  exact List.mem_append_right _ (List.mem_append_right _ (List.mem_map_of_mem ht))

/-- The enum constants are printed among the members of the enum. -/
theorem constantTokens_infix_of_mem_constants {c : String × TypeDecl Tokens}
    (hc : c ∈ d.constants) :
    constantTokens c.1 c.2 c.2.memberGroups <:+: groupsTokens d.memberGroups := by
  have hmem : constantTokens c.1 c.2 c.2.memberGroups ∈
      d.constants.map fun c => constantTokens c.1 c.2 c.2.memberGroups := List.mem_map_of_mem hc
  rw [d.memberGroups_eq, constantGroup, if_neg (by simpa using List.ne_nil_of_mem hc)]
  exact ((infix_listed hmem).trans (List.prefix_append _ _).isInfix).trans
    (infix_listed (List.mem_append_left _ (List.mem_singleton_self _)))

/-- The members of an enum constant are printed among those of the enum. -/
theorem groupsTokens_infix_of_mem_constants {c : String × TypeDecl Tokens}
    (hc : c ∈ d.constants) : groupsTokens c.2.memberGroups <:+: groupsTokens d.memberGroups :=
  (groupsTokens_infix_constantTokens c.1 c.2 _).trans (constantTokens_infix_of_mem_constants hc)

/-- The bodies of the types in a type are printed among its members. -/
theorem bodyTokens_infix_groupsTokens {t : TypeDecl Tokens} (ht : t ∈ d.innerTypes)
    {name : String} (hname : t.name = some name) :
    bodyTokens name t t.memberGroups <:+: groupsTokens d.memberGroups := by
  induction d using induction with
  | node d hconstants htypes =>
    rcases mem_innerTypes.1 ht with ⟨c, hc, ht⟩ | ⟨u, hu, rfl | ht⟩
    · exact (hconstants c hc ht).trans (groupsTokens_infix_of_mem_constants hc)
    · exact (bodyTokens_infix_declarationTokens hname _).trans
        (groupsTokens_infix_of_mem_types hu)
    · exact ((htypes u hu ht).trans (groupsTokens_infix_declarationTokens u _)).trans
        (groupsTokens_infix_of_mem_types hu)

end TypeDecl

theorem infix_flatMap {α : Type} {f : α → Tokens} {l : List α} {a : α} (h : a ∈ l) :
    f a <:+: l.flatMap f := List.infix_of_mem_flatten (List.mem_map_of_mem h)

theorem FileDecl.type_infix_tokens {file : FileDecl} {d : TypeDecl Code} (hd : d ∈ file.types)
    (imports : List Import) : d.printed.tokens <:+: file.tokens imports := by
  have hmem : d.printed.tokens <:+:
      file.types.flatMap fun d => operation .blankLine ++ d.printed.tokens :=
    (List.suffix_append _ _).isInfix.trans
      (infix_flatMap (f := fun d => operation .blankLine ++ d.printed.tokens) hd)
  exact hmem.trans (List.suffix_append _ _).isInfix

/-- The body of every named type of a file, at any depth, is printed in the file. -/
theorem FileDecl.printedBody_infix_tokens {file : FileDecl} {d : TypeDecl Code}
    (hd : d ∈ file.allTypes) {name : String} (hname : d.name = some name)
    (imports : List Import) : d.printedBody name <:+: file.tokens imports := by
  obtain ⟨outer, houter, hd⟩ := List.mem_flatMap.1 hd
  refine List.IsInfix.trans ?_ (type_infix_tokens houter imports)
  have hprintedName : d.printed.name = some name := (TypeDecl.name_map _ d).trans hname
  rcases List.mem_cons.1 hd with rfl | hd
  · exact TypeDecl.bodyTokens_infix_declarationTokens hprintedName _
  · have hinner : d.printed ∈ outer.printed.innerTypes := by
      rw [TypeDecl.printed, TypeDecl.innerTypes_map]
      exact List.mem_map_of_mem hd
    exact (TypeDecl.bodyTokens_infix_groupsTokens hinner hprintedName).trans
      (TypeDecl.groupsTokens_infix_declarationTokens _ _)

namespace NamingContext

variable (context : NamingContext) (table : Option ImportTable)

/-- Printed code in the given scopes, with all references written out. -/
def writeIn (scopes : List Scope) (tokens : Tokens) : List LayoutOp :=
  (locate scopes tokens).map (context.writeLocated table)

/-- A text is written part by part, from the scopes in which its first part ends. -/
theorem writeIn_append (scopes : List Scope) (left right : Tokens) :
    context.writeIn table scopes (left ++ right) = context.writeIn table scopes left ++
      context.writeIn table (left.foldl scopesAfter scopes) right := by
  rw [writeIn, locate_append, List.map_append]
  rfl

theorem write_append (left right : Tokens) :
    context.write table (left ++ right) = context.write table left ++
      context.writeIn table (left.foldl scopesAfter []) right :=
  context.writeIn_append table [] left right

/-- What is written for a reference stands behind what is written for the code in front of it. -/
theorem exists_write_eq (front back : Tokens) (r : Reference) :
    ∃ rest, context.write table (front ++ .reference r :: back) = context.write table front ++
      .text ((context.spelling (front.foldl scopesAfter []) r).write table) :: rest :=
  ⟨context.writeIn table (front.foldl scopesAfter []) back, context.write_append table front _⟩

end NamingContext

namespace FileDecl

/-! ### Hidden members -/

/-- A member with the name of a function of the named type in whose body it stands. -/
theorem exists_operations_eq {file : FileDecl} {name : String} {d : TypeDecl Code}
    {before after front back : Tokens} {m : MemberName}
    (hbody : file.tokens file.importTable.lines = before ++ d.printedBody name ++ after)
    (hm : d.printedBody name = front ++ .reference (.member m) :: back)
    (hfunction : m.name ∈ d.functionNames) (howner : m.enclosing? = none)
    (hextension : m.isExtension = false) (halias : file.context.alias? m.canonicalName = none) :
    ∃ rest, file.operations = file.context.write (some file.importTable) (before ++ front) ++
      .text (safeQualified m.canonicalName) :: rest := by
  have htokens : file.tokens file.importTable.lines =
      before ++ front ++ .reference (.member m) :: (back ++ after) := by
    rw [hbody, hm]
    simp
  obtain ⟨s, hs, hfunctions⟩ := TypeDecl.mem_foldl_of_printedBody hm (before.foldl scopesAfter [])
  have hhides : NamingContext.hides ((before ++ front).foldl scopesAfter []) m = true := by
    rw [NamingContext.hides, hextension, List.foldl_append, Bool.not_false, Bool.true_and,
      List.any_eq_true]
    exact ⟨s, hs, by simpa [hfunctions] using hfunction⟩
  have hspelling : file.context.spelling ((before ++ front).foldl scopesAfter []) (.member m) =
      .settled (safeQualified m.canonicalName) := by
    rw [NamingContext.spelling, memberSpelling_of_topLevel howner halias, if_pos hhides]
  obtain ⟨rest, hrest⟩ := file.context.exists_write_eq (some file.importTable) (before ++ front)
    (back ++ after) (.member m)
  refine ⟨rest, ?_⟩
  rw [operations, htokens, hrest, hspelling]
  rfl

/-- **Functions of named types hide top-level members.**  The body of every named type of a file is
printed in the file; and wherever the body of a named type is printed, be the type at the top level,
in another type or in an anonymous type in code, a top-level member with the name of a function of
the type, which is neither an extension nor has an import alias, is written with its package. -/
theorem operations_eq_of_hidden (file : FileDecl) :
    (∀ d ∈ file.allTypes, ∀ name, d.name = some name →
      d.printedBody name <:+: file.tokens file.importTable.lines) ∧
      ∀ (d : TypeDecl Code) (name : String) (before after : Tokens),
        file.tokens file.importTable.lines = before ++ d.printedBody name ++ after →
        ∀ (front : Tokens) (m : MemberName) (back : Tokens),
          d.printedBody name = front ++ .reference (.member m) :: back →
          m.name ∈ d.functionNames → m.enclosing? = none → m.isExtension = false →
          file.context.alias? m.canonicalName = none →
          ∃ rest, file.operations =
            file.context.write (some file.importTable) (before ++ front) ++
              .text (safeQualified m.canonicalName) :: rest := by
  refine ⟨fun d hd name hname => printedBody_infix_tokens hd hname _, ?_⟩
  intro d name before after hbody front m back hm hfunction howner hextension halias
  exact exists_operations_eq hbody hm hfunction howner hextension halias

/-- The top-level function `acme.format`. -/
def formatMember : MemberName := ⟨.topLevel "acme", "format", false, rfl⟩

/-- A function that returns what `acme.format` makes of the instance. -/
def formatting (name : String) : FunctionDecl Code :=
  { FunctionDecl.start (some name) with
    body := [.beginStatement, .text "return ", .member formatMember, .text "(this)\n",
      .endStatement] }

/-- A class with a function `format` and a nested class that calls `acme.format`. -/
def reportType : TypeDecl Code :=
  let line := { (TypeDraft.start .plainClass (some "Line")).decl with
    functions := [formatting "text"] }
  { (TypeDraft.start .plainClass (some "Report")).decl with
    functions := [FunctionDecl.start (some "format")]
    types := [line] }

/-- A file with this class. -/
def reportFile : FileDecl := { start "app" "Report" with types := [reportType] }

/-- In the nested class the function of the outer class hides the one of the package. -/
theorem operations_eq_of_hidden_report :
    formatMember.name ∈ reportType.functionNames ∧
      .reference (.member formatMember) ∈ reportType.printedBody "Report" ∧
      (∃ before front rest, reportFile.operations =
        reportFile.context.write (some reportFile.importTable) (before ++ front) ++
          .text "acme.format" :: rest) ∧
      reportFile.render = "package app\n\nclass Report \x7b\n  fun format() \x7b\n  \x7d\n\n" ++
        "  class Line \x7b\n    fun text() \x7b\n      return acme.format(this)\n    \x7d\n" ++
        "  \x7d\n\x7d\n" := by
  obtain ⟨hbodies, hqualified⟩ := operations_eq_of_hidden reportFile
  have htype : reportType ∈ reportFile.allTypes :=
    List.mem_flatMap_of_mem (List.mem_singleton_self _) List.mem_cons_self
  obtain ⟨before, after, hbody⟩ := hbodies reportType htype "Report" rfl
  have hfunction : formatMember.name ∈ reportType.functionNames := by decide
  have hmem : .reference (.member formatMember) ∈ reportType.printedBody "Report" := by
    decide +kernel
  obtain ⟨front, back, hm⟩ := List.append_of_mem hmem
  obtain ⟨rest, hrest⟩ := hqualified reportType "Report" before after hbody.symm front formatMember
    back hm hfunction rfl rfl rfl
  exact ⟨hfunction, hmem, ⟨before, front, rest, hrest⟩, by decide +kernel⟩

/-- A file with a property whose initial value is an anonymous type with a function `format` that
calls `acme.format`. -/
def printerFile : FileDecl :=
  let printer := { (TypeDraft.start .plainClass none).decl with functions := [formatting "format"] }
  let property := { PropertyDecl.start "printer" (.ofClass ClassName.any) with
    initializer := some [.object printer] }
  let report := (TypeDraft.start .plainClass (some "Report")).decl
  { start "app" "Report" with types := [{ report with properties := [property] }] }

/-- The function of an anonymous type does not hide the one of the package: that one is imported and
written by its simple name, so that the function calls itself. -/
theorem render_printerFile :
    build "app" "Report" (printerFile.types.map .type) = .ok printerFile ∧
      printerFile.render = "package app\n\nimport acme.format\n\nclass Report \x7b\n" ++
        "  val printer: Any = object \x7b\n    fun format() \x7b\n      return format(this)\n" ++
        "    \x7d\n  \x7d\n\x7d\n" :=
  ⟨rfl, by decide +kernel⟩

end FileDecl

end KotlinSource
