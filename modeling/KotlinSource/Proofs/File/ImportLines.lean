import KotlinSource.Proofs.Printing.Lines

/-!
# The import lines of a file

A file writes one line for each import of its table, between the line of its package and its first
declaration, with an empty line in front of them.  Every line is a line of the text that comes out,
whatever the comment of the file has done to the indentation.

The table is that of what the first walk over the file notes, and the second walk, which writes the
file, comes to the same references in the same bodies.  So the lines without alias are exactly those
that explain the short names that have been written.

## Main definitions

* `Import.statement`: the text of an import line.
* `importOperations`: the operations that write import lines.
* `Lookup.place`: what is looked up, and where.
* `FileDecl.collected`: what the first walk over a file notes, with what the file declares.

## Main results

* `FileDecl.operations_rendering_eq`: where the import lines stand.
* `FileDecl.exists_statement_mem_lines`: import lines in the text of a file.
* `FileDecl.render_imports_iff_writesShort`: the lines without alias are those that short names need.
-/

namespace KotlinSource

/-! ### Import lines -/

/-- The text of an import line. -/
def Import.statement (i : Import) : String :=
  let target := safeQualified (qualify i.package (Text.joinWith "." i.names))
  match i.alias? with
  | none => "import " ++ target
  | some name => "import " ++ target ++ " as " ++ safeName name

theorem Import.statement_eq (i : Import) : i.statement = "import " ++ i.line := by
  rw [statement, line, qualifiedName]
  cases i.alias? with
  | none => rw [Option.elim_none, String.append_empty]
  | some name => simp only [Option.elim_some, String.append_assoc]

theorem Import.statement_ne_empty (i : Import) : i.statement ≠ "" := by
  rw [statement_eq, Ne, ← String.toList_inj]
  simp

/-- The operations that write import lines: an empty line, and a line for each import. -/
def importOperations : List Import → List LayoutOp
  | [] => []
  | i :: rest => .blankLine :: (i :: rest).map fun j => .text (j.statement ++ "\n")

/-- Import lines without the empty line in front of them. -/
def importWords (imports : List Import) : Tokens :=
  imports.flatMap fun i => word (i.statement ++ "\n")

theorem importWords_cons (i : Import) (rest : List Import) :
    importWords (i :: rest) = word (i.statement ++ "\n") ++ importWords rest := List.flatMap_cons

theorem importWords_append (earlier later : List Import) :
    importWords (earlier ++ later) = importWords earlier ++ importWords later :=
  List.flatMap_append

theorem importLines_eq {imports : List Import} (h : imports ≠ []) :
    importLines imports = operation .blankLine ++ importWords imports := by
  rw [importLines, if_neg (by simpa using h), importWords]
  simp only [Import.statement_eq]

/-- Every import line ends with a line break. -/
theorem keepsLineStart_importWords (imports : List Import) :
    KeepsLineStart (importWords imports) := by
  refine appendClosed_keepsLineStart.flatMap fun i _ w unit context table scopes _ => ?_
  rw [Writer.print_word]
  exact Writer.atLineStart_emit_newline unit i.statement

theorem settles_importWords (imports : List Import) : Settles (importWords imports) :=
  appendClosed_settles.flatMap fun _ _ => nestClosed_settles.word _

/-! ### Writers in front of import lines -/

namespace Writer

variable (unit : List Char) {w : Writer}

/-- A writer that has written something, or is at the start of a line. -/
def HasBegun (w : Writer) : Prop := w.started = true ∨ w.atLineStart = true

theorem HasBegun.emit (h : w.HasBegun) (s : String) : (w.emit unit s).HasBegun := by
  rw [Writer.emit]
  induction s.toList generalizing w with
  | nil => exact h
  | cons c cs ih =>
    refine ih (.inl ?_)
    rw [emitChar]
    split_ifs <;> rfl

theorem HasBegun.endLine (h : w.HasBegun) : (w.endLine unit).HasBegun := by
  rw [Writer.endLine]
  split_ifs
  · exact h.emit unit _
  · exact h

theorem HasBegun.wrap (h : w.HasBegun) : (w.wrap unit).HasBegun := by
  rw [Writer.wrap]
  split_ifs
  · exact h.emit unit _
  · exact h

/-- No operation takes back what has begun. -/
theorem HasBegun.step (h : w.HasBegun) (op : LayoutOp) : (w.step unit op).HasBegun := by
  cases op with
  | text s => exact h.emit unit s
  | wrap => exact h.wrap unit
  | comma => exact (h.emit unit ",").wrap unit
  | wrapTight =>
    rw [Writer.step]
    split_ifs <;> exact h
  | blankLine =>
    simp only [Writer.step, blankLine]
    split_ifs
    · exact (h.endLine unit).emit unit _
    · exact h.endLine unit
    · exact h
  | endLine => exact h.endLine unit
  | openDoc => exact h.emit unit "/**\n"
  | closeDoc =>
    have hclosed : ({ w.endLine unit with inDoc := false } : Writer).HasBegun := h.endLine unit
    exact hclosed.emit unit " */\n"
  | openComment => exact .inr rfl
  | closeComment => exact h.endLine unit
  | _ => exact h

/-- An empty line leaves a writer at the start of a line, unless nothing has begun. -/
theorem HasBegun.atLineStart_blankLine (h : w.HasBegun) : (w.blankLine unit).atLineStart = true := by
  by_cases hstarted : w.started = true
  · exact Writer.atLineStart_blankLine unit hstarted
  · rw [blankLine, if_neg hstarted]
    exact h.resolve_left hstarted

end Writer

/-- What is looked up, and the bodies around the place. -/
def Lookup.place (l : Lookup) : List Scope × Reference := (l.scopes, l.reference)

namespace FileDecl

variable (file : FileDecl)

/-- What the first walk over the file notes, with what the file declares and asks for. -/
def collected : References where
  package := file.package
  implicitPackages := file.options.implicitPackages
  declared := file.declaredNames
  classes := file.collecting.classes
  members := file.collecting.members
  requested := file.aliasedImports

theorem collected_eq : file.collected = file.references := by
  rw [collected, classes_collecting, members_collecting]
  rfl

/-! ### Where the lines stand -/

/-- What stands in front of the import lines. -/
def top : Tokens := topComment file.comment.tokens ++ packageLine file.package

/-- The declarations behind the import lines. -/
def declarations : Tokens :=
  (file.aliases.flatMap fun d => operation .blankLine ++ d.printed.tokens) ++
    file.types.flatMap fun d => operation .blankLine ++ d.printed.tokens

theorem tokens_eq (imports : List Import) :
    file.tokens imports = file.top ++ importLines imports ++ file.declarations := by
  simp only [tokens, top, declarations, List.append_assoc]

/-- The bodies that the comment of a file starts are closed in it. -/
theorem balanced_top : Balanced file.top := by
  have hclosed := printClosed_balanced.nestClosed
  refine hclosed.append (NestClosed.ite balanced_nil ?_) (NestClosed.ite balanced_nil ?_)
  · exact hclosed.append (hclosed.append (balanced_singleton fun _ => rfl)
      (balanced_code file.comment)) (balanced_singleton fun _ => rfl)
  · exact hclosed.append hclosed.blankLine (hclosed.word _)

/-- Import lines are written as they are, and leave no body open. -/
theorem writeIn_importLines (imports : List Import) (context : NamingContext)
    (table : Option ImportTable) (scopes : List Scope) :
    context.writeIn table scopes (importLines imports) = importOperations imports := by
  have hwords : ∀ rest : List Import, context.writeIn table scopes (importWords rest) =
      rest.map fun i => .text (i.statement ++ "\n") := by
    intro rest
    induction rest with
    | nil => rfl
    | cons i rest ih =>
      rw [importWords_cons, NamingContext.writeIn_append, List.map_cons]
      exact congrArg (_ :: ·) ih
  cases imports with
  | nil => rfl
  | cons i rest =>
    rw [importLines_eq (List.cons_ne_nil i rest), NamingContext.writeIn_append]
    exact congrArg (_ :: ·) (hwords (i :: rest))

/-- The import lines stand behind the comment and the package, in front of all declarations. -/
theorem operations_rendering_eq :
    file.rendering.operations =
      file.context.write (some file.importTable) file.top ++
        importOperations file.importTable.lines ++
        file.context.write (some file.importTable) file.declarations := by
  have hlines := ((isPlain_importLines file.importTable.lines).lookups_eq_nil []).2
  rw [operations_rendering, operations, tokens_eq, NamingContext.write_append,
    NamingContext.write_append, List.foldl_append, file.balanced_top.closed, hlines,
    writeIn_importLines]
  rfl

/-! ### The lines in the text -/

theorem isSettled_top : (file.place.writer file.top).IsSettled := by
  have happend := @nestClosed_settles.append
  rw [top, TextPlace.writer_append]
  exact file.isSettled_topComment.print (NestClosed.ite appendClosed_settles.nil
    (happend nestClosed_settles.blankLine (nestClosed_settles.word _))) ..

/-- A file with a comment or a package has begun in front of its import lines. -/
theorem hasBegun_top (h : file.top ≠ []) : (file.place.writer file.top).HasBegun := by
  have hcomment : ∀ tokens : Tokens, tokens ≠ [] →
      (file.place.writer (topComment tokens)).HasBegun := by
    intro tokens hne
    have hopened : (Writer.start.step file.options.indent.unit .openComment).HasBegun := .inr rfl
    rw [topComment, if_neg (by simpa using hne), List.append_assoc]
    rw [TextPlace.writer, Writer.print_append_tokens]
    exact Writer.print_invariant (I := Writer.HasBegun) (fun op _ w hw => hw.step _ op)
      (fun s w hw => hw.emit _ s) hopened _ _ _
  rw [top, TextPlace.writer_append]
  by_cases hpackage : file.package = ""
  · rw [packageLine, if_pos hpackage, Writer.print_nil]
    refine hcomment _ fun hempty => h ?_
    rw [top, packageLine, if_pos hpackage, hempty]
    rfl
  · rw [packageLine, if_neg hpackage, Writer.print_append_tokens]
    exact .inr (Writer.atLineStart_emit_newline _ _)

/-- Where an import line is written, its line holds nothing yet. -/
theorem opensLine_importWords (earlier : List Import) :
    let w := file.place.writer (file.top ++ (operation .blankLine ++ importWords earlier))
    w.IsSettled ∧ w.OpensLine ∧ EndsLine w.glyphs := by
  intro w
  have hw : w = ((file.place.writer file.top).blankLine file.options.indent.unit).print
      file.options.indent.unit file.context (some file.importTable)
        (file.top.foldl scopesAfter []) (importWords earlier) :=
    (file.place.writer_append _ _).trans (Writer.print_append_tokens ..)
  have hsettled : w.IsSettled := by
    have hblank := file.isSettled_top.print nestClosed_settles.blankLine file.options.indent.unit
      file.context (some file.importTable) []
    exact hw ▸ hblank.print (settles_importWords earlier) ..
  have hstart : w.atLineStart = true ∨ w = .start := by
    by_cases htop : file.top = []
    · cases earlier with
      | nil =>
        right
        rw [hw, htop]
        rfl
      | cons i rest =>
        left
        rw [hw, importWords_cons, Writer.print_append_tokens]
        exact keepsLineStart_importWords rest _ _ _ _ _ (Writer.atLineStart_emit_newline _ _)
    · left
      rw [hw]
      exact keepsLineStart_importWords earlier _ _ _ _ _
        ((file.hasBegun_top htop).atLineStart_blankLine _)
  refine ⟨hsettled, ?_, ?_⟩
  · rcases hstart with hstart | hstart
    · exact .inl hstart
    · rw [hstart]
      exact Writer.opensLine_start
  · rcases hstart with hstart | hstart
    · exact hsettled.endsLines hstart
    · rw [hstart]
      exact endsLine_nil

variable {file}

/-- An import of the table is a line of the text of the file, behind blanks at most. -/
theorem exists_statement_mem_lines {i : Import} (hi : i ∈ file.importTable.lines)
    (hline : '\n' ∉ i.statement.toList) :
    ∃ blanks : List Char, (∀ c ∈ blanks, IsBlank c) ∧
      String.ofList blanks ++ i.statement ∈ Text.splitAt '\n' file.render := by
  obtain ⟨earlier, later, hlines⟩ := List.append_of_mem hi
  let left := file.top ++ (operation .blankLine ++ importWords earlier)
  let right := importWords later ++ file.declarations
  have htokens : file.tokens file.importTable.lines =
      left ++ (word (i.statement ++ "\n") ++ right) := by
    rw [tokens_eq, importLines_eq (List.ne_nil_of_mem hi), hlines, importWords_append,
      importWords_cons]
    simp only [left, right, List.append_assoc]
  obtain ⟨hsettled, hopens, hends⟩ := file.opensLine_importWords earlier
  obtain ⟨gs, hgs⟩ := Writer.glyphs_prefix_print (w := (file.place.writer left).emit
    file.options.indent.unit (i.statement ++ "\n")) file.options.indent.unit file.context
      (some file.importTable) (left.foldl scopesAfter []) right
  have hbegins : file.place.BeginsLine left (word (i.statement ++ "\n") ++ right)
      (i.statement.toList ++ ['\n']) := by
    have hglyphs := hopens.glyphs_emit_line file.options.indent.unit i.statement_ne_empty hline
    rw [hsettled.inCode.lineMarker_eq_nil, List.append_nil, List.append_assoc] at hglyphs
    refine TextPlace.beginsLine_of_glyphs hends (Eq.trans ?_ (congrArg (· ++ gs) hglyphs))
    rw [TextPlace.writer_append, Writer.print_append_tokens]
    exact hgs.symm
  obtain ⟨blanks, hblank, hmem⟩ := hbegins.exists_mem_splitAt hline
  refine ⟨blanks, hblank, ?_⟩
  rwa [← htokens, text_place] at hmem

/-! ### Imports and short names -/

/-- **Imports are exactly those needed.**  In every file that was built, the import lines of its
table are written between its package and its declarations, each of them as a line of the text.
Those without alias are exactly the imports that have to be made and that explain a short name that
has been written.  The table is that of what the first walk notes, and both walks come to the same
references in the same bodies, in the same order. -/
theorem render_imports_iff_writesShort {package name : String} {parts : List FilePart}
    (hbuild : build package name parts = .ok file) :
    (file.render = layout file.options file.rendering.operations ∧
      file.rendering.operations =
        file.context.write (some file.importTable) file.top ++
          importOperations file.importTable.lines ++
          file.context.write (some file.importTable) file.declarations ∧
      ∀ i ∈ file.importTable.lines, '\n' ∉ i.statement.toList →
        ∃ blanks : List Char, (∀ c ∈ blanks, IsBlank c) ∧
          String.ofList blanks ++ i.statement ∈ Text.splitAt '\n' file.render) ∧
    (∀ i, i ∈ file.importTable.lines ∧ i.alias? = none ↔
      (i.package ≠ "" ∧ i.package ≠ file.package ∧ i.package ∉ file.options.implicitPackages) ∧
        ∃ l ∈ file.rendering.lookups, file.WritesShort l i) ∧
    file.importTable = file.collected.table ∧
    file.collecting.lookups.map Lookup.place = file.rendering.lookups.map Lookup.place := by
  have hwell := wellAliased_of_build hbuild
  refine ⟨⟨?_, file.operations_rendering_eq, fun i hi => exists_statement_mem_lines hi⟩,
    fun i => ⟨?_, ?_⟩, ?_, file.lookups_collecting_eq⟩
  · rw [operations_rendering, render]
  · rintro ⟨hi, halias⟩
    obtain ⟨hneeds, hshort⟩ := writesShort_of_mem_lines hwell hi halias
    exact ⟨needsImport_iff.1 hneeds, hshort⟩
  · rintro ⟨hneeds, l, hl, hshort⟩
    exact mem_lines_of_writesShort hl (needsImport_iff.2 hneeds) hshort
  · rw [collected_eq, importTable]

/-- A file with a class that has properties of the types `Gear` and `Tool` of one package and of a
type `Tool` of another one. -/
def toolFile : FileDecl :=
  let user := (TypeDraft.start .plainClass (some "User")).decl
  { start "app" "User" with
    types := [{ user with
      properties := [
        PropertyDecl.start "gear" (.ofClass (toolName "lib" "Gear")),
        PropertyDecl.start "tool" (.ofClass (toolName "lib" "Tool")),
        PropertyDecl.start "other" (.ofClass (toolName "other" "Tool"))] }] }

/-- The class `Gear` has an import line, which is a line of the text, and a reference to it is
written as `Gear`; neither class `Tool` has one, so that none of the references to them is written
as `Tool`. -/
theorem render_imports_iff_writesShort_tool :
    (∃ blanks : List Char, (∀ c ∈ blanks, IsBlank c) ∧
      String.ofList blanks ++ "import lib.Gear" ∈ Text.splitAt '\n' toolFile.render) ∧
    (∃ l ∈ toolFile.rendering.lookups,
      toolFile.WritesShort l (Import.ofClass (toolName "lib" "Gear"))) ∧
    (¬∃ l ∈ toolFile.rendering.lookups,
      toolFile.WritesShort l (Import.ofClass (toolName "lib" "Tool"))) ∧
    toolFile.collecting.classes = [toolName "lib" "Gear", toolName "lib" "Tool",
      toolName "other" "Tool"] ∧
    toolFile.collecting.lookups.map Lookup.text = ["lib.Gear", "lib.Tool", "other.Tool"] ∧
    toolFile.rendering.lookups.map Lookup.text = ["Gear", "lib.Tool", "other.Tool"] := by
  have hbuild : build "app" "User" (toolFile.types.map .type) = .ok toolFile := rfl
  obtain ⟨⟨-, -, htext⟩, hlines, -, -⟩ := render_imports_iff_writesShort hbuild
  have hgear : Import.ofClass (toolName "lib" "Gear") ∈ toolFile.importTable.lines := by
    decide +kernel
  refine ⟨htext _ hgear (by decide), ((hlines _).1 ⟨hgear, rfl⟩).2, fun htool => ?_,
    by decide +kernel, by decide +kernel, by decide +kernel⟩
  have hneeds : toolFile.references.needsImport "lib" = true := by decide +kernel
  have hline := ((hlines _).2 ⟨needsImport_iff.1 hneeds, htool⟩).1
  exact absurd hline (by decide +kernel)

end FileDecl

end KotlinSource
