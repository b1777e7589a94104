import KotlinSource.Proofs.Printing.TextRuns
import KotlinSource.Proofs.Template.Acceptance

/-!
# Templates that are put together

A template whose directives take the arguments by place can be put into another one in two ways:
its code is an argument of the other template, or its characters stand among those of the other
template.  A third way is to add the parts one after the other to a piece of code.  The three ways
lead to different instructions, as text is joined at the seams in one of them and cut in the others,
but nobody can tell apart what is written.

By place, the directives of a sequence of pieces use up a list of arguments from the front, wherever
the sequence stands.  So sequences that use up lists of arguments can be appended.

## Main definitions

* `Template.IsRelative`: templates whose directives take the arguments by place.
* `Template.UsesUp`: pieces that use up a list of arguments.
* `Template.Reads`: templates that use up a list of arguments, with the fragments that they give.
* `Template.addTo`: the code of a template behind a piece of code.

## Main results

* `Template.Reads.append`: templates that are appended use up the arguments of both.
* `Template.interpret_eq_ok_of_reads`, `Template.exists_reads_of_interpret`: reading is what the
  interpretation of a template does.
* `Template.interpret_splice`: the three ways to put a template into another one.
-/

namespace KotlinSource

/-- Whether a piece takes its argument by place, if it takes one. -/
def Piece.isRelative : Piece Position → Bool
  | .directive (.numbered _) _ => false
  | _ => true

namespace Template

/-- The directives of a template have no numbers. -/
def IsRelative (template : String) : Prop :=
  ∀ p ∈ (positionalPieces template).pieces, p.isRelative = true

instance (template : String) : Decidable (IsRelative template) :=
  inferInstanceAs (Decidable (∀ p ∈ _, _))

/-! ### Using up arguments -/

/-- Pieces with directives without numbers use up a list of arguments and give fragments. -/
inductive UsesUp : List Argument → List (Piece Position) → List Fragment → Prop
  | nil : UsesUp [] [] []
  | plain {arguments : List Argument} {pieces : List (Piece Position)} {fragments : List Fragment}
      (c : Char) (hc : c ≠ '%') (h : UsesUp arguments pieces fragments) :
      UsesUp arguments (.plain c :: pieces) (.text [c] :: fragments)
  | mark {arguments : List Argument} {pieces : List (Piece Position)} {fragments : List Fragment}
      (m : Mark) (h : UsesUp arguments pieces fragments) :
      UsesUp arguments (.mark m :: pieces) (m.fragment :: fragments)
  | directive {argument : Argument} {arguments : List Argument} {pieces : List (Piece Position)}
      {fragment : Fragment} {fragments : List Fragment} (d : Directive)
      (hfragment : argument.fragment? d = some fragment) (h : UsesUp arguments pieces fragments) :
      UsesUp (argument :: arguments) (.directive .next d :: pieces) (fragment :: fragments)

section UsesUp

variable {arguments arguments' : List Argument} {pieces pieces' : List (Piece Position)}
  {fragments fragments' : List Fragment}

/-- Pieces use up their arguments wherever they stand. -/
theorem UsesUp.append (h : UsesUp arguments pieces fragments)
    (h' : UsesUp arguments' pieces' fragments') :
    UsesUp (arguments ++ arguments') (pieces ++ pieces') (fragments ++ fragments') := by
  induction h with
  | nil => exact h'
  | plain c hc _ ih => exact .plain c hc ih
  | mark m _ ih => exact .mark m ih
  | directive d hfragment _ ih => exact .directive d hfragment ih

/-- The next argument is the one behind those that have been taken. -/
theorem byPosition_next (arguments : List Argument) (taken : Nat) :
    byPosition arguments taken .next =
      match arguments[taken]? with
      | some a => .ok (taken, a, taken + 1)
      | none => .error (.missingArgument taken arguments.length) := rfl

/-- Pieces that use up the arguments behind those that have been taken go through. -/
theorem UsesUp.outcome_eq (h : UsesUp arguments pieces fragments) (front : List Argument)
    (offset : Nat) :
    outcome (front ++ arguments) front.length offset (spelled pieces) =
      .ok (fragments, (front ++ arguments).length) := by
  induction h generalizing front offset with
  | nil => simp [outcome, positionalFrom, bindFrom, Reading.done, bind]
  | plain c hc _ ih =>
    have hproper : (Piece.plain c : Piece Position).IsProper := hc
    rw [spelled_cons, outcome_of_piece hproper fun reading => bindFrom_plain _ _ reading c, ih]
    rfl
  | mark m _ ih =>
    have hproper : (Piece.mark m : Piece Position).IsProper := trivial
    rw [spelled_cons, outcome_of_piece hproper fun reading => bindFrom_mark _ _ reading m, ih]
    rfl
  | @directive argument arguments _ _ _ d hfragment _ ih =>
    have hproper : (Piece.directive .next d).IsProper := trivial
    have hlookup : byPosition (front ++ argument :: arguments) front.length .next =
        .ok (front.length, argument, front.length + 1) := by
      rw [byPosition_next]
      simp
    -- The argument joins those in front; the reader counts them, and nothing else.
    have hrest := ih (front ++ [argument])
    rw [List.append_assoc, List.singleton_append, List.length_append, List.length_singleton] at hrest
    rw [spelled_cons,
      outcome_of_piece hproper fun reading => bindFrom_directive reading hlookup hfragment, hrest]
    rfl

/-! ### What is used up -/

theorem exists_of_behind_eq_ok {first : List Fragment}
    {result : Except TemplateFault (List Fragment × Nat)} {after : Nat}
    (h : behind first result = .ok (fragments, after)) :
    ∃ rest, result = .ok (rest, after) ∧ fragments = first ++ rest := by
  cases result with
  | error fault => cases h
  | ok r =>
    obtain ⟨rest, last⟩ := r
    cases h
    exact ⟨rest, rfl, rfl⟩

variable {taken offset after : Nat} {chars : List Char}

/-- If a template goes through, its first piece uses up arguments behind those that have been taken,
and the template goes through behind it. -/
theorem exists_usesUp_piece {p : Piece Position} (hproper : p.IsProper)
    (hrelative : p.isRelative = true)
    (h : outcome arguments taken offset (p.chars ++ chars) = .ok (fragments, after)) :
    ∃ used first next rest, UsesUp used [p] first ∧
      arguments.drop taken = used ++ arguments.drop next ∧
      outcome arguments next (offset + p.chars.length) chars = .ok (rest, after) ∧
      fragments = first ++ rest := by
  cases p with
  | plain c =>
    rw [outcome_of_piece hproper fun reading => bindFrom_plain _ _ reading c] at h
    obtain ⟨rest, hrest, rfl⟩ := exists_of_behind_eq_ok h
    exact ⟨[], _, taken, rest, .plain c hproper .nil, rfl, hrest, rfl⟩
  | mark m =>
    rw [outcome_of_piece hproper fun reading => bindFrom_mark _ _ reading m] at h
    obtain ⟨rest, hrest, rfl⟩ := exists_of_behind_eq_ok h
    exact ⟨[], _, taken, rest, .mark m .nil, rfl, hrest, rfl⟩
  | directive position d =>
    cases position with
    | numbered digits => cases hrelative
    | next =>
      have hlookup := byPosition_next arguments taken
      cases hargument : arguments[taken]? with
      | none =>
        rw [hargument] at hlookup
        rw [outcome, positionalFrom_chars offset hproper,
          bindFrom_directive_of_error _ hlookup] at h
        cases h
      | some a =>
        rw [hargument] at hlookup
        cases hfragment : a.fragment? d with
        | none =>
          rw [outcome, positionalFrom_chars offset hproper,
            bindFrom_directive_of_none _ hlookup hfragment] at h
          cases h
        | some fragment =>
          rw [outcome_of_piece hproper fun reading =>
            bindFrom_directive reading hlookup hfragment] at h
          obtain ⟨rest, hrest, rfl⟩ := exists_of_behind_eq_ok h
          obtain ⟨hlt, rfl⟩ := List.getElem?_eq_some_iff.1 hargument
          exact ⟨[arguments[taken]], _, taken + 1, rest, .directive d hfragment .nil,
            List.drop_eq_getElem_cons hlt, hrest, rfl⟩

/-- If a template with directives without numbers goes through and takes all arguments, it uses up
those that had not been taken. -/
theorem exists_usesUp (arguments : List Argument) (taken offset : Nat) (chars : List Char)
    (hrelative : ∀ p ∈ (positionalFrom offset chars).pieces, p.isRelative = true)
    {fragments : List Fragment} {after : Nat}
    (h : outcome arguments taken offset chars = .ok (fragments, after))
    (hall : arguments.length ≤ after) :
    ∃ pieces, chars = spelled pieces ∧ UsesUp (arguments.drop taken) pieces fragments := by
  by_cases hne : chars = []
  · subst hne
    cases h
    rw [List.drop_eq_nil_of_le hall]
    exact ⟨[], rfl, .nil⟩
  · rcases piece_or_misspelt offset hne with ⟨p, behind, hproper, rfl⟩ | ⟨fault, hfault⟩
    · have hpos : 0 < p.chars.length := List.length_pos_iff.2 p.chars_ne_nil
      have hshorter : behind.length < (p.chars ++ behind).length := by
        rw [List.length_append]
        omega
      rw [positionalFrom_chars offset hproper] at hrelative
      obtain ⟨hp, hbehind⟩ := List.forall_mem_cons.1 hrelative
      obtain ⟨used, first, next, rest, huses, hused, hnext, rfl⟩ :=
        exists_usesUp_piece hproper hp h
      obtain ⟨pieces, rfl, hpieces⟩ := exists_usesUp arguments _ _ behind hbehind hnext hall
      rw [hused]
      exact ⟨p :: pieces, rfl, huses.append hpieces⟩
    · -- What is misspelt would have been the outcome.
      rw [outcome, positionalFrom_of_misspelt hfault] at h
      cases h
termination_by chars.length

end UsesUp

/-! ### Reading templates -/

/-- A template consists of pieces that use up the arguments and give the fragments. -/
def Reads (template : String) (arguments : List Argument) (fragments : List Fragment) : Prop :=
  ∃ pieces, template.toList = spelled pieces ∧ UsesUp arguments pieces fragments

section Reads

variable {template template' : String} {arguments arguments' : List Argument}
  {fragments fragments' : List Fragment}

/-- Templates that are appended use up the arguments of both. -/
theorem Reads.append (h : Reads template arguments fragments)
    (h' : Reads template' arguments' fragments') :
    Reads (template ++ template') (arguments ++ arguments') (fragments ++ fragments') := by
  obtain ⟨pieces, hpieces, huses⟩ := h
  obtain ⟨pieces', hpieces', huses'⟩ := h'
  refine ⟨pieces ++ pieces', ?_, huses.append huses'⟩
  rw [String.toList_append, hpieces, hpieces', spelled, spelled, spelled, List.flatMap_append]

/-- A piece of code can be the argument of a directive. -/
theorem reads_code (code : Code) : Reads "%L" [.code code] [.code code] :=
  ⟨[.directive .next .literal], rfl, .directive .literal rfl .nil⟩

/-- A template that uses up its arguments has the code of its fragments. -/
theorem interpret_eq_ok_of_reads (h : Reads template arguments fragments) :
    interpret template arguments = .ok (assemble fragments) := by
  obtain ⟨pieces, hpieces, huses⟩ := h
  have houtcome := huses.outcome_eq [] 0
  rw [List.nil_append, List.length_nil] at houtcome
  rw [interpret_eq_ok_iff, interpretPositional_eq, hpieces, houtcome, ok_bind]
  exact if_neg (Nat.lt_irrefl _)

/-- A template with directives without numbers uses up its arguments, if it has a code. -/
theorem exists_reads_of_interpret (hrelative : IsRelative template) {code : Code}
    (h : interpret template arguments = .ok code) :
    ∃ fragments, Reads template arguments fragments ∧ code = assemble fragments := by
  rw [interpret_eq_ok_iff, interpretPositional_eq] at h
  cases houtcome : outcome arguments 0 0 template.toList with
  | error fault =>
    rw [houtcome] at h
    cases h
  | ok r =>
    obtain ⟨fragments, after⟩ := r
    simp only [houtcome, ok_bind] at h
    split_ifs at h with hafter
    · cases h
      exact ⟨fragments, exists_usesUp _ 0 0 _ hrelative houtcome (Nat.le_of_not_lt hafter), rfl⟩

end Reads

end Template

/-! ### Putting templates together -/

/-- A piece of code with the code of a template behind it. -/
def Code.addTemplate (code : Code) (template : String) (arguments : List Argument) :
    Except TemplateError Code := do
  let behind ← Template.interpret template arguments
  return code ++ behind

namespace Template

/-- **Interpretation is compositional.**  Three templates with directives without numbers have a
code for their arguments each.  Then there is also a code with the code of the middle one as an
argument between the others, one for the three templates and their arguments in a row, and one that
is made by adding the templates one after the other.  They may differ in how text is cut, but all of
them are written alike by every writer, whatever its state is, and in every file, at any place in it
and under any column limit, the text is the same. -/
theorem interpret_splice {front middle back : String} {a b c : List Argument} {x y z : Code}
    (hfront : IsRelative front) (hmiddle : IsRelative middle) (hback : IsRelative back)
    (hx : interpret front a = .ok x) (hy : interpret middle b = .ok y)
    (hz : interpret back c = .ok z) :
    ∃ spliced inlined built,
      interpret (front ++ "%L" ++ back) (a ++ [.code y] ++ c) = .ok spliced ∧
      interpret (front ++ middle ++ back) (a ++ b ++ c) = .ok inlined ∧
      (do
        let code ← Code.addTemplate [] front a
        let code ← code.addTemplate middle b
        code.addTemplate back c) = .ok built ∧
      spliced.WritesAs built ∧ inlined.WritesAs built ∧
      ∀ (options : FormatOptions) (context : NamingContext) (table : Option ImportTable)
        (before after : Tokens),
        layout options (context.write table (before ++ spliced.tokens ++ after)) =
            layout options (context.write table (before ++ built.tokens ++ after)) ∧
          layout options (context.write table (before ++ inlined.tokens ++ after)) =
            layout options (context.write table (before ++ built.tokens ++ after)) := by
  obtain ⟨fragmentsX, hreadsX, rfl⟩ := exists_reads_of_interpret hfront hx
  obtain ⟨fragmentsY, hreadsY, rfl⟩ := exists_reads_of_interpret hmiddle hy
  obtain ⟨fragmentsZ, hreadsZ, rfl⟩ := exists_reads_of_interpret hback hz
  have hspliced : (assemble (fragmentsX ++ [.code (assemble fragmentsY)] ++ fragmentsZ)).WritesAs
      (assemble fragmentsX ++ assemble fragmentsY ++ assemble fragmentsZ) := by
    have hseam := writesAs_assemble_append fragmentsX [.code (assemble fragmentsY)]
    rw [assemble_code] at hseam
    exact (writesAs_assemble_append _ fragmentsZ).trans (hseam.append (.refl _))
  have hinlined : (assemble (fragmentsX ++ fragmentsY ++ fragmentsZ)).WritesAs
      (assemble fragmentsX ++ assemble fragmentsY ++ assemble fragmentsZ) := by
    have hseam := writesAs_assemble_append fragmentsX fragmentsY
    exact (writesAs_assemble_append _ fragmentsZ).trans (hseam.append (.refl _))
  refine ⟨_, _, assemble fragmentsX ++ assemble fragmentsY ++ assemble fragmentsZ,
    interpret_eq_ok_of_reads ((hreadsX.append (reads_code _)).append hreadsZ),
    interpret_eq_ok_of_reads ((hreadsX.append hreadsY).append hreadsZ), ?_, hspliced, hinlined,
    fun options context table before after => ⟨?_, ?_⟩⟩
  · simp only [Code.addTemplate, hx, hy, hz]
    rfl
  · exact hspliced.layout_eq options context table before after
  · exact hinlined.layout_eq options context table before after

/-- A call whose name is cut in two right behind a break point.  The first part of the name still
fits on the line, the name does not, and the line breaks in front of it, whether the name is one
text or two. -/
theorem interpret_splice_call :
    let options : FormatOptions := { columnLimit := 13 }
    IsRelative "return%Wfind" ∧ IsRelative "User(%S)" ∧ IsRelative ".name%%" ∧
      interpret "return%Wfind" [] = .ok [.text "return", .wrap, .text "find"] ∧
      interpret "User(%S)" [.text "a"] = .ok [.text "User(", .stringLiteral "a", .text ")"] ∧
      interpret ".name%%" [] = .ok [.text ".name%"] ∧
      interpret "return%WfindUser(%S).name%%" [.text "a"] =
        .ok [.text "return", .wrap, .text "findUser(", .stringLiteral "a", .text ").name%"] ∧
      ∃ spliced,
        interpret "return%Wfind%L.name%%" [.code [.text "User(", .stringLiteral "a", .text ")"]] =
          .ok spliced ∧
        Tokens.layout options spliced.tokens = "return\n  findUser(\"a\").name%" := by
  intro options
  have hfront : IsRelative "return%Wfind" := by decide
  have hmiddle : IsRelative "User(%S)" := by decide
  have hback : IsRelative ".name%%" := by decide
  obtain ⟨spliced, inlined, built, hspliced, hinlined, -, -, -, hlayout⟩ :=
    interpret_splice (a := []) (b := [.text "a"]) (c := []) hfront hmiddle hback rfl rfl rfl
  have hcode : interpret "return%WfindUser(%S).name%%" [.text "a"] =
      .ok [.text "return", .wrap, .text "findUser(", .stringLiteral "a", .text ").name%"] := rfl
  have hsame : inlined = [.text "return", .wrap, .text "findUser(", .stringLiteral "a",
      .text ").name%"] := Except.ok.inj (hinlined.symm.trans hcode)
  obtain ⟨hsplicedText, hinlinedText⟩ := hlayout options .detached none [] []
  rw [List.append_nil, List.append_nil] at hsplicedText hinlinedText
  rw [hsame] at hinlinedText
  exact ⟨hfront, hmiddle, hback, rfl, rfl, rfl, hcode, spliced, hspliced,
    (hsplicedText.trans hinlinedText.symm).trans (by decide +kernel)⟩

end Template

end KotlinSource
