import KotlinSource.Declaration.Building
import KotlinSource.Proofs.Template.Grammar

/-!
# What the template reader accepts

A template is read into pieces first, and its directives are bound to arguments then.  Here the two
steps are followed together, from any place in a template and behind any number of arguments taken:
pieces that take arguments go through and give their fragments, and at the first place at which
none goes through the result is the fault of that place.  As every template consists of pieces
that take arguments and of such a place, or of such pieces alone, this decides what comes out.

## Main definitions

* `Template.outcome`: what a template comes to from a place behind some arguments taken.
* `Template.Yields`: the code that a template has by its grammar.
* `Template.Fails`: the fault that a template has by its grammar.

## Main results

* `Template.outcome_of_takes`: pieces that take arguments go through.
* `Template.outcome_of_offence`: what is wrong at a place is what comes out.
* `Template.interpret_eq_grammar`: the reader accepts exactly the grammar of templates, and fails
  with the first fault.
-/

namespace KotlinSource

namespace Template

/-! ### Reading pieces -/

theorem positionalAfter_digits (start : Nat) (read : List Char) (offset : Nat)
    {digits : List Char} (hdigits : ∀ c ∈ digits, c ∈ decimalDigits) (rest : List Char) :
    positionalAfter start read offset (digits ++ rest) =
      positionalAfter start (read ++ digits) (offset + digits.length) rest := by
  induction digits generalizing read offset with
  | nil => simp
  | cons c digits ih =>
    obtain ⟨hc, hdigits⟩ := List.forall_mem_cons.1 hdigits
    rw [List.cons_append, positionalAfter, if_pos (isDigit_iff.2 hc), ih _ _ hdigits,
      List.append_assoc, List.singleton_append, List.length_cons, Nat.add_assoc, Nat.add_comm 1]

/-- Behind a percent sign and digits, reading goes on with these digits. -/
theorem positionalFrom_percent (offset : Nat) {digits : List Char}
    (hdigits : ∀ c ∈ digits, c ∈ decimalDigits) (rest : List Char) :
    positionalFrom offset ('%' :: digits ++ rest) =
      positionalAfter offset digits (offset + 1 + digits.length) rest := by
  rw [List.cons_append, positionalFrom, if_pos rfl, positionalAfter_digits _ _ _ hdigits,
    List.nil_append]

theorem forall_mem_digits {position : Position} (h : position.IsProper) :
    ∀ c ∈ position.digits, c ∈ decimalDigits := by
  cases position with
  | next => simp [Position.digits]
  | numbered digits => exact h.2

/-- A piece is read as itself. -/
theorem positionalFrom_chars (offset : Nat) {p : Piece Position} (h : p.IsProper)
    (rest : List Char) :
    positionalFrom offset (p.chars ++ rest) =
      (positionalFrom (offset + p.chars.length) rest).cons p := by
  cases p with
  | plain c =>
    rw [Piece.chars, List.singleton_append, positionalFrom, if_neg h, List.length_singleton]
  | mark m =>
    have hnone : ∀ c ∈ ([] : List Char), c ∈ decimalDigits := by simp
    have hpercent := positionalFrom_percent offset hnone (m.char :: rest)
    rw [positionalAfter, if_neg (isDigit_iff.not.2 (char_notMem_decimalDigits m)),
      Mark.ofChar?_char] at hpercent
    exact hpercent
  | directive position d =>
    have hpercent := positionalFrom_percent offset (forall_mem_digits h) (d.letter :: rest)
    rw [positionalAfter, if_neg (isDigit_iff.not.2 (letter_notMem_decimalDigits d)), ofChar?_letter,
      Directive.ofLetter?_letter, ofDigits_digits h] at hpercent
    simpa [Piece.chars, Nat.add_assoc, Nat.add_comm 1] using hpercent

theorem ofChar?_eq_none {c : Char} (h : ∀ m : Mark, m.char ≠ c) : Mark.ofChar? c = none := by
  cases hmark : Mark.ofChar? c with
  | none => rfl
  | some m => exact absurd (Mark.char_of_ofChar? hmark) (h m)

theorem ofLetter?_eq_none {c : Char} (h : ∀ d : Directive, d.letter ≠ c) :
    Directive.ofLetter? c = none := by
  cases hletter : Directive.ofLetter? c with
  | none => rfl
  | some d => exact absurd (Directive.letter_of_ofLetter? hletter) (h d)

/-- Reading stops at what is misspelt. -/
theorem positionalFrom_of_misspelt {offset : Nat} {chars : List Char} {fault : TemplateFault}
    (h : Misspelt offset chars fault) : positionalFrom offset chars = .stop fault := by
  cases h with
  | dangling digits hdigits =>
    have hpercent := positionalFrom_percent offset hdigits []
    rwa [List.append_nil, positionalAfter] at hpercent
  | index digits m rest hne hdigits =>
    rw [positionalFrom_percent offset hdigits, positionalAfter,
      if_neg (isDigit_iff.not.2 (char_notMem_decimalDigits m)), Mark.ofChar?_char]
    simp [hne]
  | unknown digits c rest hdigits hc hmark hletter =>
    rw [positionalFrom_percent offset hdigits, positionalAfter, if_neg (isDigit_iff.not.2 hc),
      ofChar?_eq_none hmark, ofLetter?_eq_none hletter]

/-! ### Binding directives -/

/-- The fragments of a reading behind `taken` arguments, and the number of arguments taken in the
end. -/
def bindFrom {ρ : Type} (lookup : Lookup ρ) (taken : Nat) (reading : Reading ρ) :
    Except TemplateFault (List Fragment × Nat) := do
  let result ← bind lookup taken reading.pieces
  match reading.fault with
  | some fault => .error fault
  | none => return result

/-- A result with fragments in front. -/
def behind (fragments : List Fragment) (result : Except TemplateFault (List Fragment × Nat)) :
    Except TemplateFault (List Fragment × Nat) :=
  result.map fun r => (fragments ++ r.1, r.2)

theorem behind_nil (result : Except TemplateFault (List Fragment × Nat)) :
    behind [] result = result := by
  cases result <;> rfl

theorem behind_behind (fragments fragments' : List Fragment)
    (result : Except TemplateFault (List Fragment × Nat)) :
    behind fragments (behind fragments' result) = behind (fragments ++ fragments') result := by
  cases result with
  | error fault => rfl
  | ok r => simp [behind, Except.map]

theorem ok_bind {α β : Type} (a : α) (f : α → Except TemplateFault β) :
    (Except.ok a >>= f) = f a := rfl

section Bind

variable {ρ : Type} (lookup : Lookup ρ) (taken : Nat) (reading : Reading ρ)

theorem bindFrom_plain (c : Char) :
    bindFrom lookup taken (reading.cons (.plain c)) =
      behind [.text [c]] (bindFrom lookup taken reading) := by
  simp only [bindFrom, Reading.cons, bind]
  cases bind lookup taken reading.pieces with
  | error fault => rfl
  | ok r => cases reading.fault <;> rfl

theorem bindFrom_mark (m : Mark) :
    bindFrom lookup taken (reading.cons (.mark m)) =
      behind [m.fragment] (bindFrom lookup taken reading) := by
  simp only [bindFrom, Reading.cons, bind]
  cases bind lookup taken reading.pieces with
  | error fault => rfl
  | ok r => cases reading.fault <;> rfl

variable {lookup taken} {reference : ρ} {d : Directive}

theorem bindFrom_directive {index next : Nat} {a : Argument} {fragment : Fragment}
    (hlookup : lookup taken reference = .ok (index, a, next))
    (hfragment : a.fragment? d = some fragment) :
    bindFrom lookup taken (reading.cons (.directive reference d)) =
      behind [fragment] (bindFrom lookup next reading) := by
  simp only [bindFrom, Reading.cons, bind, hlookup, hfragment, ok_bind]
  cases bind lookup next reading.pieces with
  | error fault => rfl
  | ok r => cases reading.fault <;> rfl

theorem bindFrom_directive_of_error {fault : TemplateFault}
    (hlookup : lookup taken reference = .error fault) :
    bindFrom lookup taken (reading.cons (.directive reference d)) = .error fault := by
  simp only [bindFrom, Reading.cons, bind, hlookup]
  rfl

theorem bindFrom_directive_of_none {index next : Nat} {a : Argument}
    (hlookup : lookup taken reference = .ok (index, a, next)) (hfragment : a.fragment? d = none) :
    bindFrom lookup taken (reading.cons (.directive reference d)) =
      .error (.argumentKind index d a.kind) := by
  simp only [bindFrom, Reading.cons, bind, hlookup, ok_bind, hfragment]
  rfl

end Bind

/-! ### Finding arguments -/

section Lookup

variable {arguments : List Argument} {taken index next : Nat} {position : Position}

/-- A position finds the index that it selects, if its number has 64 bits. -/
theorem index_of_selects (received : Nat) (h : position.Selects taken index next)
    (hword : index + 1 < wordCount) : position.index received taken = .ok (index, next) := by
  cases h with
  | next => rfl
  | fresh h =>
    simp only [Position.index, h.decimalValue_eq, Nat.add_sub_cancel, maxArgumentIndex_eq]
    rw [if_neg (by omega), if_neg (by omega), if_neg (by omega), if_pos trivial]
  | again h hlt =>
    simp only [Position.index, h.decimalValue_eq, Nat.add_sub_cancel, maxArgumentIndex_eq]
    rw [if_neg (by omega), if_neg (by omega), if_neg (by omega), if_neg (by omega)]

theorem Selects.index_le (h : position.Selects taken index next) : index ≤ taken := by
  cases h with
  | next => exact Nat.le_refl _
  | fresh => exact Nat.le_refl _
  | again _ hlt => exact Nat.le_of_lt hlt

theorem byPosition_of_selects (h : position.Selects taken index next)
    (hword : index + 1 < wordCount) {a : Argument} (hargument : arguments[index]? = some a) :
    byPosition arguments taken position = .ok (index, a, next) := by
  simp only [byPosition, index_of_selects _ h hword, ok_bind, hargument]
  rfl

theorem byPosition_of_length_le (h : position.Selects taken index next)
    (hword : index + 1 < wordCount) (hnone : arguments.length ≤ index) :
    byPosition arguments taken position = .error (.missingArgument index arguments.length) := by
  simp only [byPosition, index_of_selects _ h hword, ok_bind, List.getElem?_eq_none hnone]

theorem byPosition_of_error {fault : TemplateFault}
    (h : position.index arguments.length taken = .error fault) :
    byPosition arguments taken position = .error fault := by
  simp only [byPosition, h]
  rfl

theorem fragment?_eq_none {a : Argument} {d : Directive} {kind : ArgumentKind}
    (hkind : a.HasKind kind) (htakes : d.takes kind = false) : a.fragment? d = none := by
  obtain rfl := Argument.hasKind_iff.1 hkind
  rw [← Option.not_isSome_iff_eq_none, a.isSome_fragment? d, htakes]
  exact Bool.false_ne_true

/-- A misbound directive comes to its fault. -/
theorem bindFrom_of_misbound {d : Directive} {fault : TemplateFault}
    (hlen : arguments.length + 1 < wordCount) (hle : taken ≤ arguments.length)
    (h : Misbound arguments taken position d fault) (reading : Reading Position) :
    bindFrom (byPosition arguments) taken (reading.cons (.directive position d)) =
      .error fault := by
  cases h with
  | zero d h =>
    refine bindFrom_directive_of_error reading (byPosition_of_error ?_)
    simp only [Position.index, h.decimalValue_eq]
    rw [if_pos trivial]
  | huge d h hhuge =>
    refine bindFrom_directive_of_error reading (byPosition_of_error ?_)
    simp only [Position.index, h.decimalValue_eq, maxArgumentIndex_eq]
    rw [if_neg (by omega), if_pos (by omega)]
  | ahead d h hword hlt =>
    refine bindFrom_directive_of_error reading (byPosition_of_error ?_)
    simp only [Position.index, h.decimalValue_eq, Nat.add_sub_cancel, maxArgumentIndex_eq]
    rw [if_neg (by omega), if_neg (by omega), if_pos hlt]
  | missing d hselect hnone =>
    have hindex := Selects.index_le hselect
    exact bindFrom_directive_of_error reading
      (byPosition_of_length_le hselect (by omega) hnone)
  | @kind _ _ _ _ _ d hselect hargument hkind htakes =>
    have hindex := Selects.index_le hselect
    have hlookup := byPosition_of_selects hselect (by omega) hargument
    obtain rfl := Argument.hasKind_iff.1 hkind
    exact bindFrom_directive_of_none reading hlookup (fragment?_eq_none hkind htakes)

end Lookup

/-! ### From any place in a template -/

/-- What a template comes to from a place behind `taken` arguments. -/
def outcome (arguments : List Argument) (taken offset : Nat) (chars : List Char) :
    Except TemplateFault (List Fragment × Nat) :=
  bindFrom (byPosition arguments) taken (positionalFrom offset chars)

section Outcome

variable {arguments : List Argument} {taken : Nat}

/-- A piece that goes through gives its fragments, and the template goes on behind it. -/
theorem outcome_of_piece {p : Piece Position} (hproper : p.IsProper) {next : Nat}
    {fragments : List Fragment}
    (hbind : ∀ reading, bindFrom (byPosition arguments) taken (reading.cons p) =
      behind fragments (bindFrom (byPosition arguments) next reading))
    (offset : Nat) (rest : List Char) :
    outcome arguments taken offset (p.chars ++ rest) =
      behind fragments (outcome arguments next (offset + p.chars.length) rest) := by
  rw [outcome, positionalFrom_chars offset hproper, hbind, ← outcome]

/-- Pieces that take arguments go through, and their fragments come in front of what is behind. -/
theorem outcome_of_takes (hlen : arguments.length + 1 < wordCount) {after : Nat}
    {pieces : List (Piece Position)} {fragments : List Fragment} {uses : List Nat}
    (h : Takes arguments taken pieces fragments uses after) (offset : Nat) (rest : List Char) :
    outcome arguments taken offset (spelled pieces ++ rest) =
      behind fragments (outcome arguments after (offset + (spelled pieces).length) rest) := by
  induction h generalizing offset with
  | nil => exact (behind_nil _).symm
  | plain c hc _ ih =>
    have hproper : (Piece.plain c : Piece Position).IsProper := hc
    have hbind := fun taken reading => bindFrom_plain (byPosition arguments) taken reading c
    rw [spelled_cons, List.append_assoc, outcome_of_piece hproper (hbind _), ih, behind_behind,
      List.length_append, Nat.add_assoc, List.singleton_append]
  | @mark _ _ _ _ _ m _ hgives _ ih =>
    obtain rfl := Mark.gives_iff.1 hgives
    have hproper : (Piece.mark m : Piece Position).IsProper := trivial
    have hbind := fun taken reading => bindFrom_mark (byPosition arguments) taken reading m
    rw [spelled_cons, List.append_assoc, outcome_of_piece hproper (hbind _), ih, behind_behind,
      List.length_append, Nat.add_assoc, List.singleton_append]
  | @directive _ _ _ _ _ _ _ position d _ _ _ hposition hselect hargument _ _ hmakes _ ih =>
    have hproper : (Piece.directive position d).IsProper := hposition
    have hlt := (List.getElem?_eq_some_iff.1 hargument).1
    have hlookup := byPosition_of_selects hselect (by omega) hargument
    have hfragment := Directive.makes_iff.1 hmakes
    have hbind := fun reading => bindFrom_directive reading hlookup hfragment
    rw [spelled_cons, List.append_assoc, outcome_of_piece hproper hbind, ih, behind_behind,
      List.length_append, Nat.add_assoc, List.singleton_append]

/-- At a place at which something is wrong, this is what the template comes to. -/
theorem outcome_of_offence (hlen : arguments.length + 1 < wordCount)
    (hle : taken ≤ arguments.length) {offset : Nat} {chars : List Char} {fault : TemplateFault}
    (h : Offence arguments taken offset chars fault) :
    outcome arguments taken offset chars = .error fault := by
  cases h with
  | misspelt h =>
    rw [outcome, positionalFrom_of_misspelt h]
    rfl
  | @misbound position d _ rest hposition h =>
    have hproper : (Piece.directive position d).IsProper := hposition
    rw [outcome, positionalFrom_chars offset hproper]
    exact bindFrom_of_misbound hlen hle h _

end Outcome

/-! ### The reader and the grammar -/

/-- By its grammar a template has a code if it consists of pieces that take all arguments; the code
joins what these pieces give. -/
def Yields (template : String) (arguments : List Argument) (code : Code) : Prop :=
  ∃ pieces fragments uses, template.toList = spelled pieces ∧
    Takes arguments 0 pieces fragments uses arguments.length ∧ Joined fragments code

/-- By its grammar a template has a fault if something is wrong behind pieces that take arguments,
or if it consists of such pieces and arguments are left over. -/
def Fails (template : String) (arguments : List Argument) (fault : TemplateFault) : Prop :=
  ∃ pieces fragments uses taken rest, template.toList = spelled pieces ++ rest ∧
    Takes arguments 0 pieces fragments uses taken ∧
    (Offence arguments taken (spelled pieces).length rest fault ∨
      rest = [] ∧ taken < arguments.length ∧ fault = .unusedArguments taken arguments.length)

section Interpret

variable {template : String} {arguments : List Argument}

theorem interpretPositional_eq (template : String) (arguments : List Argument) :
    interpretPositional template arguments = do
      let (fragments, taken) ← outcome arguments 0 0 template.toList
      if taken < arguments.length then .error (.unusedArguments taken arguments.length)
      else return assemble fragments := rfl

theorem outcome_of_takes_all (hlen : arguments.length + 1 < wordCount) {after : Nat}
    {pieces : List (Piece Position)} {fragments : List Fragment} {uses : List Nat}
    (h : Takes arguments 0 pieces fragments uses after) :
    outcome arguments 0 0 (spelled pieces) = .ok (fragments, after) := by
  have htakes := outcome_of_takes hlen h 0 []
  rw [List.append_nil] at htakes
  rw [htakes]
  simp [outcome, positionalFrom, bindFrom, Reading.done, bind, behind, Except.map]

theorem Yields.interpretPositional_eq_ok (hlen : arguments.length + 1 < wordCount) {code : Code}
    (h : Yields template arguments code) : interpretPositional template arguments = .ok code := by
  obtain ⟨pieces, fragments, uses, hchars, htakes, hjoined⟩ := h
  rw [interpretPositional_eq, hchars, outcome_of_takes_all hlen htakes, ok_bind,
    joined_iff.1 hjoined]
  exact if_neg (Nat.lt_irrefl _)

theorem Fails.interpretPositional_eq_error (hlen : arguments.length + 1 < wordCount)
    {fault : TemplateFault} (h : Fails template arguments fault) :
    interpretPositional template arguments = .error fault := by
  obtain ⟨pieces, fragments, uses, taken, rest, hchars, htakes, hoffence | ⟨rfl, hlt, rfl⟩⟩ := h
  · have hle := htakes.after_le (Nat.zero_le _)
    rw [← Nat.zero_add (spelled pieces).length] at hoffence
    rw [interpretPositional_eq, hchars, outcome_of_takes hlen htakes,
      outcome_of_offence hlen hle hoffence]
    rfl
  · rw [List.append_nil] at hchars
    rw [interpretPositional_eq, hchars, outcome_of_takes_all hlen htakes, ok_bind]
    exact if_pos hlt

/-- Every template has a code or a fault by its grammar. -/
theorem yields_or_fails (template : String) (arguments : List Argument) :
    (∃ code, Yields template arguments code) ∨ ∃ fault, Fails template arguments fault := by
  obtain ⟨pieces, fragments, uses, taken, rest, hchars, htakes, hrest⟩ :=
    exists_takes arguments 0 0 template.toList
  rcases hrest with rfl | ⟨fault, hoffence⟩
  · rcases Nat.lt_or_eq_of_le (htakes.after_le (Nat.zero_le _)) with hlt | rfl
    · exact .inr ⟨_, pieces, fragments, uses, taken, [], hchars, htakes, .inr ⟨rfl, hlt, rfl⟩⟩
    · rw [List.append_nil] at hchars
      exact .inl ⟨_, pieces, fragments, uses, hchars, htakes, joined_iff.2 rfl⟩
  · rw [Nat.zero_add] at hoffence
    exact .inr ⟨fault, pieces, fragments, uses, taken, rest, hchars, htakes, .inl hoffence⟩

theorem interpretPositional_eq_ok_iff (hlen : arguments.length + 1 < wordCount) {code : Code} :
    interpretPositional template arguments = .ok code ↔ Yields template arguments code := by
  refine ⟨fun h => ?_, fun h => h.interpretPositional_eq_ok hlen⟩
  rcases yields_or_fails template arguments with ⟨code', hyields⟩ | ⟨fault, hfails⟩
  · rw [hyields.interpretPositional_eq_ok hlen, Except.ok.injEq] at h
    exact h ▸ hyields
  · rw [hfails.interpretPositional_eq_error hlen] at h
    cases h

theorem interpretPositional_eq_error_iff (hlen : arguments.length + 1 < wordCount)
    {fault : TemplateFault} :
    interpretPositional template arguments = .error fault ↔ Fails template arguments fault := by
  refine ⟨fun h => ?_, fun h => h.interpretPositional_eq_error hlen⟩
  rcases yields_or_fails template arguments with ⟨code, hyields⟩ | ⟨fault', hfails⟩
  · rw [hyields.interpretPositional_eq_ok hlen] at h
    cases h
  · rw [hfails.interpretPositional_eq_error hlen, Except.error.injEq] at h
    exact h ▸ hfails

theorem interpret_eq_ok_iff {code : Code} :
    interpret template arguments = .ok code ↔
      interpretPositional template arguments = .ok code := by
  rw [interpret]
  cases interpretPositional template arguments <;> simp [Except.mapError]

theorem interpret_eq_error_iff {e : TemplateError} :
    interpret template arguments = .error e ↔
      e.template = template ∧ interpretPositional template arguments = .error e.fault := by
  obtain ⟨template', fault⟩ := e
  rw [interpret]
  cases interpretPositional template arguments with
  | ok code => simp [Except.mapError]
  | error fault' => simp [Except.mapError, eq_comm]

/-- **The reader accepts exactly the grammar of templates.**  A template has the code that it has by
its grammar, and otherwise fails with the fault of the first place at which something is wrong.
Where it goes through, every argument is used, and first uses come in the order of the arguments.
There are fewer arguments than numbers of 64 bits, as in every list that fits in memory. -/
theorem interpret_eq_grammar (template : String) (arguments : List Argument)
    (hlen : arguments.length + 1 < wordCount) :
    (∀ code, interpret template arguments = .ok code ↔ Yields template arguments code) ∧
      (∀ e, interpret template arguments = .error e ↔
        e.template = template ∧ Fails template arguments e.fault) ∧
      ∀ pieces fragments uses, Takes arguments 0 pieces fragments uses arguments.length →
        uses.eraseDups = List.range arguments.length ∧ ∀ i < arguments.length, i ∈ uses := by
  refine ⟨fun code => ?_, fun e => ?_, fun pieces fragments uses htakes => ?_⟩
  · rw [interpret_eq_ok_iff, interpretPositional_eq_ok_iff hlen]
  · rw [interpret_eq_error_iff, interpretPositional_eq_error_iff hlen]
  · have huses := htakes.eraseDups_uses
    refine ⟨huses, fun i hi => ?_⟩
    rwa [← List.mem_eraseDups, huses, List.mem_range]

/-- An argument of each kind, and behind them one for each directive but `%L` and `%N`. -/
def mixedArguments : List Argument :=
  [.text "a", .literal "7", .null, .type (.primitive .int),
    .member ⟨.topLevel "acme", "launch", false, rfl⟩, .code [.stringLiteral "b"],
    .object (TypeDraft.start .plainClass none).decl, .text "c", .literal "8", .null,
    .type (.primitive .long), .member ⟨.topLevel "acme", "cease", true, rfl⟩]

/-- All marks and all pairs of a directive and a kind of arguments that fits, some of them by
numbers of two digits, and the faults of templates that go wrong. -/
theorem interpret_eq_grammar_mixed :
    mixedArguments.length + 1 < wordCount ∧ [Argument.text "a"].length + 1 < wordCount ∧
      Yields "-%%%>%<%[%]%W%L%L%L %L %L%L%L%S%S%S%T%M%1N%10L%08S%12M%%" mixedArguments
        [.text "-%", .indent, .unindent, .beginStatement, .endStatement, .wrap,
          .text "a7null kotlin.Int acme.launch", .stringLiteral "b",
          .object (TypeDraft.start .plainClass none).decl, .stringLiteral "c", .stringLiteral "8",
          .text "null", .type (.primitive .long),
          .member ⟨.topLevel "acme", "cease", true, rfl⟩, .name "a", .text "null",
          .stringLiteral "c", .member ⟨.topLevel "acme", "cease", true, rfl⟩, .text "%"] ∧
      ∀ e ∈ [TemplateError.mk "%L%12" .dangling, ⟨"%L%12W", .unexpectedIndex 2 'W'⟩,
          ⟨"%L%12l", .unknownDirective 2 'l'⟩, ⟨"%L%00L", .zeroIndex⟩,
          ⟨"%L%18446744073709551616L", .missingArgument 18446744073709551615 1⟩,
          ⟨"%L%12L", .skipsAhead 11 1⟩, ⟨"%L%02L", .missingArgument 1 1⟩,
          ⟨"%L%1T%", .argumentKind 0 .type .text⟩, ⟨"%%", .unusedArguments 0 1⟩],
        Fails e.template [.text "a"] e.fault := by
  have hmixed : mixedArguments.length + 1 < wordCount := by decide
  have hone : [Argument.text "a"].length + 1 < wordCount := by decide
  refine ⟨hmixed, hone, ((interpret_eq_grammar _ _ hmixed).1 _).1 rfl, fun e he => ?_⟩
  refine (((interpret_eq_grammar e.template _ hone).2.1 e).1 ?_).2
  simp only [List.mem_cons, List.not_mem_nil, or_false] at he
  rcases he with rfl | rfl | rfl | rfl | rfl | rfl | rfl | rfl | rfl <;> rfl

end Interpret

end Template

end KotlinSource
