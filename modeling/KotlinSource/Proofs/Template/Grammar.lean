import KotlinSource.Proofs.Template.Meanings
import KotlinSource.Text.Sorted

/-!
# The grammar of templates

A template with positional directives is a sequence of pieces.  This file says which sequences take
the arguments of a list, what they give, and what is wrong where a piece is expected and none
stands or none can be bound.  The relations describe templates and arguments without the reader:
a piece is spelled by its characters, a position selects an argument by the number of arguments
taken before, and a fault belongs to the characters that it stands for.

## Main definitions

* `Piece.chars`, `Template.spelled`: the characters of a piece and of a sequence of pieces.
* `Position.Selects`: the argument that a position stands for.
* `Template.Takes`: the sequences of pieces that take arguments of a list, with what they give.
* `Template.Misspelt`, `Template.Misbound`, `Template.Offence`: what is wrong at the first place
  at which a template goes wrong.
* `Template.Joined`: fragments with neighbouring texts joined into runs.

## Main results

* `Template.Takes.eraseDups_uses`: arguments are used for the first time in their order.
* `Template.takes_or_offence`: at any place in a template a piece goes through or something is
  wrong.
* `Template.exists_takes`: every template goes through up to its end or such a place.
* `Template.joined_iff`: fragments can be joined in one way only.
-/

namespace KotlinSource

/-! ### Spelling -/

/-- The digits that say which argument a directive takes. -/
def Position.digits : Position → List Char
  | .next => []
  | .numbered digits => digits

/-- A numbered position is written with at least one digit. -/
def Position.IsProper : Position → Prop
  | .next => True
  | .numbered digits => digits ≠ [] ∧ ∀ c ∈ digits, c ∈ decimalDigits

/-- The characters of a piece. -/
def Piece.chars : Piece Position → List Char
  | .plain c => [c]
  | .mark m => ['%', m.char]
  | .directive position d => '%' :: position.digits ++ [d.letter]

/-- A piece that a template can hold: only percent signs are no plain characters. -/
def Piece.IsProper : Piece Position → Prop
  | .plain c => c ≠ '%'
  | .mark _ => True
  | .directive position _ => position.IsProper

theorem Piece.chars_ne_nil (p : Piece Position) : p.chars ≠ [] := by
  cases p <;> simp [Piece.chars]

theorem Mark.ofChar?_char (m : Mark) : Mark.ofChar? m.char = some m := by
  cases m <;> rfl

theorem Directive.ofLetter?_letter (d : Directive) : Directive.ofLetter? d.letter = some d := by
  cases d <;> rfl

theorem Mark.char_of_ofChar? {c : Char} {m : Mark} (h : Mark.ofChar? c = some m) : m.char = c := by
  unfold Mark.ofChar? at h
  split at h <;> cases h <;> rfl

theorem Directive.letter_of_ofLetter? {c : Char} {d : Directive}
    (h : Directive.ofLetter? c = some d) : d.letter = c := by
  unfold Directive.ofLetter? at h
  split at h <;> cases h <;> rfl

namespace Template

theorem char_notMem_decimalDigits (m : Mark) : m.char ∉ decimalDigits := by
  cases m <;> decide

theorem letter_notMem_decimalDigits (d : Directive) : d.letter ∉ decimalDigits := by
  cases d <;> decide

theorem ofChar?_letter (d : Directive) : Mark.ofChar? d.letter = none := by
  cases d <;> rfl

/-- The characters of a sequence of pieces. -/
def spelled (pieces : List (Piece Position)) : List Char := pieces.flatMap Piece.chars

@[simp] theorem spelled_nil : spelled [] = [] := rfl

@[simp] theorem spelled_cons (p : Piece Position) (pieces : List (Piece Position)) :
    spelled (p :: pieces) = p.chars ++ spelled pieces := rfl

/-! ### Taking arguments -/

end Template

/-- Behind `taken` arguments a position selects the argument at `index`, behind which `after`
arguments are taken: a directive without digits the next one, and a number, which counts from one,
the next one or one that has been taken before. -/
inductive Position.Selects (taken : Nat) : Position → (index after : Nat) → Prop
  | next : Selects taken .next taken (taken + 1)
  | fresh {digits : List Char} (h : Numeral digits (taken + 1)) :
      Selects taken (.numbered digits) taken (taken + 1)
  | again {digits : List Char} {index : Nat} (h : Numeral digits (index + 1))
      (hlt : index < taken) : Selects taken (.numbered digits) index taken

namespace Template

/-- From `taken` arguments on, pieces go through one by one and give fragments; directives use the
arguments at certain indices, in this order, behind which `after` arguments are taken. -/
inductive Takes (arguments : List Argument) :
    (taken : Nat) → List (Piece Position) → List Fragment → (uses : List Nat) → (after : Nat) → Prop
  | nil (taken : Nat) : Takes arguments taken [] [] [] taken
  | plain {taken after : Nat} {pieces : List (Piece Position)} {fragments : List Fragment}
      {uses : List Nat} (c : Char) (hc : c ≠ '%')
      (h : Takes arguments taken pieces fragments uses after) :
      Takes arguments taken (.plain c :: pieces) (.text [c] :: fragments) uses after
  | mark {taken after : Nat} {pieces : List (Piece Position)} {fragments : List Fragment}
      {uses : List Nat} {m : Mark} {fragment : Fragment} (hgives : m.Gives fragment)
      (h : Takes arguments taken pieces fragments uses after) :
      Takes arguments taken (.mark m :: pieces) (fragment :: fragments) uses after
  | directive {taken next after index : Nat} {pieces : List (Piece Position)}
      {fragments : List Fragment} {uses : List Nat} {position : Position} {d : Directive}
      {argument : Argument} {kind : ArgumentKind} {fragment : Fragment}
      (hproper : position.IsProper) (hselect : position.Selects taken index next)
      (hargument : arguments[index]? = some argument) (hkind : argument.HasKind kind)
      (htakes : d.takes kind) (hmakes : d.Makes argument fragment)
      (h : Takes arguments next pieces fragments uses after) :
      Takes arguments taken (.directive position d :: pieces) (fragment :: fragments)
        (index :: uses) after

/-! ### Faults -/

/-- What is wrong with a percent sign at `start` with which no piece starts: it is the last one and
has nothing but digits behind it, or a mark with digits, or neither a mark nor a directive. -/
inductive Misspelt (start : Nat) : List Char → TemplateFault → Prop
  | dangling (digits : List Char) (hdigits : ∀ c ∈ digits, c ∈ decimalDigits) :
      Misspelt start ('%' :: digits) .dangling
  | index (digits : List Char) (m : Mark) (rest : List Char) (hne : digits ≠ [])
      (hdigits : ∀ c ∈ digits, c ∈ decimalDigits) :
      Misspelt start ('%' :: digits ++ m.char :: rest) (.unexpectedIndex start m.char)
  | unknown (digits : List Char) (c : Char) (rest : List Char)
      (hdigits : ∀ c ∈ digits, c ∈ decimalDigits) (hc : c ∉ decimalDigits)
      (hmark : ∀ m : Mark, m.char ≠ c) (hletter : ∀ d : Directive, d.letter ≠ c) :
      Misspelt start ('%' :: digits ++ c :: rest) (.unknownDirective start c)

/-- What is wrong with a directive behind `taken` arguments: its number is zero, greater than any
number of 64 bits, or greater than that of the next argument, or there is no argument that it
selects, or one whose kind does not fit. -/
inductive Misbound (arguments : List Argument) (taken : Nat) :
    Position → Directive → TemplateFault → Prop
  | zero {digits : List Char} (d : Directive) (h : Numeral digits 0) :
      Misbound arguments taken (.numbered digits) d .zeroIndex
  | huge {digits : List Char} {value : Nat} (d : Directive) (h : Numeral digits value)
      (hhuge : wordCount ≤ value) :
      Misbound arguments taken (.numbered digits) d
        (.missingArgument (wordCount - 1) arguments.length)
  | ahead {digits : List Char} {index : Nat} (d : Directive) (h : Numeral digits (index + 1))
      (hword : index + 1 < wordCount) (hlt : taken < index) :
      Misbound arguments taken (.numbered digits) d (.skipsAhead index taken)
  | missing {position : Position} {index after : Nat} (d : Directive)
      (hselect : position.Selects taken index after) (hnone : arguments.length ≤ index) :
      Misbound arguments taken position d (.missingArgument index arguments.length)
  | kind {position : Position} {index after : Nat} {argument : Argument} {kind : ArgumentKind}
      (d : Directive) (hselect : position.Selects taken index after)
      (hargument : arguments[index]? = some argument) (hkind : argument.HasKind kind)
      (htakes : d.takes kind = false) :
      Misbound arguments taken position d (.argumentKind index d kind)

/-- What is wrong at position `start` of a template, behind `taken` arguments, if no piece stands
there that goes through. -/
inductive Offence (arguments : List Argument) (taken start : Nat) :
    List Char → TemplateFault → Prop
  | misspelt {chars : List Char} {fault : TemplateFault} (h : Misspelt start chars fault) :
      Offence arguments taken start chars fault
  | misbound {position : Position} {d : Directive} {fault : TemplateFault} (rest : List Char)
      (hproper : position.IsProper) (h : Misbound arguments taken position d fault) :
      Offence arguments taken start ((Piece.directive position d).chars ++ rest) fault

/-! ### Joining texts -/

/-- The code of a list of fragments: neighbouring texts make one run, of which there is none without
characters, and other code ends the run in front of it. -/
inductive Joined : List Fragment → Code → Prop
  | texts (runs : List (List Char)) {run : Code} (hrun : IsRun runs.flatten run) :
      Joined (runs.map .text) run
  | code (runs : List (List Char)) (c : Code) {rest : List Fragment} {run behind : Code}
      (hrun : IsRun runs.flatten run) (h : Joined rest behind) :
      Joined (runs.map .text ++ .code c :: rest) (run ++ c ++ behind)

theorem assembleAfter_texts (run : List Char) (runs : List (List Char)) (rest : List Fragment) :
    assembleAfter run (runs.map .text ++ rest) =
      assembleAfter (runs.flatten.reverse ++ run) rest := by
  induction runs generalizing run with
  | nil => rfl
  | cons chars runs ih =>
    rw [List.map_cons, List.cons_append, assembleAfter, ih, List.flatten_cons, List.reverse_append,
      List.append_assoc]

theorem Joined.eq_assemble {fragments : List Fragment} {code : Code}
    (h : Joined fragments code) : code = assemble fragments := by
  induction h with
  | texts runs hrun =>
    obtain rfl := isRun_iff.1 hrun
    have htexts := assembleAfter_texts [] runs []
    rw [List.append_nil, List.append_nil, assembleAfter, List.reverse_reverse] at htexts
    exact htexts.symm
  | code runs c hrun h ih =>
    obtain rfl := isRun_iff.1 hrun
    rw [assemble, assembleAfter_texts, List.append_nil, assembleAfter, List.reverse_reverse, ih,
      assemble]

/-- Texts in front of fragments join the first run of these. -/
theorem Joined.exists_of_texts (runs : List (List Char)) (fragments : List Fragment) :
    ∃ code, Joined (runs.map .text ++ fragments) code := by
  induction fragments generalizing runs with
  | nil =>
    rw [List.append_nil]
    exact ⟨_, .texts runs (isRun_iff.2 rfl)⟩
  | cons f rest ih =>
    cases f with
    | text chars =>
      obtain ⟨code, hcode⟩ := ih (runs ++ [chars])
      exact ⟨code, by simpa using hcode⟩
    | code c =>
      obtain ⟨behind, hbehind⟩ := ih []
      exact ⟨_, .code runs c (isRun_iff.2 rfl) hbehind⟩

/-- Fragments can be joined in exactly one way. -/
theorem joined_iff {fragments : List Fragment} {code : Code} :
    Joined fragments code ↔ code = assemble fragments := by
  refine ⟨Joined.eq_assemble, ?_⟩
  rintro rfl
  obtain ⟨code, hcode⟩ := Joined.exists_of_texts [] fragments
  exact hcode.eq_assemble ▸ hcode

/-! ### Arguments in order -/

theorem Takes.append {arguments : List Argument} {taken middle after : Nat}
    {front behind : List (Piece Position)} {fragments₁ fragments₂ : List Fragment}
    {uses₁ uses₂ : List Nat} (h : Takes arguments taken front fragments₁ uses₁ middle)
    (h' : Takes arguments middle behind fragments₂ uses₂ after) :
    Takes arguments taken (front ++ behind) (fragments₁ ++ fragments₂) (uses₁ ++ uses₂) after := by
  induction h with
  | nil => exact h'
  | plain c hc _ ih => exact .plain c hc (ih h')
  | mark hgives _ ih => exact .mark hgives (ih h')
  | directive hproper hselect hargument hkind htakes hmakes _ ih =>
    exact .directive hproper hselect hargument hkind htakes hmakes (ih h')

theorem eraseDups_append_of_selects {taken index next : Nat} {position : Position}
    (h : position.Selects taken index next) {seen : List Nat}
    (hseen : seen.eraseDups = List.range taken) :
    (seen ++ [index]).eraseDups = List.range next := by
  have hmem : index ∈ seen ↔ index < taken := by
    rw [← List.mem_range, ← hseen, List.mem_eraseDups]
  rw [Text.eraseDups_append_singleton]
  cases h with
  | next => rw [if_neg (by simp [hmem]), hseen, List.range_succ]
  | fresh => rw [if_neg (by simp [hmem]), hseen, List.range_succ]
  | again _ hlt => rw [if_pos (hmem.2 hlt), hseen]

/-- Behind arguments that have been used for the first time in their order, pieces use the further
ones for the first time in their order. -/
theorem Takes.eraseDups_append_uses {arguments : List Argument} {taken after : Nat}
    {pieces : List (Piece Position)} {fragments : List Fragment} {uses : List Nat}
    (h : Takes arguments taken pieces fragments uses after) {seen : List Nat}
    (hseen : seen.eraseDups = List.range taken) :
    (seen ++ uses).eraseDups = List.range after := by
  induction h generalizing seen with
  | nil => rw [List.append_nil, hseen]
  | plain _ _ _ ih => exact ih hseen
  | mark _ _ ih => exact ih hseen
  | directive _ hselect _ _ _ _ _ ih =>
    have hnext := ih (eraseDups_append_of_selects hselect hseen)
    rwa [List.append_assoc, List.singleton_append] at hnext

theorem Takes.eraseDups_uses {arguments : List Argument} {after : Nat}
    {pieces : List (Piece Position)} {fragments : List Fragment} {uses : List Nat}
    (h : Takes arguments 0 pieces fragments uses after) : uses.eraseDups = List.range after := by
  have hnone : ([] : List Nat).eraseDups = List.range 0 := rfl
  exact h.eraseDups_append_uses hnone

/-- Only arguments that are there are taken. -/
theorem Takes.after_le {arguments : List Argument} {taken after : Nat}
    {pieces : List (Piece Position)} {fragments : List Fragment} {uses : List Nat}
    (h : Takes arguments taken pieces fragments uses after) (hle : taken ≤ arguments.length) :
    after ≤ arguments.length := by
  induction h with
  | nil => exact hle
  | plain _ _ _ ih => exact ih hle
  | mark _ _ ih => exact ih hle
  | directive _ hselect hargument _ _ _ _ ih =>
    have hlt := (List.getElem?_eq_some_iff.1 hargument).1
    refine ih ?_
    cases hselect with
    | next => omega
    | fresh => omega
    | again => exact hle

/-! ### What can stand in a template -/

theorem digits_ofDigits (digits : List Char) : (Position.ofDigits digits).digits = digits := by
  cases digits <;> rfl

theorem isProper_ofDigits {digits : List Char} (h : ∀ c ∈ digits, c ∈ decimalDigits) :
    (Position.ofDigits digits).IsProper := by
  cases digits with
  | nil => trivial
  | cons c rest => exact ⟨List.cons_ne_nil c rest, h⟩

theorem ofDigits_digits {position : Position} (h : position.IsProper) :
    Position.ofDigits position.digits = position := by
  cases position with
  | next => rfl
  | numbered digits => simp [Position.ofDigits, Position.digits, h.1]

/-- A text is a run of digits, and behind it nothing or a character that is no digit. -/
theorem exists_digits (chars : List Char) :
    ∃ digits, (∀ c ∈ digits, c ∈ decimalDigits) ∧
      (chars = digits ∨ ∃ c rest, c ∉ decimalDigits ∧ chars = digits ++ c :: rest) := by
  induction chars with
  | nil => exact ⟨[], by simp, .inl rfl⟩
  | cons c chars ih =>
    by_cases hc : c ∈ decimalDigits
    · obtain ⟨digits, hdigits, h⟩ := ih
      refine ⟨c :: digits, List.forall_mem_cons.2 ⟨hc, hdigits⟩, ?_⟩
      rcases h with rfl | ⟨e, rest, he, rfl⟩
      · exact .inl rfl
      · exact .inr ⟨e, rest, he, rfl⟩
    · exact ⟨[], by simp, .inr ⟨c, chars, hc, rfl⟩⟩

/-- What stands in a template, unless it ends, is a piece or misspelt. -/
theorem piece_or_misspelt (start : Nat) {chars : List Char} (h : chars ≠ []) :
    (∃ (p : Piece Position) (rest : List Char), p.IsProper ∧ chars = p.chars ++ rest) ∨
      ∃ fault, Misspelt start chars fault := by
  obtain ⟨c, chars, rfl⟩ := List.exists_cons_of_ne_nil h
  by_cases hc : c = '%'
  · subst hc
    obtain ⟨digits, hdigits, rfl | ⟨e, rest, he, rfl⟩⟩ := exists_digits chars
    · exact .inr ⟨_, .dangling chars hdigits⟩
    · cases hmark : Mark.ofChar? e with
      | some m =>
        obtain rfl := Mark.char_of_ofChar? hmark
        by_cases hne : digits = []
        · subst hne
          exact .inl ⟨.mark m, rest, trivial, rfl⟩
        · exact .inr ⟨_, .index digits m rest hne hdigits⟩
      | none =>
        cases hletter : Directive.ofLetter? e with
        | some d =>
          obtain rfl := Directive.letter_of_ofLetter? hletter
          refine .inl ⟨.directive (.ofDigits digits) d, rest, isProper_ofDigits hdigits, ?_⟩
          simp [Piece.chars, digits_ofDigits]
        | none =>
          refine .inr ⟨_, .unknown digits e rest hdigits he ?_ ?_⟩
          · rintro m rfl
            simp [Mark.ofChar?_char] at hmark
          · rintro d rfl
            simp [Directive.ofLetter?_letter] at hletter
  · exact .inl ⟨.plain c, chars, hc, rfl⟩

/-- A position selects an argument, unless it is a number that is zero, greater than any number of
64 bits or greater than that of the next argument. -/
theorem selects_or_misbound {arguments : List Argument} {taken : Nat} {position : Position}
    (hproper : position.IsProper) (d : Directive) :
    (∃ index next, position.Selects taken index next) ∨
      ∃ fault, Misbound arguments taken position d fault := by
  cases position with
  | next => exact .inl ⟨taken, taken + 1, .next⟩
  | numbered digits =>
    obtain ⟨value, hvalue⟩ := exists_numeral hproper.2
    cases value with
    | zero => exact .inr ⟨_, .zero d hvalue⟩
    | succ index =>
      rcases Nat.lt_trichotomy index taken with hlt | rfl | hgt
      · exact .inl ⟨index, taken, .again hvalue hlt⟩
      · exact .inl ⟨index, index + 1, .fresh hvalue⟩
      · rcases Nat.lt_or_ge (index + 1) wordCount with hword | hhuge
        · exact .inr ⟨_, .ahead d hvalue hword hgt⟩
        · exact .inr ⟨_, .huge d hvalue hhuge⟩

/-- A directive takes an argument or is misbound. -/
theorem taken_or_misbound (arguments : List Argument) (taken : Nat) {position : Position}
    (hproper : position.IsProper) (d : Directive) :
    (∃ fragment index next, Takes arguments taken [.directive position d] [fragment] [index] next) ∨
      ∃ fault, Misbound arguments taken position d fault := by
  rcases selects_or_misbound hproper d with ⟨index, next, hselect⟩ | hmisbound
  · cases hargument : arguments[index]? with
    | none => exact .inr ⟨_, .missing d hselect (List.getElem?_eq_none_iff.1 hargument)⟩
    | some a =>
      have hkind : a.HasKind a.kind := Argument.hasKind_iff.2 rfl
      cases htakes : d.takes a.kind with
      | false => exact .inr ⟨_, .kind d hselect hargument hkind htakes⟩
      | true =>
        obtain ⟨fragment, hmakes⟩ := (Directive.exists_makes_iff hkind).2 htakes
        exact .inl ⟨fragment, index, next,
          .directive hproper hselect hargument hkind htakes hmakes (.nil next)⟩
  · exact .inr hmisbound

/-- At any place in a template but its end, a piece goes through or something is wrong. -/
theorem takes_or_offence (arguments : List Argument) (taken start : Nat) {chars : List Char}
    (h : chars ≠ []) :
    (∃ p rest fragments uses next, chars = p.chars ++ rest ∧
        Takes arguments taken [p] fragments uses next) ∨
      ∃ fault, Offence arguments taken start chars fault := by
  rcases piece_or_misspelt start h with ⟨p, rest, hproper, rfl⟩ | ⟨fault, hfault⟩
  · cases p with
    | plain c => exact .inl ⟨_, rest, _, _, _, rfl, .plain c hproper (.nil taken)⟩
    | mark m => exact .inl ⟨_, rest, _, _, _, rfl, .mark (Mark.gives_iff.2 rfl) (.nil taken)⟩
    | directive position d =>
      rcases taken_or_misbound arguments taken hproper d with
        ⟨fragment, index, next, htakes⟩ | ⟨fault, hfault⟩
      · exact .inl ⟨_, rest, _, _, next, rfl, htakes⟩
      · exact .inr ⟨fault, .misbound rest hproper hfault⟩
  · exact .inr ⟨fault, .misspelt hfault⟩

/-- A template goes through up to a place that is its end or at which something is wrong. -/
theorem exists_takes (arguments : List Argument) (taken start : Nat) (chars : List Char) :
    ∃ pieces fragments uses after rest, chars = spelled pieces ++ rest ∧
      Takes arguments taken pieces fragments uses after ∧
      (rest = [] ∨ ∃ fault,
        Offence arguments after (start + (spelled pieces).length) rest fault) := by
  by_cases hne : chars = []
  · exact ⟨[], [], [], taken, chars, rfl, .nil taken, .inl hne⟩
  · rcases takes_or_offence arguments taken start hne with
      ⟨p, behind, fragments, uses, next, rfl, htakes⟩ | hoffence
    · have hpos : 0 < p.chars.length := List.length_pos_iff.2 p.chars_ne_nil
      have hshorter : behind.length < (p.chars ++ behind).length := by
        rw [List.length_append]
        omega
      obtain ⟨pieces, fragments', uses', after, rest, rfl, htakes', hrest⟩ :=
        exists_takes arguments next (start + p.chars.length) behind
      refine ⟨p :: pieces, _, _, after, rest, by simp, htakes.append htakes', ?_⟩
      rwa [spelled_cons, List.length_append, ← Nat.add_assoc]
    · exact ⟨[], [], [], taken, chars, rfl, .nil taken, .inr hoffence⟩
termination_by chars.length

end Template

end KotlinSource
