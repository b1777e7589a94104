import KotlinSource.Proofs.Template.Acceptance

/-!
# Three ways to bind arguments

A directive says which argument it takes by its place among the directives, by a number, or by a
name.  A template in which directives take their arguments by place can be rewritten with a number
at each of them, and every template with positional directives can be rewritten with names for the
arguments.  Here both are shown to have the code of the template from which they come.

With numbers the template stays one with positional directives, and the rewritten pieces take the
same arguments by the grammar.  With names it is read by another reader, which is followed piece by
piece; a name ends at its colon, so that nothing behind a directive can be taken for a part of it.

## Main definitions

* `Template.IsReadAs`: the pieces of a template, and the arguments that its directives use.
* `Template.numbered`: pieces with a number for every directive.
* `Template.named`: pieces with a name for every directive.
* `Piece.charsByName`, `Template.spelledByName`: the characters of pieces with names.

## Main results

* `Template.Takes.numbered`: pieces with numbers take the same arguments.
* `Template.bindFrom_byName_of_takes`: pieces with names give the same fragments.
* `Template.interpret_eq_numbered_and_named`: the rewritten templates have the same code.
-/

namespace KotlinSource

/-! ### Pieces with names -/

/-- The characters of a piece with a name for its argument. -/
def Piece.charsByName : Piece String → List Char
  | .plain c => [c]
  | .mark m => ['%', m.char]
  | .directive name d => '%' :: name.toList ++ [':', d.letter]

/-- A piece that a template with names can hold. -/
def Piece.IsProperByName : Piece String → Prop
  | .plain c => c ≠ '%'
  | .mark _ => True
  | .directive name _ => Template.isArgumentName name

namespace Template

/-- The characters of a sequence of pieces with names. -/
def spelledByName (pieces : List (Piece String)) : List Char := pieces.flatMap Piece.charsByName

@[simp] theorem spelledByName_cons (p : Piece String) (pieces : List (Piece String)) :
    spelledByName (p :: pieces) = p.charsByName ++ spelledByName pieces := rfl

/-- A template is read as pieces that take all arguments; the directives among them use the
arguments at the indices `uses`, in this order. -/
def IsReadAs (template : String) (arguments : List Argument) (pieces : List (Piece Position))
    (uses : List Nat) : Prop :=
  template.toList = spelled pieces ∧
    ∃ fragments, Takes arguments 0 pieces fragments uses arguments.length

/-- The decimal digits of the number of the argument at an index; numbers count from one. -/
def numberDigits (index : Nat) : List Char := Nat.toDigits 10 (index + 1)

/-- Pieces of which each directive that takes the next argument has the number of that argument
instead; `uses` are the indices of the arguments that the directives use. -/
def numbered : List (Piece Position) → (uses : List Nat) → List (Piece Position)
  | .plain c :: rest, uses => .plain c :: numbered rest uses
  | .mark m :: rest, uses => .mark m :: numbered rest uses
  | .directive .next d :: rest, index :: uses =>
    .directive (.numbered (numberDigits index)) d :: numbered rest uses
  | .directive (.numbered digits) d :: rest, _ :: uses =>
    .directive (.numbered digits) d :: numbered rest uses
  | _, _ => []

/-- Pieces of which each directive has the name of its argument; `uses` are the indices of the
arguments that the directives use. -/
def named (names : List String) : List (Piece Position) → (uses : List Nat) → List (Piece String)
  | .plain c :: rest, uses => .plain c :: named names rest uses
  | .mark m :: rest, uses => .mark m :: named names rest uses
  | .directive _ d :: rest, index :: uses =>
    .directive (names[index]?.getD "") d :: named names rest uses
  | _, _ => []

/-! ### Numbers -/

theorem decimalValue_numberDigits (index : Nat) : decimalValue (numberDigits index) = index + 1 :=
  Nat.ofDigitChars_toDigits (by decide) (by decide)

theorem mem_decimalDigits_of_mem_numberDigits {index : Nat} {c : Char}
    (h : c ∈ numberDigits index) : c ∈ decimalDigits := by
  have hdigit := Nat.isDigit_of_mem_toDigits (by decide) (by decide) h
  refine isDigit_iff.1 ?_
  simpa [isDigit, Char.isDigit, Char.le_def] using hdigit

theorem numeral_numberDigits (index : Nat) : Numeral (numberDigits index) (index + 1) :=
  (numeral_iff fun _ hc => mem_decimalDigits_of_mem_numberDigits hc).2
    (decimalValue_numberDigits index)

/-- The number of an argument that is used selects it. -/
theorem selects_numberDigits {taken index next : Nat}
    (h : Position.next.Selects taken index next) :
    (Position.numbered (numberDigits index)).Selects taken index next := by
  cases h
  exact .fresh (numeral_numberDigits taken)

/-- Pieces with numbers take the same arguments, and give the same. -/
theorem Takes.numbered {arguments : List Argument} {taken after : Nat}
    {pieces : List (Piece Position)} {fragments : List Fragment} {uses : List Nat}
    (h : Takes arguments taken pieces fragments uses after) :
    Takes arguments taken (numbered pieces uses) fragments uses after := by
  induction h with
  | nil => exact .nil _
  | plain c hc _ ih => exact .plain c hc ih
  | mark hgives _ ih => exact .mark hgives ih
  | @directive taken _ _ _ _ _ _ position _ _ _ _ hproper hselect hargument hkind htakes hmakes
      _ ih =>
    cases position with
    | next =>
      have hdigits : (Position.numbered (numberDigits taken)).IsProper :=
        ⟨Nat.toDigits_ne_nil, fun _ hc => mem_decimalDigits_of_mem_numberDigits hc⟩
      cases hselect
      exact .directive hdigits (selects_numberDigits .next) hargument hkind htakes hmakes ih
    | numbered digits => exact .directive hproper hselect hargument hkind htakes hmakes ih

/-! ### Reading names -/

theorem ofChar?_of_isSmallLetter {c : Char} (h : isSmallLetter c) : Mark.ofChar? c = none := by
  refine ofChar?_eq_none ?_
  rintro m rfl
  cases m <;> exact absurd h (by decide)

theorem namedIn_append (start : Nat) (first : Char) (read : List Char) {name : List Char}
    (hname : ∀ c ∈ name, continuesArgumentName c) (rest : List Char) :
    namedIn start first read (name ++ ':' :: rest) = namedLetter start (read ++ name) rest := by
  induction name generalizing read with
  | nil =>
    rw [List.nil_append, namedIn, if_neg (by decide), if_pos rfl, List.append_nil]
  | cons c name ih =>
    obtain ⟨hc, hname⟩ := List.forall_mem_cons.1 hname
    rw [List.cons_append, namedIn, if_pos hc, ih _ hname, List.append_assoc, List.singleton_append]

/-- A piece with a name is read as itself. -/
theorem namedFrom_chars (offset : Nat) {p : Piece String} (h : p.IsProperByName)
    (rest : List Char) :
    namedFrom offset (p.charsByName ++ rest) =
      (namedFrom (offset + p.charsByName.length) rest).cons p := by
  cases p with
  | plain c =>
    rw [Piece.charsByName, List.singleton_append, namedFrom, if_neg h, List.length_singleton]
  | mark m =>
    rw [Piece.charsByName, List.cons_append, List.singleton_append, namedFrom, if_pos rfl,
      namedAfter, Mark.ofChar?_char]
    rfl
  | directive name d =>
    have hname : isArgumentName name := h
    rw [isArgumentName] at hname
    cases hchars : name.toList with
    | nil => simp [hchars] at hname
    | cons c chars =>
      simp only [hchars, Bool.and_eq_true, List.all_eq_true] at hname
      obtain ⟨hsmall, hcontinues⟩ := hname
      have hread : String.ofList (c :: chars) = name := by rw [← hchars, String.ofList_toList]
      rw [Piece.charsByName, hchars, List.append_assoc, List.cons_append, List.cons_append,
        List.cons_append, namedFrom, if_pos rfl, namedAfter, ofChar?_of_isSmallLetter hsmall,
        if_pos hsmall]
      simp only [List.cons_append, List.nil_append, namedIn_append _ _ _ hcontinues, namedLetter,
        Directive.ofLetter?_letter, hread, List.length_append, List.length_cons, List.length_nil]
      congr 2

/-! ### Finding arguments by name -/

section Names

variable {names : List String} {arguments : List Argument}

/-- A name finds the argument that stands at its index. -/
theorem byName_zip (hnodup : names.Nodup) (hlen : names.length = arguments.length) (taken : Nat)
    {index : Nat} {a : Argument} (hargument : arguments[index]? = some a) :
    byName (names.zip arguments) taken (names[index]?.getD "") = .ok (index, a, taken) := by
  have hlt : index < names.length := hlen ▸ (List.getElem?_eq_some_iff.1 hargument).1
  have hpair : (names.zip arguments)[index]? = some (names[index], a) :=
    List.getElem?_zip_eq_some.2 ⟨List.getElem?_eq_getElem hlt, hargument⟩
  have hfind : (names.zip arguments).findIdx? (fun p => p.1 == names[index]) = some index := by
    obtain ⟨hbound, hvalue⟩ := List.getElem?_eq_some_iff.1 hpair
    refine List.findIdx?_eq_some_iff_getElem.2 ⟨hbound, by simp [hvalue], fun j hj hsame => ?_⟩
    rw [List.getElem_zip, beq_iff_eq] at hsame
    exact List.pairwise_iff_getElem.1 hnodup j index _ hlt hj hsame
  rw [List.getElem?_eq_getElem hlt, Option.getD_some, byName, hfind]
  simp only [hpair]

/-- Pieces with names give the same as the pieces from which they come. -/
theorem bindFrom_byName_of_takes (hnodup : names.Nodup) (hlen : names.length = arguments.length)
    (hnames : ∀ name ∈ names, isArgumentName name) {taken after : Nat}
    {pieces : List (Piece Position)} {fragments : List Fragment} {uses : List Nat}
    (h : Takes arguments taken pieces fragments uses after) (offset : Nat) :
    bindFrom (byName (names.zip arguments)) 0
        (namedFrom offset (spelledByName (named names pieces uses))) = .ok (fragments, 0) := by
  induction h generalizing offset with
  | nil => rfl
  | plain c hc _ ih =>
    have hproper : (Piece.plain c : Piece String).IsProperByName := hc
    rw [named, spelledByName_cons, namedFrom_chars _ hproper, bindFrom_plain, ih]
    rfl
  | @mark _ _ _ _ _ m _ hgives _ ih =>
    obtain rfl := Mark.gives_iff.1 hgives
    have hproper : (Piece.mark m : Piece String).IsProperByName := trivial
    rw [named, spelledByName_cons, namedFrom_chars _ hproper, bindFrom_mark, ih]
    rfl
  | @directive _ _ _ index _ _ _ _ d _ _ _ _ _ hargument _ _ hmakes _ ih =>
    have hlt : index < names.length := hlen ▸ (List.getElem?_eq_some_iff.1 hargument).1
    have hproper : (Piece.directive (names[index]?.getD "") d).IsProperByName := by
      rw [List.getElem?_eq_getElem hlt, Option.getD_some]
      exact hnames _ (List.getElem_mem hlt)
    rw [named, spelledByName_cons, namedFrom_chars _ hproper,
      bindFrom_directive _ (byName_zip hnodup hlen 0 hargument) (Directive.makes_iff.1 hmakes), ih]
    rfl

end Names

/-! ### The three ways -/

section Interpret

variable {template : String} {arguments : List Argument} {pieces : List (Piece Position)}
  {uses : List Nat} {code : Code}

theorem exists_isReadAs (hlen : arguments.length + 1 < wordCount)
    (h : interpret template arguments = .ok code) :
    ∃ pieces uses, IsReadAs template arguments pieces uses := by
  obtain ⟨pieces, fragments, uses, hchars, htakes, -⟩ :=
    (interpretPositional_eq_ok_iff hlen).1 (interpret_eq_ok_iff.1 h)
  exact ⟨pieces, uses, hchars, fragments, htakes⟩

/-- The code of a template is what its pieces give, joined. -/
theorem eq_assemble_of_takes (hlen : arguments.length + 1 < wordCount)
    (h : interpret template arguments = .ok code) (hchars : template.toList = spelled pieces)
    {fragments : List Fragment}
    (htakes : Takes arguments 0 pieces fragments uses arguments.length) :
    code = assemble fragments := by
  have hyields : Yields template arguments (assemble fragments) :=
    ⟨pieces, fragments, uses, hchars, htakes, joined_iff.2 rfl⟩
  have hcode := interpret_eq_ok_iff.1 h
  rw [hyields.interpretPositional_eq_ok hlen] at hcode
  exact (Except.ok.inj hcode).symm

theorem interpret_numbered (hlen : arguments.length + 1 < wordCount) {fragments : List Fragment}
    (h : Takes arguments 0 pieces fragments uses arguments.length) :
    interpret (String.ofList (spelled (numbered pieces uses))) arguments =
      .ok (assemble fragments) := by
  refine interpret_eq_ok_iff.2 (Yields.interpretPositional_eq_ok hlen ?_)
  exact ⟨_, fragments, uses, String.toList_ofList, h.numbered, joined_iff.2 rfl⟩

theorem interpretNamed_named {names : List String} (hnodup : names.Nodup)
    (hlen : names.length = arguments.length) (hnames : ∀ name ∈ names, isArgumentName name)
    {fragments : List Fragment} {after : Nat} (h : Takes arguments 0 pieces fragments uses after) :
    interpretNamed (String.ofList (spelledByName (named names pieces uses)))
        (names.zip arguments) = .ok (assemble fragments) := by
  have hvalid : (names.zip arguments).find? (fun a => !isArgumentName a.1) = none := by
    refine List.find?_eq_none.2 fun a ha => ?_
    simp [hnames a.1 (List.of_mem_zip ha).1]
  have hbind := bindFrom_byName_of_takes hnodup hlen hnames h 0
  have hreading : bindReading (byName (names.zip arguments))
      (namedPieces (String.ofList (spelledByName (named names pieces uses)))) =
        .ok (fragments, 0) := by
    rw [namedPieces, String.toList_ofList]
    exact hbind
  rw [interpretNamed, interpretNamedArguments, hvalid, hreading]
  rfl

/-- **The three ways of binding arguments agree.**  A template that goes through is read as pieces
that take all its arguments.  Written with the number of its argument at every directive that had
none, it has the same code; and so it has with names at all directives, one for each argument, if
these are different argument names.  There are fewer arguments than the greatest index that a
failure can tell, as in every list that fits in memory. -/
theorem interpret_eq_numbered_and_named (hlen : arguments.length < maxArgumentIndex)
    (h : interpret template arguments = .ok code) :
    (∃ pieces uses, IsReadAs template arguments pieces uses) ∧
      ∀ pieces uses, IsReadAs template arguments pieces uses →
        interpret (String.ofList (spelled (numbered pieces uses))) arguments = .ok code ∧
          ∀ names : List String, names.Nodup → names.length = arguments.length →
            (∀ name ∈ names, isArgumentName name) →
              interpretNamed (String.ofList (spelledByName (named names pieces uses)))
                (names.zip arguments) = .ok code := by
  have hword := lt_maxArgumentIndex_iff.1 hlen
  refine ⟨exists_isReadAs hword h, ?_⟩
  rintro pieces uses ⟨hchars, fragments, htakes⟩
  rw [eq_assemble_of_takes hword h hchars htakes]
  exact ⟨interpret_numbered hword htakes, fun names hnodup hlength hnames =>
    interpretNamed_named hnodup hlength hnames htakes⟩

/-- A template that uses its first argument twice, with a percent sign and a letter behind
directives, in all three ways. -/
theorem interpret_eq_numbered_and_named_of_text :
    interpret "%L%%%1Sx%[%N" [.text "a", .text "b"] =
        .ok [.text "a%", .stringLiteral "a", .text "x", .beginStatement, .name "b"] ∧
      interpret "%1L%%%1Sx%[%2N" [.text "a", .text "b"] =
        .ok [.text "a%", .stringLiteral "a", .text "x", .beginStatement, .name "b"] ∧
      interpretNamed "%left:L%%%left:Sx%[%right_2:N"
          [("left", .text "a"), ("right_2", .text "b")] =
        .ok [.text "a%", .stringLiteral "a", .text "x", .beginStatement, .name "b"] := by
  have hlen : [Argument.text "a", .text "b"].length < maxArgumentIndex := by decide
  have hcode : interpret "%L%%%1Sx%[%N" [.text "a", .text "b"] =
      .ok [.text "a%", .stringLiteral "a", .text "x", .beginStatement, .name "b"] := rfl
  have hread : IsReadAs "%L%%%1Sx%[%N" [.text "a", .text "b"]
      [.directive .next .literal, .mark .percent, .directive (.numbered ['1']) .stringLiteral,
        .plain 'x', .mark .beginStatement, .directive .next .name] [0, 0, 1] := by
    have hone : (Position.numbered ['1']).IsProper :=
      ⟨List.cons_ne_nil _ _, List.forall_mem_singleton.2 (by decide)⟩
    have hfirst : (Position.numbered ['1']).Selects 1 0 1 :=
      .again (numeral_numberDigits 0) Nat.zero_lt_one
    exact ⟨rfl, _, .directive trivial .next rfl (.text "a") rfl (.text "a") <| .mark .percent <|
      .directive hone hfirst rfl (.text "a") rfl (.quotedText "a") <| .plain 'x' (by decide) <|
      .mark .beginStatement <| .directive trivial .next rfl (.text "b") rfl (.name "b") (.nil 2)⟩
  obtain ⟨hnumbered, hnamed⟩ := (interpret_eq_numbered_and_named hlen hcode).2 _ _ hread
  exact ⟨hcode, hnumbered, hnamed ["left", "right_2"] (by decide) rfl (by decide)⟩

end Interpret

end Template

end KotlinSource
