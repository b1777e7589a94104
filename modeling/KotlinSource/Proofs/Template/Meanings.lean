import KotlinSource.Template.Interpretation
import Mathlib.Data.List.Induction

/-!
# What stands in a template and what it means

The number of a directive is a numeral, a mark stands for one instruction or for a percent sign, and
a directive makes text or instructions of an argument whose kind fits.  These meanings are listed
here case by case, without the reader; each list is then found to be what the reader computes.

## Main definitions

* `decimalDigits`, `Numeral`: the digits in their order, and the number that digits write.
* `wordCount`: the first number that is too great for a machine word.
* `Argument.HasKind`, `Directive.takes`: the kind of an argument, and the kinds that fit a
  directive.
* `Mark.Gives`, `Directive.Makes`: what a mark gives, and what a directive makes of an argument.
* `Template.IsRun`: the code of a run of text.

## Main results

* `Numeral.decimalValue_eq`, `exists_numeral`: digits write exactly one number.
* `Directive.exists_makes_iff`: a directive makes something of the arguments whose kind fits.
* `Mark.gives_iff`, `Directive.makes_iff`, `Template.isRun_iff`: the reader computes these meanings.
-/

namespace KotlinSource

/-! ### Numbers -/

/-- The decimal digits, each at the index of its value. -/
def decimalDigits : List Char := ['0', '1', '2', '3', '4', '5', '6', '7', '8', '9']

/-- The number of machine words of 64 bits, which is the first number too great for one. -/
def wordCount : Nat := 18446744073709551616

example : wordCount = Nat.pow 2 64 := rfl

/-- The number that decimal digits write; no digits write zero. -/
inductive Numeral : List Char → Nat → Prop
  | nil : Numeral [] 0
  | snoc {digits : List Char} {value digit : Nat} {c : Char} (h : Numeral digits value)
      (hc : decimalDigits[digit]? = some c) : Numeral (digits ++ [c]) (10 * value + digit)

namespace Template

theorem isDigit_iff {c : Char} : isDigit c ↔ c ∈ decimalDigits := by
  have hall : ∀ k < 10, Char.ofNat (48 + k) ∈ decimalDigits := by decide
  have hback : decimalDigits.all isDigit := by decide
  refine ⟨fun h => ?_, List.all_eq_true.1 hback c⟩
  have hrange : 48 ≤ c.toNat ∧ c.toNat ≤ 57 := by
    simpa [isDigit, Char.le_def, UInt32.le_iff_toNat_le] using h
  have hmem := hall (c.toNat - 48) (by omega)
  rwa [Nat.add_sub_cancel' hrange.1, Char.ofNat_toNat] at hmem

end Template

theorem toNat_of_decimalDigits {digit : Nat} {c : Char} (h : decimalDigits[digit]? = some c) :
    c.toNat - '0'.toNat = digit := by
  have hall : ∀ k < 10, decimalDigits[k]?.any fun e => e.toNat - '0'.toNat == k := by decide
  simpa [h] using hall digit (List.getElem?_eq_some_iff.1 h).1

theorem maxArgumentIndex_eq : maxArgumentIndex = wordCount - 1 := rfl

theorem lt_maxArgumentIndex_iff {n : Nat} : n < maxArgumentIndex ↔ n + 1 < wordCount := by
  rw [maxArgumentIndex_eq, Nat.lt_sub_iff_add_lt]

theorem Numeral.decimalValue_eq {digits : List Char} {value : Nat} (h : Numeral digits value) :
    decimalValue digits = value := by
  induction h with
  | nil => rfl
  | snoc _ hc ih =>
    rw [decimalValue, List.foldl_append, ← decimalValue, ih, List.foldl_cons, List.foldl_nil,
      toNat_of_decimalDigits hc]

/-- Digits write a number. -/
theorem exists_numeral {digits : List Char} (h : ∀ c ∈ digits, c ∈ decimalDigits) :
    ∃ value, Numeral digits value := by
  induction digits using List.reverseRecOn with
  | nil => exact ⟨0, .nil⟩
  | append_singleton digits c ih =>
    obtain ⟨hdigits, hc⟩ := List.forall_mem_append.1 h
    obtain ⟨value, hvalue⟩ := ih hdigits
    obtain ⟨digit, hdigit⟩ := List.mem_iff_getElem?.1 (hc c (List.mem_singleton_self c))
    exact ⟨10 * value + digit, hvalue.snoc hdigit⟩

theorem numeral_iff {digits : List Char} (h : ∀ c ∈ digits, c ∈ decimalDigits) {value : Nat} :
    Numeral digits value ↔ decimalValue digits = value := by
  refine ⟨Numeral.decimalValue_eq, ?_⟩
  rintro rfl
  obtain ⟨value, hvalue⟩ := exists_numeral h
  rwa [hvalue.decimalValue_eq]

/-! ### Arguments and their kinds -/

/-- The kind of an argument. -/
inductive Argument.HasKind : Argument → ArgumentKind → Prop
  | text (s : String) : HasKind (.text s) .text
  | literal (s : String) : HasKind (.literal s) .literal
  | null : HasKind .null .null
  | type (t : TypeName) : HasKind (.type t) .type
  | member (m : MemberName) : HasKind (.member m) .member
  | code (c : Code) : HasKind (.code c) .code
  | object (decl : TypeDecl Code) : HasKind (.object decl) .object

theorem Argument.hasKind_iff {a : Argument} {kind : ArgumentKind} :
    a.HasKind kind ↔ a.kind = kind := by
  refine ⟨fun h => by cases h <;> rfl, ?_⟩
  rintro rfl
  cases a <;> constructor

/-- The kinds of arguments that fit a directive: all of them for `%L`, what has a text for `%S`, and
one kind for each of the others. -/
def Directive.takes : Directive → ArgumentKind → Bool
  | .literal, _ => true
  | .stringLiteral, kind => kind = .text || kind = .literal || kind = .null
  | .type, kind => kind = .type
  | .name, kind => kind = .text
  | .member, kind => kind = .member

/-! ### What marks and directives give -/

/-- What a mark gives: a percent sign, or its instruction. -/
inductive Mark.Gives : Mark → Fragment → Prop
  | percent : Gives .percent (.text ['%'])
  | indent : Gives .indent (.code [.indent])
  | unindent : Gives .unindent (.code [.unindent])
  | beginStatement : Gives .beginStatement (.code [.beginStatement])
  | endStatement : Gives .endStatement (.code [.endStatement])
  | wrap : Gives .wrap (.code [.wrap])

theorem Mark.gives_iff {m : Mark} {fragment : Fragment} :
    m.Gives fragment ↔ fragment = m.fragment := by
  refine ⟨fun h => by cases h <;> rfl, ?_⟩
  rintro rfl
  cases m <;> constructor

/-- What a directive makes of an argument.  Text, numbers, truth values, types and members have a
text of their own, which joins the text around a directive `%L`; code and objects take its place as
instructions.  The null value is written without quotes by both `%L` and `%S`. -/
inductive Directive.Makes : Directive → Argument → Fragment → Prop
  | text (s : String) : Makes .literal (.text s) (.text s.toList)
  | literal (s : String) : Makes .literal (.literal s) (.text s.toList)
  | null : Makes .literal .null (.text ['n', 'u', 'l', 'l'])
  | canonicalType (t : TypeName) : Makes .literal (.type t) (.text t.canonical.toList)
  | canonicalMember (m : MemberName) : Makes .literal (.member m) (.text m.canonicalName.toList)
  | code (c : Code) : Makes .literal (.code c) (.code c)
  | object (decl : TypeDecl Code) : Makes .literal (.object decl) (.code [.object decl])
  | quotedText (s : String) : Makes .stringLiteral (.text s) (.code [.stringLiteral s])
  | quotedLiteral (s : String) : Makes .stringLiteral (.literal s) (.code [.stringLiteral s])
  | unquotedNull : Makes .stringLiteral .null (.text ['n', 'u', 'l', 'l'])
  | type (t : TypeName) : Makes .type (.type t) (.code [.type t])
  | name (s : String) : Makes .name (.text s) (.code [.name s])
  | member (m : MemberName) : Makes .member (.member m) (.code [.member m])

theorem Directive.makes_iff {d : Directive} {a : Argument} {fragment : Fragment} :
    d.Makes a fragment ↔ a.fragment? d = some fragment := by
  refine ⟨fun h => by cases h <;> rfl, fun h => ?_⟩
  cases d <;> cases a <;> cases h <;> constructor

theorem Argument.isSome_fragment? (a : Argument) (d : Directive) :
    (a.fragment? d).isSome = d.takes a.kind := by
  cases d <;> cases a <;> rfl

/-- A directive makes something of exactly the arguments whose kind fits. -/
theorem Directive.exists_makes_iff {d : Directive} {a : Argument} {kind : ArgumentKind}
    (hkind : a.HasKind kind) : (∃ fragment, d.Makes a fragment) ↔ d.takes kind := by
  obtain rfl := Argument.hasKind_iff.1 hkind
  simp only [makes_iff, ← Option.isSome_iff_exists, Argument.isSome_fragment?]

/-! ### Runs of text -/

/-- The code of a run of text: one instruction, and none for an empty run. -/
inductive Template.IsRun : List Char → Code → Prop
  | empty : IsRun [] []
  | text {chars : List Char} (hne : chars ≠ []) : IsRun chars [.text (String.ofList chars)]

theorem Template.isRun_iff {chars : List Char} {code : Code} :
    IsRun chars code ↔ code = textRun chars := by
  refine ⟨fun h => ?_, ?_⟩
  · cases h with
    | empty => rfl
    | text hne => simp [textRun, hne]
  · rintro rfl
    by_cases hne : chars = []
    · subst hne
      exact .empty
    · simpa [textRun, hne] using IsRun.text hne

end KotlinSource
