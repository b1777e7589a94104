import KotlinSource.Proofs.Printing.PartLines

/-!
# Members on lines of their own

Members are held by types, where these are declared, and by the bodies of enum constants.  What
holds members opens a brace and ends its line; the parts of its body are lined up so that every
member finds its line started, and what is printed for it then begins that line.  The closing brace
finds its line started as well, unless the last nested type has no name.  A held type holds members
in its turn, so that all of this goes on at any depth.

## Main definitions

* `TypeDecl.IsBuilt`: types as they are built, with what they hold.
* `Holder`: what holds members; `Holder.opening`, `Holder.bodyEnd`, `Holder.closing` stand around
  them.
* `Holder.Within`: where what holds members stands in the tokens of a type.
* `TextPlace.Presents`: a member stands on lines of its own in the text of a place.

## Main results

* `Holder.tokens_eq`: what holds members is printed part by part.
* `TypeDecl.IsBuilt.presents_members`: every member stands on lines of its own.
* `TypeDecl.text_nestedObject`: a closing brace behind a nested type without a name.
-/

namespace KotlinSource

/-- A type that has been built: its builder accepted it, and the types and the bodies of enum
constants in it have been built before. -/
inductive TypeDecl.IsBuilt : TypeDecl Code → Prop
  | intro {draft : TypeDraft} {d : TypeDecl Code} (h : draft.check = .ok d)
    (htypes : ∀ t ∈ d.types, IsBuilt t) (hconstants : ∀ c ∈ d.constants, IsBuilt c.2) : IsBuilt d

/-- The names of enum constants are identifiers. -/
theorem TypeDecl.IsBuilt.isIdentifier {d : TypeDecl Code} (h : d.IsBuilt)
    {c : String × TypeDecl Code} (hc : c ∈ d.constants) : isIdentifier c.1 = true := by
  obtain ⟨hcheck, -, -⟩ := h
  obtain ⟨hfaults, rfl⟩ := accept_eq_ok_iff.1 hcheck
  simp only [faults, constantFaults, List.append_eq_nil_iff, List.flatMap_eq_nil_iff] at hfaults
  simpa [nameFaults] using hfaults.1.1.1.1.2.2 c hc

/-! ### What holds members -/

/-- What holds members: a type where it is declared, or the body of an enum constant. -/
inductive Holder where
  | type (t : TypeDecl Code)
  | constant (name : String) (body : TypeDecl Code)

namespace Holder

/-- The type with the members. -/
def decl : Holder → TypeDecl Code
  | type t => t
  | constant _ body => body

/-- What holds members, as a member. -/
def member : Holder → Member
  | type t => .type t.printed
  | constant name body => .constant name body.printed

/-- The parts of the body. -/
def parts (holder : Holder) : List BodyPart := holder.decl.printed.bodyParts

/-- The types and the enum constants among the members, which may hold members in their turn. -/
def Holds (holder : Holder) : Holder → Prop
  | type t => t ∈ holder.decl.types
  | constant name body => (name, body) ∈ holder.decl.constants

/-- What stands in front of the opening brace. -/
def head : Holder → Tokens
  | type t => operation .suspend ++
      t.name.elim (word "object" ++ t.printed.objectSupertype) t.printed.heading
  | constant name body => documentation body.printed.doc ++
      annotationLines body.printed.annotations ++ nameWord name ++
      if body.printed.superArguments.isEmpty then [] else codeArguments body.printed.superArguments

/-- The body of a type with a name is entered. -/
def entry : Holder → Tokens
  | type t => t.name.elim [] fun name =>
      [.enter name t.printed.nestedNames t.printed.functionNames]
  | constant _ _ => []

/-- The body of a type with a name is left. -/
def exit : Holder → Tokens
  | type t => t.name.elim [] fun _ => [.leave]
  | constant _ _ => []

/-- The closing brace.  That of a type with a name ends its line. -/
def brace : Holder → String
  | type t => if t.isAnonymous then "\x7d" else "\x7d\n"
  | constant _ _ => "\x7d"

/-- What stands in front of the members. -/
def opening (holder : Holder) : Tokens :=
  holder.head ++ word " \x7b\n" ++ holder.entry ++ operation (.indent 1)

/-- What stands between the members and the closing brace. -/
def bodyEnd (holder : Holder) : Tokens := operation (.unindent 1) ++ holder.exit

/-- The closing brace and what stands behind it. -/
def closing : Holder → Tokens
  | type t => word (type t).brace ++ operation .resume
  | constant name body => word (constant name body).brace

variable (holder : Holder)

/-- What stands in front of a member, behind the given parts. -/
def before (front : List BodyPart) : Tokens := holder.opening ++ partsTokens front

/-- What stands behind a member, in front of the given parts. -/
def behind (back : List BodyPart) : Tokens := partsTokens back ++ holder.bodyEnd ++ holder.closing

/-- What holds members is printed part by part. -/
theorem tokens_eq (hparts : holder.parts ≠ []) :
    holder.member.tokens =
      holder.opening ++ partsTokens holder.parts ++ holder.bodyEnd ++ holder.closing := by
  have hgroups : holder.decl.printed.memberGroups ≠ [] := by
    intro hnil
    rw [← TypeDecl.map_partsTokens_partGroups, List.map_eq_nil_iff] at hnil
    exact hparts (by rw [parts, TypeDecl.bodyParts, hnil]; rfl)
  rw [parts, TypeDecl.partsTokens_bodyParts]
  cases holder with
  | constant name body =>
    have hisEmpty : body.printed.memberGroups.isEmpty = false :=
      List.isEmpty_eq_false_iff.2 hgroups
    simp only [member, Member.tokens, TypeDecl.constantTokens, hisEmpty, block, opening, head,
      entry, bodyEnd, exit, closing, brace, decl, Bool.false_eq_true, if_false, List.append_assoc,
      List.nil_append]
  | type t =>
    have hisEmpty : t.printed.memberGroups.isEmpty = false := List.isEmpty_eq_false_iff.2 hgroups
    have hprinted : t.printed.name = t.name := TypeDecl.name_map _ t
    rw [member, Member.tokens, TypeDecl.tokens, TypeDecl.declarationTokens, hprinted]
    cases hname : t.name with
    | none =>
      have hnamed : t.isAnonymous = true := by rw [TypeDecl.isAnonymous, hname]; rfl
      simp only [TypeDecl.objectTokens, block, opening, head, entry, bodyEnd, exit, closing, brace,
        decl, hname, hnamed, Option.elim, if_true, List.append_assoc, List.nil_append]
    | some name =>
      have hnamed : t.isAnonymous = false := by rw [TypeDecl.isAnonymous, hname]; rfl
      simp only [TypeDecl.namedTokens, TypeDecl.bodyTokens, TypeDecl.heading, hisEmpty, opening,
        head, entry, bodyEnd, exit, closing, brace, decl, hname, hnamed, Option.elim,
        Bool.false_eq_true, if_false, List.append_assoc]

/-! ### Around the members -/

theorem settles_entry : Settles holder.entry := by
  have henter : ∀ name nested functions, Settles [.enter name nested functions] :=
    fun _ _ _ => ⟨fun _ => ⟨rfl, id⟩, by simp⟩
  cases holder with
  | constant name body => exact appendClosed_settles.nil
  | type t =>
    rw [entry]
    cases t.name with
    | none => exact appendClosed_settles.nil
    | some name => exact henter _ _ _

theorem settles_exit : Settles holder.exit := by
  have hleave : Settles [.leave] := ⟨fun _ => ⟨rfl, id⟩, by simp⟩
  cases holder with
  | constant name body => exact appendClosed_settles.nil
  | type t =>
    rw [exit]
    cases t.name with
    | none => exact appendClosed_settles.nil
    | some name => exact hleave

theorem settles_head : Settles holder.head := by
  cases holder with
  | constant name body =>
    have hpieces := body.settles_ownPieces
    refine appendClosed_settles.append (appendClosed_settles.append
      (settles_lines (hpieces _ (by simp [TypeDecl.ownPieces]))
        (NestClosed.forall_mem_annotations hpieces)) (nestClosed_settles.nameWord name)) ?_
    exact NestClosed.ite appendClosed_settles.nil
      (nestClosed_settles.codeArguments (NestClosed.forall_mem_superArguments hpieces))
  | type t =>
    refine appendClosed_settles.append (settles_layout rfl) ?_
    cases t.name with
    | none =>
      exact appendClosed_settles.append (nestClosed_settles.word "object")
        (nestClosed_settles.objectSupertype t.settles_ownPieces)
    | some name => exact nestClosed_settles.typeHeading name t.settles_ownPieces

theorem settles_opening : Settles holder.opening := by
  have hbrace := appendClosed_settles.append holder.settles_head (nestClosed_settles.word " \x7b\n")
  exact appendClosed_settles.append (appendClosed_settles.append hbrace holder.settles_entry)
    (settles_layout rfl)

theorem settles_bodyEnd : Settles holder.bodyEnd :=
  appendClosed_settles.append (settles_layout rfl) holder.settles_exit

theorem keepsLineStart_bodyEnd : KeepsLineStart holder.bodyEnd := by
  refine appendClosed_keepsLineStart.append (keepsLineStart_operation rfl) ?_
  cases holder with
  | constant name body => exact appendClosed_keepsLineStart.nil
  | type t =>
    rw [exit]
    cases t.name with
    | none => exact appendClosed_keepsLineStart.nil
    | some name => exact fun _ _ _ _ _ hw => hw

/-- Whatever comes behind it, the closing brace is what its line starts with. -/
theorem opens_closing : Opens holder.brace.toList holder.closing := by
  have hbrace : Opens "\x7d".toList (word "\x7d") := opens_word rfl (by decide)
  cases holder with
  | constant name body => exact hbrace
  | type t =>
    refine Opens.append ?_ _
    rw [brace]
    split_ifs
    · exact hbrace
    · have hline : Opens ("\x7d".toList ++ ['\n']) (word ("\x7d" ++ "\n")) :=
        opens_line (by decide) (by decide)
      exact hline

/-- Behind the opening brace a line starts. -/
theorem print_opening (w : Writer) (unit : List Char) (context : NamingContext)
    (table : Option ImportTable) (scopes : List Scope) :
    (w.print unit context table scopes holder.opening).started = true ∧
      (w.print unit context table scopes holder.opening).atLineStart = true := by
  have hentry : ∀ (w : Writer) (scopes : List Scope),
      w.print unit context table scopes holder.entry = w := by
    intro w scopes
    cases holder with
    | constant name body => rfl
    | type t =>
      rw [entry]
      cases t.name with
      | none => rfl
      | some name => rfl
  rw [opening, Writer.print_append_tokens, Writer.print_append_tokens, Writer.print_append_tokens,
    Writer.print_word, hentry]
  generalize w.print unit context table scopes holder.head = last
  exact ⟨last.started_emit_newline unit " \x7b",
    Writer.atLineStart_emit_newline (w := last) unit " \x7b"⟩

theorem settles_parts {parts : List BodyPart} (h : parts ⊆ holder.parts) :
    Settles (partsTokens parts) := by
  refine appendClosed_settles.flatMap fun part hpart => ?_
  cases part with
  | member m => exact (TypeDecl.member_mem_bodyParts.1 (h hpart)).settles
  | divider divider => exact divider.settles

/-! ### At any depth -/

/-- Where what holds members stands: in the tokens of the outer one, behind the tokens on the left
and in front of those on the right. -/
inductive Within (outer : Holder) : Tokens → Holder → Tokens → Prop
  | refl : Within outer [] outer []
  | step {left right : Tokens} {holder inner : Holder} {front back : List BodyPart}
    (h : Within outer left holder right) (hinner : holder.Holds inner)
    (hparts : holder.parts = front ++ .member inner.member :: back) :
    Within outer (left ++ holder.before front) inner (holder.behind back ++ right)

variable {holder} {front back : List BodyPart} {m : Member}

theorem tokens_eq_of_parts (h : holder.parts = front ++ .member m :: back) :
    holder.member.tokens = holder.before front ++ m.tokens ++ holder.behind back := by
  rw [holder.tokens_eq (by simp [h]), h, partsTokens_append, partsTokens_cons]
  simp only [before, behind, BodyPart.tokens, List.append_assoc]

theorem Holds.hasMember {inner : Holder} (h : holder.Holds inner) :
    holder.decl.HasMember inner.member := by
  cases inner with
  | type t => exact .type h
  | constant name body => exact .constant h

namespace Within

variable {outer : Holder} {left right : Tokens} (h : Within outer left holder right)

include h

theorem tokens_eq : outer.member.tokens = left ++ holder.member.tokens ++ right := by
  induction h with
  | refl => rw [List.nil_append, List.append_nil]
  | step _ _ hparts ih =>
    rw [ih, tokens_eq_of_parts hparts]
    simp only [List.append_assoc]

/-- Whatever is held has a place. -/
theorem exists_within {inner : Holder} (hinner : holder.Holds inner) :
    ∃ left' right', Within outer left' inner right' := by
  obtain ⟨front, back, hparts⟩ :=
    List.append_of_mem (TypeDecl.member_mem_bodyParts.2 hinner.hasMember)
  exact ⟨_, _, h.step hinner hparts⟩

theorem isBuilt (houter : outer.decl.IsBuilt) : holder.decl.IsBuilt := by
  induction h with
  | refl => exact houter
  | @step left right holder inner front back _ hinner _ ih =>
    obtain ⟨-, htypes, hconstants⟩ := ih
    cases inner with
    | type t => exact htypes t hinner
    | constant name body => exact hconstants (name, body) hinner

/-- In front of whatever is held the writer is settled. -/
theorem isSettled_writer {place : TextPlace} (hplace : place.IsSettled) :
    (place.writer left).IsSettled := by
  induction h with
  | refl => exact hplace
  | @step left right holder inner front back _ _ hparts ih =>
    rw [TextPlace.writer_append]
    exact ih.print (appendClosed_settles.append holder.settles_opening
      (holder.settles_parts (by simp [hparts]))) ..

end Within

end Holder

/-! ### Members in a text -/

/-- A member stands on lines of its own in the text of the place: it begins a line there, and so
does its declaration behind documentation and annotations. -/
structure TextPlace.Presents (place : TextPlace) (left : Tokens) (m : Member) (right : Tokens) :
    Prop where
  beginsLine : ∃ c, isSeen c = true ∧ place.BeginsLine left (m.tokens ++ right) [c]
  declaration : ∃ declaration c, m.tokens = m.preamble ++ declaration ∧ isSeen c = true ∧
    place.BeginsLine (left ++ m.preamble) (declaration ++ right) [c]

/-- Members start with a character that is seen, as the names of enum constants are identifiers. -/
theorem TextPlace.presents {place : TextPlace} {left right : Tokens} {m : Member}
    (hm : ∀ name body, m = .constant name body → isIdentifier name = true)
    (hpreamble : Settles m.preamble) (hw : (place.writer left).IsSettled)
    (hstart : (place.writer left).atLineStart = true) : place.Presents left m right := by
  obtain ⟨declaration, htokens, hvisible⟩ := Member.exists_tokens_eq hm
  have hpresented : ∀ {left rest : Tokens}, StartsVisibly rest → (place.writer left).IsSettled →
      (place.writer left).atLineStart = true →
      ∃ c, isSeen c = true ∧ place.BeginsLine left (rest ++ right) [c] := by
    rintro left rest ⟨c, hc, hopens⟩ hw hstart
    exact ⟨c, hc, (hopens.append right).beginsLine hw hstart⟩
  refine ⟨?_, ?_⟩
  · rw [htokens]
    exact hpresented (m.startsVisibly_preamble_append hvisible) hw hstart
  · have hbehind := place.writer_append left m.preamble
    obtain ⟨c, hc, hbegins⟩ := hpresented hvisible
      (hbehind ▸ hw.print hpreamble _ _ _ _)
      (hbehind ▸ m.keepsLineStart_preamble _ _ _ _ _ hstart)
    exact ⟨declaration, c, htokens, hc, hbegins⟩

namespace Holder

variable (holder : Holder) (place : TextPlace) (left : Tokens)

/-- Behind parts that end their line a line starts. -/
theorem atLineStart_writer_before {parts : List BodyPart}
    (h : ∀ last ∈ parts.getLast?, last.leavesLineOpen = false) :
    (place.writer (left ++ holder.before parts)).atLineStart = true := by
  rw [TextPlace.writer_append, before, Writer.print_append_tokens]
  obtain ⟨hstarted, hstart⟩ := holder.print_opening (place.writer left)
    place.options.indent.unit place.context place.table (left.foldl scopesAfter place.scopes)
  rcases List.eq_nil_or_concat parts with rfl | ⟨front, last, rfl⟩
  · rw [partsTokens_nil, Writer.print_nil]
    exact hstart
  · have hlast := BodyPart.endsItsLine (h last (by simp))
    rw [List.concat_eq_append, partsTokens_append, partsTokens_cons, partsTokens_nil,
      List.append_nil]
    exact hlast.append_left (partsTokens front) _ _ _ _ _ hstarted

/-- Only a nested type without a name leaves the line of the closing brace open. -/
theorem leavesLineOpen_getLast?_parts
    (h : ∀ t ∈ holder.decl.types.getLast?, t.isAnonymous = false) :
    ∀ last ∈ holder.parts.getLast?, last.leavesLineOpen = false := by
  refine holder.decl.printed.leavesLineOpen_getLast?_bodyParts fun t ht => ?_
  rw [TypeDecl.types_printed, List.getLast?_map] at ht
  obtain ⟨nested, hnested, rfl⟩ := Option.map_eq_some_iff.1 ht
  rw [TypeDecl.isAnonymous_printed]
  exact h nested hnested

variable {holder place left} (hw : (place.writer left).IsSettled)

include hw

/-- A member that is held begins its line. -/
theorem presents_of_parts (hbuilt : holder.decl.IsBuilt) (right : Tokens)
    {front back : List BodyPart} {m : Member} (h : holder.parts = front ++ .member m :: back) :
    place.Presents (left ++ holder.before front) m (holder.behind back ++ right) := by
  have hmember : holder.decl.HasMember m := TypeDecl.member_mem_bodyParts.1 (by
    rw [show holder.decl.printed.bodyParts = holder.parts from rfl, h]
    simp)
  have hlined := holder.decl.printed.linedUp_bodyParts
  rw [show holder.decl.printed.bodyParts = holder.parts from rfl, h] at hlined
  refine TextPlace.presents ?_ hmember.settles_preamble ?_
    (holder.atLineStart_writer_before place left hlined.leavesLineOpen_getLast?)
  · rintro name body rfl
    cases hmember with
    | constant hc => exact hbuilt.isIdentifier hc
  · rw [TextPlace.writer_append]
    exact hw.print (appendClosed_settles.append holder.settles_opening
      (holder.settles_parts (by simp [h]))) ..

/-- The closing brace begins its line. -/
theorem beginsLine_closing (hlast : ∀ t ∈ holder.decl.types.getLast?, t.isAnonymous = false)
    (right : Tokens) :
    place.BeginsLine (left ++ holder.before holder.parts ++ holder.bodyEnd)
      (holder.closing ++ right) holder.brace.toList := by
  have hbehind := place.writer_append (left ++ holder.before holder.parts) holder.bodyEnd
  have hstart := holder.atLineStart_writer_before place left
    (holder.leavesLineOpen_getLast?_parts hlast)
  have hsettled : (place.writer (left ++ holder.before holder.parts)).IsSettled := by
    rw [TextPlace.writer_append]
    exact hw.print (appendClosed_settles.append holder.settles_opening
      (holder.settles_parts (List.Subset.refl _))) ..
  refine (holder.opens_closing.append right).beginsLine ?_ ?_
  · exact hbehind ▸ hsettled.print holder.settles_bodyEnd _ _ _ _
  · exact hbehind ▸ holder.keepsLineStart_bodyEnd _ _ _ _ _ hstart

end Holder

namespace TypeDecl

/-- **Every member stands on lines of its own.**  Take a type that was built, in any place where the
writer arrives settled, and anything in it that holds members: the type itself, or a nested type or
the body of an enum constant at any depth.  Its parts hold exactly the enum constants, properties,
initializers, constructors, functions and nested types of its body.  Each of them begins a line,
with nothing but blanks in front of it, and so does its declaration behind its documentation and
annotations.  So does the closing brace, unless the last nested type has no name; the brace of a
type with a name is alone on its line.  Properties that the primary constructor declares and the
members of an annotation class have no lines, as they stand in the header.

A text of its own is such a place (`TextPlace.isSettled_detached`), and the types of a file stand in
such places (`FileDecl.exists_settled_place`). -/
theorem IsBuilt.presents_members {d : TypeDecl Code} (hd : d.IsBuilt) {place : TextPlace}
    (hplace : place.IsSettled) {left right : Tokens} {holder : Holder}
    (h : (Holder.type d).Within left holder right) :
    (∀ m, .member m ∈ holder.parts ↔ holder.decl.HasMember m) ∧
    (∀ inner, holder.Holds inner → ∃ left' right', (Holder.type d).Within left' inner right') ∧
    (∀ front m back, holder.parts = front ++ .member m :: back →
      d.printed.tokens =
        left ++ holder.before front ++ m.tokens ++ (holder.behind back ++ right) ∧
      place.Presents (left ++ holder.before front) m (holder.behind back ++ right)) ∧
    (holder.parts ≠ [] →
      d.printed.tokens =
        left ++ holder.before holder.parts ++ holder.bodyEnd ++ (holder.closing ++ right) ∧
      ((∀ t ∈ holder.decl.types.getLast?, t.isAnonymous = false) →
        place.BeginsLine (left ++ holder.before holder.parts ++ holder.bodyEnd)
          (holder.closing ++ right) holder.brace.toList)) := by
  have htokens : d.printed.tokens = left ++ holder.member.tokens ++ right := h.tokens_eq
  have hw := h.isSettled_writer hplace
  refine ⟨fun m => member_mem_bodyParts, fun inner hinner => h.exists_within hinner,
    fun front m back hparts => ⟨?_, Holder.presents_of_parts hw (h.isBuilt hd) right hparts⟩,
    fun hparts => ⟨?_, fun hlast => Holder.beginsLine_closing hw hlast right⟩⟩
  · rw [htokens, Holder.tokens_eq_of_parts hparts]
    simp only [List.append_assoc]
  · rw [htokens, holder.tokens_eq hparts]
    simp only [Holder.before, List.append_assoc]

/-- The body of an enum constant with a function. -/
def highBody : TypeDecl Code :=
  { emptyBody with
    functions := [{ FunctionDecl.start (some "pick") with body := [.text "run()"] }] }

/-- The parts of an enum `Level` with members of all kinds, a type without a name among them. -/
def levelParts : List TypePart :=
  [.constant "LOW" { emptyBody with doc := [.text "Quiet."] },
    .constant "HIGH" highBody,
    .property { PropertyDecl.start "count" (.primitive .int) with isStatic := true },
    .staticBlock [.text "load()"],
    .property { PropertyDecl.start "label" (.primitive .int) with
      doc := [.text "Shown."], initializer := some [.text "id"] },
    .initBlock [.text "check()"],
    .function { FunctionDecl.start none with doc := [.text "Made."] },
    .function (FunctionDecl.start (some "reset")),
    .type (TypeDraft.start .plainClass none).decl,
    .type (TypeDraft.start .plainClass (some "Entry")).decl]

/-- The ten members of this enum and the one in the body of its second constant stand on lines of
their own in its text, and its closing brace is alone on its line. -/
theorem presents_members_level :
    ∃ d left right, build .enumClass (some "Level") levelParts = .ok d ∧ d.IsBuilt ∧
      TextPlace.detached.text d.printed.tokens =
        "enum class Level \x7b\n  /**\n   * Quiet.\n   */\n  LOW,\n" ++
        "  HIGH \x7b\n    fun pick() \x7b\n      run()\n    \x7d\n  \x7d;\n\n" ++
        "  companion object \x7b\n    val count: Int\n\n" ++
        "    init \x7b\n      load()\n    \x7d\n  \x7d\n\n" ++
        "  /**\n   * Shown.\n   */\n  val label: Int = id\n\n" ++
        "  init \x7b\n    check()\n  \x7d\n\n  /**\n   * Made.\n   */\n  constructor()\n\n" ++
        "  fun reset() \x7b\n  \x7d\n\n  object \x7b\n  \x7d\n\n  class Entry\n\x7d\n" ∧
      ((Holder.type d).parts.filter BodyPart.isMember).length = 10 ∧
      (∀ front m back, (Holder.type d).parts = front ++ .member m :: back →
        TextPlace.detached.Presents ((Holder.type d).before front) m
          ((Holder.type d).behind back ++ [])) ∧
      TextPlace.detached.BeginsLine
        ((Holder.type d).before (Holder.type d).parts ++ (Holder.type d).bodyEnd)
        ((Holder.type d).closing ++ []) "\x7d\n".toList ∧
      (Holder.type d).Within left (.constant "HIGH" highBody) right ∧
      ∀ front m back, (Holder.constant "HIGH" highBody).parts = front ++ .member m :: back →
        TextPlace.detached.Presents (left ++ (Holder.constant "HIGH" highBody).before front) m
          ((Holder.constant "HIGH" highBody).behind back ++ right) := by
  let d := (levelParts.foldl TypeDraft.add (.start .enumClass (some "Level"))).decl
  have hbuild : build .enumClass (some "Level") levelParts = .ok d := rfl
  -- What the enum holds, holds nothing that is to be built before.
  have hflat : ∀ t : TypeDecl Code, t.faults none = [] → t.types = [] → t.constants = [] →
      t.IsBuilt := fun t hfaults htypes hconstants =>
    .intro (accept_eq_ok_iff.2 ⟨hfaults, rfl⟩ : (TypeDraft.ofDecl t).check = .ok t)
      (by simp [htypes]) (by simp [hconstants])
  have htypes : d.types = [(TypeDraft.start .plainClass none).decl,
      (TypeDraft.start .plainClass (some "Entry")).decl] := rfl
  have hconstants : d.constants =
      [("LOW", { emptyBody with doc := [.text "Quiet."] }), ("HIGH", highBody)] := rfl
  have hbuilt : d.IsBuilt := by
    refine .intro hbuild ?_ ?_
    · simp only [htypes, List.forall_mem_cons]
      exact ⟨hflat _ rfl rfl rfl, hflat _ rfl rfl rfl, by simp⟩
    · simp only [hconstants, List.forall_mem_cons]
      exact ⟨hflat _ rfl rfl rfl, hflat _ rfl rfl rfl, by simp⟩
  obtain ⟨-, hinner, hmembers, hbrace⟩ :=
    hbuilt.presents_members TextPlace.isSettled_detached Holder.Within.refl
  obtain ⟨left, right, hwithin⟩ := hinner (.constant "HIGH" highBody) (by
    simp [Holder.Holds, Holder.decl, hconstants])
  have hhigh := (hbuilt.presents_members TextPlace.isSettled_detached hwithin).2.2.1
  have hcount : ((Holder.type d).parts.filter BodyPart.isMember).length = 10 := by decide +kernel
  have hparts : (Holder.type d).parts ≠ [] := by
    intro hnil
    rw [hnil] at hcount
    cases hcount
  refine ⟨d, left, right, hbuild, hbuilt, ?_, hcount,
    fun front m back h => (hmembers front m back h).2, (hbrace hparts).2 (by decide), hwithin,
    fun front m back h => (hhigh front m back h).2⟩
  rw [TextPlace.text_detached]
  decide +kernel

/-- The closing brace does not begin a line behind a nested type without a name. -/
theorem text_nestedObject :
    ∃ d, build .plainClass (some "A") [.type (TypeDraft.start .plainClass none).decl] = .ok d ∧
      TextPlace.detached.text d.printed.tokens = "class A \x7b\n  object \x7b\n  \x7d\x7d\n" ∧
      ¬ TextPlace.detached.BeginsLine
        ((Holder.type d).before (Holder.type d).parts ++ (Holder.type d).bodyEnd)
        (Holder.type d).closing "\x7d\n".toList := by
  refine ⟨_, rfl, ?_, ?_⟩
  · rw [TextPlace.text_detached]
    decide +kernel
  · rintro ⟨front, -, hfront, -, hblank⟩
    -- Neither the class nor the object holds break points, so that its items are characters.
    have hchars : front = "class A \x7b\n  object \x7b\n  \x7d".toList.map .char :=
      eq_chars_of_map_glyph (hfront.trans (by decide +kernel))
    rw [hchars, itemsText_chars] at hblank
    rcases hblank '\x7d' (by decide) with h | h <;> cases h

end TypeDecl

end KotlinSource
