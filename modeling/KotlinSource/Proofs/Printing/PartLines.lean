import KotlinSource.Proofs.Printing.BodyParts
import KotlinSource.Proofs.Printing.Lines

/-!
# How the parts of a body start and end

Each kind of member has its own way of ending its line, and some leave that to what stands behind
them.  All of them start with a character that is seen, and so do their declarations behind
documentation and annotations.

## Main results

* `Member.exists_tokens_eq`, `Member.startsVisibly_preamble_append`: how members start.
* `Member.endsItsLine`, `BodyPart.endsItsLine`: how members and other parts end.
* `TypeDecl.HasMember.settles`, `Divider.settles`: writers are settled behind them.
-/

namespace KotlinSource

/-! ### How parts start and end -/

/-- Identifiers start with a character that is seen. -/
theorem StartsVisibly.nameWord {name : String} (h : isIdentifier name = true) :
    StartsVisibly (nameWord name) := by
  rw [KotlinSource.nameWord, safeName]
  split_ifs
  · have hquote : ("\x60" ++ name ++ "\x60").toList.head? = some '\x60' := by simp
    exact word (by rw [hquote]; decide)
  · refine word ?_
    rw [isIdentifier] at h
    cases hname : name.toList with
    | nil => simp [hname, isIdentifierChars] at h
    | cons c rest =>
      rw [hname, isIdentifierChars, Bool.and_eq_true] at h
      have hblank : startsIdentifier ' ' = false ∧ startsIdentifier '\t' = false ∧
          startsIdentifier '\n' = false := by decide
      have hc : ∀ c', startsIdentifier c' = false → c ≠ c' := by
        rintro c' hc' rfl
        exact Bool.noConfusion (hc'.symm.trans h.1)
      simp [isSeen, hc _ hblank.1, hc _ hblank.2.1, hc _ hblank.2.2]

theorem PropertyDecl.startsVisibly_keyword (p : PropertyDecl Tokens) :
    StartsVisibly (word p.keyword) := by
  cases hmutable : p.isMutable <;> exact .word (by simp [keyword, hmutable]; decide)

theorem FunctionDecl.startsVisibly_introduction (f : FunctionDecl Tokens) :
    StartsVisibly f.introduction := by
  rw [introduction]
  split
  · exact .word (by decide)
  · have hkeyword : StartsVisibly (word "fun ") := .word (by decide)
    exact ((hkeyword.append _).append _).append _

theorem TypeKind.startsVisibly_keyword (kind : TypeKind) :
    StartsVisibly (word (kind.keyword ++ " ")) := by
  cases kind <;> exact .word (by decide)

namespace Member

theorem keepsLineStart_preamble (m : Member) : KeepsLineStart m.preamble := by
  have hlines : ∀ (doc : Tokens) (annotations : List (AnnotationUse Tokens)),
      KeepsLineStart (documentation doc ++ annotationLines annotations) := fun doc annotations =>
    appendClosed_keepsLineStart.append (keepsLineStart_documentation doc)
      (keepsLineStart_annotationLines annotations)
  cases m with
  | constant name body => exact hlines _ _
  | property p => exact hlines _ _
  | initializer code => exact appendClosed_keepsLineStart.nil
  | function inInterface f => exact hlines _ _
  | type t =>
    refine appendClosed_keepsLineStart.append (keepsLineStart_operation rfl) ?_
    split_ifs
    · exact appendClosed_keepsLineStart.nil
    · exact hlines _ _

/-- What stands in front of a declaration starts visibly, or there is nothing to be seen of it. -/
theorem startsVisibly_preamble_append (m : Member) {declaration : Tokens}
    (h : StartsVisibly declaration) : StartsVisibly (m.preamble ++ declaration) := by
  have hlines : ∀ (doc : Tokens) (annotations : List (AnnotationUse Tokens)),
      StartsVisibly (documentation doc ++ annotationLines annotations ++ declaration) := by
    intro doc annotations
    rw [List.append_assoc]
    exact (h.annotationLines_append annotations).documentation_append doc
  cases m with
  | constant name body => exact hlines _ _
  | property p => exact hlines _ _
  | initializer code => exact h
  | function inInterface f => exact hlines _ _
  | type t =>
    rw [preamble, List.append_assoc]
    refine StartsVisibly.operation_append ?_ (.inl rfl)
    split_ifs
    · exact h
    · exact hlines _ _

/-- Behind documentation and annotations stands the declaration. -/
theorem exists_tokens_eq {m : Member}
    (h : ∀ name body, m = .constant name body → isIdentifier name = true) :
    ∃ declaration, m.tokens = m.preamble ++ declaration ∧ StartsVisibly declaration := by
  suffices hfirst : ∃ first, StartsVisibly first ∧
      ∃ rest, m.tokens = m.preamble ++ (first ++ rest) by
    obtain ⟨first, hvisible, rest, htokens⟩ := hfirst
    exact ⟨_, htokens, hvisible.append rest⟩
  cases m with
  | constant name body =>
    refine ⟨nameWord name, .nameWord (h name body rfl), ?_⟩
    simp only [tokens, preamble, TypeDecl.constantTokens, List.append_assoc]
    exact ⟨_, rfl⟩
  | property p =>
    have hkeyword := p.startsVisibly_keyword.modifierWords_append [.publicAccess] p.modifiers
    refine ⟨_, hkeyword.operation_append (.inr rfl), ?_⟩
    simp only [tokens, preamble, PropertyDecl.tokens, List.append_assoc]
    exact ⟨_, rfl⟩
  | initializer code =>
    refine ⟨word "init", .word (by decide), ?_⟩
    simp only [tokens, preamble, KotlinSource.initializer, List.append_assoc]
    exact ⟨_, rfl⟩
  | function inInterface f =>
    refine ⟨_, f.startsVisibly_introduction.modifierWords_append
      (FunctionDecl.impliedModifiers inInterface) f.modifiers, ?_⟩
    simp only [tokens, preamble, FunctionDecl.tokens, List.append_assoc]
    exact ⟨_, rfl⟩
  | type t =>
    cases hname : t.name with
    | none =>
      have hnamed : t.isAnonymous = true := by rw [TypeDecl.isAnonymous, hname]; rfl
      refine ⟨word "object", .word (by decide), ?_⟩
      simp only [tokens, preamble, TypeDecl.tokens, TypeDecl.declarationTokens, hname, hnamed,
        TypeDecl.objectTokens, List.append_assoc]
      exact ⟨_, rfl⟩
    | some name =>
      have hnamed : t.isAnonymous = false := by rw [TypeDecl.isAnonymous, hname]; rfl
      refine ⟨_, t.kind.startsVisibly_keyword.modifierWords_append [.publicAccess] t.modifiers, ?_⟩
      simp only [tokens, preamble, TypeDecl.tokens, TypeDecl.declarationTokens, hname, hnamed,
        TypeDecl.namedTokens, Bool.false_eq_true, if_false, List.append_assoc]
      exact ⟨_, rfl⟩

/-- Members that do not leave their line open end it. -/
theorem endsItsLine {m : Member} (h : m.leavesLineOpen = false) : EndsItsLine m.tokens := by
  cases m with
  | constant name body => cases h
  | property p =>
    exact (endsItsLine_endLine.append_left _).append (keepsLineStart_operation rfl)
  | initializer code => exact (endsItsLine_word "").append_left _
  | function inInterface f => exact (endsItsLine_word "").append_left _
  | type t =>
    obtain ⟨name, hname⟩ := Option.isSome_iff_exists.1 (Option.isNone_eq_false_iff.1 h)
    have hbody : EndsItsLine (TypeDecl.bodyTokens name t t.memberGroups) := by
      rw [TypeDecl.bodyTokens]
      split_ifs
      · exact endsItsLine_word ""
      · exact (endsItsLine_word "\x7d").append_left _
    rw [tokens, TypeDecl.tokens, TypeDecl.declarationTokens, hname]
    exact (hbody.append_left _).append (keepsLineStart_operation rfl)

end Member

theorem Divider.endsItsLine (divider : Divider) : EndsItsLine divider.tokens := by
  cases divider with
  | comma => exact endsItsLine_word ","
  | constantsEnd isLast =>
    cases isLast
    · exact endsItsLine_word ";"
    · exact endsItsLine_word ""
  | companionStart =>
    exact ((endsItsLine_word " \x7b").append_left _).append (keepsLineStart_operation rfl)
  | companionEnd => exact (endsItsLine_word "").append_left _
  | blankLine => exact endsItsLine_blankLine

theorem BodyPart.endsItsLine {part : BodyPart} (h : part.leavesLineOpen = false) :
    EndsItsLine part.tokens := by
  cases part with
  | member m => exact Member.endsItsLine h
  | divider d => exact d.endsItsLine

/-! ### Parts leave writers settled -/

theorem Divider.settles (divider : Divider) : Settles divider.tokens := by
  cases divider with
  | companionStart =>
    exact appendClosed_settles.append
      (appendClosed_settles.append (settles_layout rfl) (settles_layout rfl)) (settles_layout rfl)
  | companionEnd =>
    exact appendClosed_settles.append
      (appendClosed_settles.append (settles_layout rfl) (settles_layout rfl)) (settles_layout rfl)
  | _ => exact settles_layout rfl

/-- Whatever code a property holds, it is printed so that a writer stays settled. -/
theorem PropertyDecl.settles_pieces (p : PropertyDecl Code) :
    ∀ piece ∈ p.printed.pieces, Settles piece := by
  rw [printed, pieces_map]
  exact List.forall_mem_map.2 fun piece _ => settles_code piece

theorem FunctionDecl.settles_pieces (f : FunctionDecl Code) :
    ∀ piece ∈ f.printed.pieces, Settles piece := by
  rw [printed, pieces_map]
  exact List.forall_mem_map.2 fun piece _ => settles_code piece

theorem TypeDecl.settles_ownPieces (d : TypeDecl Code) :
    ∀ piece ∈ d.printed.ownPieces, Settles piece := by
  rw [printed, ownPieces_map]
  exact List.forall_mem_map.2 fun piece _ => settles_code piece

theorem TypeDecl.settles_memberGroups (d : TypeDecl Code) :
    ∀ g ∈ d.printed.memberGroups, Settles g :=
  nestClosed_settles.printedGroups (fun piece _ => settles_code piece) fun t _ =>
    bodyClosed_settles t

theorem settles_lines {doc : Tokens} {annotations : List (AnnotationUse Tokens)}
    (hdoc : Settles doc) (h : ∀ piece ∈ annotations.flatMap AnnotationUse.pieces, Settles piece) :
    Settles (documentation doc ++ annotationLines annotations) :=
  nestClosed_settles.append (nestClosed_settles.documentation hdoc)
    (nestClosed_settles.annotationLines h)

namespace TypeDecl.HasMember

variable {d : TypeDecl Code} {m : Member} (h : d.HasMember m)

include h

theorem settles_preamble : Settles m.preamble := by
  cases h with
  | @constant c h =>
    have hpieces := c.2.settles_ownPieces
    exact settles_lines (hpieces _ (by simp [ownPieces]))
      (NestClosed.forall_mem_annotations hpieces)
  | @property p h hline =>
    have hpieces := p.settles_pieces
    simp only [PropertyDecl.pieces, List.forall_mem_append] at hpieces
    exact settles_lines (hpieces.1.1 _ List.mem_cons_self) hpieces.1.2
  | companionCode h => exact appendClosed_settles.nil
  | initCode h => exact appendClosed_settles.nil
  | @function f h hkind =>
    have hpieces := f.settles_pieces
    exact settles_lines (hpieces _ (by simp [FunctionDecl.pieces])) fun piece hpiece =>
      hpieces piece (by simp [FunctionDecl.pieces, hpiece])
  | @type t h =>
    have hpieces := t.settles_ownPieces
    refine appendClosed_settles.append (settles_layout rfl)
      (NestClosed.ite appendClosed_settles.nil ?_)
    exact settles_lines (nestClosed_settles.documentationTokens hpieces)
      (NestClosed.forall_mem_annotations hpieces)

theorem settles : Settles m.tokens := by
  cases h with
  | @constant c h =>
    exact nestClosed_settles.constantTokens _ c.2.settles_ownPieces c.2.settles_memberGroups
  | @property p h hline => exact nestClosed_settles.propertyTokens p.settles_pieces
  | companionCode h => exact nestClosed_settles.initializer (settles_code _)
  | initCode h => exact nestClosed_settles.initializer (settles_code _)
  | @function f h hkind => exact nestClosed_settles.functionTokens f.settles_pieces _
  | @type t h =>
    exact nestClosed_settles.printedType (fun piece _ => settles_code piece) fun t _ =>
      bodyClosed_settles t

end TypeDecl.HasMember

end KotlinSource
