import KotlinSource.Proofs.Layout.WrittenGlyphs
import KotlinSource.Proofs.Printing.Closure

/-!
# Places where the printer lets lines break

The printer lets a line break behind the commas between parameters and between the members of an
annotation, and behind the `<` of type arguments.  In front of such a break point stands the comma
or the `<`, and behind it the text of a parameter, a member or a type argument.  So none of them
stands next to another one or next to one that code asks for; if code asks for no two break points
side by side, there are none in the whole file.

The proof reads the operations of a file one after the other and keeps track of what the text ends
with: text, maybe a break point of code, or maybe one of the printer, behind which no other one is
allowed.

## Main definitions

* `Ending`, `Ending.next?`, `Ending.run?`: what written code ends with, as far as it matters.
* `Ending.after?`, `Spaced`: printed code, whatever is written for its references.
* `Reached`: what the text of a writer ends with.

## Main results

* `printClosed_spaced`: printed declarations and code.
* `Reached.run`: what a run of a writer ends with.
* `FileDecl.pointsApart_writtenGlyphs`: the break points of a file.
-/

namespace KotlinSource

/-! ### Endings -/

/-- What written code ends with. -/
inductive Ending where
  /-- Text, or nothing has been written. -/
  | text
  /-- Text or a break point that code asks for. -/
  | codePoint
  /-- Text or a break point of the printer. -/
  | separator
  deriving DecidableEq, Repr

namespace Ending

/-- What written code ends with behind one more operation, if that operation writes no break point
where one of the printer may be next to it. -/
def next? (e : Ending) : LayoutOp → Option Ending
  | .text s => some (if s = "" then e else .text)
  | .wrap => if e = .separator then none else some .codePoint
  | .comma => some .separator
  | .wrapTight => if e = .text then some .separator else none
  | _ => some e

/-- What written code ends with behind more operations. -/
def run? (e : Ending) (ops : List LayoutOp) : Option Ending := ops.foldlM next? e

variable (context : NamingContext) (table : Option ImportTable) (scopes : List Scope) (e : Ending)

/-- What written code ends with behind more printed code in certain scopes. -/
def after? (tokens : Tokens) : Option Ending :=
  e.run? ((locate scopes tokens).map (context.writeLocated table))

theorem after?_append (left right : Tokens) :
    e.after? context table scopes (left ++ right) =
      (e.after? context table scopes left).bind fun e' =>
        e'.after? context table (left.foldl scopesAfter scopes) right := by
  rw [after?, locate_append, List.map_append, run?, List.foldlM_append]
  rfl

theorem after?_layout (op : LayoutOp) :
    e.after? context table scopes [.layout op] = e.next? op := by
  simp [after?, run?, locate, locateToken, NamingContext.writeLocated]

/-- A reference is written as text. -/
theorem after?_reference (r : Reference) :
    ∃ s, e.after? context table scopes [.reference r] = some (if s = "" then e else .text) := by
  refine ⟨(context.spelling scopes r).write table, ?_⟩
  simp [after?, run?, locate, locateToken, NamingContext.writeLocated, next?]

theorem after?_word (s : String) :
    e.after? context table scopes (word s) = some (if s = "" then e else .text) :=
  after?_layout context table scopes e (.text s)

/-- Where text stands before any place to break the line, it does not matter what is in front. -/
theorem after?_of_leadsWithText {tokens : Tokens} (h : LeadsWithText tokens) :
    e.after? context table scopes tokens = Ending.text.after? context table scopes tokens := by
  induction h with
  | text h rest =>
    rw [← List.singleton_append, after?_append, after?_append, after?_layout, after?_layout, next?,
      next?, if_neg h, if_neg h]
  | skip s _ ih =>
    rw [← List.singleton_append, after?_append, after?_append, after?_layout, after?_layout, next?,
      next?, ite_self]
    split_ifs
    · exact ih
    · rfl

end Ending

/-! ### Printed code -/

section Printed

variable (context : NamingContext) (table : Option ImportTable)

/-- A printed type, which leaves text behind or nothing at all. -/
def TypeSpaced (tokens : Tokens) : Prop :=
  ∀ (scopes : List Scope) (e : Ending),
    ∃ e', (e' = e ∨ e' = .text) ∧ e.after? context table scopes tokens = some e'

/-- Printed code in which no break point of the printer stands next to another break point, and
behind which none stands. -/
def Spaced (tokens : Tokens) : Prop :=
  ∀ (scopes : List Scope) (e : Ending), e ≠ .separator →
    ∃ e', e' ≠ .separator ∧ e.after? context table scopes tokens = some e'

variable {context table}

theorem appendClosed_typeSpaced : AppendClosed (TypeSpaced context table) where
  nil _ e := ⟨e, .inl rfl, rfl⟩
  append {left right} hleft hright scopes e := by
    obtain ⟨e₁, he₁, h₁⟩ := hleft scopes e
    obtain ⟨e₂, he₂, h₂⟩ := hright (left.foldl scopesAfter scopes) e₁
    refine ⟨e₂, ?_, by rw [Ending.after?_append, h₁, Option.bind_some, h₂]⟩
    rcases he₂ with rfl | rfl
    · exact he₁
    · exact .inr rfl

theorem typeSpaced_word (s : String) : TypeSpaced context table (word s) := by
  intro scopes e
  refine ⟨_, ?_, Ending.after?_word context table scopes e s⟩
  split_ifs
  · exact .inl rfl
  · exact .inr rfl

theorem typeSpaced_reference (r : Reference) : TypeSpaced context table [.reference r] := by
  intro scopes e
  obtain ⟨s, hs⟩ := Ending.after?_reference context table scopes e r
  refine ⟨_, ?_, hs⟩
  split_ifs
  · exact .inl rfl
  · exact .inr rfl

/-- Type arguments stand between a `<` and a `>`. -/
theorem typeSpaced_arguments {arguments : List Tokens}
    (h : ∀ a ∈ arguments, TypeSpaced context table a) :
    TypeSpaced context table (typeArgumentList arguments) := by
  intro scopes e
  rw [typeArgumentList]
  split_ifs
  · exact appendClosed_typeSpaced.nil scopes e
  · refine ⟨.text, .inr rfl, ?_⟩
    have hlist := appendClosed_typeSpaced.listed (typeSpaced_word ", ") h
    rw [List.append_assoc, List.append_assoc, Ending.after?_append, Ending.after?_word,
      if_neg (by decide), Option.bind_some, Ending.after?_append, operation,
      Ending.after?_layout, Ending.next?, if_pos rfl, Option.bind_some, Ending.after?_append]
    obtain ⟨e', -, he'⟩ := hlist _ .separator
    rw [he', Option.bind_some, Ending.after?_word, if_neg (by decide)]

theorem typeSpaced_tokens (t : TypeName) : TypeSpaced context table t.tokens :=
  TypeClosed.typeTokens ⟨appendClosed_typeSpaced, typeSpaced_word, typeSpaced_reference,
    typeSpaced_arguments⟩ t

theorem TypeSpaced.spaced {tokens : Tokens} (h : TypeSpaced context table tokens) :
    Spaced context table tokens := by
  intro scopes e he
  obtain ⟨e', he', hafter⟩ := h scopes e
  refine ⟨e', ?_, hafter⟩
  rcases he' with rfl | rfl
  · exact he
  · decide

theorem appendClosed_spaced : AppendClosed (Spaced context table) where
  nil _ e he := ⟨e, he, rfl⟩
  append {left right} hleft hright scopes e he := by
    obtain ⟨e₁, he₁, h₁⟩ := hleft scopes e he
    obtain ⟨e₂, he₂, h₂⟩ := hright (left.foldl scopesAfter scopes) e₁ he₁
    exact ⟨e₂, he₂, by rw [Ending.after?_append, h₁, Option.bind_some, h₂]⟩

/-- Operations other than those by which the printer lets a line break. -/
theorem spaced_layout (op : LayoutOp) (h : op.isSeparator = false) :
    Spaced context table [.layout op] := by
  intro scopes e he
  rw [Ending.after?_layout]
  cases op with
  | text s =>
    refine ⟨_, ?_, rfl⟩
    split_ifs
    · exact he
    · decide
  | wrap => exact ⟨.codePoint, by decide, if_neg he⟩
  | comma => cases h
  | wrapTight => cases h
  | _ => exact ⟨e, he, rfl⟩

/-- A comma with text behind it. -/
theorem Spaced.breakableComma_append {tokens : Tokens} (h : Spaced context table tokens)
    (hlead : LeadsWithText tokens) : Spaced context table (breakableComma ++ tokens) := by
  intro scopes e _
  obtain ⟨e', he', hafter⟩ := h scopes .text (by decide)
  refine ⟨e', he', ?_⟩
  rw [Ending.after?_append, breakableComma, operation, Ending.after?_layout, Ending.next?,
    Option.bind_some, Ending.after?_of_leadsWithText _ _ _ _ hlead]
  exact hafter

theorem spaced_separated {parts : List Tokens} (hparts : ∀ part ∈ parts, Spaced context table part)
    (hlead : ∀ part ∈ parts, LeadsWithText part) :
    Spaced context table (listed breakableComma parts) := by
  induction parts with
  | nil => exact appendClosed_spaced.nil
  | cons part rest ih =>
    obtain ⟨hpart, hrest⟩ := List.forall_mem_cons.1 hparts
    obtain ⟨-, hleads⟩ := List.forall_mem_cons.1 hlead
    have htail := ih hrest hleads
    cases rest with
    | nil =>
      rw [listed_singleton]
      exact hpart
    | cons next rest =>
      have hnext : LeadsWithText (listed breakableComma (next :: rest)) := by
        cases rest with
        | nil => simpa using hleads next List.mem_cons_self
        | cons _ _ => simpa using (hleads next List.mem_cons_self).append _
      rw [listed_cons_cons]
      exact appendClosed_spaced.append hpart (htail.breakableComma_append hnext)

/-- In printed code no break point of the printer stands next to another break point. -/
theorem printClosed_spaced : PrintClosed (Spaced context table) where
  toAppendClosed := appendClosed_spaced
  layout := spaced_layout
  reference r := (typeSpaced_reference r).spaced
  typeTokens t := (typeSpaced_tokens t).spaced
  separated := spaced_separated

theorem bodyClosed_spaced {κ : Type} (d : TypeDecl κ) : BodyClosed (Spaced context table) d := by
  intro name _ inside hinside
  refine appendClosed_spaced.append (appendClosed_spaced.append ?_ hinside) ?_
  · exact fun scopes e he => ⟨e, he, rfl⟩
  · exact fun scopes e he => ⟨e, he, rfl⟩

end Printed

/-! ### Writers -/

section Writers

variable {unit : List Char} {done ops : List LayoutOp} {op : LayoutOp} {e e' : Ending}

/-- Operations have been run whose text has its break points apart.  It ends with a break point
only behind one of the printer, or behind one that code asks for. -/
structure Reached (unit : List Char) (done : List LayoutOp) (e : Ending) : Prop where
  apart : PointsApart (writtenGlyphs unit done)
  last : ∀ front b, writtenGlyphs unit done = front ++ [.point b] → e = .separator ∨
    e = .codePoint ∧ ∃ before between, done = before ++ .wrap :: between ∧
      writtenGlyphs unit before = front

theorem reached_nil : Reached unit [] .text where
  apart := List.isChain_nil
  last front b h := by simp [writtenGlyphs, Writer.run, Writer.start, Writer.glyphs, glyphs] at h

/-- More characters, or none. -/
theorem Reached.chars (h : Reached unit done e) {chars : List Char}
    (hchars : writtenGlyphs unit (done ++ [op]) = writtenGlyphs unit done ++ chars.map .char)
    (he : chars = [] → e' = e) : Reached unit (done ++ [op]) e' where
  apart := hchars ▸ h.apart.append_chars chars
  last front b hlast := by
    rw [hchars] at hlast
    obtain ⟨hnil, hdone⟩ := eq_of_append_chars_eq_append_point hlast
    rw [he hnil]
    refine (h.last front b hdone).imp_right fun ⟨he, before, between, hops, hfront⟩ => ?_
    exact ⟨he, before, between ++ [op], by simp [hops], hfront⟩

/-- A break point that code asks for. -/
theorem Reached.wrap (h : Reached unit done e) (he : e ≠ .separator)
    (hwraps : WrapsApart unit (done ++ [.wrap])) : Reached unit (done ++ [.wrap]) .codePoint := by
  have hstep := writtenGlyphs_append_singleton unit done .wrap
  rcases (Writer.start.run unit done).glyphs_wrap unit with ⟨b, hpoint⟩ | ⟨chars, hne, hchars⟩
  · have hwritten : writtenGlyphs unit (done ++ [.wrap]) = writtenGlyphs unit done ++ [.point b] :=
      hstep.trans hpoint
    refine ⟨?_, fun front b' hlast => .inr ⟨rfl, done, [], rfl, ?_⟩⟩
    · rw [hwritten]
      refine h.apart.append_glyph fun _ front b' hfront => ?_
      rcases h.last front b' hfront with hsep | ⟨-, before, between, rfl, rfl⟩
      · exact he hsep
      · refine hwraps before between [] (by simp) b' b ?_
        have hops : before ++ .wrap :: (between ++ [.wrap]) =
            before ++ .wrap :: between ++ [.wrap] := by simp
        rw [hops, hwritten, hfront, List.append_assoc]
        rfl
    · rw [hwritten] at hlast
      exact List.append_inj_left' hlast rfl
  · exact h.chars (hstep.trans hchars) fun hnil => absurd hnil hne

/-- A comma with a break point behind it. -/
theorem Reached.comma (h : Reached unit done e) : Reached unit (done ++ [.comma]) .separator := by
  have hstep := writtenGlyphs_append_singleton unit done .comma
  obtain ⟨chars, hchars, hnil⟩ := (Writer.start.run unit done).exists_glyphs_emit unit ","
  have hne : chars ≠ [] := fun hnil' => absurd (hnil hnil') (by decide)
  refine ⟨?_, fun _ _ _ => .inl rfl⟩
  rcases ((Writer.start.run unit done).emit unit ",").glyphs_wrap unit with
    ⟨b, hpoint⟩ | ⟨more, -, hmore⟩
  · rw [hstep, Writer.step, hpoint, hchars]
    refine (h.apart.append_chars chars).append_glyph fun _ front b' hfront => ?_
    exact hne (eq_of_append_chars_eq_append_point hfront).1
  · rw [hstep, Writer.step, hmore, hchars]
    exact (h.apart.append_chars chars).append_chars more

/-- A break point without width behind text. -/
theorem Reached.wrapTight (h : Reached unit done .text) :
    Reached unit (done ++ [.wrapTight]) .separator := by
  have hstep := writtenGlyphs_append_singleton unit done .wrapTight
  refine ⟨?_, fun _ _ _ => .inl rfl⟩
  rcases (Writer.start.run unit done).glyphs_wrapTight unit with ⟨b, hpoint⟩ | hnone
  · rw [hstep, hpoint]
    refine h.apart.append_glyph fun _ front b' hfront => ?_
    rcases h.last front b' hfront with he | ⟨he, -⟩
    · cases he
    · cases he
  · rw [hstep, hnone]
    exact h.apart

/-- Every operation keeps the break points apart. -/
theorem Reached.step (h : Reached unit done e) (hnext : e.next? op = some e')
    (hwraps : WrapsApart unit (done ++ [op])) : Reached unit (done ++ [op]) e' := by
  by_cases hop : op.isBreakable = false
  · have hstep := writtenGlyphs_append_singleton unit done op
    cases op with
    | text s =>
      obtain ⟨chars, hchars, hnil⟩ := (Writer.start.run unit done).exists_glyphs_emit unit s
      refine h.chars (hstep.trans hchars) fun hnil' => ?_
      rw [Ending.next?, if_pos (hnil hnil')] at hnext
      exact (Option.some.inj hnext).symm
    | wrap => cases hop
    | comma => cases hop
    | wrapTight => cases hop
    | _ =>
      obtain ⟨chars, hchars⟩ := (Writer.start.run unit done).continues_step unit hop
      exact h.chars (hstep.trans hchars) fun _ => (Option.some.inj hnext).symm
  · cases op with
    | wrap =>
      rw [Ending.next?] at hnext
      split_ifs at hnext with he
      cases hnext
      exact h.wrap he hwraps
    | comma =>
      cases hnext
      exact h.comma
    | wrapTight =>
      rw [Ending.next?] at hnext
      split_ifs at hnext with he
      cases hnext
      subst he
      exact h.wrapTight
    | _ => exact absurd rfl hop

/-- A run of operations keeps the break points apart. -/
theorem Reached.run (h : Reached unit done e) (hrun : e.run? ops = some e')
    (hwraps : WrapsApart unit (done ++ ops)) : Reached unit (done ++ ops) e' := by
  induction ops generalizing done e with
  | nil =>
    cases hrun
    simpa using h
  | cons op ops ih =>
    rw [Ending.run?, List.foldlM_cons, Option.bind_eq_bind, Option.bind_eq_some_iff] at hrun
    obtain ⟨e₁, hnext, hrun⟩ := hrun
    rw [← List.singleton_append, ← List.append_assoc] at hwraps ⊢
    exact ih (h.step hnext hwraps.left) hrun hwraps

/-- If code asks for no two break points side by side, there are none in a file. -/
theorem FileDecl.pointsApart_writtenGlyphs {file : FileDecl} (h : WrapsApart unit file.operations) :
    PointsApart (writtenGlyphs unit file.operations) := by
  have hspaced : Spaced file.context (some file.importTable)
      (file.tokens file.importTable.lines) :=
    printClosed_spaced.fileTokens (fun _ _ t _ => bodyClosed_spaced t)
      (fun t _ => bodyClosed_spaced t) _
  obtain ⟨e, -, hrun⟩ := hspaced [] .text (by decide)
  exact (reached_nil.run hrun h).apart

end Writers

end KotlinSource
