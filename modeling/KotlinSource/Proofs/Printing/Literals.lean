import KotlinSource.Proofs.Layout.WrittenGlyphs
import KotlinSource.Proofs.Lexical.StringLiteral
import KotlinSource.Proofs.Naming.Shadowing
import KotlinSource.Printing.Code

/-!
# String literals in printed code

The contents of a string literal are quoted when code is printed.  A literal has no line breaks, and
lines are broken at break points only, which are never put into text.  So a literal is printed in
one piece wherever it stands, under any column limit, and what is printed reads back as its
contents.

## Main results

* `quoted_inj`: different texts have different literals.
* `isLiteralOf_quoted_and_layout`: literals read back, and are printed in one piece.
-/

namespace KotlinSource

/-- What is printed for a string literal stands between what is printed around it. -/
theorem Code.tokens_stringLiteral (front back : Code) (value : String) :
    Code.tokens (front ++ .stringLiteral value :: back) =
      front.tokens ++ .layout (.text (quoted value)) :: back.tokens := by
  rw [Code.tokens_append, Code.tokens, Code.tokens, Code.expand_cons]
  rfl

theorem isLiteralOf_quoted (value : String) : IsLiteralOf value.toList (quoted value).toList := by
  rw [quoted, String.toList_ofList]
  exact isLiteralOf_quotedChars value.toList

theorem quoted_ne_empty (value : String) : quoted value ≠ "" := by
  obtain ⟨inside, hinside, -⟩ := (isLiteralOf_quoted value).between_quotes
  rintro hempty
  simp [hempty] at hinside

/-- Different texts have different literals. -/
theorem quoted_inj {value other : String} : quoted other = quoted value ↔ other = value := by
  refine ⟨fun hsame => ?_, congrArg quoted⟩
  exact String.toList_inj.1 ((hsame ▸ isLiteralOf_quoted other).unique (isLiteralOf_quoted value))

/-- **String literals read back, and nothing gets out of them.**  The literal of a text stands
between two quotes, inside of which every quote and every dollar sign is escaped and no backslash
dangles; it consists of printable ASCII, so that it has no line break; and it is read as that text,
whatever stands behind it.  So different texts have different literals.  In code the literal is
printed in one piece, behind what is printed for the code in front of it and the indentation and the
comment marker of its line; this holds in any file, at any place in it and for any layout options. -/
theorem isLiteralOf_quoted_and_layout (value : String) :
    IsLiteralOf value.toList (quoted value).toList ∧ '\n' ∉ (quoted value).toList ∧
      (∀ other, quoted other = quoted value ↔ other = value) ∧
      ∀ (options : FormatOptions) (context : NamingContext) (table : Option ImportTable)
        (before after : Tokens) (front back : Code),
        let ops := context.write table (before ++ front.tokens)
        let writer := Writer.start.run options.indent.unit ops
        ∃ written rest : List Item,
          written.map Item.glyph = writtenGlyphs options.indent.unit ops ++
            (writer.lead options.indent.unit).map .char ∧
          layout options (context.write table
              (before ++ Code.tokens (front ++ .stringLiteral value :: back) ++ after)) =
            String.ofList (itemsText options.indent.unit written) ++ quoted value ++
              String.ofList (itemsText options.indent.unit rest) := by
  have hliteral := isLiteralOf_quoted value
  refine ⟨hliteral, hliteral.newline_notMem, fun other => quoted_inj, ?_⟩
  intro options context table before after front back ops writer
  have hwrite : context.write table
      (before ++ Code.tokens (front ++ .stringLiteral value :: back) ++ after) =
        ops ++ .text (quoted value) :: context.writeIn table
          ((before ++ front.tokens).foldl scopesAfter []) (back.tokens ++ after) := by
    rw [Code.tokens_stringLiteral, List.append_assoc, List.append_assoc, ← List.append_assoc,
      NamingContext.write_append]
    rfl
  rw [hwrite]
  exact exists_layout_text options ops _ (quoted_ne_empty value) hliteral.newline_notMem

end KotlinSource
