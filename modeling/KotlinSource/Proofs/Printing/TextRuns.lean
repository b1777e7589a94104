import KotlinSource.Proofs.Printing.Nesting
import KotlinSource.Template.Interpretation

/-!
# Runs of text in code

A template makes one instruction of all the text between two other instructions, while code that is
put together from several pieces has an instruction for the text of each of them.  Nothing of this
shows in what is written: a writer takes text character by character, in whatever state it is and
with whatever break point pending.  Therefore the code of a template can be taken for what its
pieces give, one after the other.

## Main definitions

* `Code.WritesAs`: pieces of code that no writer tells apart.
* `Fragment.instructions`: what a fragment gives, without regard to the text around it.

## Main results

* `Code.WritesAs.layout_eq`: code that is written alike can be exchanged.
* `writesAs_assemble`: the code of fragments is written as one fragment after the other.
* `writesAs_assemble_append`: the texts at a seam of fragments can be joined or not.
-/

namespace KotlinSource

/-! ### Code that is written alike -/

/-- Code is written part by part, from the scopes in front of it. -/
theorem Writer.print_append (w : Writer) (unit : List Char) (context : NamingContext)
    (table : Option ImportTable) (scopes : List Scope) (left right : Code) :
    w.print unit context table scopes (Code.tokens (left ++ right)) =
      (w.print unit context table scopes left.tokens).print unit context table scopes
        right.tokens := by
  rw [Code.tokens_append, print_append_tokens, (balanced_code left).closed]

theorem lookups_code_append (scopes : List Scope) (left right : Code) :
    lookups scopes (Code.tokens (left ++ right)) =
      lookups scopes left.tokens ++ lookups scopes right.tokens := by
  rw [Code.tokens_append, lookups_append, (balanced_code left).closed]

/-- Two pieces of code are written alike: in any scopes and by a writer in any state, with whatever
it has written before, and with the same names looked up on the way. -/
structure Code.WritesAs (left right : Code) : Prop where
  print (unit : List Char) (context : NamingContext) (table : Option ImportTable)
    (scopes : List Scope) (w : Writer) :
    w.print unit context table scopes left.tokens = w.print unit context table scopes right.tokens
  lookups_eq (scopes : List Scope) : lookups scopes left.tokens = lookups scopes right.tokens

namespace Code.WritesAs

variable {left right : Code}

theorem refl (code : Code) : code.WritesAs code := ⟨fun _ _ _ _ _ => rfl, fun _ => rfl⟩

theorem symm (h : left.WritesAs right) : right.WritesAs left where
  print unit context table scopes w := (h.print unit context table scopes w).symm
  lookups_eq scopes := (h.lookups_eq scopes).symm

theorem trans {middle : Code} (h : left.WritesAs middle) (h' : middle.WritesAs right) :
    left.WritesAs right where
  print unit context table scopes w :=
    (h.print unit context table scopes w).trans (h'.print unit context table scopes w)
  lookups_eq scopes := (h.lookups_eq scopes).trans (h'.lookups_eq scopes)

theorem append {left' right' : Code} (h : left.WritesAs right) (h' : left'.WritesAs right') :
    Code.WritesAs (left ++ left') (right ++ right') where
  print unit context table scopes w := by
    rw [Writer.print_append, Writer.print_append, h.print, h'.print]
  lookups_eq scopes := by
    rw [lookups_code_append, lookups_code_append, h.lookups_eq, h'.lookups_eq]

/-- Wherever a piece of code stands in a text, one that is written alike can stand in its place,
under any column limit. -/
theorem layout_eq (h : left.WritesAs right) (options : FormatOptions) (context : NamingContext)
    (table : Option ImportTable) (before after : Tokens) :
    layout options (context.write table (before ++ left.tokens ++ after)) =
      layout options (context.write table (before ++ right.tokens ++ after)) := by
  have hprint := h.print options.indent.unit context table (before.foldl scopesAfter [])
    (Writer.start.run options.indent.unit (context.write table before))
  simp only [Writer.print] at hprint
  simp only [layout, NamingContext.write_append, List.foldl_append, Writer.run_append, hprint,
    (balanced_code left).closed, (balanced_code right).closed]

end Code.WritesAs

/-! ### Runs of text -/

/-- A text is written as its parts. -/
theorem writesAs_text_append (s t : String) : Code.WritesAs [.text (s ++ t)] [.text s, .text t] where
  print unit _ _ _ w := w.emit_append unit s t
  lookups_eq _ := rfl

/-- A run of text is written as a text; if it is empty, nothing is written. -/
theorem writesAs_textRun (chars : List Char) :
    (textRun chars).WritesAs [.text (String.ofList chars)] := by
  cases chars with
  | nil => exact ⟨fun _ _ _ _ _ => rfl, fun _ => rfl⟩
  | cons c chars => exact .refl _

/-- A run of text can be cut anywhere. -/
theorem writesAs_textRun_append (front back : List Char) :
    (textRun (front ++ back)).WritesAs (textRun front ++ [.text (String.ofList back)]) := by
  have hcut := writesAs_text_append (String.ofList front) (String.ofList back)
  rw [← String.ofList_append] at hcut
  exact (writesAs_textRun _).trans (hcut.trans ((writesAs_textRun front).symm.append (.refl _)))

/-! ### Fragments -/

/-- What a fragment gives, without regard to the text around it. -/
def Fragment.instructions : Fragment → Code
  | .text chars => [.text (String.ofList chars)]
  | .code c => c

theorem writesAs_assembleAfter (run : List Char) (fragments : List Fragment) :
    (assembleAfter run fragments).WritesAs
      (textRun run.reverse ++ fragments.flatMap Fragment.instructions) := by
  induction fragments generalizing run with
  | nil =>
    rw [assembleAfter, List.flatMap_nil, List.append_nil]
    exact .refl _
  | cons f rest ih =>
    cases f with
    | text chars =>
      have hcut := writesAs_textRun_append run.reverse chars
      have hrest := ih (chars.reverse ++ run)
      rw [List.reverse_append, List.reverse_reverse] at hrest
      rw [assembleAfter, List.flatMap_cons, ← List.append_assoc]
      exact hrest.trans (hcut.append (.refl _))
    | code c =>
      rw [assembleAfter, List.flatMap_cons, ← List.append_assoc]
      exact (Code.WritesAs.refl _).append (ih [])

/-- The code of fragments is written as what they give, one after the other. -/
theorem writesAs_assemble (fragments : List Fragment) :
    (assemble fragments).WritesAs (fragments.flatMap Fragment.instructions) :=
  writesAs_assembleAfter [] fragments

/-- It does not matter whether the texts at the seam of two sequences of fragments are joined. -/
theorem writesAs_assemble_append (front back : List Fragment) :
    (assemble (front ++ back)).WritesAs (assemble front ++ assemble back) := by
  have hboth := (writesAs_assemble front).append (writesAs_assemble back)
  rw [← List.flatMap_append] at hboth
  exact (writesAs_assemble _).trans hboth.symm

theorem assemble_code (code : Code) : assemble [.code code] = code := by
  simp [assemble, assembleAfter, textRun]

end KotlinSource
