import KotlinSource.Proofs.Layout.Modes
import KotlinSource.Proofs.Layout.WordLevels
import KotlinSource.Text.Separated

/-!
# Lazy indentation

A writer indents a line when the first character of the line arrives.  The level may change before
that character and behind it, within a text or between the texts that make up one line, and lines
may stay empty.  For lists of operations that only write text and change the level, this file
compares the result with its reference: the texts one behind the other, cut into lines, with every
line but the first behind the indentation of the level at which its first character was written, and
nothing in front of empty lines.

The reference knows nothing of the flag by which a writer remembers that a line is to be indented.
In between stands `indentedFrom`, which reads the characters one by one with that flag.

Levels are machine words.  A sum of levels that is too great for a word makes the program fail, or
it is taken modulo the number of words; the reference does the same sums.

## Main definitions

* `LayoutOp.isTextOrLevel`: the operations that write text or change the level.
* `LevelWords.sum`, `levelled`: sums of levels, and the characters written, each with the level at
  which it was written.
* `levelBehind`: the exact level behind a list of operations.
* `indentedLine`, `indentedLines`: the reference.

## Main results

* `Writer.InCode.glyphs_of_run?`: what a writer writes, by its flag.
* `Writer.run?_eq_none_iff`: where a writer fails.
* `pieces_indentedFrom`: the flag does what the reference says.
* `layout?_eq_indentedLines`: lazy indentation is indentation of whole lines.
-/

namespace KotlinSource

/-! ### Characters and their levels -/

/-- The operations that write text or change the level. -/
def LayoutOp.isTextOrLevel : LayoutOp → Bool
  | .text _ => true
  | .indent _ => true
  | .unindent _ => true
  | _ => false

/-- The text that an operation brings along. -/
def LayoutOp.broughtText : LayoutOp → String
  | .text s => s
  | _ => ""

/-- A sum of levels: the exact one if others make the program fail, or else the remainder. -/
def LevelWords.sum (words : LevelWords) (a b : Nat) : Nat :=
  match words.overflow with
  | .fails => a + b
  | .wraps => (a + b) % words.count

/-- The characters that are written for a list of operations, from the given level on, each with the
level at which it is written.  Level zero is the lowest. -/
def levelled (words : LevelWords) (level : Nat) : List LayoutOp → List (Nat × Char)
  | [] => []
  | .text s :: ops => s.toList.map (level, ·) ++ levelled words level ops
  | .indent levels :: ops => levelled words (words.sum level levels) ops
  | .unindent levels :: ops => levelled words (level - levels) ops
  | _ :: ops => levelled words level ops

/-- The exact level behind a list of operations, from the given level on. -/
def levelBehind (level : Nat) : List LayoutOp → Nat
  | [] => level
  | .indent levels :: ops => levelBehind (level + levels) ops
  | .unindent levels :: ops => levelBehind (level - levels) ops
  | _ :: ops => levelBehind level ops

/-- The lines of a list of characters. -/
def levelledLines (chars : List (Nat × Char)) : List (List (Nat × Char)) :=
  chars.splitOnP (·.2 == '\n')

/-- A line behind the indentation of its first character; an empty line stays empty. -/
def indentedLine (unit : List Char) : List (Nat × Char) → List Char
  | [] => []
  | (level, c) :: line => (List.replicate level unit).flatten ++ c :: line.map Prod.snd

/-- The first line as it is, and all others behind their indentation. -/
def indentedLines (unit : List Char) : List (List (Nat × Char)) → List (List Char)
  | [] => []
  | first :: others => first.map Prod.snd :: others.map (indentedLine unit)

/-- The characters one by one, with the indentation in front of the first character of every line.
The flag says whether a line is to be indented. -/
def indentedFrom (unit : List Char) : Bool → List (Nat × Char) → List Char
  | _, [] => []
  | atLineStart, (level, c) :: chars =>
    if c = '\n' then '\n' :: indentedFrom unit true chars
    else if atLineStart then
      (List.replicate level unit).flatten ++ c :: indentedFrom unit false chars
    else c :: indentedFrom unit false chars

theorem map_snd_levelled (words : LevelWords) (level : Nat) (ops : List LayoutOp) :
    (levelled words level ops).map Prod.snd = ops.flatMap (·.broughtText.toList) := by
  induction ops generalizing level with
  | nil => rfl
  | cons op ops ih => cases op <;> simp [levelled, LayoutOp.broughtText, ih, Function.comp_def]

/-- The level of a writer with exact sums. -/
theorem Levels.level_run (l : Levels) (ops : List LayoutOp) :
    (l.run ops).level = levelBehind l.level ops := by
  induction ops generalizing l with
  | nil => rfl
  | cons op ops ih =>
    have hrun : l.run (op :: ops) = (l.step op).run ops := rfl
    rw [hrun, ih]
    cases op <;> rfl

theorem LevelWords.eq_sum_of_add? {words : LevelWords} {a b c : Nat}
    (h : words.add? a b = some c) : c = words.sum a b := by
  rw [sum]
  cases hoverflow : words.overflow with
  | fails => exact eq_of_add?_of_fails hoverflow h
  | wraps =>
    rw [add?_of_wraps hoverflow] at h
    exact (Option.some.inj h).symm

/-! ### The writer -/

namespace Writer

variable {w : Writer} (h : w.InCode) (unit : List Char)

include h

/-- A character, with whatever characters behind it: the flag of the writer says which of them is to
be indented first. -/
theorem InCode.glyphs_emitChar (c : Char) (behind : List (Nat × Char)) :
    (w.emitChar unit c).glyphs ++
        (indentedFrom unit (w.emitChar unit c).atLineStart behind).map .char =
      w.glyphs ++ (indentedFrom unit w.atLineStart ((w.level, c) :: behind)).map .char := by
  by_cases hc : c = '\n'
  · have hstart : (w.emitNewline unit).atLineStart = true := rfl
    rw [Writer.emitChar, if_pos hc, h.glyphs_emitNewline, hstart, indentedFrom, if_pos hc]
    simp
  · have hstart : (w.emitInLine unit c).atLineStart = false := rfl
    rw [Writer.emitChar, if_neg hc, h.glyphs_emitInLine, hstart, indentedFrom, if_neg hc]
    cases hw : w.atLineStart <;> simp [indentation]

/-- Text, with whatever characters behind it. -/
theorem InCode.glyphs_emit (s : String) (behind : List (Nat × Char)) :
    (w.emit unit s).glyphs ++ (indentedFrom unit (w.emit unit s).atLineStart behind).map .char =
      w.glyphs ++
        (indentedFrom unit w.atLineStart (s.toList.map (w.level, ·) ++ behind)).map .char := by
  rw [Writer.emit]
  induction s.toList generalizing w with
  | nil => rfl
  | cons c cs ih =>
    have hlevel : (w.emitChar unit c).level = w.level :=
      congrArg Levels.level (w.levels_emitChar unit c)
    rw [List.foldl_cons, ih ((w.mode_emitChar unit c).trans h), hlevel, h.glyphs_emitChar]
    rfl

/-- What a writer that does not fail writes for texts and changes of the level, from the characters
and the flag with which it begins. -/
theorem InCode.glyphs_of_run? {words : LevelWords} {ops : List LayoutOp}
    (hops : ∀ op ∈ ops, op.isTextOrLevel = true) {w' : Writer}
    (hrun : w.run? words unit ops = some w') :
    w'.glyphs =
      w.glyphs ++ (indentedFrom unit w.atLineStart (levelled words w.level ops)).map .char := by
  induction ops generalizing w with
  | nil =>
    obtain rfl := Option.some.inj hrun
    simp [levelled, indentedFrom]
  | cons op ops ih =>
    obtain ⟨hop, hrest⟩ := List.forall_mem_cons.1 hops
    obtain ⟨next, hnext, hrun⟩ := Option.bind_eq_some_iff.1 hrun
    cases op with
    | text s =>
      obtain rfl : w.emit unit s = next := Option.some.inj hnext
      rw [ih ((w.mode_emit unit s).trans h) hrest hrun, level_emit, h.glyphs_emit, levelled]
    | indent levels =>
      obtain ⟨level, hlevel, rfl⟩ := Option.map_eq_some_iff.1 hnext
      rw [levelled, ← words.eq_sum_of_add? hlevel]
      exact ih (w := { w with level := level }) h hrest hrun
    | unindent levels =>
      obtain rfl : { w with level := w.level - levels } = next := Option.some.inj hnext
      exact ih (w := { w with level := w.level - levels }) h hrest hrun
    | _ => cases hop

end Writer

/-- A place where a list of operations goes deeper is its first operation or behind it. -/
theorem exists_indent_cons_iff {op : LayoutOp} {ops : List LayoutOp}
    {P : List LayoutOp → Nat → Prop} :
    (∃ front levels behind, op :: ops = front ++ .indent levels :: behind ∧ P front levels) ↔
      (∃ levels, op = .indent levels ∧ P [] levels) ∨
        ∃ front levels behind,
          ops = front ++ .indent levels :: behind ∧ P (op :: front) levels := by
  constructor
  · rintro ⟨front, levels, behind, hsplit, hP⟩
    rcases List.cons_eq_append_iff.1 hsplit with ⟨rfl, hfirst⟩ | ⟨front, rfl, hrest⟩
    · obtain ⟨rfl, -⟩ := List.cons.inj hfirst
      exact .inl ⟨levels, rfl, hP⟩
    · exact .inr ⟨front, levels, behind, hrest, hP⟩
  · rintro (⟨levels, rfl, hP⟩ | ⟨front, levels, behind, rfl, hP⟩)
    · exact ⟨[], levels, ops, rfl, hP⟩
    · exact ⟨op :: front, levels, behind, rfl, hP⟩

namespace Writer

/-- A writer of texts and levels fails exactly if sums that do not fit make it fail and there is one
where it goes deeper. -/
theorem run?_eq_none_iff {words : LevelWords} {unit : List Char} {w : Writer} {ops : List LayoutOp}
    (hops : ∀ op ∈ ops, op.isTextOrLevel = true) :
    w.run? words unit ops = none ↔ words.overflow = .fails ∧ ∃ front levels behind,
      ops = front ++ .indent levels :: behind ∧
        words.count ≤ levelBehind w.level front + levels := by
  cases hoverflow : words.overflow with
  | wraps =>
    have hrun : (w.run? words unit ops).isSome := isSome_run? hoverflow
    simp [Option.isSome_iff_ne_none.1 hrun]
  | fails =>
    simp only [true_and]
    induction ops generalizing w with
    | nil => simp [run?]
    | cons op ops ih =>
      obtain ⟨hop, hrest⟩ := List.forall_mem_cons.1 hops
      rw [exists_indent_cons_iff]
      cases op with
      | text s =>
        have hstep : w.step? words unit (.text s) = some (w.emit unit s) := rfl
        rw [run?_cons hstep, ih hrest, level_emit]
        simp only [reduceCtorEq, false_and, exists_false, false_or]
        rfl
      | unindent levels =>
        have hstep : w.step? words unit (.unindent levels) =
            some { w with level := w.level - levels } := rfl
        rw [run?_cons hstep, ih hrest]
        simp only [reduceCtorEq, false_and, exists_false, false_or]
        rfl
      | indent levels =>
        by_cases hfits : w.level + levels < words.count
        · have hstep : w.step? words unit (.indent levels) =
              some { w with level := w.level + levels } := by
            rw [step?, raise?, LevelWords.add?_eq_some_of_lt hfits]
            rfl
          rw [run?_cons hstep, ih hrest]
          refine (or_iff_right ?_).symm
          rintro ⟨levels', hindent, hover⟩
          obtain rfl := LayoutOp.indent.inj hindent
          exact absurd hover (Nat.not_le_of_lt hfits)
        · have hover := Nat.le_of_not_lt hfits
          have hstep : w.step? words unit (.indent levels) = none := by
            rw [step?, raise?, LevelWords.add?_eq_none_iff.2 ⟨hoverflow, hover⟩]
            rfl
          exact iff_of_true (run?_cons_eq_none hstep) (.inl ⟨levels, rfl, hover⟩)
      | _ => cases hop

end Writer

/-! ### Lines -/

/-- The flag does what the reference says: the first line is indented or not, and all others are. -/
theorem pieces_indentedFrom {unit : List Char} (hunit : '\n' ∉ unit) (atLineStart : Bool)
    {chars first : List (Nat × Char)} {others : List (List (Nat × Char))}
    (hlines : levelledLines chars = first :: others) :
    Text.pieces '\n' (indentedFrom unit atLineStart chars) =
      (if atLineStart then indentedLine unit first else first.map Prod.snd) ::
        others.map (indentedLine unit) := by
  induction chars generalizing atLineStart first others with
  | nil =>
    cases hlines
    cases atLineStart <;> rfl
  | cons levelledChar chars ih =>
    obtain ⟨level, c⟩ := levelledChar
    obtain ⟨line, lines, hrest⟩ :=
      List.exists_cons_of_ne_nil (List.splitOnP_ne_nil (·.2 == '\n') chars)
    rw [levelledLines, List.splitOnP_cons_eq_if_modifyHead, hrest] at hlines
    by_cases hc : c = '\n'
    · rw [if_pos (by simp [hc])] at hlines
      cases hlines
      rw [indentedFrom, if_pos hc, Text.pieces, if_pos rfl, ih true hrest]
      cases atLineStart <;> rfl
    · rw [if_neg (by simp [hc])] at hlines
      cases hlines
      have hline : Text.pieces '\n' (c :: indentedFrom unit false chars) =
          (c :: line.map Prod.snd) :: others.map (indentedLine unit) := by
        rw [Text.pieces, if_neg hc, ih false hrest]
        rfl
      rw [indentedFrom, if_neg hc]
      cases atLineStart with
      | false => exact hline
      | true =>
        rw [if_pos rfl, Text.pieces_append_of_notMem (newline_notMem_indentation hunit level),
          hline]
        rfl

/-- The lines of characters are those of the characters with their levels. -/
theorem pieces_map_snd (chars : List (Nat × Char)) :
    Text.pieces '\n' (chars.map Prod.snd) = (levelledLines chars).map (·.map Prod.snd) := by
  induction chars with
  | nil => rfl
  | cons levelledChar chars ih =>
    obtain ⟨line, lines, hrest⟩ :=
      List.exists_cons_of_ne_nil (List.splitOnP_ne_nil (·.2 == '\n') chars)
    rw [levelledLines, hrest] at ih
    rw [levelledLines, List.splitOnP_cons_eq_if_modifyHead, hrest, List.map_cons, Text.pieces, ih]
    by_cases hc : levelledChar.2 = '\n' <;> simp [hc]

/-- A line is empty, or its characters stand behind the indentation of the first one. -/
theorem indentedLine_eq_nil_or (unit : List Char) (line : List (Nat × Char)) :
    line = [] ∧ indentedLine unit line = [] ∨
      ∃ level, line.head?.map Prod.fst = some level ∧ line.map Prod.snd ≠ [] ∧
        indentedLine unit line = (List.replicate level unit).flatten ++ line.map Prod.snd := by
  cases line with
  | nil => exact .inl ⟨rfl, rfl⟩
  | cons first line => exact .inr ⟨first.1, rfl, List.cons_ne_nil _ _, rfl⟩

section Layout

variable (words : LevelWords) (options : FormatOptions) {ops : List LayoutOp}

theorem eq_indentedFrom_of_layout? (hops : ∀ op ∈ ops, op.isTextOrLevel = true) {text : String}
    (h : layout? words options ops = some text) :
    text = String.ofList (indentedFrom options.indent.unit false (levelled words 0 ops)) := by
  obtain ⟨w, hrun, rfl⟩ := Option.map_eq_some_iff.1 h
  exact Writer.fill_atoms_eq_ofList options
    (Writer.inCode_start.glyphs_of_run? options.indent.unit hops hrun)

/-- As long as every level to which an operation goes fits, the text is that of exact levels. -/
theorem layout?_eq_some_of_levelBehind (hops : ∀ op ∈ ops, op.isTextOrLevel = true)
    (hfits : ∀ front levels behind, ops = front ++ .indent levels :: behind →
      levelBehind 0 front + levels < words.count) :
    layout? words options ops = some (layout options ops) := by
  have hrun : Writer.start.run? words options.indent.unit ops =
      some (Writer.start.run options.indent.unit ops) := by
    refine Writer.run?_eq_some fun front op behind hsplit => ?_
    have hop := hops op (hsplit ▸ List.mem_append_right front List.mem_cons_self)
    cases op with
    | indent levels =>
      show (Writer.start.levels.run front).level + levels < words.count
      rw [Levels.level_run]
      exact hfits front levels behind hsplit
    | text s => trivial
    | unindent levels => trivial
    | _ => cases hop
  rw [layout?, hrun]
  rfl

/-- The lines of the characters with their levels are those of the texts. -/
theorem splitAt_join_broughtText (ops : List LayoutOp) :
    Text.splitAt '\n' (String.join (ops.map (·.broughtText))) =
      (levelledLines (levelled words 0 ops)).map fun line =>
        String.ofList (line.map Prod.snd) := by
  have hchars : (String.join (ops.map (·.broughtText))).toList =
      (levelled words 0 ops).map Prod.snd := by
    rw [map_snd_levelled, String.toList_join, List.flatMap_map]
  rw [Text.splitAt, hchars, pieces_map_snd, List.map_map]
  rfl

/-- **Lazy indentation is indentation of whole lines.**  For all machine words, every unit of
indentation, column limit and list of operations that write text, go deeper or go less deep, never
below level zero: there is a text unless sums that do not fit make the program fail and there is one
where it goes deeper.  The lines of the text are the lines of the texts one behind the other, the
first one as it is, and every other one behind the indentation of the level at which its first
character was written.  An empty line stays empty, so that no line but the first, which is never
indented, consists of indentation alone.  As long as all sums fit, the text and the levels are those
of exact sums. -/
theorem layout?_eq_indentedLines (hops : ∀ op ∈ ops, op.isTextOrLevel = true) :
    let unit := options.indent.unit
    let lines := levelledLines (levelled words 0 ops)
    (layout? words options ops = none ↔ words.overflow = .fails ∧ ∃ front levels behind,
      ops = front ++ .indent levels :: behind ∧ words.count ≤ levelBehind 0 front + levels) ∧
    (∀ text, layout? words options ops = some text →
      Text.splitAt '\n' (String.join (ops.map (·.broughtText))) =
          lines.map (fun line => String.ofList (line.map Prod.snd)) ∧
        Text.splitAt '\n' text = (indentedLines unit lines).map String.ofList) ∧
    (∀ line ∈ lines.tail,
      line = [] ∧ indentedLine unit line = [] ∨
        ∃ level, line.head?.map Prod.fst = some level ∧ line.map Prod.snd ≠ [] ∧
          indentedLine unit line = (List.replicate level unit).flatten ++ line.map Prod.snd) ∧
    ((∀ front levels behind, ops = front ++ .indent levels :: behind →
        levelBehind 0 front + levels < words.count) →
      layout? words options ops = some (layout options ops)) := by
  intro unit lines
  refine ⟨?_, fun text htext => ⟨splitAt_join_broughtText words ops, ?_⟩,
    fun line _ => indentedLine_eq_nil_or unit line,
    layout?_eq_some_of_levelBehind words options hops⟩
  · rw [layout?, Option.map_eq_none_iff, Writer.run?_eq_none_iff hops]
    rfl
  · obtain ⟨first, others, hlines⟩ :=
      List.exists_cons_of_ne_nil (List.splitOnP_ne_nil (·.2 == '\n') (levelled words 0 ops))
    have hpieces := pieces_indentedFrom options.indent.newline_not_mem_unit false hlines
    rw [eq_indentedFrom_of_layout? words options hops htext, Text.splitAt, String.toList_ofList,
      hpieces]
    show _ = (indentedLines unit (levelledLines (levelled words 0 ops))).map String.ofList
    rw [levelledLines, hlines]
    rfl

/-- A level that changes in the middle of a line and in front of its first character, empty lines,
a level that does not go below zero, and one that does not fit into a word of 64 bits. -/
theorem layout?_eq_indentedLines_block :
    let ops : List LayoutOp := [.text "a", .indent 2, .text "b\n", .unindent 1, .text "c",
      .indent 3, .text "d\n\n", .unindent 9, .text "e\n"]
    let deep : List LayoutOp := [.indent 18446744073709551615, .indent 1,
      .unindent 18446744073709551615, .text "a\nb"]
    let failing := LevelWords.ofOverflow .fails
    let wrapping := LevelWords.ofOverflow .wraps
    (∀ op ∈ ops ++ deep, op.isTextOrLevel = true) ∧
      (layout? failing {} ops).map (Text.splitAt '\n') =
        some ((indentedLines [' ', ' '] (levelledLines (levelled failing 0 ops))).map
          String.ofList) ∧
      (indentedLines [' ', ' '] (levelledLines (levelled failing 0 ops))).map String.ofList =
        ["ab", "  cd", "", "e", ""] ∧
      layout? failing {} deep = none ∧ layout? wrapping {} deep = some "a\nb" ∧
      layout {} deep = "a\n  b" := by
  intro ops deep failing wrapping
  have hops : ∀ op ∈ ops, op.isTextOrLevel = true := by decide
  have hdeep : ∀ op ∈ deep, op.isTextOrLevel = true := by decide
  obtain ⟨text, htext⟩ := Option.isSome_iff_exists.1
    (show (layout? failing {} ops).isSome by decide +kernel)
  obtain ⟨-, hsplit⟩ := (layout?_eq_indentedLines failing {} hops).2.1 text htext
  have hfails : layout? failing {} deep = none :=
    (layout?_eq_indentedLines failing {} hdeep).1.2
      ⟨rfl, [.indent 18446744073709551615], 1, [.unindent 18446744073709551615, .text "a\nb"], rfl,
        by decide⟩
  exact ⟨List.forall_mem_append.2 ⟨hops, hdeep⟩, htext ▸ congrArg some hsplit, by decide, hfails,
    by decide +kernel, by decide +kernel⟩

end Layout

end KotlinSource
