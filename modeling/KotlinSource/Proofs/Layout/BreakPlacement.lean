import KotlinSource.Layout.Filling
import Mathlib.Data.List.TakeWhile
import Mathlib.Tactic.SplitIfs

/-!
# Where a filled text breaks

The filler decides about a break point piece by piece, from the text that it holds back and from a
column that counts a space which may never be written.  This file says what the result is in terms
of the whole text: a break point looks at the characters up to the next break point, the next line
break or the end, and breaks exactly if they would not fit on the current line of the output.  How
the text is cut into pieces does not matter.

The proof keeps, for every state of the filler, the break point and the characters that it holds
back as a text which is still to be placed behind what has been written; deciding the break point
moves that text to the output.

## Main definitions

* `Glyph`, `glyphs`: the characters and break points of a list of atoms, whatever its pieces.
* `textAhead`, `placement`: the text that a break point looks at, and what the break point writes.
* `placed`: a text with all its break points written out.
* `Fill.Sound`, `Fill.waiting`: the invariant of the filler, and what it has not placed yet.

## Main results

* `Fill.Sound.step`: every atom keeps the invariant.
* `Fill.placed_step`: an atom leaves the text that comes out in the end as it is.
* `fill_eq_placed`: filling a text writes every break point by looking at the whole text.
-/

namespace KotlinSource

/-! ### Placing break points in a whole text -/

/-- A character of a text or a break point in it. -/
inductive Glyph where
  | char (c : Char)
  | point (b : Break)
  deriving DecidableEq, Repr

/-- The characters of a piece of text, or the break point. -/
def Atom.glyphs : Atom → List Glyph
  | .text chars => chars.map .char
  | .point b => [.point b]

/-- The characters and break points of a list of atoms. -/
def glyphs (atoms : List Atom) : List Glyph := atoms.flatMap Atom.glyphs

/-- The characters up to the next break point, the next line break or the end. -/
def textAhead : List Glyph → List Char
  | .char c :: rest => if c = '\n' then [] else c :: textAhead rest
  | _ => []

/-- Whether a break point comes next. -/
def startsWithPoint : List Glyph → Bool
  | .point _ :: _ => true
  | _ => false

/-- The characters behind the last line break. -/
def lastLine (chars : List Char) : List Char :=
  (chars.reverse.takeWhile (· != '\n')).reverse

/-- What a break point writes behind the output `before` and in front of `rest`. -/
def placement (limit : Nat) (unit before : List Char) (b : Break) (rest : List Glyph) : List Char :=
  if textAhead rest = [] then
    if startsWithPoint rest then b.unbroken else []
  else if (lastLine before).length + b.width + (textAhead rest).length > limit then b.broken unit
  else b.unbroken

/-- The output `before`, and behind it a text with its break points written out. -/
def placed (limit : Nat) (unit before : List Char) : List Glyph → List Char
  | [] => before
  | .char c :: rest => placed limit unit (before ++ [c]) rest
  | .point b :: rest => placed limit unit (before ++ placement limit unit before b rest) rest

section Glyphs

variable (limit : Nat) (unit before : List Char)

theorem placed_chars (chars : List Char) (rest : List Glyph) :
    placed limit unit before (chars.map .char ++ rest) =
      placed limit unit (before ++ chars) rest := by
  induction chars generalizing before with
  | nil => simp
  | cons c chars ih =>
    rw [List.map_cons, List.cons_append, placed, ih, List.append_assoc, List.singleton_append]

theorem textAhead_chars {chars : List Char} (h : '\n' ∉ chars) (rest : List Glyph) :
    textAhead (chars.map .char ++ rest) = chars ++ textAhead rest := by
  induction chars with
  | nil => rfl
  | cons c chars ih =>
    have hc : c ≠ '\n' := fun e => h (e ▸ List.mem_cons_self)
    have hchars : '\n' ∉ chars := fun hm => h (List.mem_cons_of_mem c hm)
    rw [List.map_cons, List.cons_append, textAhead, if_neg hc, ih hchars, List.cons_append]

/-- A line break ends the text ahead. -/
theorem textAhead_chars_of_mem {chars : List Char} (h : '\n' ∈ chars) (rest : List Glyph) :
    textAhead (chars.map .char ++ rest) = chars.takeWhile (· != '\n') := by
  induction chars with
  | nil => simp at h
  | cons c chars ih =>
    rw [List.map_cons, List.cons_append, textAhead]
    by_cases hc : c = '\n'
    · simp [hc]
    · have hchars : '\n' ∈ chars := (List.mem_cons.1 h).resolve_left (Ne.symm hc)
      simp [hc, ih hchars]

theorem startsWithPoint_chars {chars : List Char} (h : chars ≠ []) (rest : List Glyph) :
    startsWithPoint (chars.map .char ++ rest) = false := by
  obtain ⟨c, chars, rfl⟩ := List.exists_cons_of_ne_nil h
  rfl

/-- A break point does not look behind a line break. -/
theorem placement_append_newline (b : Break) (gs rest : List Glyph) :
    placement limit unit before b (gs ++ .char '\n' :: rest) =
      placement limit unit before b (gs ++ [.char '\n']) := by
  have hahead : textAhead (gs ++ .char '\n' :: rest) = textAhead (gs ++ [.char '\n']) := by
    induction gs with
    | nil => rfl
    | cons g gs ih =>
      cases g with
      | char c => rw [List.cons_append, List.cons_append, textAhead, textAhead, ih]
      | point b => rfl
  have hpoint : startsWithPoint (gs ++ .char '\n' :: rest) =
      startsWithPoint (gs ++ [.char '\n']) := by
    cases gs with
    | nil => rfl
    | cons g gs => cases g <;> rfl
  rw [placement, placement, hahead, hpoint]

/-- What stands in front of a line break is written without regard to what stands behind it. -/
theorem placed_append_newline (gs rest : List Glyph) :
    placed limit unit before (gs ++ .char '\n' :: rest) =
      placed limit unit (placed limit unit before (gs ++ [.char '\n'])) rest := by
  induction gs generalizing before with
  | nil => rfl
  | cons g gs ih =>
    cases g with
    | char c => exact ih _
    | point b =>
      rw [List.cons_append, List.cons_append, placed, placed, placement_append_newline, ih]

/-- Characters at the end are written as they are. -/
theorem exists_placed_append_chars (gs : List Glyph) (chars : List Char) :
    ∃ front, placed limit unit before (gs ++ chars.map .char) = front ++ chars := by
  induction gs generalizing before with
  | nil =>
    have hchars := placed_chars limit unit before chars []
    rw [List.append_nil] at hchars
    exact ⟨before, hchars⟩
  | cons g gs ih =>
    cases g with
    | char c => exact ih _
    | point b => exact ih _

end Glyphs

/-! ### The current line of the output -/

theorem lastLine_append_of_notMem {chars : List Char} (h : '\n' ∉ chars) (before : List Char) :
    lastLine (before ++ chars) = lastLine before ++ chars := by
  have hall : ∀ c ∈ chars.reverse, (c != '\n') = true := by
    intro c hc
    have hne : c ≠ '\n' := fun e => h (e ▸ List.mem_reverse.1 hc)
    simpa using hne
  rw [lastLine, List.reverse_append, List.takeWhile_append_of_pos hall, List.reverse_append,
    List.reverse_reverse, lastLine]

theorem lastLine_append_of_mem {chars : List Char} (h : '\n' ∈ chars) (before : List Char) :
    lastLine (before ++ chars) = lastLine chars := by
  obtain ⟨front, behind, rfl⟩ := List.append_of_mem h
  simp [lastLine, List.takeWhile_append]

/-- In front of the last line there is nothing or a line break. -/
theorem exists_append_lastLine (chars : List Char) :
    chars = lastLine chars ∨ ∃ before, chars = before ++ '\n' :: lastLine chars := by
  have hreverse : chars.reverse.takeWhile (· != '\n') ++ chars.reverse.dropWhile (· != '\n') =
      chars.reverse := List.takeWhile_append_dropWhile
  have hsplit : chars = (chars.reverse.dropWhile (· != '\n')).reverse ++ lastLine chars := by
    rw [lastLine, ← List.reverse_append, hreverse, List.reverse_reverse]
  cases hrest : chars.reverse.dropWhile (· != '\n') with
  | nil =>
    rw [hrest] at hsplit
    exact .inl hsplit
  | cons c rest =>
    have hhead := List.head?_dropWhile_not (· != '\n') chars.reverse
    rw [hrest] at hsplit hhead
    obtain rfl : c = '\n' := by simpa using hhead
    exact .inr ⟨rest.reverse, by simpa using hsplit⟩

/-- The filler counts columns as characters behind the last line break. -/
theorem length_lastLine_append (before chars : List Char) :
    (lastLine (before ++ chars)).length =
      Fill.columnBehind (lastLine before).length chars := by
  rw [Fill.columnBehind]
  split_ifs with h
  · rw [lastLine_append_of_mem h, lastLine, List.length_reverse]
  · rw [lastLine_append_of_notMem h, List.length_append]

theorem newline_notMem_indentation {unit : List Char} (hunit : '\n' ∉ unit) (level : Nat) :
    '\n' ∉ (List.replicate level unit).flatten := by
  simp only [List.mem_flatten, List.mem_replicate]
  rintro ⟨l, ⟨-, rfl⟩, hl⟩
  exact hunit hl

/-- A broken line goes on behind the indentation of its continuation. -/
theorem length_lastLine_broken {unit : List Char} (hunit : '\n' ∉ unit) (before : List Char)
    (b : Break) : (lastLine (before ++ b.broken unit)).length = unit.length * b.level := by
  rw [Break.broken, lastLine_append_of_mem List.mem_cons_self, ← List.nil_append (_ :: _),
    ← List.singleton_append, ← List.append_assoc,
    lastLine_append_of_notMem (newline_notMem_indentation hunit b.level)]
  simp [lastLine, Nat.mul_comm]

theorem newline_notMem_unbroken (b : Break) : '\n' ∉ b.unbroken := by
  rw [Break.unbroken]
  split_ifs <;> simp

theorem length_unbroken (b : Break) : b.unbroken.length = b.width := by
  rw [Break.unbroken, Break.width]
  split_ifs <;> rfl

namespace Fill

/-! ### The invariant of the filler -/

/-- The output so far. -/
def output (f : Fill) : List Char := f.written.reverse

/-- What has not been placed yet: the pending break point and the characters behind it. -/
def waiting (f : Fill) : List Glyph :=
  match f.pending with
  | none => []
  | some b => .point b :: f.held.reverse.map .char

/-- The columns of the pending break point. -/
def pendingWidth (f : Fill) : Nat := f.pending.elim 0 Break.width

/-- The states that the filler comes to: characters are held back only behind a break point, they
hold no line break and fit on the current line, and the column is that of the current line with
everything on it that is not placed yet. -/
structure Sound (limit : Nat) (f : Fill) : Prop where
  held_eq_nil : f.pending = none → f.held = []
  newline_notMem : '\n' ∉ f.held
  column_le : f.held ≠ [] → f.column ≤ limit
  column_eq : f.column = (lastLine f.output).length + f.pendingWidth + f.held.length

variable {limit : Nat} {unit : List Char} {f : Fill}

theorem sound_start (limit : Nat) : Fill.start.Sound limit :=
  ⟨fun _ => rfl, List.not_mem_nil, fun h => absurd rfl h, rfl⟩

theorem output_write (f : Fill) (chars : List Char) :
    (f.write chars).output = f.output ++ chars := by
  simp [Fill.write, output]

theorem output_keepLine {b : Break} (hp : f.pending = some b) :
    f.keepLine.output = f.output ++ b.unbroken ++ f.held.reverse := by
  have hrev : b.unbroken.reverse = b.unbroken := by
    rw [Break.unbroken]
    split_ifs <;> rfl
  simp [keepLine, hp, output, hrev]

theorem output_breakLine (unit : List Char) {b : Break} (hp : f.pending = some b) :
    (f.breakLine unit).output = f.output ++ b.broken unit ++ f.held.reverse := by
  simp [breakLine, hp, output]

theorem output_dropPoint (f : Fill) : f.dropPoint.output = f.output := by
  cases hp : f.pending <;> simp [dropPoint, hp, output]

/-- A state without a pending break point only has to know its column. -/
theorem sound_of_decided (hp : f.pending = none) (hheld : f.held = [])
    (hcolumn : f.column = (lastLine f.output).length) : f.Sound limit where
  held_eq_nil _ := hheld
  newline_notMem := hheld ▸ List.not_mem_nil
  column_le hne := absurd hheld hne
  column_eq := by simp [hcolumn, pendingWidth, hp, hheld]

theorem Sound.column_of_decided (h : f.Sound limit) (hp : f.pending = none) :
    f.column = (lastLine f.output).length := by
  simpa [pendingWidth, hp, h.held_eq_nil hp] using h.column_eq

theorem Sound.column_of_pending (h : f.Sound limit) {b : Break} (hp : f.pending = some b) :
    f.column = (lastLine f.output).length + b.width + f.held.length := by
  simpa [pendingWidth, hp] using h.column_eq

theorem Sound.newline_notMem_reverse (h : f.Sound limit) : '\n' ∉ f.held.reverse := fun hm =>
  h.newline_notMem (List.mem_reverse.1 hm)

theorem Sound.write (h : f.Sound limit) (hp : f.pending = none) (chars : List Char) :
    (f.write chars).Sound limit := by
  refine sound_of_decided hp (h.held_eq_nil hp) ?_
  rw [output_write, length_lastLine_append, ← h.column_of_decided hp, Fill.write]

theorem Sound.keepLine (h : f.Sound limit) : f.keepLine.Sound limit := by
  cases hp : f.pending with
  | none => simpa [Fill.keepLine, hp] using h
  | some b =>
    refine sound_of_decided (by simp [Fill.keepLine, hp]) (by simp [Fill.keepLine, hp]) ?_
    rw [output_keepLine hp, lastLine_append_of_notMem h.newline_notMem_reverse,
      lastLine_append_of_notMem (newline_notMem_unbroken b), List.length_append,
      List.length_append, length_unbroken, List.length_reverse, ← h.column_of_pending hp]
    simp [Fill.keepLine, hp]

theorem Sound.breakLine (hunit : '\n' ∉ unit) (h : f.Sound limit) :
    (f.breakLine unit).Sound limit := by
  cases hp : f.pending with
  | none => simpa [Fill.breakLine, hp] using h
  | some b =>
    refine sound_of_decided (by simp [Fill.breakLine, hp]) (by simp [Fill.breakLine, hp]) ?_
    rw [output_breakLine unit hp, lastLine_append_of_notMem h.newline_notMem_reverse,
      List.length_append, length_lastLine_broken hunit, List.length_reverse]
    simp [Fill.breakLine, hp]

/-- Dropping a break point takes its columns back; they have been counted. -/
theorem Sound.dropPoint (h : f.Sound limit) (hheld : f.held = []) : f.dropPoint.Sound limit := by
  cases hp : f.pending with
  | none => simpa [Fill.dropPoint, hp] using h
  | some b =>
    refine sound_of_decided (by simp [Fill.dropPoint, hp]) (by simp [Fill.dropPoint, hp, hheld]) ?_
    have hcolumn := h.column_of_pending hp
    rw [output_dropPoint]
    simp only [Fill.dropPoint, hp, hheld, List.length_nil] at hcolumn ⊢
    omega

@[simp] theorem pending_keepLine (f : Fill) : f.keepLine.pending = none := by
  cases hp : f.pending <;> simp [keepLine, hp]

@[simp] theorem pending_breakLine (f : Fill) (unit : List Char) :
    (f.breakLine unit).pending = none := by
  cases hp : f.pending <;> simp [breakLine, hp]

@[simp] theorem pending_dropPoint (f : Fill) : f.dropPoint.pending = none := by
  cases hp : f.pending <;> simp [dropPoint, hp]

/-- Held-back text grows as long as it fits. -/
theorem Sound.hold (h : f.Sound limit) {chars : List Char} (hp : f.pending ≠ none)
    (hchars : '\n' ∉ chars) (hfits : f.column + chars.length ≤ limit) :
    ({ f with held := chars.reverse ++ f.held, column := f.column + chars.length } : Fill).Sound
      limit where
  held_eq_nil hn := absurd hn hp
  newline_notMem := by simpa [hchars] using h.newline_notMem
  column_le _ := hfits
  column_eq := by
    have hcolumn := h.column_eq
    simp only [output, pendingWidth, List.length_append, List.length_reverse] at hcolumn ⊢
    omega

theorem takeWhile_eq_self_of_notMem {chars : List Char} (h : '\n' ∉ chars) :
    chars.takeWhile (· != '\n') = chars :=
  List.takeWhile_eq_self_iff.2 fun c hc => by
    simpa using fun e : c = '\n' => h (e ▸ hc)

theorem Sound.append (hunit : '\n' ∉ unit) (h : f.Sound limit) (chars : List Char) :
    (f.append limit unit chars).Sound limit := by
  simp only [Fill.append]
  split_ifs with hnil hp hmem hempty hfits hfits
  · exact h
  · exact h.write hp chars
  · exact (h.dropPoint hempty.2).write (pending_dropPoint f) chars
  · exact h.keepLine.write (pending_keepLine f) chars
  · exact (h.breakLine hunit).write (pending_breakLine f unit) chars
  · rw [takeWhile_eq_self_of_notMem hmem] at hfits
    exact h.hold hp hmem hfits
  · exact (h.breakLine hunit).write (pending_breakLine f unit) chars

theorem Sound.point (h : f.Sound limit) (b : Break) : (f.point b).Sound limit where
  held_eq_nil hn := absurd hn (by simp [Fill.point])
  newline_notMem := h.keepLine.newline_notMem
  column_le hne := absurd (h.keepLine.held_eq_nil (pending_keepLine f)) hne
  column_eq := by
    have hcolumn := h.keepLine.column_of_decided (pending_keepLine f)
    have hheld := h.keepLine.held_eq_nil (pending_keepLine f)
    simp [Fill.point, hcolumn, pendingWidth, hheld, output]

/-- Every atom keeps the invariant. -/
theorem Sound.step (hunit : '\n' ∉ unit) (h : f.Sound limit) (a : Atom) :
    (f.step limit unit a).Sound limit := by
  cases a with
  | text chars => exact h.append hunit chars
  | point b => exact h.point b

/-! ### The text in the end -/

/-- What is waiting is placed by deciding its break point. -/
theorem placed_waiting (f : Fill) {b : Break} (hp : f.pending = some b) (rest : List Glyph) :
    placed limit unit f.output (f.waiting ++ rest) =
      placed limit unit (f.output ++
        placement limit unit f.output b (f.held.reverse.map .char ++ rest) ++ f.held.reverse)
        rest := by
  simp only [waiting, hp, List.cons_append, placed, placed_chars]

theorem waiting_of_decided (hp : f.pending = none) : f.waiting = [] := by
  rw [waiting, hp]

/-- A state without a pending break point writes what comes next. -/
theorem placed_write (hp : f.pending = none) (chars : List Char) (rest : List Glyph) :
    placed limit unit f.output (chars.map .char ++ rest) =
      placed limit unit (f.write chars).output ((f.write chars).waiting ++ rest) := by
  rw [placed_chars, output_write, waiting_of_decided (f := f.write chars) hp, List.nil_append]

theorem placed_keepLine {b : Break} (hp : f.pending = some b) {rest : List Glyph}
    (h : placement limit unit f.output b (f.held.reverse.map .char ++ rest) = b.unbroken) :
    placed limit unit f.output (f.waiting ++ rest) = placed limit unit f.keepLine.output rest := by
  rw [placed_waiting f hp, h, output_keepLine hp]

theorem placed_breakLine {b : Break} (hp : f.pending = some b) {rest : List Glyph}
    (h : placement limit unit f.output b (f.held.reverse.map .char ++ rest) = b.broken unit) :
    placed limit unit f.output (f.waiting ++ rest) =
      placed limit unit (f.breakLine unit).output rest := by
  rw [placed_waiting f hp, h, output_breakLine unit hp]

theorem placed_dropPoint {b : Break} (hp : f.pending = some b) (hheld : f.held = [])
    {rest : List Glyph} (h : placement limit unit f.output b rest = []) :
    placed limit unit f.output (f.waiting ++ rest) = placed limit unit f.dropPoint.output rest := by
  rw [placed_waiting f hp, hheld, List.reverse_nil, List.map_nil, List.nil_append, h,
    output_dropPoint, List.append_nil, List.append_nil]

/-- The text ahead of a pending break point starts with what is held back behind it. -/
theorem Sound.textAhead_held (h : f.Sound limit) (rest : List Glyph) :
    textAhead (f.held.reverse.map .char ++ rest) = f.held.reverse ++ textAhead rest :=
  textAhead_chars h.newline_notMem_reverse rest

/-- A pending break point becomes a space if the text ahead of it fits. -/
theorem Sound.placement_of_fits (h : f.Sound limit) {b : Break} (hp : f.pending = some b)
    {rest : List Glyph} (hne : f.held.reverse ++ textAhead rest ≠ [])
    (hfits : f.column + (textAhead rest).length ≤ limit) :
    placement limit unit f.output b (f.held.reverse.map .char ++ rest) = b.unbroken := by
  have hcolumn := h.column_of_pending hp
  have hlength : ¬(lastLine f.output).length + b.width +
      (f.held.reverse ++ textAhead rest).length > limit := by
    rw [List.length_append, List.length_reverse]
    omega
  rw [placement, h.textAhead_held, if_neg hne, if_neg hlength]

/-- A pending break point becomes a line break if the text ahead of it does not fit. -/
theorem Sound.placement_of_not_fits (h : f.Sound limit) {b : Break} (hp : f.pending = some b)
    {rest : List Glyph} (hne : f.held.reverse ++ textAhead rest ≠ [])
    (hfits : ¬f.column + (textAhead rest).length ≤ limit) :
    placement limit unit f.output b (f.held.reverse.map .char ++ rest) = b.broken unit := by
  have hcolumn := h.column_of_pending hp
  have hlength : (lastLine f.output).length + b.width +
      (f.held.reverse ++ textAhead rest).length > limit := by
    rw [List.length_append, List.length_reverse]
    omega
  rw [placement, h.textAhead_held, if_neg hne, if_pos hlength]

/-- What is held back fits, so that the break point in front of it becomes a space if nothing else
comes before the next break point or the end. -/
theorem Sound.placement_of_held (h : f.Sound limit) {b : Break} (hp : f.pending = some b)
    (hheld : f.held ≠ []) {rest : List Glyph} (hahead : textAhead rest = []) :
    placement limit unit f.output b (f.held.reverse.map .char ++ rest) = b.unbroken := by
  refine h.placement_of_fits hp (by simpa [hahead] using hheld) ?_
  simpa [hahead] using h.column_le hheld

/-- A piece of text leaves the text that comes out in the end as it is. -/
theorem Sound.placed_append (h : f.Sound limit) (chars : List Char) (rest : List Glyph) :
    placed limit unit f.output (f.waiting ++ (chars.map .char ++ rest)) =
      placed limit unit (f.append limit unit chars).output
        ((f.append limit unit chars).waiting ++ rest) := by
  simp only [Fill.append]
  split_ifs with hnil hp hmem hempty hfits hfits
  · rw [hnil, List.map_nil, List.nil_append]
  · rw [waiting_of_decided hp, List.nil_append, placed_write hp]
  all_goals obtain ⟨b, hb⟩ := Option.ne_none_iff_exists'.1 hp
  · -- a line break directly behind the break point: the break point writes nothing
    have hahead := textAhead_chars_of_mem hmem rest
    have hne : chars ≠ [] := List.ne_nil_of_mem hmem
    have hplace : placement limit unit f.output b (chars.map .char ++ rest) = [] := by
      rw [placement, hahead, if_pos hempty.1, startsWithPoint_chars hne]
      rfl
    rw [placed_dropPoint hb hempty.2 hplace, placed_write (pending_dropPoint f)]
  · have hahead := textAhead_chars_of_mem hmem rest
    have hne : f.held.reverse ++ textAhead (chars.map .char ++ rest) ≠ [] := by
      rw [hahead]
      simpa [and_comm] using hempty
    rw [placed_keepLine hb (h.placement_of_fits hb hne (hahead ▸ hfits)),
      placed_write (pending_keepLine f)]
  · have hahead := textAhead_chars_of_mem hmem rest
    have hne : f.held.reverse ++ textAhead (chars.map .char ++ rest) ≠ [] := by
      rw [hahead]
      simpa [and_comm] using hempty
    rw [placed_breakLine hb (h.placement_of_not_fits hb hne (hahead ▸ hfits)),
      placed_write (pending_breakLine f unit)]
  · -- the piece is held back: nothing is decided
    rw [waiting, waiting, hb]
    simp [output]
  · have hahead := textAhead_chars hmem rest
    rw [takeWhile_eq_self_of_notMem hmem] at hfits
    have hne : f.held.reverse ++ textAhead (chars.map .char ++ rest) ≠ [] := by
      simp [hahead, hnil]
    have hover : ¬f.column + (textAhead (chars.map .char ++ rest)).length ≤ limit := by
      rw [hahead, List.length_append]
      omega
    rw [placed_breakLine hb (h.placement_of_not_fits hb hne hover),
      placed_write (pending_breakLine f unit)]

/-- A break point decides the one before it and waits for the text behind it. -/
theorem Sound.placed_point (h : f.Sound limit) (b : Break) (rest : List Glyph) :
    placed limit unit f.output (f.waiting ++ .point b :: rest) =
      placed limit unit (f.point b).output ((f.point b).waiting ++ rest) := by
  have hheld := h.keepLine.held_eq_nil (pending_keepLine f)
  have hpoint : (f.point b).waiting = [.point b] := by
    rw [waiting, Fill.point]
    simp [hheld]
  rw [hpoint, List.singleton_append, show (f.point b).output = f.keepLine.output from rfl]
  cases hp : f.pending with
  | none => rw [waiting_of_decided hp, List.nil_append, Fill.keepLine, hp]
  | some b' =>
    refine placed_keepLine hp ?_
    by_cases hne : f.held = []
    · simp [placement, hne, textAhead, startsWithPoint]
    · exact h.placement_of_held hp hne rfl

/-- An atom leaves the text that comes out in the end as it is. -/
theorem Sound.placed_step (h : f.Sound limit) (a : Atom) (rest : List Glyph) :
    placed limit unit f.output (f.waiting ++ (a.glyphs ++ rest)) =
      placed limit unit (f.step limit unit a).output ((f.step limit unit a).waiting ++ rest) := by
  cases a with
  | text chars => exact h.placed_append chars rest
  | point b => exact h.placed_point b rest

/-- The text in the end is what has been written, with what is waiting behind it. -/
theorem Sound.text_eq_placed (h : f.Sound limit) :
    f.text = placed limit unit f.output f.waiting := by
  rw [← List.append_nil f.waiting, Fill.text]
  cases hp : f.pending with
  | none => simp [waiting_of_decided hp, h.held_eq_nil hp, placed, output]
  | some b =>
    by_cases hheld : f.held = []
    · rw [placed_waiting f hp]
      simp [hheld, placement, textAhead, startsWithPoint, placed, output]
    · rw [placed_keepLine hp (h.placement_of_held hp hheld rfl), if_neg (by simpa using hheld)]
      rfl

/-- Whatever atoms follow, the text in the end is the one that places them behind the output. -/
theorem Sound.text_foldl_step (hunit : '\n' ∉ unit) (h : f.Sound limit) (atoms : List Atom) :
    (atoms.foldl (Fill.step limit unit) f).text =
      placed limit unit f.output (f.waiting ++ glyphs atoms) := by
  induction atoms generalizing f with
  | nil => simpa [glyphs] using h.text_eq_placed
  | cons a atoms ih =>
    rw [List.foldl_cons, ih (h.step hunit a), ← h.placed_step, glyphs, glyphs, List.flatMap_cons]

end Fill

/-- **Filled text is placed text.**  For every column limit, unit of indentation without line breaks
and list of atoms, filling writes the text as it is and each break point by the text up to the next
break point, line break or end: nothing in front of a line break or the end, a space in front of
another break point, and otherwise a line break and the indentation exactly if that text, with the
space, does not fit on the current line. -/
theorem fill_eq_placed (limit : Nat) {unit : List Char} (hunit : '\n' ∉ unit)
    (atoms : List Atom) :
    fill limit unit atoms = String.ofList (placed limit unit [] (glyphs atoms)) := by
  rw [fill, (Fill.sound_start limit).text_foldl_step hunit atoms]
  rfl

/-- A word in two pieces that only fits on a line of its own, two break points side by side, one
without width, and one in front of a line break. -/
theorem fill_eq_placed_long_word :
    '\n' ∉ [' ', ' '] ∧
      let atoms : List Atom := [.text ['a', 'b'], .point ⟨1, true⟩, .text ['c', 'd'],
        .text ['e', 'f'], .point ⟨1, true⟩, .point ⟨2, false⟩, .text ['g', '\n', 'h'],
        .point ⟨1, true⟩, .text ['\n']]
      fill 6 [' ', ' '] atoms = String.ofList (placed 6 [' ', ' '] [] (glyphs atoms)) ∧
        String.ofList (placed 6 [' ', ' '] [] (glyphs atoms)) = "ab\n  cdef \n    g\nh\n" :=
  ⟨by decide, fill_eq_placed 6 (by decide) _, by decide⟩

end KotlinSource
