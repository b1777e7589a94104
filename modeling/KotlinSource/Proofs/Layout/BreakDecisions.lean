import KotlinSource.Proofs.Layout.BreakPlacement
import Mathlib.Data.List.Chain
import Mathlib.Data.List.Forall2

/-!
# What becomes of the break points of a text

A filled text is the list of its characters and break points together with a decision for each
break point: it is dropped in front of a line break, the line goes on there, or it breaks.  This
file looks at the decisions in two ways.

Under two column limits the same break points are dropped, so that the two texts can differ only in
break points at which the line goes on in one of them and breaks in the other.

A break point at which the line goes on has been given room for the text up to the next one.  If no
two break points stand side by side, the next one is given room in its turn, up to the end of the
line; so a line that goes on at a break point has no more characters than the limit.

## Main definitions

* `Decision`, `Item`: what becomes of a break point, and a text in which that is said.
* `decided`: a text with what becomes of its break points.
* `Item.glyph`: an item without what is decided about it.
* `Item.SameButBreak`: items that differ at most in whether the line breaks.
* `PointsApart`: texts without two break points side by side.

## Main results

* `placed_eq_append_itemsText`: the decisions say what is written.
* `exists_decided_append_chars`: characters that follow each other stay together.
* `forall₂_sameButBreak_decided`: two column limits.
* `PointsApart.length_line_le`, `firstLine_eq_nil_of_dropped`: lines that go on at a break point,
  and lines that end at one.
-/

namespace KotlinSource

/-! ### Decisions -/

/-- What becomes of a break point. -/
inductive Decision where
  /-- Nothing is written, as the line ends there in any case. -/
  | dropped
  /-- The line goes on, behind a space if the break point is wide. -/
  | kept
  /-- The line breaks. -/
  | broken
  deriving DecidableEq, Repr

/-- What a break point writes. -/
def Decision.chars (unit : List Char) (b : Break) : Decision → List Char
  | .dropped => []
  | .kept => b.unbroken
  | .broken => b.broken unit

/-- A character of a text, or a break point with what becomes of it. -/
inductive Item where
  | char (c : Char)
  | point (b : Break) (d : Decision)
  deriving DecidableEq, Repr

/-- What an item writes. -/
def Item.chars (unit : List Char) : Item → List Char
  | .char c => [c]
  | .point b d => d.chars unit b

/-- What a list of items writes. -/
def itemsText (unit : List Char) (items : List Item) : List Char :=
  items.flatMap (Item.chars unit)

/-- What becomes of a break point behind the output `before` and in front of `rest`. -/
def decision (limit : Nat) (before : List Char) (b : Break) (rest : List Glyph) : Decision :=
  if textAhead rest = [] then
    if startsWithPoint rest then .kept else .dropped
  else if (lastLine before).length + b.width + (textAhead rest).length > limit then .broken
  else .kept

/-- A text behind the output `before`, with what becomes of its break points. -/
def decided (limit : Nat) (unit before : List Char) : List Glyph → List Item
  | [] => []
  | .char c :: rest => .char c :: decided limit unit (before ++ [c]) rest
  | .point b :: rest =>
    let d := decision limit before b rest
    .point b d :: decided limit unit (before ++ d.chars unit b) rest

section Decided

variable (limit : Nat) (unit before : List Char)

@[simp] theorem itemsText_cons (i : Item) (items : List Item) :
    itemsText unit (i :: items) = i.chars unit ++ itemsText unit items := rfl

theorem itemsText_append (front back : List Item) :
    itemsText unit (front ++ back) = itemsText unit front ++ itemsText unit back :=
  List.flatMap_append

theorem itemsText_chars (chars : List Char) : itemsText unit (chars.map .char) = chars := by
  induction chars with
  | nil => rfl
  | cons c chars ih => rw [List.map_cons, itemsText_cons, ih, Item.chars, List.singleton_append]

theorem placement_eq_chars (b : Break) (rest : List Glyph) :
    placement limit unit before b rest = (decision limit before b rest).chars unit b := by
  rw [placement, decision]
  split_ifs <;> rfl

/-- The decisions say what is written. -/
theorem placed_eq_append_itemsText (gs : List Glyph) :
    placed limit unit before gs = before ++ itemsText unit (decided limit unit before gs) := by
  induction gs generalizing before with
  | nil => exact (List.append_nil before).symm
  | cons g rest ih =>
    cases g with
    | char c => rw [placed, ih, decided, itemsText_cons, Item.chars, List.append_assoc]
    | point b =>
      rw [placed, placement_eq_chars, ih, decided, itemsText_cons, Item.chars, List.append_assoc]

end Decided

/-! ### Items and glyphs -/

/-- The character, or the break point without what becomes of it. -/
def Item.glyph : Item → Glyph
  | .char c => .char c
  | .point b _ => .point b

/-- Deciding about break points leaves all characters and break points where they are. -/
theorem map_glyph_decided (limit : Nat) (unit before : List Char) (gs : List Glyph) :
    (decided limit unit before gs).map Item.glyph = gs := by
  induction gs generalizing before with
  | nil => rfl
  | cons g rest ih => cases g <;> simp [decided, Item.glyph, ih]

theorem eq_chars_of_map_glyph {items : List Item} {chars : List Char}
    (h : items.map Item.glyph = chars.map .char) : items = chars.map .char := by
  induction chars generalizing items with
  | nil => simpa using h
  | cons c chars ih =>
    obtain ⟨i, items, rfl, hi, hitems⟩ := List.map_eq_cons_iff.1 h
    cases i with
    | char c' =>
      cases hi
      rw [ih hitems, List.map_cons]
    | point b d => cases hi

/-- Characters that follow each other stay together, whatever is decided about the break points
around them. -/
theorem exists_decided_append_chars (limit : Nat) (unit before : List Char) (gs : List Glyph)
    (chars : List Char) (rest : List Glyph) :
    ∃ front back, decided limit unit before (gs ++ (chars.map .char ++ rest)) =
        front ++ (chars.map .char ++ back) ∧
      front.map Item.glyph = gs ∧ back.map Item.glyph = rest := by
  have hmap := map_glyph_decided limit unit before (gs ++ (chars.map .char ++ rest))
  obtain ⟨front, others, hdecided, hfront, hothers⟩ := List.map_eq_append_iff.1 hmap
  obtain ⟨middle, back, rfl, hmiddle, hback⟩ := List.map_eq_append_iff.1 hothers
  exact ⟨front, back, eq_chars_of_map_glyph hmiddle ▸ hdecided, hfront, hback⟩

/-! ### Two column limits -/

/-- Two items are the same, or the same break point, at which the line breaks for one of them and
goes on for the other. -/
inductive Item.SameButBreak : Item → Item → Prop
  | refl (i : Item) : SameButBreak i i
  | broken_kept (b : Break) : SameButBreak (.point b .broken) (.point b .kept)
  | kept_broken (b : Break) : SameButBreak (.point b .kept) (.point b .broken)

section Limits

variable (limit limit' : Nat) (unit before before' : List Char)

/-- Whether a break point is dropped does not depend on the limit, nor on the output so far. -/
theorem sameButBreak_decision (b : Break) (rest : List Glyph) :
    Item.SameButBreak (.point b (decision limit before b rest))
      (.point b (decision limit' before' b rest)) := by
  rw [decision, decision]
  split_ifs
  · exact .refl _
  · exact .refl _
  · exact .refl _
  · exact .broken_kept b
  · exact .kept_broken b
  · exact .refl _

/-- Under two column limits a text differs only in where its lines break. -/
theorem forall₂_sameButBreak_decided (gs : List Glyph) :
    List.Forall₂ Item.SameButBreak (decided limit unit before gs)
      (decided limit' unit before' gs) := by
  induction gs generalizing before before' with
  | nil => exact .nil
  | cons g rest ih =>
    cases g with
    | char c => exact .cons (.refl _) (ih _ _)
    | point b => exact .cons (sameButBreak_decision limit limit' before before' b rest) (ih _ _)

end Limits

/-- What is decided about a break point in a text, and what is decided behind it, depends on what
the text writes before it. -/
theorem exists_rest_of_decided {limit : Nat} {unit before : List Char} {gs : List Glyph}
    {front back : List Item} {b : Break} {d : Decision}
    (h : decided limit unit before gs = front ++ .point b d :: back) :
    ∃ rest, .point b :: rest <:+ gs ∧ d = decision limit (before ++ itemsText unit front) b rest ∧
      back = decided limit unit (before ++ itemsText unit front ++ d.chars unit b) rest := by
  induction gs generalizing before front with
  | nil => simp [decided] at h
  | cons g rest ih =>
    cases front with
    | nil =>
      cases g with
      | char c => simp [decided] at h
      | point b' =>
        simp only [decided, List.nil_append, List.cons.injEq, Item.point.injEq] at h
        obtain ⟨⟨rfl, rfl⟩, rfl⟩ := h
        exact ⟨rest, List.suffix_rfl, by simp [itemsText], by simp [itemsText]⟩
    | cons i front =>
      have hnext :
          decided limit unit (before ++ i.chars unit) rest = front ++ .point b d :: back := by
        cases g with
        | char c =>
          simp only [decided, List.cons_append, List.cons.injEq] at h
          obtain ⟨rfl, h⟩ := h
          exact h
        | point b' =>
          simp only [decided, List.cons_append, List.cons.injEq] at h
          obtain ⟨rfl, h⟩ := h
          exact h
      have hbefore : before ++ i.chars unit ++ itemsText unit front =
          before ++ itemsText unit (i :: front) := by
        rw [itemsText_cons, List.append_assoc]
      obtain ⟨later, hsuffix, hd, hback⟩ := ih hnext
      rw [hbefore] at hd hback
      exact ⟨later, hsuffix.trans (List.suffix_cons g rest), hd, hback⟩

/-! ### Lines that go on -/

/-- Whether a glyph is a break point. -/
def Glyph.isPoint : Glyph → Bool
  | .char _ => false
  | .point _ => true

/-- No two break points stand side by side. -/
def PointsApart (gs : List Glyph) : Prop :=
  gs.IsChain fun g h => g.isPoint = true → h.isPoint = false

instance (gs : List Glyph) : Decidable (PointsApart gs) :=
  inferInstanceAs (Decidable (gs.IsChain fun g h => g.isPoint = true → h.isPoint = false))

/-- The characters before the first line break. -/
def firstLine (chars : List Char) : List Char := chars.takeWhile (· != '\n')

section Lines

variable {limit : Nat} {unit before : List Char} {gs : List Glyph}

theorem PointsApart.suffix {rest : List Glyph} (h : PointsApart gs) (hrest : rest <:+ gs) :
    PointsApart rest := List.IsChain.suffix h hrest

theorem PointsApart.tail {g : Glyph} (h : PointsApart (g :: gs)) : PointsApart gs :=
  h.suffix (List.suffix_cons g gs)

/-- A character may stand behind anything, a break point behind anything but a break point. -/
theorem PointsApart.append_glyph (h : PointsApart gs) {g : Glyph}
    (hlast : g.isPoint = true → ∀ front b, gs ≠ front ++ [.point b]) :
    PointsApart (gs ++ [g]) := by
  refine List.isChain_append.2 ⟨h, List.isChain_singleton _, ?_⟩
  intro last hmem next hnext hpoint
  obtain ⟨front, rfl⟩ := List.getLast?_eq_some_iff.1 hmem
  obtain rfl : g = next := by simpa using hnext
  cases last with
  | char c => cases hpoint
  | point b =>
    by_contra hg
    exact hlast (by simpa using hg) front b rfl

theorem PointsApart.append_chars (h : PointsApart gs) (chars : List Char) :
    PointsApart (gs ++ chars.map .char) := by
  induction chars using List.reverseRecOn with
  | nil => simpa using h
  | append_singleton chars c ih =>
    rw [List.map_append, ← List.append_assoc]
    exact ih.append_glyph fun hchar => by cases hchar

/-- Text that ends with a break point does so before further characters only if there are none. -/
theorem eq_of_append_chars_eq_append_point {front : List Glyph} {chars : List Char} {b : Break}
    (h : gs ++ chars.map .char = front ++ [.point b]) : chars = [] ∧ gs = front ++ [.point b] := by
  cases chars using List.reverseRecOn with
  | nil => exact ⟨rfl, by simpa using h⟩
  | append_singleton chars c =>
    rw [List.map_append, ← List.append_assoc, List.map_singleton] at h
    cases (List.append_inj_right' h rfl)

theorem PointsApart.startsWithPoint_eq_false {b : Break} (h : PointsApart (.point b :: gs)) :
    startsWithPoint gs = false := by
  cases gs with
  | nil => rfl
  | cons g rest =>
    have hg := (List.isChain_cons_cons.1 h).1 rfl
    cases g with
    | char c => rfl
    | point b' => cases hg

/-- A break point at which the line goes on has room for the text ahead of it. -/
theorem PointsApart.length_le_of_kept {b : Break} (h : PointsApart (.point b :: gs))
    (hkept : decision limit before b gs = .kept) :
    (lastLine (before ++ b.unbroken)).length + (textAhead gs).length ≤ limit := by
  rw [decision, h.startsWithPoint_eq_false, if_neg Bool.false_ne_true] at hkept
  split_ifs at hkept with hnil hover
  rw [lastLine_append_of_notMem (newline_notMem_unbroken b), List.length_append, length_unbroken]
  omega

theorem firstLine_append_of_notMem {chars : List Char} (h : '\n' ∉ chars) (rest : List Char) :
    firstLine (chars ++ rest) = chars ++ firstLine rest := by
  refine List.takeWhile_append_of_pos fun c hc => ?_
  have hne : c ≠ '\n' := fun e => h (e ▸ hc)
  simpa using hne

/-- A line with room for the text up to the next break point has room for all of it. -/
theorem PointsApart.length_firstLine_le (h : PointsApart gs)
    (hroom : (lastLine before).length + (textAhead gs).length ≤ limit) :
    (lastLine before).length + (firstLine (itemsText unit (decided limit unit before gs))).length ≤
      limit := by
  induction gs generalizing before with
  | nil => simpa [decided, itemsText, firstLine, textAhead] using hroom
  | cons g rest ih =>
    cases g with
    | char c =>
      by_cases hc : c = '\n'
      · have hline : (lastLine before).length ≤ limit := by omega
        simpa [decided, itemsText_cons, Item.chars, firstLine, hc] using hline
      · have hnotMem : '\n' ∉ [c] := fun hmem => hc (List.mem_singleton.1 hmem).symm
        rw [textAhead, if_neg hc, List.length_cons] at hroom
        have hnext := @ih (before ++ [c]) h.tail (by
          rw [lastLine_append_of_notMem hnotMem, List.length_append, List.length_singleton]
          omega)
        rw [lastLine_append_of_notMem hnotMem, List.length_append, List.length_singleton] at hnext
        rw [decided, itemsText_cons, Item.chars, firstLine_append_of_notMem hnotMem,
          List.length_append, List.length_singleton]
        omega
    | point b =>
      have hline : (lastLine before).length ≤ limit := Nat.le_of_add_right_le hroom
      rw [decided, itemsText_cons, Item.chars]
      cases hd : decision limit before b rest with
      | dropped =>
        -- the line ends at the break point
        have hahead : textAhead rest = [] := by
          rw [decision] at hd
          split_ifs at hd with hnil
          exact hnil
        rw [Decision.chars, List.append_nil, List.nil_append]
        exact ih h.tail (by simpa [hahead] using hline)
      | kept =>
        have hnext := ih h.tail (h.length_le_of_kept hd)
        have hnotMem := newline_notMem_unbroken b
        rw [lastLine_append_of_notMem hnotMem, List.length_append] at hnext
        rw [Decision.chars, firstLine_append_of_notMem hnotMem, List.length_append]
        omega
      | broken => simpa [Decision.chars, Break.broken, firstLine] using hline

/-- If no two break points stand side by side, a line that goes on at a break point has no more
characters than the limit. -/
theorem PointsApart.length_line_le (h : PointsApart gs) {front back : List Item} {b : Break}
    (hitems : decided limit unit before gs = front ++ .point b .kept :: back) :
    (lastLine (before ++ itemsText unit front) ++ b.unbroken ++
      firstLine (itemsText unit back)).length ≤ limit := by
  obtain ⟨rest, hrest, hkept, rfl⟩ := exists_rest_of_decided hitems
  have hpoint : PointsApart (.point b :: rest) := h.suffix hrest
  have hroom := hpoint.length_le_of_kept hkept.symm
  rw [Decision.chars, List.length_append,
    ← lastLine_append_of_notMem (newline_notMem_unbroken b)]
  exact hpoint.tail.length_firstLine_le hroom

/-- A break point is dropped only where its line ends in any case. -/
theorem firstLine_eq_nil_of_dropped {front back : List Item} {b : Break}
    (hitems : decided limit unit before gs = front ++ .point b .dropped :: back) :
    firstLine (itemsText unit back) = [] := by
  obtain ⟨rest, -, hdropped, rfl⟩ := exists_rest_of_decided hitems
  rw [decision] at hdropped
  split_ifs at hdropped with hahead hpoint
  cases rest with
  | nil => rfl
  | cons g rest =>
    cases g with
    | point b' => exact absurd rfl hpoint
    | char c =>
      rw [textAhead] at hahead
      split_ifs at hahead with hc
      simp [decided, Item.chars, firstLine, hc]

end Lines

end KotlinSource
