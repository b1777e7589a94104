import KotlinSource.Proofs.Layout.BreakPlacement

/-!
# The column of the filler

The filler counts columns by hand: it adds the width of a break point as soon as the break point
comes, adds text that it holds back, starts again behind a line break, and takes the width of a
break point back when it drops the break point in front of a line break.  Behind every list of atoms
the column is that of the current line of the output, with everything on it that is pending.

Taking columns back is the one place where the column gets smaller on its line.  The filler never
takes back more than it has counted: one that gives up instead (`Fill.step?`) comes to the same
states and never gives up.

## Main definitions

* `Fill.dropPoint?`, `Fill.append?`, `Fill.step?`: a filler that gives up rather than take back more
  columns than it has counted.

## Main results

* `Fill.Sound.step?_eq`: in the states that the filler comes to, it does not give up.
* `Fill.Sound.foldlM_step?`: nor on the way through a list of atoms.
* `Fill.column_exact`: what is held back, and the column.
-/

namespace KotlinSource

namespace Fill

/-! ### Giving up -/

/-- Drop the pending break point, unless its columns have not been counted. -/
def dropPoint? (f : Fill) : Option Fill :=
  if f.pendingWidth ≤ f.column then some f.dropPoint else none

variable (limit : Nat) (unit : List Char)

/-- The effect of a piece of text.  A line break directly behind a break point drops it. -/
def append? (f : Fill) (chars : List Char) : Option Fill :=
  if chars.head? = some '\n' ∧ f.held = [] then f.dropPoint?.map fun dropped => dropped.write chars
  else some (f.append limit unit chars)

/-- The effect of an atom. -/
def step? (f : Fill) : Atom → Option Fill
  | .text chars => f.append? limit unit chars
  | .point b => some (f.point b)

variable {limit unit} {f : Fill}

/-- A line break directly behind a break point drops it; without a break point it is only written. -/
theorem append_newline (hheld : f.held = []) (rest : List Char) :
    f.append limit unit ('\n' :: rest) = f.dropPoint.write ('\n' :: rest) := by
  cases hp : f.pending with
  | none => simp [append, dropPoint, hp]
  | some b => simp [append, hp, hheld]

/-- The columns of a pending break point have been counted. -/
theorem Sound.pendingWidth_le (h : f.Sound limit) : f.pendingWidth ≤ f.column := by
  have hcolumn := h.column_eq
  omega

/-- In the states that the filler comes to, it does not give up. -/
theorem Sound.step?_eq (h : f.Sound limit) (a : Atom) :
    f.step? limit unit a = some (f.step limit unit a) := by
  cases a with
  | point b => rfl
  | text chars =>
    rw [Fill.step?, append?, Fill.step]
    split_ifs with hdrop
    · obtain ⟨hhead, hheld⟩ := hdrop
      obtain ⟨rest, rfl⟩ := List.head?_eq_some_iff.1 hhead
      rw [dropPoint?, if_pos h.pendingWidth_le, Option.map_some, append_newline hheld]
    · rfl

/-- From such a state every list of atoms leads to such a state, and the filler does not give up on
the way. -/
theorem Sound.foldlM_step? (hunit : '\n' ∉ unit) (h : f.Sound limit) (atoms : List Atom) :
    (atoms.foldl (Fill.step limit unit) f).Sound limit ∧
      atoms.foldlM (Fill.step? limit unit) f = some (atoms.foldl (Fill.step limit unit) f) := by
  induction atoms generalizing f with
  | nil => exact ⟨h, rfl⟩
  | cons a atoms ih =>
    rw [List.foldl_cons, List.foldlM_cons, h.step?_eq a]
    exact ih (h.step hunit a)

/-- **The column is exact.**  For every column limit, unit of indentation without line breaks and
list of atoms: behind the atoms, what is held back has no line break; if it is not empty, a break
point is pending and the column is at most the limit; and the column is the number of characters
behind the last line break of the output, plus one if the pending break point is a space, plus what
is held back.  A filler that gives up rather than take back more columns than it has counted comes
to the same state.  If nothing is held back, dropping the pending break point takes back exactly its
columns, and what is left is the column of the output. -/
theorem column_exact (limit : Nat) {unit : List Char} (hunit : '\n' ∉ unit) (atoms : List Atom) :
    let f := atoms.foldl (step limit unit) start
    '\n' ∉ f.held ∧
      (f.held ≠ [] → f.pending ≠ none ∧ f.column ≤ limit) ∧
      f.column = (lastLine f.output).length + (if f.pending.any Break.wide then 1 else 0) +
        f.held.length ∧
      atoms.foldlM (step? limit unit) start = some f ∧
      (f.held = [] → f.dropPoint.column + (if f.pending.any Break.wide then 1 else 0) = f.column ∧
        f.dropPoint.column = (lastLine f.output).length) := by
  intro f
  obtain ⟨hsound, hrun⟩ := (sound_start limit).foldlM_step? hunit atoms
  have hwidth : f.pendingWidth = if f.pending.any Break.wide then 1 else 0 := by
    rw [pendingWidth]
    cases f.pending <;> rfl
  rw [← hwidth]
  refine ⟨hsound.newline_notMem, fun hheld => ⟨fun hp => hheld (hsound.held_eq_nil hp), ?_⟩,
    hsound.column_eq, hrun, fun hheld => ?_⟩
  · exact hsound.column_le hheld
  · have hcolumn := hsound.column_eq
    have hdropped : f.dropPoint.column = (lastLine f.output).length := by
      rw [(hsound.dropPoint hheld).column_of_decided (pending_dropPoint f), output_dropPoint]
    rw [hheld, List.length_nil, Nat.add_zero] at hcolumn
    exact ⟨by rw [hdropped, ← hcolumn], hdropped⟩

/-- A space that is dropped in front of a line break, and one behind which two pieces of text are
held back. -/
theorem column_exact_heldSpace :
    '\n' ∉ [' ', ' '] ∧
      let atoms : List Atom := [.text ['a', 'b'], .point ⟨1, true⟩, .text ['\n', 'c'],
        .point ⟨1, true⟩, .text ['d'], .text ['e', 'f']]
      let f := atoms.foldl (step 6 [' ', ' ']) start
      f.output = ['a', 'b', '\n', 'c'] ∧ f.held = ['f', 'e', 'd'] ∧ f.column = 1 + 1 + 3 ∧
        f.column ≤ 6 ∧ atoms.foldlM (step? 6 [' ', ' ']) start = some f := by
  have hunit : '\n' ∉ [' ', ' '] := by decide
  refine ⟨hunit, ?_⟩
  intro atoms f
  obtain ⟨-, hfits, hcolumn, hrun, -⟩ := column_exact 6 hunit atoms
  exact ⟨by decide, by decide, hcolumn.trans (by decide), (hfits (by decide)).2, hrun⟩

/-- A break point with nothing behind it may stand beyond the limit: it will break there, unless the
line ends. -/
example :
    let f := [Atom.text ['a', 'b'], .point ⟨1, true⟩].foldl (step 2 [' ', ' ']) start
    f.pending ≠ none ∧ f.held = [] ∧ 2 < f.column := by
  decide

end Fill

end KotlinSource
