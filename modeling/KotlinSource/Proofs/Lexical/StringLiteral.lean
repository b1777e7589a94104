import KotlinSource.Lexical.StringLiteral
import Mathlib.Algebra.Group.Nat.Defs
import Mathlib.Tactic.SplitIfs

/-!
# Reading string literals

What a literal stands for is said by a reader of its own, which knows the escapes of string literals
but nothing of how literals are written.  It reads from the first quote to the quote that ends the
literal, collects UTF-16 units on the way, and puts pairs of surrogates together in the end.  A
dollar sign would start a template and a line break would end the line, so that neither may stand
there as it is.

Every text comes back from its literal, whatever stands behind it.  So the literal ends at its last
quote and nowhere before, and different texts have different literals.

## Main definitions

* `readUnits?`: the inside of a literal, up to the quote that ends it.
* `joinUnits?`: the characters of a sequence of UTF-16 units.
* `readLiteral?`: the text of a literal, and what stands behind the literal.
* `isSealed`: texts in which every quote and every dollar sign is escaped.
* `IsLiteralOf`: the literals of a text.

## Main results

* `joinUnits?_utf16Units`: a character comes back from its units.
* `readUnits?_escapeChar`: the units of a character come back from its spelling.
* `isLiteralOf_quotedChars`: a text comes back from its literal.
-/

namespace KotlinSource

/-! ### Hexadecimal numbers -/

/-- The value of a hexadecimal digit, small or capital. -/
def hexValue? (c : Char) : Option Nat :=
  if '0' ≤ c ∧ c ≤ '9' then some (c.toNat - 48)
  else if 'a' ≤ c ∧ c ≤ 'f' then some (c.toNat - 87)
  else if 'A' ≤ c ∧ c ≤ 'F' then some (c.toNat - 55)
  else none

/-- The number that hexadecimal digits stand for. -/
def hexNumber? (digits : List Char) : Option Nat :=
  digits.foldlM (fun value c => (hexValue? c).map fun digit => 16 * value + digit) 0

theorem hexValue?_hexDigit : ∀ d < 16, hexValue? (hexDigit d) = some d := by decide

theorem hexNumber?_hexDigits (width n : Nat) :
    hexNumber? (hexDigits width n) = some (n % 16 ^ width) := by
  induction width generalizing n with
  | zero => simp [hexDigits, hexNumber?, Nat.mod_one]
  | succ width ih =>
    have hfront := ih (n / 16)
    have hdigit := hexValue?_hexDigit (n % 16) (Nat.mod_lt n (by decide))
    have hvalue : 16 * (n / 16 % 16 ^ width) + n % 16 = n % 16 ^ (width + 1) := by
      rw [Nat.pow_succ, Nat.mul_comm (16 ^ width), Nat.mod_mul, Nat.add_comm]
    rw [hexNumber?] at hfront ⊢
    rw [hexDigits, List.foldlM_append, hfront]
    simp [hdigit, hvalue]

/-! ### UTF-16 -/

mutual

/-- The characters of a sequence of UTF-16 units: a high surrogate makes one with the low surrogate
behind it, and no surrogate stands alone. -/
def joinUnits? : List Nat → Option (List Char)
  | [] => some []
  | u :: rest =>
    if 0xD800 ≤ u ∧ u < 0xDC00 then joinBehind? u rest
    else if 0xDC00 ≤ u ∧ u < 0xE000 then none
    else (joinUnits? rest).map (Char.ofNat u :: ·)

/-- The characters of a sequence of UTF-16 units behind the high surrogate `high`. -/
def joinBehind? (high : Nat) : List Nat → Option (List Char)
  | [] => none
  | u :: rest =>
    if 0xDC00 ≤ u ∧ u < 0xE000 then
      (joinUnits? rest).map (Char.ofNat (0x10000 + (high - 0xD800) * 0x400 + (u - 0xDC00)) :: ·)
    else none

end

theorem toNat_bounds (c : Char) :
    c.toNat < 0xD800 ∨ 0xE000 ≤ c.toNat ∧ c.toNat < 0x110000 := by
  rcases c.valid with h | ⟨h, h'⟩
  · exact .inl h
  · exact .inr ⟨h, h'⟩

/-- A character comes back from its units. -/
theorem joinUnits?_utf16Units (c : Char) (rest : List Nat) :
    joinUnits? (utf16Units c.toNat ++ rest) = (joinUnits? rest).map (c :: ·) := by
  have hbounds := toNat_bounds c
  rw [utf16Units]
  split_ifs with hsmall
  · rw [List.singleton_append, joinUnits?, if_neg (by omega), if_neg (by omega), Char.ofNat_toNat]
  · have hvalue : 0x10000 + (0xD800 + (c.toNat - 0x10000) / 0x400 - 0xD800) * 0x400 +
        (0xDC00 + (c.toNat - 0x10000) % 0x400 - 0xDC00) = c.toNat := by omega
    rw [List.cons_append, List.singleton_append, joinUnits?, if_pos (by omega), joinBehind?,
      if_pos (by omega), hvalue, Char.ofNat_toNat]

theorem joinUnits?_flatMap (s : List Char) :
    joinUnits? (s.flatMap fun c => utf16Units c.toNat) = some s := by
  induction s with
  | nil => rfl
  | cons c s ih => rw [List.flatMap_cons, joinUnits?_utf16Units, ih, Option.map_some]

/-! ### Reading -/

/-- The character that a letter behind a backslash stands for. -/
def escaped? : Char → Option Char
  | '\\' => some '\\'
  | '"' => some '"'
  | '$' => some '$'
  | 'n' => some '\n'
  | 'r' => some '\r'
  | 't' => some '\t'
  | 'b' => some '\x08'
  | _ => none

/-- A reading with more units in front. -/
def withUnits (units : List Nat) (reading : Option (List Nat × List Char)) :
    Option (List Nat × List Char) := reading.map fun r => (units ++ r.1, r.2)

mutual

/-- The UTF-16 units of the inside of a literal up to the quote that ends it, and what stands behind
that quote. -/
def readUnits? : List Char → Option (List Nat × List Char)
  | [] => none
  | c :: rest =>
    if c = '"' then some ([], rest)
    else if c = '\\' then readEscape? rest
    else if c = '$' ∨ c = '\n' ∨ c = '\r' then none
    else withUnits (utf16Units c.toNat) (readUnits? rest)

/-- The same from behind a backslash. -/
def readEscape? : List Char → Option (List Nat × List Char)
  | [] => none
  | e :: rest =>
    if e = 'u' then readUnit? rest
    else
      match escaped? e with
      | some c => withUnits (utf16Units c.toNat) (readUnits? rest)
      | none => none

/-- The same from the four digits of a unit on. -/
def readUnit? : List Char → Option (List Nat × List Char)
  | h :: i :: j :: k :: rest =>
    match hexNumber? [h, i, j, k] with
    | some u => withUnits [u] (readUnits? rest)
    | none => none
  | _ => none

end

/-- The text of the literal at the start of `source`, and what stands behind the literal. -/
def readLiteral? (source : List Char) : Option (List Char × List Char) :=
  match source with
  | '"' :: inside => do
    let (units, rest) ← readUnits? inside
    let value ← joinUnits? units
    return (value, rest)
  | _ => none

theorem withUnits_nil (reading : Option (List Nat × List Char)) : withUnits [] reading = reading := by
  simp [withUnits]

theorem withUnits_withUnits (units units' : List Nat) (reading : Option (List Nat × List Char)) :
    withUnits units (withUnits units' reading) = withUnits (units ++ units') reading := by
  cases reading <;> simp [withUnits]

/-- A letter behind a backslash is read as the character that it stands for. -/
theorem readUnits?_backslash {e c : Char} (h : escaped? e = some c) (rest : List Char) :
    readUnits? ('\\' :: e :: rest) = withUnits (utf16Units c.toNat) (readUnits? rest) := by
  have he : e ≠ 'u' := by
    rintro rfl
    cases h
  rw [readUnits?, if_neg (by decide), if_pos rfl, readEscape?, if_neg he, h]

/-- A unit comes back from its spelling. -/
theorem readUnits?_unitEscape {u : Nat} (hu : u < 0x10000) (rest : List Char) :
    readUnits? (unitEscape u ++ rest) = withUnits [u] (readUnits? rest) := by
  obtain ⟨h, i, j, k, hdigits⟩ : ∃ h i j k, hexDigits 4 u = [h, i, j, k] := ⟨_, _, _, _, rfl⟩
  have hwidth : u < 16 ^ 4 := Nat.lt_of_lt_of_eq hu (by decide)
  have hnumber := hexNumber?_hexDigits 4 u
  rw [hdigits, Nat.mod_eq_of_lt hwidth] at hnumber
  rw [unitEscape, hdigits, List.cons_append, readUnits?, if_neg (by decide), if_pos rfl,
    List.cons_append, readEscape?, if_pos rfl]
  simp only [List.cons_append, List.nil_append, readUnit?, hnumber]

theorem utf16Units_lt {c : Char} {u : Nat} (h : u ∈ utf16Units c.toNat) : u < 0x10000 := by
  have hbounds := toNat_bounds c
  rw [utf16Units] at h
  split_ifs at h with hsmall
  · exact List.mem_singleton.1 h ▸ hsmall
  · simp only [List.mem_cons, List.not_mem_nil, or_false] at h
    omega

theorem readUnits?_flatMap_unitEscape {units : List Nat} (hunits : ∀ u ∈ units, u < 0x10000)
    (rest : List Char) :
    readUnits? (units.flatMap unitEscape ++ rest) =
      withUnits units (readUnits? rest) := by
  induction units with
  | nil => exact (withUnits_nil _).symm
  | cons u units ih =>
    obtain ⟨hu, hunits⟩ := List.forall_mem_cons.1 hunits
    rw [List.flatMap_cons, List.append_assoc, readUnits?_unitEscape hu, ih hunits,
      withUnits_withUnits, List.singleton_append]

/-- The units of a character come back from its spelling. -/
theorem readUnits?_escapeChar (c : Char) (rest : List Char) :
    readUnits? (escapeChar c ++ rest) = withUnits (utf16Units c.toNat) (readUnits? rest) := by
  rw [escapeChar]
  split_ifs with hself hn hr ht hb hplain
  · have hescaped : escaped? c = some c := by rcases hself with rfl | rfl | rfl <;> rfl
    exact readUnits?_backslash hescaped rest
  · exact hn ▸ readUnits?_backslash rfl rest
  · exact hr ▸ readUnits?_backslash rfl rest
  · exact ht ▸ readUnits?_backslash rfl rest
  · exact hb ▸ readUnits?_backslash rfl rest
  · obtain ⟨hslash, hquote, hdollar⟩ : c ≠ '\\' ∧ c ≠ '"' ∧ c ≠ '$' := by
      simpa only [not_or] using hself
    rw [List.singleton_append, readUnits?, if_neg hquote, if_neg hslash,
      if_neg (by simp [hdollar, hn, hr])]
  · exact readUnits?_flatMap_unitEscape (fun u hu => utf16Units_lt hu) rest

/-- The inside of the literal of a text is read up to the quote behind it. -/
theorem readUnits?_flatMap_escapeChar (s rest : List Char) :
    readUnits? (s.flatMap escapeChar ++ '"' :: rest) =
      some (s.flatMap fun c => utf16Units c.toNat, rest) := by
  induction s with
  | nil => simp [readUnits?]
  | cons c s ih =>
    rw [List.flatMap_cons, List.append_assoc, readUnits?_escapeChar, ih]
    rfl

/-- A text comes back from its literal, whatever stands behind it. -/
theorem readLiteral?_quotedChars (s rest : List Char) :
    readLiteral? (quotedChars s ++ rest) = some (s, rest) := by
  have hinside := readUnits?_flatMap_escapeChar s rest
  rw [quotedChars, List.cons_append, List.cons_append, List.append_assoc, List.singleton_append]
  simp [readLiteral?, hinside, joinUnits?_flatMap]

/-- Capital digits and characters that need no escape are read as well. -/
example : readLiteral? "\"\\u0061\\$\\uD83d\\uDE00\" + x".toList =
    some ("a$😀".toList, " + x".toList) := by
  decide +kernel

/-! ### The characters of literals -/

/-- Whether a character is printable ASCII. -/
def isPrintable (c : Char) : Bool := 0x20 ≤ c.toNat && c.toNat < 0x7f

/-- Behind a backslash that is still open, or behind none, every quote and every dollar sign has a
backslash of its own in front of it, and no backslash is open in the end. -/
def isSealedBehind : (isOpen : Bool) → List Char → Bool
  | isOpen, [] => !isOpen
  | true, _ :: rest => isSealedBehind false rest
  | false, c :: rest =>
    if c = '\\' then isSealedBehind true rest else c != '"' && c != '$' && isSealedBehind false rest

/-- Whether all quotes and dollar signs are escaped, and no backslash dangles. -/
def isSealed (s : List Char) : Bool := isSealedBehind false s

theorem exists_of_mem_hexDigits {width n : Nat} {c : Char} (h : c ∈ hexDigits width n) :
    ∃ d < 16, hexDigit d = c := by
  induction width generalizing n with
  | zero => simp [hexDigits] at h
  | succ width ih =>
    rcases List.mem_append.1 h with h | h
    · exact ih h
    · exact ⟨n % 16, Nat.mod_lt n (by decide), (List.mem_singleton.1 h).symm⟩

/-- Hexadecimal digits are printable, and none of them has to be escaped. -/
theorem hexDigit_plain : ∀ d < 16, isPrintable (hexDigit d) = true ∧
    hexDigit d ≠ '\\' ∧ hexDigit d ≠ '"' ∧ hexDigit d ≠ '$' := by decide

theorem isSealed_append_of_plain {front : List Char}
    (h : ∀ c ∈ front, c ≠ '\\' ∧ c ≠ '"' ∧ c ≠ '$') (rest : List Char) :
    isSealed (front ++ rest) = isSealed rest := by
  induction front with
  | nil => rfl
  | cons c front ih =>
    obtain ⟨⟨hslash, hquote, hdollar⟩, hfront⟩ := List.forall_mem_cons.1 h
    have hrest := ih hfront
    rw [isSealed] at hrest ⊢
    rw [List.cons_append, isSealedBehind, if_neg hslash, hrest]
    simp [hquote, hdollar]

theorem isSealed_flatMap_unitEscape (units : List Nat) (rest : List Char) :
    isSealed (units.flatMap unitEscape ++ rest) = isSealed rest := by
  induction units with
  | nil => rfl
  | cons u units ih =>
    have hdigits : ∀ c ∈ hexDigits 4 u, c ≠ '\\' ∧ c ≠ '"' ∧ c ≠ '$' := by
      intro c hc
      obtain ⟨d, hd, rfl⟩ := exists_of_mem_hexDigits hc
      exact (hexDigit_plain d hd).2
    rw [List.flatMap_cons, unitEscape, List.append_assoc, List.cons_append, List.cons_append, isSealed,
      isSealedBehind, if_pos rfl, isSealedBehind, ← isSealed, isSealed_append_of_plain hdigits, ih]

theorem isSealed_escapeChar (c : Char) (rest : List Char) :
    isSealed (escapeChar c ++ rest) = isSealed rest := by
  rw [escapeChar]
  split_ifs with hself hn hr ht hb hplain
  · rfl
  · rfl
  · rfl
  · rfl
  · rfl
  · have hc : c ≠ '\\' ∧ c ≠ '"' ∧ c ≠ '$' := by simpa only [not_or] using hself
    exact isSealed_append_of_plain (List.forall_mem_singleton.2 hc) rest
  · exact isSealed_flatMap_unitEscape _ rest

theorem all_isPrintable_escapeChar (c : Char) : (escapeChar c).all isPrintable = true := by
  rw [escapeChar]
  split_ifs with hself hn hr ht hb hplain
  · rcases hself with rfl | rfl | rfl <;> rfl
  · rfl
  · rfl
  · rfl
  · rfl
  · simpa [isPrintable] using hplain
  · refine List.all_eq_true.2 fun e he => ?_
    obtain ⟨u, -, hu⟩ := List.mem_flatMap.1 he
    simp only [unitEscape, List.mem_cons] at hu
    rcases hu with rfl | rfl | hu
    · rfl
    · rfl
    · obtain ⟨d, hd, rfl⟩ := exists_of_mem_hexDigits hu
      exact (hexDigit_plain d hd).1

/-! ### The literal of a text -/

/-- A literal of a text: it stands between two quotes, of which the second one is the first that is
not escaped; it holds nothing but printable ASCII; and wherever it stands, it is read as the text. -/
structure IsLiteralOf (value literal : List Char) : Prop where
  between_quotes : ∃ inside, literal = '"' :: inside ++ ['"'] ∧ isSealed inside = true
  printable : ∀ c ∈ literal, isPrintable c = true
  read : ∀ rest, readLiteral? (literal ++ rest) = some (value, rest)

/-- A text comes back from its literal. -/
theorem isLiteralOf_quotedChars (s : List Char) : IsLiteralOf s (quotedChars s) where
  between_quotes := by
    refine ⟨s.flatMap escapeChar, rfl, ?_⟩
    induction s with
    | nil => rfl
    | cons c s ih => rw [List.flatMap_cons, isSealed_escapeChar, ih]
  printable c hc := by
    simp only [quotedChars, List.mem_append, List.mem_cons, List.mem_flatMap, List.not_mem_nil,
      or_false] at hc
    rcases hc with (rfl | ⟨d, -, hd⟩) | rfl
    · decide
    · exact List.all_eq_true.1 (all_isPrintable_escapeChar d) c hd
    · decide
  read rest := readLiteral?_quotedChars s rest

/-- A literal stands for one text only. -/
theorem IsLiteralOf.unique {value value' literal : List Char} (h : IsLiteralOf value literal)
    (h' : IsLiteralOf value' literal) : value = value' := by
  have hread := (h.read []).symm.trans (h'.read [])
  exact (Prod.mk.inj (Option.some.inj hread)).1

theorem IsLiteralOf.newline_notMem {value literal : List Char} (h : IsLiteralOf value literal) :
    '\n' ∉ literal := fun hmem => absurd (h.printable _ hmem) (by decide)

end KotlinSource
