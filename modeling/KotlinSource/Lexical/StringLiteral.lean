/-!
# String literals

A string literal holds printable ASCII only.  The backslash, the quote, the dollar sign and the
common control characters are written with a backslash; every other control character and every
character beyond ASCII is written as its UTF-16 units, each as `\u` with four hexadecimal digits.

## Main definitions

* `hexDigits`: the last hexadecimal digits of a number.
* `utf16Units`: a character as one or two UTF-16 units.
* `escapeChar`, `quoted`: a character in a literal, and a whole literal.
-/

namespace KotlinSource

/-- The lowercase hexadecimal digit of `d < 16`. -/
def hexDigit (d : Nat) : Char :=
  if d < 10 then Char.ofNat (48 + d) else Char.ofNat (87 + d)

/-- The last `width` hexadecimal digits of `n`, the most significant first. -/
def hexDigits : Nat → Nat → List Char
  | 0, _ => []
  | width + 1, n => hexDigits width (n / 16) ++ [hexDigit (n % 16)]

/-- The UTF-16 units of a code point: one below `0x10000`, else a high and a low surrogate. -/
def utf16Units (n : Nat) : List Nat :=
  if n < 0x10000 then [n]
  else [0xD800 + (n - 0x10000) / 0x400, 0xDC00 + (n - 0x10000) % 0x400]

/-- One UTF-16 unit as it is written in a literal. -/
def unitEscape (u : Nat) : List Char := '\\' :: 'u' :: hexDigits 4 u

/-- A character as it is written in a literal. -/
def escapeChar (c : Char) : List Char :=
  if c = '\\' ∨ c = '"' ∨ c = '$' then ['\\', c]
  else if c = '\n' then ['\\', 'n']
  else if c = '\r' then ['\\', 'r']
  else if c = '\t' then ['\\', 't']
  else if c = '\x08' then ['\\', 'b']
  else if 0x20 ≤ c.toNat ∧ c.toNat < 0x7f then [c]
  else (utf16Units c.toNat).flatMap unitEscape

/-- The characters of the literal of a text. -/
def quotedChars (s : List Char) : List Char := '"' :: s.flatMap escapeChar ++ ['"']

/-- The literal of a text, between its quotes. -/
def quoted (value : String) : String := String.ofList (quotedChars value.toList)

@[simp] theorem length_hexDigits (width n : Nat) : (hexDigits width n).length = width := by
  induction width generalizing n with
  | zero => rfl
  | succ width ih => simp [hexDigits, ih]

end KotlinSource
