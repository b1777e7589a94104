import KotlinSource.Decimal.Binary

/-!
# Reading decimal numbers

A decimal number has a sign, digits with a point among them and an exponent, of which sign, point
and exponent may be missing.  The words for infinity and for no number may have a sign as well.

## Main definitions

* `magnitude?`: a number without its sign, as digits and a power of ten.
* `BinaryFormat.ofDecimal`: the nearest number of a format.
* `BinaryFormat.read?`: the number that a text stands for.
-/

namespace KotlinSource.Decimal

/-- A decimal digit. -/
def isDigit (c : Char) : Bool := '0' ≤ c && c ≤ '9'

/-- The value of decimal digits. -/
def digitsValue (digits : List Char) : Nat :=
  digits.foldl (fun n c => 10 * n + (c.toNat - '0'.toNat)) 0

/-- A sign at the start of a list of characters, and what stands behind it. -/
def sign : List Char → Bool × List Char
  | '-' :: rest => (true, rest)
  | '+' :: rest => (false, rest)
  | s => (false, s)

/-- An exponent, which may be missing. -/
def exponent? : List Char → Option Int
  | [] => some 0
  | c :: rest =>
    if c = 'e' ∨ c = 'E' then
      let (negative, digits) := sign rest
      if digits.isEmpty || !digits.all isDigit then none
      else some (if negative then -(digitsValue digits : Int) else digitsValue digits)
    else none

/-- A number without its sign: digits, and the power of ten that they are counted in. -/
def magnitude? (s : List Char) : Option (Nat × Int) := do
  let whole := s.takeWhile isDigit
  let rest := s.dropWhile isDigit
  let (fraction, rest) :=
    match rest with
    | '.' :: rest => (rest.takeWhile isDigit, rest.dropWhile isDigit)
    | _ => ([], rest)
  if whole.isEmpty && fraction.isEmpty then none
  else
    let exponent ← exponent? rest
    return (digitsValue (whole ++ fraction), exponent - fraction.length)

/-- The number of decimal digits of a natural number. -/
def digitCount (n : Nat) : Nat := (Nat.toDigits 10 n).length

/-- No finite number of a common format has this many digits before its point, or this many zeros
behind it. -/
def maxMagnitude : Int := 1200

/-- The number of a format that is nearest to `digits * 10 ^ power`. -/
def BinaryFormat.ofDecimal (format : BinaryFormat) (negative : Bool) (digits : Nat) (power : Int) :
    BinaryNumber :=
  let zero := .finite negative 0 format.minExponent
  let places := digitCount digits + power
  if digits = 0 then zero
  else if places > maxMagnitude then .infinite negative
  else if places < -maxMagnitude then zero
  else format.nearest negative (digits * Nat.pow 10 power.toNat) (Nat.pow 10 (-power).toNat)

/-- The number that a text stands for. -/
def BinaryFormat.read? (format : BinaryFormat) (text : String) : Option BinaryNumber :=
  let (negative, s) := sign text.toList
  let word := String.ofList (s.map Char.toLower)
  if word = "nan" then some .notANumber
  else if word = "inf" || word = "infinity" then some (.infinite negative)
  else (magnitude? s).map fun m => format.ofDecimal negative m.1 m.2

end KotlinSource.Decimal
