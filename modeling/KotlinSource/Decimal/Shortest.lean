import KotlinSource.Decimal.Binary

/-!
# Shortest decimal texts

A floating-point number is written with as few decimal digits as are needed to tell it from all
other numbers of its format, and of the numbers with that many digits with the nearest one.  There
is never an exponent.

## Main definitions

* `Rounding`: a number and the numbers around it that are rounded to it.
* `Rounding.candidate?`: a multiple of a power of ten that is rounded to the number.
* `Rounding.shortest`: the shortest one.
* `positional`: digits with a point among them.
* `BinaryFormat.write`: the text of a number.
-/

namespace KotlinSource.Decimal

/-- A positive number and the numbers that are rounded to it, in quarters of `2 ^ exponent`. -/
structure Rounding where
  exponent : Int
  /-- The number. -/
  value : Nat
  /-- The least number that is rounded to it. -/
  lower : Nat
  /-- The greatest one. -/
  upper : Nat
  /-- Whether the least and the greatest one are rounded to it, too. -/
  closed : Bool
  deriving DecidableEq, Repr

/-- The rounding of a number of a format.  Below a power of two numbers are closer together. -/
def BinaryFormat.rounding (format : BinaryFormat) (significand : Nat) (exponent : Int) : Rounding :=
  let isPower := significand = Nat.pow 2 (format.precision - 1) ∧ exponent > format.minExponent
  ⟨exponent - 2, 4 * significand, 4 * significand - (if isPower then 1 else 2),
    4 * significand + 2, significand % 2 = 0⟩

namespace Rounding

variable (r : Rounding)

/-- `n * 10 ^ power` and `m * 2 ^ r.exponent`, both multiplied by the same number to make them
natural. -/
def aligned (power : Int) (n m : Nat) : Nat × Nat :=
  (n * Nat.pow 10 power.toNat * Nat.pow 2 (-r.exponent).toNat,
    m * Nat.pow 2 r.exponent.toNat * Nat.pow 10 (-power).toNat)

/-- Whether `n * 10 ^ power` is rounded to the number. -/
def contains (power : Int) (n : Nat) : Bool :=
  let (low, lower) := r.aligned power n r.lower
  let (high, upper) := r.aligned power n r.upper
  if r.closed then lower ≤ low && high ≤ upper else lower < low && high < upper

/-- The greatest multiple of `10 ^ power` that is at most the number. -/
def floor (power : Int) : Nat :=
  let (unit, value) := r.aligned power 1 r.value
  value / unit

/-- Whether the next greater multiple of `10 ^ power` is as near as the greatest one below. -/
def isNearerAbove (power : Int) : Bool :=
  let (unit, value) := r.aligned power 1 r.value
  unit ≤ 2 * (value % unit)

/-- The multiple of `10 ^ power` nearest to the number among those that are rounded to it. -/
def candidate? (power : Int) : Option Nat :=
  let below := r.floor power
  match r.contains power below, r.contains power (below + 1) with
  | true, true => some (if r.isNearerAbove power then below + 1 else below)
  | true, false => some below
  | false, true => some (below + 1)
  | false, false => none

/-- The candidate for the greatest power of ten, from `power` downwards. -/
def shortestFrom : (fuel : Nat) → (power : Int) → Nat × Int
  | 0, power => (r.floor power, power)
  | fuel + 1, power =>
    match r.candidate? power with
    | some n => (n, power)
    | none => shortestFrom fuel (power - 1)

/-- The shortest decimal number that is rounded to the number: its digits, and the power of ten
that they are counted in.  No number has more decimal places than its binary exponent tells. -/
def shortest : Nat × Int :=
  let start := (Nat.toDigits 10 (r.floor 0)).length
  r.shortestFrom (start + (-r.exponent).toNat + 1) start

end Rounding

/-- The number `n * 10 ^ power`, written without an exponent. -/
def positional (n : Nat) (power : Int) : List Char :=
  let digits := Nat.toDigits 10 n
  if 0 ≤ power then digits ++ List.replicate power.toNat '0'
  else
    let places := (-power).toNat
    let padded := List.replicate (places + 1 - digits.length) '0' ++ digits
    padded.take (padded.length - places) ++ '.' :: padded.drop (padded.length - places)

/-- The text of a number without its sign. -/
def BinaryFormat.magnitudeText (format : BinaryFormat) (significand : Nat) (exponent : Int) :
    List Char :=
  if significand = 0 then ['0']
  else
    let (n, power) := (format.rounding significand exponent).shortest
    positional n power

/-- The text of a number. -/
def BinaryFormat.write (format : BinaryFormat) : BinaryNumber → String
  | .notANumber => "NaN"
  | .infinite negative => if negative then "-inf" else "inf"
  | .finite negative significand exponent =>
    String.ofList ((if negative then ['-'] else []) ++ format.magnitudeText significand exponent)

end KotlinSource.Decimal
