/-!
# Binary floating point

A floating-point number is a natural number times a power of two, with a sign, or infinite, or no
number at all.  A format bounds both the natural number and the power; a positive quotient is
rounded to the nearest number of the format, and to the even one of two nearest.

## Main definitions

* `BinaryFormat`, `BinaryFormat.double`, `BinaryFormat.single`: formats.
* `BinaryNumber`: the numbers.
* `roundEven`: a quotient rounded to the nearest natural number.
* `BinaryFormat.nearest`: a quotient rounded to the nearest number of a format.
-/

namespace KotlinSource.Decimal

/-- A binary floating-point format. -/
structure BinaryFormat where
  /-- The binary digits of the significand. -/
  precision : Nat
  /-- The least exponent of a number that is written with a natural significand. -/
  minExponent : Int
  /-- The greatest such exponent. -/
  maxExponent : Int
  deriving DecidableEq, Repr

/-- The format of 64 bits. -/
def BinaryFormat.double : BinaryFormat := ⟨53, -1074, 971⟩

/-- The format of 32 bits. -/
def BinaryFormat.single : BinaryFormat := ⟨24, -149, 104⟩

/-- A floating-point number. -/
inductive BinaryNumber where
  | notANumber
  | infinite (negative : Bool)
  /-- The number `significand * 2 ^ exponent`, with a sign. -/
  | finite (negative : Bool) (significand : Nat) (exponent : Int)
  deriving DecidableEq, Repr

/-- A quotient rounded to the nearest natural number, of two nearest to the even one. -/
def roundEven (num den : Nat) : Nat :=
  let below := num / den
  let twice := 2 * (num % den)
  if twice < den ∨ twice = den ∧ below % 2 = 0 then below else below + 1

/-- The quotient `num / (den * base ^ exponent)` as numerator and denominator. -/
def scaled (base : Nat) (exponent : Int) (num den : Nat) : Nat × Nat :=
  (num * Nat.pow base (-exponent).toNat, den * Nat.pow base exponent.toNat)

/-- The greatest power of two that is at most a positive quotient; its exponent. -/
def floorLog2 (num den : Nat) : Int :=
  let estimate : Int := num.log2 - den.log2
  let (n, d) := scaled 2 estimate num den
  if d ≤ n then estimate else estimate - 1

/-- The number of a format that is nearest to a positive quotient. -/
def BinaryFormat.nearest (format : BinaryFormat) (negative : Bool) (num den : Nat) :
    BinaryNumber :=
  let exponent := max (floorLog2 num den - (format.precision - 1)) format.minExponent
  let (n, d) := scaled 2 exponent num den
  let significand := roundEven n d
  let (significand, exponent) :=
    if significand = Nat.pow 2 format.precision then
      (Nat.pow 2 (format.precision - 1), exponent + 1)
    else (significand, exponent)
  if exponent > format.maxExponent then .infinite negative
  else .finite negative significand exponent

end KotlinSource.Decimal
