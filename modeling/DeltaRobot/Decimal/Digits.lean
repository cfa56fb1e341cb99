import DeltaRobot.Scalar.Binary64

/-!
Contract: exact rounding of a nonnegative rational to a decimal grid.

`roundToGrid` is the whole number of grid steps nearest to a magnitude; a tie goes to the even
neighbour. `decimalExponent` is the power of ten that a magnitude's first digit counts.

Owns: rounding on a decimal grid and the text of a run of digits.
Does not own: which grid a format uses.
-/

namespace DeltaRobot.Decimal

open Binary64 (Magnitude)

/-- The natural number nearest to a quotient; a tie goes to the even one. -/
def roundHalfEven (numerator denominator : Nat) : Nat :=
  let quotient := numerator / denominator
  let rest := 2 * (numerator % denominator)
  if rest < denominator then quotient
  else if denominator < rest then quotient + 1
  else if quotient % 2 = 0 then quotient
  else quotient + 1

/-- `size / 10 ^ exponent`, as a numerator and a denominator. -/
def overPowerOfTen (size : Magnitude) (exponent : Int) : Nat × Nat :=
  if 0 ≤ exponent then
    (size.numerator, size.denominator * Nat.pow 10 exponent.toNat)
  else
    (size.numerator * Nat.pow 10 (-exponent).toNat, size.denominator)

/-- How many steps of `10 ^ exponent` a magnitude holds, rounded half to even. -/
def roundToGrid (size : Magnitude) (exponent : Int) : Nat :=
  let quotient := overPowerOfTen size exponent
  roundHalfEven quotient.1 quotient.2

/-- Whether `10 ^ exponent ≤ size`. -/
def atLeastPowerOfTen (size : Magnitude) (exponent : Int) : Bool :=
  let quotient := overPowerOfTen size exponent
  quotient.2 ≤ quotient.1

/-- The exponent of the greatest power of ten that is not above a positive magnitude.

The binary lengths of the two parts give the logarithm to within one, so one of three candidates
is right. -/
def decimalExponent (size : Magnitude) : Int :=
  let binary : Int := Nat.log2 size.numerator - Nat.log2 size.denominator
  let guess := Int.fdiv (binary * 30103) 100000
  if atLeastPowerOfTen size (guess + 1) then guess + 1
  else if atLeastPowerOfTen size guess then guess
  else guess - 1

/-- Removes the trailing zeros of a digit string, counting each into the exponent. The count of
digits bounds how many there can be. -/
def dropZeros : Nat → Nat → Int → Nat × Int
  | 0, digits, exponent => (digits, exponent)
  | limit + 1, digits, exponent =>
      if digits ≠ 0 ∧ digits % 10 = 0 then dropZeros limit (digits / 10) (exponent + 1)
      else (digits, exponent)

/-- The digits of a natural number, padded with zeros on the left to a least width. -/
def padded (width value : Nat) : List Char :=
  let digits := Nat.toDigits 10 value
  List.replicate (width - digits.length) '0' ++ digits

end DeltaRobot.Decimal
