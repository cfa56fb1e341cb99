import DeltaRobot.Decimal.Digits

/-!
Contract: the shortest decimal that reads back as a given binary64 number.

The decimals that read back as a number form an interval around it, closed when the significand
is even because ties round to even. For one digit, two digits and so on, the two neighbours of the
number on that decimal grid are tested; the first grid with a neighbour inside the interval gives
the digits, and of two the nearer one is taken. Where they are equally near, the notation says which
of them it takes.

Owns: `Decimal.shortest`.
Does not own: how digits and exponent are written.
-/

namespace DeltaRobot.Decimal

open Binary64 (Magnitude)

/-- The interval of reals that read back as `significand * 2 ^ exponent`. It is stated in
quarters of the last binary place. Below a power of two the numbers lie twice as close, so the
lower half gap is one quarter there and two quarters elsewhere. -/
structure ReadBack where
  low : Magnitude
  high : Magnitude
  closed : Bool

namespace ReadBack

def of (significand : Nat) (exponent : Int) : ReadBack :=
  let below :=
    if significand = Binary64.hiddenBit ∧ Binary64.leastExponent < exponent then 1 else 2
  { low := Binary64.magnitude (4 * significand - below) (exponent - 2)
    high := Binary64.magnitude (4 * significand + 2) (exponent - 2)
    closed := significand % 2 == 0 }

/-- Whether the decimal `digits * 10 ^ exponent` lies in the interval. -/
def contains (interval : ReadBack) (digits : Nat) (exponent : Int) : Bool :=
  let low := overPowerOfTen interval.low exponent
  let high := overPowerOfTen interval.high exponent
  if interval.closed then
    low.1 ≤ digits * low.2 && digits * high.2 ≤ high.1
  else
    low.1 < digits * low.2 && digits * high.2 < high.1

end ReadBack

/-- Which of two equally near neighbours is taken. -/
inductive Tie where
  | greater
  | even
deriving DecidableEq, Repr

/-- Whether the lower neighbour is taken, `rest` above it on a grid of step `step`. -/
def Tie.takesLower (tie : Tie) (lower rest step : Nat) : Bool :=
  2 * rest < step || (2 * rest = step && tie = .even && lower % 2 = 0)

/-- The neighbour of a magnitude on the grid of `10 ^ exponent` that reads back as it. -/
def neighbourOnGrid (tie : Tie) (size : Magnitude) (interval : ReadBack) (exponent : Int) :
    Option Nat :=
  let quotient := overPowerOfTen size exponent
  let below := quotient.1 / quotient.2
  let nearer :=
    if tie.takesLower below (quotient.1 % quotient.2) quotient.2 then below else below + 1
  let farther := if nearer = below then below + 1 else below
  if interval.contains nearer exponent then some nearer
  else if interval.contains farther exponent then some farther
  else none

/-- Tries ever finer grids. Seventeen digits always read back, so seventeen trials suffice. -/
def firstNeighbour (tie : Tie) (size : Magnitude) (interval : ReadBack) : Nat → Int → Nat × Int
  | 0, exponent => (roundToGrid size exponent, exponent)
  | trials + 1, exponent =>
      match neighbourOnGrid tie size interval exponent with
      | some digits => (digits, exponent)
      | none => firstNeighbour tie size interval trials (exponent - 1)

/-- Digits without trailing zeros and the power of ten of the last one, for a positive number. -/
def shortest (tie : Tie) (significand : Nat) (exponent : Int) : Nat × Int :=
  let size := Binary64.magnitude significand exponent
  let found :=
    firstNeighbour tie size (ReadBack.of significand exponent) 17 (decimalExponent size)
  dropZeros 20 found.1 found.2

end DeltaRobot.Decimal
