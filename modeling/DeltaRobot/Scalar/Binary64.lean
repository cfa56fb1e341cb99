import DeltaRobot.Scalar

/-!
Contract: binary64 numbers as exact dyadic rationals, and their scalar instance.

`Binary64.ofFloat` reads a number's bits into sign, significand and exponent, so every exact
question about it (its ceiling, its decimal digits) is arithmetic on natural numbers.

The arithmetic is given over any sine, cosine and arc tangent, so what is proved of it holds
whichever library computes those.

Owns: the exact view of a `Float`, the ceiling count, and the `Scalar Float` instance.
Does not own: any text form; those are in `DeltaRobot.Decimal`.
-/

namespace DeltaRobot

/-- What a binary64 number denotes. A finite one is `±significand * 2 ^ exponent`. -/
inductive Binary64 where
  | notANumber
  | infinite (negative : Bool)
  | finite (negative : Bool) (significand : Nat) (exponent : Int)
deriving DecidableEq, Repr

namespace Binary64

/-- The 52 stored bits of a significand, and the leading bit that normal numbers leave out. -/
def hiddenBit : Nat := Nat.pow 2 52

/-- The exponent of the smallest numbers, which have no leading bit. -/
def leastExponent : Int := -1074

/-- Reads the three fields of a 64-bit pattern. -/
def ofBits (bits : Nat) : Binary64 :=
  let negative := bits / Nat.pow 2 63 % 2 == 1
  let field := bits / hiddenBit % 2048
  let fraction := bits % hiddenBit
  if field = 2047 then
    if fraction = 0 then .infinite negative else .notANumber
  else if field = 0 then
    .finite negative fraction leastExponent
  else
    .finite negative (fraction + hiddenBit) (leastExponent + (field - 1))

def ofFloat (value : Float) : Binary64 :=
  ofBits value.toBits.toNat

/-- A nonnegative rational, as a numerator and a denominator that is never zero. -/
structure Magnitude where
  numerator : Nat
  denominator : Nat
  denominator_pos : 0 < denominator := by omega

/-- The exact size of `significand * 2 ^ exponent`. -/
def magnitude (significand : Nat) (exponent : Int) : Magnitude :=
  if 0 ≤ exponent then
    { numerator := significand * Nat.pow 2 exponent.toNat, denominator := 1 }
  else
    { numerator := significand
      denominator := Nat.pow 2 (-exponent).toNat
      denominator_pos := Nat.pow_pos (by decide) }

/-- The least natural number that is not below the magnitude. -/
def Magnitude.ceil (size : Magnitude) : Nat :=
  (size.numerator + size.denominator - 1) / size.denominator

/-- The ceiling of a number, held within the 64-bit range. -/
def ceilCount : Binary64 → Nat
  | .notANumber => 0
  | .infinite negative => if negative then 0 else Scalar.maxCount
  | .finite negative significand exponent =>
      if negative then 0 else min (magnitude significand exponent).ceil Scalar.maxCount

/-- The binary64 number nearest to an integer. -/
def floatOfInt (value : Int) : Float :=
  if 0 ≤ value then Float.ofNat value.toNat else -(Float.ofNat (-value).toNat)

end Binary64

/-- The functions whose last digit no standard fixes. -/
structure Transcendental where
  sin : Float → Float
  cos : Float → Float
  arcTan : Float → Float

/-- Binary64 arithmetic with given functions. The basic operations round to nearest, so they are
the same everywhere. -/
abbrev Scalar.binary64 (functions : Transcendental) : Scalar Float where
  ofNat := Float.ofNat
  decimal significand places := Float.ofScientific significand true places
  sqrtThree := 1.7320508075688772
  pi := 3.141592653589793
  sqrt := Float.sqrt
  sin := functions.sin
  cos := functions.cos
  atanQuotient numerator denominator := functions.arcTan (numerator / denominator)
  less left right := decide (left < right)
  lessEq left right := decide (left ≤ right)
  equal left right := left == right
  ceilCount value := (Binary64.ofFloat value).ceilCount

/-- The functions of the library that programs are linked with. -/
def Transcendental.linked : Transcendental :=
  { sin := Float.sin, cos := Float.cos, arcTan := Float.atan }

instance : Scalar Float := Scalar.binary64 .linked

end DeltaRobot
