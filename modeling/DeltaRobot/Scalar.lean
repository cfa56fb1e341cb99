/-!
Contract: the numbers a delta robot computes with.

The kinematic formulas are written once, over any type that offers the operations below. At
binary64 numbers they are the program that runs; at the real numbers they are the geometry it
approximates. Every operation a formula uses is listed here, so the two readings differ in this
class alone.

Owns: the list of operations and the few constants derived from them.
Does not own: any instance; the binary64 one is in `DeltaRobot.Scalar.Binary64`.
-/

namespace DeltaRobot

/-- Numbers with the arithmetic, the functions and the comparisons that the kinematics needs. -/
class Scalar (α : Type) extends Add α, Sub α, Mul α, Div α, Neg α where
  /-- The number nearest to a natural number. -/
  ofNat : Nat → α
  /-- `decimal m k` is the number nearest to `m / 10 ^ k`. -/
  decimal : Nat → Nat → α
  sqrtThree : α
  pi : α
  sqrt : α → α
  sin : α → α
  cos : α → α
  /-- The arc tangent of a quotient. A nonzero number over zero counts as an infinity of its
  sign, so the result is then a quarter turn with that sign. -/
  atanQuotient : α → α → α
  less : α → α → Bool
  lessEq : α → α → Bool
  equal : α → α → Bool
  /-- The least natural number that is not below the argument, held within the 64-bit range: a
  number that is negative or not comparable gives zero, one too large gives `2 ^ 64 - 1`. -/
  ceilCount : α → Nat

namespace Scalar

/-- The largest count that fits in 64 bits. -/
def maxCount : Nat := Nat.pow 2 64 - 1

variable {α : Type} [Scalar α]

def zero : α := ofNat 0
def one : α := ofNat 1
def two : α := ofNat 2
def four : α := ofNat 4
def half : α := decimal 5 1

def quarterTurn : α := pi / two

def square (value : α) : α := value * value

/-- Both ends belong to the range. A value that compares with nothing lies in no range. -/
def inRange (value low high : α) : Bool := lessEq low value && lessEq value high

end Scalar

end DeltaRobot
