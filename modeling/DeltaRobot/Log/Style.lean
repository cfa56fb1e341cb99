import DeltaRobot.Decimal.Notation
import DeltaRobot.Geometry

/-!
Contract: how the numbers of a log line are written.

The same line can be written with exact numbers, or with steady ones that do not show the last
bits of a computation. A style fixes both forms that lines use: the shortest digits, and a fixed
number of places.

Owns: `NumberStyle` and the text of a point.
Does not own: the lines.
-/

namespace DeltaRobot

structure NumberStyle where
  /-- The form of coordinates. -/
  free : Float → String
  /-- The form with a given number of decimal places. -/
  fixed : Nat → Float → String

namespace NumberStyle

/-- Every number as it is. -/
def exact : NumberStyle := { free := Decimal.plain, fixed := Decimal.fixed }

/-- Numbers rounded so far that noise does not show, and no sign on a zero. -/
def steady : NumberStyle := { free := Decimal.steady, fixed := Decimal.fixedUnsignedZero }

/-- A point in braces. -/
def point (style : NumberStyle) (value : Point Float) : String :=
  "\x7b" ++ ", ".intercalate [style.free value.x, style.free value.y, style.free value.z] ++ "\x7d"

/-- A triple of angles in parentheses. -/
def angles (style : NumberStyle) (places : Nat) (value : ArmAngles Float) : String :=
  "(" ++ ", ".intercalate (value.toList.map (style.fixed places)) ++ ")"

end NumberStyle

end DeltaRobot
