import DeltaRobot.Scalar

/-!
Contract: points in the machine frame, displacements between them, and triples of arm angles.

The Z axis is the machine's axis of symmetry, zero at the height of the arm axes and negative
below them. Lengths are millimetres, angles radians; an arm angle is zero with the crank
horizontal and positive with it below.

Owns: `Point`, `Displacement`, `ArmAngles` and the distances between them.
Does not own: which points the arms can reach.
-/

namespace DeltaRobot

/-- A position of the end effector. -/
structure Point (α : Type) where
  x : α
  y : α
  z : α
deriving DecidableEq, Repr

/-- A difference of two positions, such as a work offset. -/
structure Displacement (α : Type) where
  x : α
  y : α
  z : α
deriving DecidableEq, Repr

/-- The angle of each arm. Arm 1 stands 120 degrees from arm 0 about the Z axis, arm 2 at minus
120 degrees. -/
structure ArmAngles (α : Type) where
  arm0 : α
  arm1 : α
  arm2 : α
deriving DecidableEq, Repr

variable {α : Type} [Scalar α]

namespace Point

def origin : Point α := ⟨Scalar.zero, Scalar.zero, Scalar.zero⟩

def toList (point : Point α) : List α := [point.x, point.y, point.z]

/-- The displacement that leads from `start` to `target`. -/
def displacementFrom (target start : Point α) : Displacement α :=
  ⟨target.x - start.x, target.y - start.y, target.z - start.z⟩

def translate (point : Point α) (displacement : Displacement α) : Point α :=
  ⟨point.x + displacement.x, point.y + displacement.y, point.z + displacement.z⟩

end Point

namespace Displacement

def zero : Displacement α := ⟨Scalar.zero, Scalar.zero, Scalar.zero⟩

def scale (displacement : Displacement α) (factor : α) : Displacement α :=
  ⟨displacement.x * factor, displacement.y * factor, displacement.z * factor⟩

def length (displacement : Displacement α) : α :=
  Scalar.sqrt (Scalar.square displacement.x + Scalar.square displacement.y +
    Scalar.square displacement.z)

end Displacement

namespace ArmAngles

/-- All three cranks horizontal. -/
def zero : ArmAngles α := ⟨Scalar.zero, Scalar.zero, Scalar.zero⟩

def toList (angles : ArmAngles α) : List α := [angles.arm0, angles.arm1, angles.arm2]

end ArmAngles

/-- The Euclidean distance of two points of any dimension, the squares added from the left.
Points of different dimensions have none. -/
def distance? (left right : List α) : Option α :=
  if left.length = right.length then
    let differences := List.zipWith (· - ·) left right
    some (Scalar.sqrt (differences.foldl (fun total difference =>
      total + Scalar.square difference) Scalar.zero))
  else
    none

/-- The distance of two angle triples, the measure of an arm motion that feed rates refer to. -/
def ArmAngles.distance (left right : ArmAngles α) : α :=
  (distance? left.toList right.toList).getD Scalar.zero

end DeltaRobot
