import DeltaRobot.Geometry
import DeltaRobot.Parameters

/-!
Contract: the position of the end effector for given arm angles.

Moving each crank end inward by the effector triangle turns the three linkages into radii of
three spheres that meet at the effector. The centres are the virtual joints. Eliminating x and y
between the sphere equations leaves a quadratic in z, and the lower of its two roots is the pose
of the machine.

Owns: `forward` and the two ways in which it fails.
Does not own: arm limits, which forward kinematics does not look at.
-/

namespace DeltaRobot

/-- Why three spheres have no lowest common point. -/
inductive ForwardFailure (α : Type) where
  /-- Seen from above, the three virtual joints lie on one line. -/
  | collinear
  /-- The quadratic in z has no real root. -/
  | apart (discriminant : α)
deriving DecidableEq, Repr

namespace Forward

variable {α : Type} [Scalar α]

open Scalar

def tan30 : α := one / sqrtThree
def tan60 : α := sqrtThree
def sin30 : α := half

/-- How far the base joints stand outside the effector joints. -/
def inset (parameters : Parameters α) : α :=
  (parameters.baseTriangle - parameters.effectorTriangle) * tan30 / two

/-- How far a virtual joint stands from the Z axis, towards its own arm. -/
def reach (parameters : Parameters α) (angle : α) : α :=
  inset parameters + parameters.crank * cos angle

/-- The height of a virtual joint. -/
def drop (parameters : Parameters α) (angle : α) : α :=
  (-parameters.crank) * sin angle

/-- The lowest common point of three spheres of one radius. The first centre has no x
coordinate, which is why x appears in two of the three sums of squares only. -/
def lowestMeeting (radius y1 z1 x2 y2 z2 x3 y3 z3 : α) :
    Except (ForwardFailure α) (Point α) :=
  let denominator := (y2 - y1) * x3 - (y3 - y1) * x2
  if equal denominator zero then .error .collinear
  else
    let w1 := y1 * y1 + z1 * z1
    let w2 := x2 * x2 + y2 * y2 + z2 * z2
    let w3 := x3 * x3 + y3 * y3 + z3 * z3
    -- x = (a1 * z + b1) / denominator
    let a1 := (z2 - z1) * (y3 - y1) - (z3 - z1) * (y2 - y1)
    let b1 := (-((w2 - w1) * (y3 - y1) - (w3 - w1) * (y2 - y1))) / two
    -- y = (a2 * z + b2) / denominator
    let a2 := (-(z2 - z1)) * x3 + (z3 - z1) * x2
    let b2 := ((w2 - w1) * x3 - (w3 - w1) * x2) / two
    -- a * z * z + b * z + c = 0
    let a := a1 * a1 + a2 * a2 + denominator * denominator
    let b := two * (a1 * b1 + a2 * (b2 - y1 * denominator) - z1 * denominator * denominator)
    let c := (b2 - y1 * denominator) * (b2 - y1 * denominator) + b1 * b1 +
      denominator * denominator * (z1 * z1 - radius * radius)
    let discriminant := b * b - four * a * c
    -- A discriminant that compares with nothing fails here as a negative one does.
    if lessEq zero discriminant then
      let z := (-half) * (b + sqrt discriminant) / a
      .ok ⟨(a1 * z + b1) / denominator, (a2 * z + b2) / denominator, z⟩
    else .error (.apart discriminant)

end Forward

open Forward in
/-- Where the end effector is for the given arm angles. -/
def forward {α : Type} [Scalar α] (parameters : Parameters α) (angles : ArmAngles α) :
    Except (ForwardFailure α) (Point α) :=
  let y1 := -(reach parameters angles.arm0)
  let z1 := drop parameters angles.arm0
  let y2 := reach parameters angles.arm1 * sin30
  let x2 := y2 * tan60
  let z2 := drop parameters angles.arm1
  let y3 := reach parameters angles.arm2 * sin30
  let x3 := (-y3) * tan60
  let z3 := drop parameters angles.arm2
  lowestMeeting parameters.linkage y1 z1 x2 y2 z2 x3 y3 z3

end DeltaRobot
