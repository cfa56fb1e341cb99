import DeltaRobot.Geometry
import DeltaRobot.Parameters

/-!
Contract: the arm angles that place the end effector at a given point.

Each arm is solved in its own vertical plane. There the crank end lies on a circle about the base
joint and at one linkage length from the effector joint; the two conditions meet on the line
`z = a + b * y`. Of the two crank ends on that line the outer one is taken, since the inner one
folds the arm back through the base.

Owns: `inverse`, `armAngle`, the slack on the joint limits, and the reasons for which a solver gives
no pose.
Does not own: how a move uses the angles.
-/

namespace DeltaRobot

/-- The reasons for which a point or a triple of angles has no solution. -/
inductive KinematicError where
  /-- No arm position reaches the point. -/
  | outOfRange
  /-- An arm would pass its limit above horizontal. -/
  | angleTooNegative
  /-- An arm would pass its limit below horizontal. -/
  | angleTooPositive
  /-- The linkages of the given angles cannot meet. -/
  | noForwardSolution
deriving DecidableEq, Repr

def KinematicError.message : KinematicError → String
  | outOfRange => "No arm position can reach the point"
  | angleTooNegative => "Arm angle is beyond the maximum negative angle"
  | angleTooPositive => "Arm angle is beyond the maximum positive angle"
  | noForwardSolution => "Forward kinematics has no real solution"

namespace Inverse

variable {α : Type} [Scalar α]

open Scalar

def sin120 : α := sqrtThree / two
def cos120 : α := -half
def tan30 : α := one / sqrtThree

/-- Slack on the joint limits in radians, so that an angle on a limit survives a round trip
through both solvers. -/
def limitSlack : α := decimal 1 9

/-- The crank end of one arm, in the plane of that arm. -/
structure CrankEnd (α : Type) where
  /-- The y coordinate of the base joint, about which the crank turns. -/
  base : α
  y : α
  z : α

/-- The outer crank end for an effector at `(x0, y0, z0)` in the frame of the arm. -/
def crankEnd (parameters : Parameters α) (x0 y0 z0 : α) : Except KinematicError (CrankEnd α) :=
  let rf := parameters.crank
  let re := parameters.linkage
  let y1 := (-half) * tan30 * parameters.baseTriangle
  let y0 := y0 - half * tan30 * parameters.effectorTriangle
  -- The line is undefined for an effector at the height of the arm axes.
  if equal z0 zero then .error .outOfRange
  else
    let a := (x0 * x0 + y0 * y0 + z0 * z0 + rf * rf - re * re - y1 * y1) / (two * z0)
    let b := (y1 - y0) / z0
    let d := (-(a + b * y1)) * (a + b * y1) + rf * (b * b * rf + rf)
    -- A discriminant that compares with nothing fails here as a negative one does.
    if lessEq zero d then
      let y := (y1 - a * b - sqrt d) / (b * b + one)
      .ok { base := y1, y, z := a + b * y }
    else .error .outOfRange

/-- The angle of a crank from the position of its end. -/
def CrankEnd.angle (crank : CrankEnd α) : α :=
  atanQuotient (-crank.z) (crank.base - crank.y) +
    (if less crank.base crank.y then pi else zero)

/-- Refuses an angle beyond either limit. -/
def withinLimits (parameters : Parameters α) (angle : α) : Except KinematicError α :=
  if less angle (parameters.maxNegativeAngle - limitSlack) then .error .angleTooNegative
  else if less (parameters.maxPositiveAngle + limitSlack) angle then .error .angleTooPositive
  else .ok angle

/-- The angle of one arm for an effector at `(x0, y0, z0)` in the frame of that arm. -/
def armAngle (parameters : Parameters α) (x0 y0 z0 : α) : Except KinematicError α :=
  match crankEnd parameters x0 y0 z0 with
  | .error cause => .error cause
  | .ok crank => withinLimits parameters crank.angle

end Inverse

open Scalar Inverse in
/-- The arm angles that place the end effector at a point. The first arm that fails decides the
error. -/
def inverse {α : Type} [Scalar α] (parameters : Parameters α) (point : Point α) :
    Except KinematicError (ArmAngles α) := do
  let x := point.x
  let y := point.y
  let z := point.z
  let arm0 ← armAngle parameters x y z
  let arm1 ← armAngle parameters (x * cos120 + y * sin120) (y * cos120 - x * sin120) z
  let arm2 ← armAngle parameters (x * cos120 - y * sin120) (y * cos120 + x * sin120) z
  return ⟨arm0, arm1, arm2⟩

end DeltaRobot
