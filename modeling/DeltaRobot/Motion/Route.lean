import DeltaRobot.Motion.Segment

/-!
Contract: the straight line of a move, cut into equal steps.

A route leads from a start to a target in `count` steps of one length, the fewest whose length
does not exceed a limit. `waypoint i` is where step `i` ends; the last one is the target itself
rather than a computed neighbour of it.

Owns: the number of steps, the waypoints and the feed rate of a step.
Does not own: whether the arms reach a waypoint.
-/

namespace DeltaRobot

variable {α : Type} [Scalar α]

open Scalar

/-- The number of segments no longer than `longest` that cover `distance`. A move of no length
still has one. -/
def segmentCount (distance longest : α) : Nat :=
  max (ceilCount (distance / longest)) 1

theorem segmentCount_pos (distance longest : α) : 0 < segmentCount distance longest := by
  unfold segmentCount
  omega

structure Route (α : Type) where
  start : Point α
  target : Point α
  count : Nat
  stepLength : α

namespace Route

def length (route : Route α) : α := (route.target.displacementFrom route.start).length

/-- The route of a move with steps no longer than `longest`. -/
def between (start target : Point α) (longest : α) : Route α :=
  let distance := (target.displacementFrom start).length
  let count := segmentCount distance longest
  { start, target, count, stepLength := distance / ofNat count }

/-- The end of step `index`, counted from one. -/
def waypoint (route : Route α) (index : Nat) : Point α :=
  if index = route.count then route.target
  else
    route.start.translate
      ((route.target.displacementFrom route.start).scale (ofNat index / ofNat route.count))

/-- The last step ends exactly on the target. -/
@[simp]
theorem waypoint_count (route : Route α) : route.waypoint route.count = route.target := by
  simp [waypoint]

theorem count_between_pos (start target : Point α) (longest : α) :
    0 < (between start target longest).count :=
  segmentCount_pos _ _

/-- The feed rate of a step between two arm poses. An interpolated move keeps its Cartesian speed,
so the rate is scaled by the ratio of the angle distance to the Cartesian one. -/
def feedRate (route : Route α) (plan : PlanData α) (angles previous : ArmAngles α) : α :=
  if plan.motion = .rapid || equal route.stepLength zero then plan.feedRate
  else plan.feedRate * angles.distance previous / route.stepLength

/-- The segment of a step that ends in `angles` and starts from `previous`. -/
def segment (route : Route α) (plan : PlanData α) (angles previous : ArmAngles α) : Segment α :=
  { angles, feedRate := route.feedRate plan angles previous, motion := plan.motion }

end Route

end DeltaRobot
