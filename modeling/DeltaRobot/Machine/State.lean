import DeltaRobot.Kinematics.Forward
import DeltaRobot.Kinematics.Inverse
import DeltaRobot.Motion.Segment

/-!
Contract: the state of one delta robot, and how it is brought to its zero pose.

A machine is its parameters, the last pose that the motion queue accepted, and the height of the
end effector with all arms horizontal. `Machine.initialise` sets the last two from the first
alone, so it forgets every move made before. What a machine reports on the way is a list of
`Notice`s.

Owns: `Machine`, `Pose`, `Notice` and initialisation.
Does not own: moves, and the wording of notices.
-/

namespace DeltaRobot

/-- Arm angles together with the position they hold the end effector at. -/
structure Pose (α : Type) where
  angles : ArmAngles α
  cartesian : Point α
deriving DecidableEq, Repr

/-- What a machine reports while it works. -/
inductive Notice (α : Type) where
  | initialising
  /-- The position of the end effector is about to be computed. -/
  | locating (angles : ArmAngles α)
  | forwardFailed (failure : ForwardFailure α)
  | offsetFound (offset maxNegativeAngle maxPositiveAngle : α)
  | offsetUnavailable (cause : KinematicError)
  | selfCheck (angles : ArmAngles α)
  | selfCheckFailed (cause : KinematicError)
  | startInvalid (position : Point α) (cause : KinematicError)
  | targetUnreachable (target : Point α) (cause : KinematicError)
  /-- Both ends of a move are reachable, and it is about to go off. -/
  | departing (start target : Point α) (length : α) (count : Nat)
  /-- A segment is about to be offered to the motion queue. -/
  | offering (index : Nat) (angles : ArmAngles α) (feedRate : α)
  | segmentUnreachable (index count : Nat) (waypoint : Point α) (cause : KinematicError)
  | cancelled (index count : Nat)
deriving DecidableEq, Repr

structure Machine (α : Type) where
  parameters : Parameters α
  pose : Pose α
  /-- The height of the end effector with all arms horizontal, once it is known. -/
  zOffset : Option α
deriving DecidableEq, Repr

variable {α : Type} [Scalar α]

/-- The pose of a machine that knows nothing yet. -/
def Pose.initial : Pose α := ⟨.zero, .origin⟩

namespace Machine

/-- The name under which configurations select this kind of machine. -/
def kind : String := "parallel_delta"

/-- A machine that has not been initialised, from parameters within their ranges. -/
def ofParameters (parameters : Parameters α) : Except (ParameterError α) (Machine α) :=
  match parameters.validate with
  | .error cause => .error cause
  | .ok () => .ok { parameters, pose := .initial, zOffset := none }

/-- Where the end effector is for given arm angles, with what is reported on the way. -/
def locate (machine : Machine α) (angles : ArmAngles α) :
    Except KinematicError (Point α) × List (Notice α) :=
  match forward machine.parameters angles with
  | .ok point => (.ok point, [.locating angles])
  | .error failure => (.error .noForwardSolution, [.locating angles, .forwardFailed failure])

/-- Solving back from the zero pose gives the zero angles again on a sound geometry. -/
def selfCheck (machine : Machine α) (point : Point α) : Notice α :=
  match inverse machine.parameters point with
  | .ok angles => .selfCheck angles
  | .error cause => .selfCheckFailed cause

/-- Finds the zero pose. A geometry without one is reported and leaves the machine at the
origin. -/
def initialise (machine : Machine α) : Machine α × List (Notice α) :=
  let located := machine.locate .zero
  match located.1 with
  | .ok point =>
      ({ machine with pose := ⟨.zero, point⟩, zOffset := some point.z },
        .initialising :: located.2 ++
          [.offsetFound point.z machine.parameters.maxNegativeAngle
            machine.parameters.maxPositiveAngle,
          machine.selfCheck point])
  | .error cause =>
      ({ machine with pose := .initial, zOffset := none },
        .initialising :: located.2 ++ [.offsetUnavailable cause])

end Machine

end DeltaRobot
