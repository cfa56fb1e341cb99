import DeltaRobot.Machine.State
import DeltaRobot.Motion.Route

/-!
Contract: a straight Cartesian move, sent to the motion queue segment by segment.

The tracked position and the target must both be reachable before anything is sent. The route
starts at the tracked position displaced by the work offset. Segments go out in order until the
queue cancels one, a waypoint turns out unreachable, or the target is reached; the pose of the
machine follows the segments that were accepted and nothing else. Every segment is announced before
it is offered.

Owns: `Machine.move`, `MoveError` and the number of segments a stopped move had sent.
Does not own: what the caller does with the position afterwards.
-/

namespace DeltaRobot

/-- Why a move did not reach its target. Segments are counted from one. -/
inductive MoveError where
  | startUnreachable (cause : KinematicError)
  | targetUnreachable (cause : KinematicError)
  | segmentUnreachable (segment : Nat) (cause : KinematicError)
  | cancelled (segment : Nat)
deriving DecidableEq, Repr

namespace MoveError

/-- How many segments were accepted before the move stopped. -/
def segmentsDispatched : MoveError → Nat
  | startUnreachable _ => 0
  | targetUnreachable _ => 0
  | segmentUnreachable segment _ => segment - 1
  | cancelled segment => segment - 1

def message : MoveError → String
  | startUnreachable cause => s!"Start position is invalid: {cause.message}"
  | targetUnreachable cause => s!"Target is unreachable: {cause.message}"
  | segmentUnreachable segment cause =>
      s!"Segment {segment} of the move is unreachable: {cause.message}"
  | cancelled segment => s!"Move cancelled by the dispatcher at segment {segment}"

end MoveError

structure MoveRequest (α : Type) where
  target : Point α
  plan : PlanData α
  /-- Where the end effector is taken to be. -/
  position : Point α
  /-- Added to the position before the line is drawn. -/
  offset : Displacement α

/-- Everything that a move leaves behind. -/
structure MoveReport (σ α : Type) where
  outcome : Except MoveError Unit
  machine : Machine α
  /-- The state of the motion queue afterwards. -/
  queue : σ
  /-- The segments offered to the queue, in order, with its answers. -/
  offered : List (Segment α × Response)
  /-- What the machine reported, in order. -/
  notices : List (Notice α)

namespace MoveReport

variable {σ α : Type}

def accepted (report : MoveReport σ α) : List (Segment α) :=
  (report.offered.filter (fun offer => offer.2 = .accepted)).map Prod.fst

end MoveReport

/-- A move under way: the machine, the queue, the angles that the next segment starts from, and
the offers and reports made so far, the latest first. -/
structure MoveProgress (σ α : Type) where
  machine : Machine α
  queue : σ
  previous : ArmAngles α
  offersReversed : List (Segment α × Response)
  noticesReversed : List (Notice α)

namespace MoveProgress

variable {σ α : Type}

def stop (progress : MoveProgress σ α) (outcome : Except MoveError Unit)
    (notices : List (Notice α)) : MoveReport σ α :=
  { outcome
    machine := progress.machine
    queue := progress.queue
    offered := progress.offersReversed.reverse
    notices := progress.noticesReversed.reverse ++ notices }

/-- The progress once the segment of a step is announced. -/
def announce (progress : MoveProgress σ α) (index : Nat) (segment : Segment α) : MoveProgress σ α :=
  { progress with
    noticesReversed :=
      .offering index segment.angles segment.feedRate :: progress.noticesReversed }

/-- The progress after an accepted segment that ends at a waypoint. -/
def follow (progress : MoveProgress σ α) (waypoint : Point α) (segment : Segment α) (queue : σ) :
    MoveProgress σ α :=
  { progress with
    machine := { progress.machine with pose := ⟨segment.angles, waypoint⟩ }
    queue
    previous := segment.angles
    offersReversed := (segment, .accepted) :: progress.offersReversed }

/-- The progress after a cancelled segment, which moves nothing. -/
def discard (progress : MoveProgress σ α) (segment : Segment α) (queue : σ) : MoveProgress σ α :=
  { progress with queue, offersReversed := (segment, .cancelled) :: progress.offersReversed }

end MoveProgress

namespace Machine

variable {σ α : Type} [Scalar α]

/-- Sends the last `remaining` segments of a route. -/
def followRoute (dispatcher : Dispatcher σ α) (plan : PlanData α) (route : Route α) :
    Nat → MoveProgress σ α → MoveReport σ α
  | 0, progress => progress.stop (.ok ()) []
  | remaining + 1, progress =>
      let index := route.count - remaining
      let waypoint := route.waypoint index
      match inverse progress.machine.parameters waypoint with
      | .error cause =>
          progress.stop (.error (.segmentUnreachable index cause))
            [.segmentUnreachable index route.count waypoint cause]
      | .ok angles =>
          let segment := route.segment plan angles progress.previous
          let announced := progress.announce index segment
          match dispatcher progress.queue segment with
          | (.accepted, queue) =>
              followRoute dispatcher plan route remaining (announced.follow waypoint segment queue)
          | (.cancelled, queue) =>
              (announced.discard segment queue).stop (.error (.cancelled index))
                [.cancelled index route.count]

def move (machine : Machine α) (dispatcher : Dispatcher σ α) (queue : σ)
    (request : MoveRequest α) : MoveReport σ α :=
  let refuse (cause : MoveError) (notice : Notice α) : MoveReport σ α :=
    { outcome := .error cause, machine, queue, offered := [], notices := [notice] }
  match inverse machine.parameters request.position with
  | .error cause => refuse (.startUnreachable cause) (.startInvalid request.position cause)
  | .ok startAngles =>
      match inverse machine.parameters request.target with
      | .error cause => refuse (.targetUnreachable cause) (.targetUnreachable request.target cause)
      | .ok _ =>
          let route := Route.between (request.position.translate request.offset) request.target
            machine.parameters.segmentLength
          followRoute dispatcher request.plan route route.count
            { machine, queue, previous := startAngles, offersReversed := []
              noticesReversed := [.departing route.start route.target route.length route.count] }

end Machine

end DeltaRobot
