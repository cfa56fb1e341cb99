import DeltaRobot.Proofs.Kinematics.Limits
import DeltaRobot.Proofs.Move.Course
import DeltaRobot.Proofs.Parameters.Access

/-!
Contract: which points a move looks at before it sends anything.

The line of a move leads from the tracked position, displaced by the work offset, to the target.
Of its two ends only the target is looked at: in place of the other one it is the tracked position
itself. `move_checks_position_and_target` says what this check lets through, and when it guards the
line.

Owns: the conditions for a move to get under way, and for its refusal at either end.
Does not own: what becomes of a move under way.
-/

namespace DeltaRobot

open Inverse

variable {σ α : Type} [Scalar α]

def Machine.Reaches (machine : Machine α) (point : Point α) : Prop :=
  ∃ angles, inverse machine.parameters point = .ok angles

/-- Nothing was sent along a line with an end out of reach, and no line was refused for its ends if
both are in reach. -/
structure MoveReport.GuardsLine (machine : Machine α) (request : MoveRequest α)
    (report : MoveReport σ α) : Prop where
  sent : report.offered ≠ [] →
    machine.Reaches (request.position.translate request.offset) ∧ machine.Reaches request.target
  refused : ∀ cause, report.outcome = .error (.startUnreachable cause) ∨
    report.outcome = .error (.targetUnreachable cause) →
      ¬(machine.Reaches (request.position.translate request.offset) ∧
        machine.Reaches request.target)

section

variable {machine : Machine α} {dispatcher : Dispatcher σ α} {queue : σ} {request : MoveRequest α}
  {report : MoveReport σ α}

/-- The first waypoint decides whether a move under way sends anything. -/
theorem Travelled.offered_ne_nil_iff {plan : PlanData α} {route : Route α}
    {start : MoveProgress σ α} {segments : List (Segment α)}
    {beyond : List (Segment α × Response)} (someStep : 0 < route.count)
    (fresh : start.offersReversed = [])
    (travelled : Travelled dispatcher plan route 1 start segments beyond report) :
    report.offered ≠ [] ↔ start.machine.Reaches (route.waypoint 1) := by
  have ending := travelled.ending
  rw [travelled.offered_eq fresh, Machine.Reaches]
  cases travelled.course with
  | cons reached => simp [reached]
  | nil =>
      rcases ending.inversion with ⟨past, -⟩ | ⟨cause, -, unreached, -, noneBeyond⟩ |
        ⟨angles, -, reached, -, cancelledBeyond⟩
      · -- A route has a first step, so it does not end before that.
        simp only [List.length_nil] at past
        omega
      · rw [List.length_nil, Nat.add_zero] at unreached
        simp [noneBeyond, unreached]
      · rw [List.length_nil, Nat.add_zero] at reached
        simp [cancelledBeyond, reached]

theorem Machine.Moved.offered_ne_nil_iff
    (moved : machine.Moved dispatcher queue request report) :
    report.offered ≠ [] ↔
      machine.Reaches request.position ∧ machine.Reaches request.target ∧
        machine.Reaches ((machine.routeOf request).waypoint 1) := by
  cases moved with
  | startRefused unreached => simp [Reaches, unreached]
  | targetRefused started unreached => simp [Reaches, unreached]
  | travelled started reached travelled =>
      have startReached : machine.Reaches request.position := ⟨_, started⟩
      have targetReached : machine.Reaches request.target := ⟨_, reached⟩
      have someStep : 0 < (machine.routeOf request).count := Route.count_between_pos _ _ _
      rw [travelled.offered_ne_nil_iff someStep rfl, and_iff_right startReached,
        and_iff_right targetReached, machine_embarked]

/-- A line of one segment has no waypoint but its target. -/
theorem Machine.Moved.offered_ne_nil_iff_of_single
    (moved : machine.Moved dispatcher queue request report)
    (single : (machine.routeOf request).count = 1) :
    report.offered ≠ [] ↔ machine.Reaches request.position ∧ machine.Reaches request.target := by
  have last : (machine.routeOf request).waypoint 1 = request.target := by
    rw [← single, Route.waypoint_count]
    rfl
  rw [moved.offered_ne_nil_iff, last, and_self]

theorem Machine.Moved.refused_iff (moved : machine.Moved dispatcher queue request report) :
    (∃ cause, report.outcome = .error (.startUnreachable cause) ∨
        report.outcome = .error (.targetUnreachable cause)) ↔
      ¬(machine.Reaches request.position ∧ machine.Reaches request.target) := by
  cases moved with
  | startRefused unreached => simp [Reaches, unreached]
  | targetRefused started unreached => simp [Reaches, unreached]
  | travelled started reached travelled => simp [Reaches, started, reached, travelled.not_refused]

end

/-- What a move looks at before it sends anything. It gets under way if the tracked position and
the target are in reach, and sends something if the first waypoint is as well. The start of its
line, which the offset displaces, does not decide any of this. So the line is guarded just when,
for a target in reach, that start is in reach wherever something is sent, and the position is in
reach wherever that start is. -/
theorem move_checks_position_and_target (machine : Machine α) (dispatcher : Dispatcher σ α)
    (queue : σ) (request : MoveRequest α) :
    ((machine.move dispatcher queue request).offered ≠ [] ↔
      machine.Reaches request.position ∧ machine.Reaches request.target ∧
        machine.Reaches ((machine.routeOf request).waypoint 1)) ∧
    (∀ cause, (machine.move dispatcher queue request).outcome =
        .error (.startUnreachable cause) ↔
      inverse machine.parameters request.position = .error cause) ∧
    (∀ cause, (machine.move dispatcher queue request).outcome =
        .error (.targetUnreachable cause) ↔
      machine.Reaches request.position ∧
        inverse machine.parameters request.target = .error cause) ∧
    ((machine.move dispatcher queue request).GuardsLine machine request ↔
      (machine.Reaches request.target →
        (machine.Reaches request.position →
          machine.Reaches ((machine.routeOf request).waypoint 1) →
            machine.Reaches (request.position.translate request.offset)) ∧
        (machine.Reaches (request.position.translate request.offset) →
          machine.Reaches request.position))) := by
  have moved := machine.moved dispatcher queue request
  refine ⟨moved.offered_ne_nil_iff, fun cause => moved.startUnreachable_iff,
    fun cause => moved.targetUnreachable_iff, ?_⟩
  constructor
  · intro guards targetReached
    constructor
    · intro positionReached firstReached
      exact (guards.sent (moved.offered_ne_nil_iff.2
        ⟨positionReached, targetReached, firstReached⟩)).1
    · intro startReached
      apply Classical.byContradiction
      intro unreached
      obtain ⟨cause, refused⟩ := moved.refused_iff.2 (fun both => unreached both.1)
      exact guards.refused cause refused ⟨startReached, targetReached⟩
  · intro guarded
    constructor
    · intro sent
      obtain ⟨positionReached, targetReached, firstReached⟩ := moved.offered_ne_nil_iff.1 sent
      exact ⟨(guarded targetReached).1 positionReached firstReached, targetReached⟩
    · intro cause refused
      rintro ⟨startReached, targetReached⟩
      exact moved.refused_iff.1 ⟨cause, refused⟩
        ⟨(guarded targetReached).2 startReached, targetReached⟩

/-! ### A line that is not guarded -/

section

variable (functions others : Transcendental)

/-- A route is laid out without sines and arc tangents. -/
theorem Machine.routeOf_congr (machine : Machine Float) (request : MoveRequest Float) :
    @routeOf Float (.binary64 functions) machine request =
      @routeOf Float (.binary64 others) machine request := rfl

end

/-- Functions that are exact at zero. -/
def Transcendental.nearZero : Transcendental where
  sin := id
  cos := fun _ => 1
  arcTan := id

/-- A geometry in which the solvers make no rounding error at the zero pose. -/
def Parameters.dyadic : Parameters Float where
  crank := 63.75
  linkage := 64.25
  baseTriangle := 500
  effectorTriangle := 500
  maxNegativeAngle := -1
  maxPositiveAngle := 1
  segmentLength := 20

def Machine.dyadic : Machine Float where
  parameters := .dyadic
  pose := ⟨⟨0, 0, 0⟩, ⟨0, 0, -8⟩⟩
  zOffset := some (-8)

theorem Parameters.dyadic_valid (functions : Transcendental) :
    letI := Scalar.binary64 functions
    Parameters.dyadic.validate = .ok () :=
  validate_binary64 functions (fun parameter => by cases parameter <;> decide +kernel)

/-- The offset takes the start of the line from the zero pose to the height of the arm axes. -/
def dyadicLevelled : MoveRequest Float where
  target := ⟨0, 0, -8⟩
  plan := ⟨600, .interpolated⟩
  position := ⟨0, 0, -8⟩
  offset := ⟨0, 0, 8⟩

section

variable {functions : Transcendental}

/-- Horizontal cranks have the arc tangent of zero. -/
theorem inverse_dyadic (atZero : functions.arcTan (-0.0) = -0.0) :
    letI := Scalar.binary64 functions
    inverse .dyadic ⟨0, 0, -8⟩ = .ok ⟨0, 0, 0⟩ := by
  have solved : @inverse Float (.binary64 .nearZero) .dyadic ⟨0, 0, -8⟩ = .ok ⟨0, 0, 0⟩ := by
    decide +kernel
  rw [← solved]
  exact inverse_congr_of_quotient .nearZero (fun arm => by cases arm <;> decide +kernel) atZero

theorem dyadicLevelled_sent (atZero : functions.arcTan (-0.0) = -0.0) :
    letI := Scalar.binary64 functions
    (Machine.dyadic.move .acceptAll () dyadicLevelled).offered ≠ [] := by
  let := Scalar.binary64 functions
  have reached : Machine.dyadic.Reaches dyadicLevelled.target := ⟨_, inverse_dyadic atZero⟩
  have single :
      (@Machine.routeOf Float (.binary64 .nearZero) .dyadic dyadicLevelled).count = 1 := by
    decide +kernel
  rw [← Machine.routeOf_congr functions] at single
  exact (Machine.dyadic.moved .acceptAll () dyadicLevelled).offered_ne_nil_iff_of_single single |>.2
    ⟨reached, reached⟩

end

/-- A line can start out of reach: no arm reaches a point at the height of the arm axes, and the
offset is not looked at before the segment is sent. -/
theorem exists_move_not_guarded :
    ¬∃ functions : Transcendental, functions.arcTan (-0.0) = -0.0 ∧
      letI := Scalar.binary64 functions
      ∀ (machine : Machine Float) (request : MoveRequest Float),
        machine.parameters.validate = .ok () →
          (machine.move .acceptAll () request).GuardsLine machine request := by
  rintro ⟨functions, atZero, guarded⟩
  let := Scalar.binary64 functions
  have guards := guarded .dyadic dyadicLevelled (Parameters.dyadic_valid functions)
  obtain ⟨angles, solved⟩ := (guards.sent (dyadicLevelled_sent atZero)).1
  have level : (-8.0 + 8.0 == (0 : Float)) = true := by decide +kernel
  rw [inverse_of_level level] at solved
  cases solved

end DeltaRobot
