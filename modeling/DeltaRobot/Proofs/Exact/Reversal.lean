import DeltaRobot.Proofs.Exact.Resumption

/-!
Contract: moves there and back.

A move that no queue cancels completes exactly when every step of its line ends within reach, and it
is sent the plan of the line. The line back has the same step ends, counted from the other end, and
its steps have the same length. Neither the angle distance of a step nor its length depends on the
direction, so each segment leads back at the feed rate of the segment that led there.

Owns: completion by the ends of the steps, and the correspondence of a move and the move back.
Does not own: moves under a work offset, which displaces one end of the line and not the other.
-/

namespace DeltaRobot

/-- The request to go back, by the same plan. -/
def MoveRequest.reversed {α : Type} (request : MoveRequest α) : MoveRequest α :=
  { request with target := request.position, position := request.target }

/-- What a move and the move back have to do with one another. -/
structure MoveReport.Retraces {σ τ : Type} (machine : Machine ℝ) (request : MoveRequest ℝ)
    (outward : MoveReport σ ℝ) (back : MoveReport τ ℝ) : Prop where
  completed_iff : outward.outcome = .ok () ↔ back.outcome = .ok ()
  count : request.reversed.segmentCount machine.parameters.segmentLength =
    request.segmentCount machine.parameters.segmentLength
  lengths : outward.outcome = .ok () →
    outward.accepted.length = request.segmentCount machine.parameters.segmentLength ∧
      back.accepted.length = request.segmentCount machine.parameters.segmentLength
  /-- Segments are counted from one. The one that leads to a step end, counted from the target, has
  the feed rate of the one that left it. -/
  segments : outward.outcome = .ok () → ∀ number, 1 ≤ number →
    number ≤ request.segmentCount machine.parameters.segmentLength →
      ∃ leaving returning,
        outward.accepted[request.segmentCount machine.parameters.segmentLength - number]? =
            some leaving ∧
          back.accepted[number - 1]? = some returning ∧
          machine.stepEnd request
              (request.segmentCount machine.parameters.segmentLength - number) =
            .ok returning.angles ∧
          returning.feedRate = leaving.feedRate ∧ returning.motion = leaving.motion

/-! ### Completed moves -/

section

variable {σ α : Type} [Scalar α] {machine : Machine α} {dispatcher : Dispatcher σ α} {queue : σ}
  {request : MoveRequest α}

theorem MoveRequest.segmentCount_pos (request : MoveRequest α) (longest : α) :
    0 < request.segmentCount longest :=
  DeltaRobot.segmentCount_pos _ _

/-- The last step ends on the target. -/
theorem Machine.stepEnd_last (machine : Machine α) (request : MoveRequest α) :
    machine.stepEnd request (request.segmentCount machine.parameters.segmentLength) =
      inverse machine.parameters request.target := by
  have positive := request.segmentCount_pos machine.parameters.segmentLength
  obtain ⟨before, count⟩ := Nat.exists_eq_succ_of_ne_zero positive.ne'
  rw [count, stepEnd, MoveRequest.waypoint, count, if_neg (Nat.lt_irrefl _)]

/-- A completed move set off and was sent everything. -/
theorem Machine.departed_of_completed (willing : dispatcher.Willing)
    (completed : (machine.move dispatcher queue request).outcome = .ok ()) :
    ∃ startAngles segments, segments.length =
        request.segmentCount machine.parameters.segmentLength ∧
      machine.Departed dispatcher queue request startAngles segments []
        (machine.move dispatcher queue request) := by
  have moved := machine.moved dispatcher queue request
  generalize machine.move dispatcher queue request = report at moved completed ⊢
  cases moved with
  | startRefused => cases completed
  | targetRefused => cases completed
  | @travelled startAngles targetAngles segments beyond report started reached travelled =>
      have departed : machine.Departed dispatcher queue request startAngles segments beyond
          report := ⟨started, travelled⟩
      obtain ⟨rfl, ⟨length, -⟩ | ⟨cause, -, -, stopped⟩⟩ := departed.stopped_of_willing willing
      · exact ⟨startAngles, segments, length, departed⟩
      · cases completed.symm.trans stopped

theorem Machine.Departed.planned?_eq {startAngles : ArmAngles α} {segments : List (Segment α)}
    {report : MoveReport σ α}
    (departed : machine.Departed dispatcher queue request startAngles segments [] report)
    {step : ℕ} (before : step < segments.length) :
    machine.planned? request step = some segments[step] := by
  apply departed.planned?_of_offered
  rw [departed.stream, List.map_nil, List.append_nil]
  exact List.getElem?_eq_getElem before

/-- A move that no queue cancels completes exactly if all its steps end within reach. -/
theorem Machine.move_completes_iff (willing : dispatcher.Willing) :
    (machine.move dispatcher queue request).outcome = .ok () ↔
      ∀ step ≤ request.segmentCount machine.parameters.segmentLength,
        ∃ angles, machine.stepEnd request step = .ok angles := by
  constructor
  · intro completed step within
    obtain ⟨startAngles, segments, length, departed⟩ := departed_of_completed willing completed
    rcases within.lt_or_eq with before | last
    · rw [← length] at before
      obtain ⟨previous, angles, reached, -⟩ :=
        planned?_eq_some_iff.1 (departed.planned?_eq before)
      exact ⟨previous, reached⟩
    · have positive := request.segmentCount_pos machine.parameters.segmentLength
      obtain ⟨earlier, rfl⟩ := Nat.exists_eq_succ_of_ne_zero (last.trans_gt positive).ne'
      have before : earlier < segments.length := by omega
      obtain ⟨previous, angles, -, reached, -⟩ :=
        planned?_eq_some_iff.1 (departed.planned?_eq before)
      exact ⟨angles, reached⟩
  · intro reachable
    obtain ⟨startAngles, started⟩ := reachable 0 (Nat.zero_le _)
    obtain ⟨targetAngles, reached⟩ := reachable _ (Nat.le_refl _)
    rw [machine.stepEnd_last] at reached
    obtain ⟨segments, beyond, departed⟩ :=
      machine.exists_departed dispatcher queue request started reached
    rcases (departed.stopped_of_willing willing).2 with ⟨-, outcome⟩ | ⟨cause, before, unreached, -⟩
    · exact outcome
    · obtain ⟨angles, reachedThere⟩ := reachable _ before
      cases unreached.symm.trans reachedThere

/-- What a completed move sent, in terms of the ends of its steps. -/
theorem Machine.accepted_of_completed (willing : dispatcher.Willing)
    (completed : (machine.move dispatcher queue request).outcome = .ok ()) :
    (machine.move dispatcher queue request).accepted.length =
        request.segmentCount machine.parameters.segmentLength ∧
      ∀ step < request.segmentCount machine.parameters.segmentLength,
        ∃ previous angles, machine.stepEnd request step = .ok previous ∧
          machine.stepEnd request (step + 1) = .ok angles ∧
          (machine.move dispatcher queue request).accepted[step]? =
            some (request.segment machine.parameters.segmentLength previous angles) := by
  obtain ⟨startAngles, segments, length, departed⟩ := departed_of_completed willing completed
  rw [departed.travelled.accepted_eq rfl]
  refine ⟨length, fun step before => ?_⟩
  rw [← length] at before
  obtain ⟨previous, angles, left, reached, planned⟩ :=
    planned?_eq_some_iff.1 (departed.planned?_eq before)
  exact ⟨previous, angles, left, reached, by rw [List.getElem?_eq_getElem before, planned]⟩

end

/-! ### The line back -/

theorem ArmAngles.distance_comm (left right : ArmAngles ℝ) :
    left.distance right = right.distance left := by
  have opposite (first second : ℝ) : (first - second) ^ 2 = (second - first) ^ 2 := by ring
  simp [distance, distance?, toList, opposite left.arm0, opposite left.arm1, opposite left.arm2]

section

variable {request : MoveRequest ℝ}

theorem MoveRequest.length_way_reversed (still : request.offset = .zero) :
    request.reversed.way.length = request.way.length := by
  have startBack : request.reversed.start = request.target := start_of_still still
  rw [way, way, startBack, start_of_still still]
  exact Point.length_displacementFrom_comm _ _

theorem MoveRequest.segmentCount_reversed (still : request.offset = .zero) (longest : ℝ) :
    request.reversed.segmentCount longest = request.segmentCount longest :=
  congrArg (DeltaRobot.segmentCount · longest) (length_way_reversed still)

theorem MoveRequest.stepLength_reversed (still : request.offset = .zero) (longest : ℝ) :
    request.reversed.stepLength longest = request.stepLength longest := by
  rw [stepLength, stepLength, length_way_reversed still, segmentCount_reversed still]

/-- Step zero of a line without an offset ends at its position. -/
theorem MoveRequest.waypoint_zero (still : request.offset = .zero) (longest : ℝ) :
    request.waypoint longest 0 = request.position := by
  rw [waypoint, if_pos (request.segmentCount_pos longest), start_of_still still]
  simp [Point.translate, Displacement.scale]

/-- Both lines pass the same waypoints. -/
theorem MoveRequest.waypoint_reversed (still : request.offset = .zero) (longest : ℝ) {step : ℕ}
    (within : step ≤ request.segmentCount longest) :
    request.reversed.waypoint longest step =
      request.waypoint longest (request.segmentCount longest - step) := by
  have positive := request.segmentCount_pos longest
  rcases within.lt_or_eq with before | rfl
  · have startBack : request.reversed.start = request.target := start_of_still still
    rcases Nat.eq_zero_or_pos step with rfl | someStep
    · have stillBack : request.reversed.offset = .zero := still
      rw [waypoint_zero stillBack, Nat.sub_zero, waypoint, if_neg (Nat.lt_irrefl _)]
      rfl
    · have steps : (request.segmentCount longest : ℝ) ≠ 0 := Nat.cast_ne_zero.2 positive.ne'
      rw [waypoint, segmentCount_reversed still, if_pos before, waypoint, if_pos (by omega),
        startBack, start_of_still still, way, way, startBack, start_of_still still]
      simp only [Point.translate, Displacement.scale, Point.displacementFrom, Scalar.ofNat_real,
        Nat.cast_sub before.le, reversed, Point.mk.injEq]
      refine ⟨?_, ?_, ?_⟩ <;> field_simp <;> ring
  · rw [Nat.sub_self, waypoint_zero still, waypoint, segmentCount_reversed still,
      if_neg (Nat.lt_irrefl _)]
    rfl

theorem Machine.stepEnd_reversed (machine : Machine ℝ) (still : request.offset = .zero) {step : ℕ}
    (within : step ≤ request.segmentCount machine.parameters.segmentLength) :
    machine.stepEnd request.reversed step =
      machine.stepEnd request
        (request.segmentCount machine.parameters.segmentLength - step) := by
  -- Without an offset, step zero is a waypoint like any other.
  have solved {line : MoveRequest ℝ} (unmoved : line.offset = .zero) (number : ℕ) :
      machine.stepEnd line number =
        inverse machine.parameters (line.waypoint machine.parameters.segmentLength number) := by
    cases number with
    | zero => rw [MoveRequest.waypoint_zero unmoved, stepEnd]
    | succ number => rfl
  have stillBack : request.reversed.offset = .zero := still
  rw [solved stillBack, solved still, MoveRequest.waypoint_reversed still _ within]

theorem MoveRequest.segment_reversed (still : request.offset = .zero) (longest : ℝ)
    (previous angles : ArmAngles ℝ) :
    request.reversed.segment longest angles previous =
      { request.segment longest previous angles with angles := previous } := by
  rw [segment, segment, stepLength_reversed still, ArmAngles.distance_comm]
  rfl

end

/-- Queues that cancel nothing are sent a move without an offset there and back alike. It completes
both ways or neither way, in as many segments, and the way back ends its segments where those of the
way there left, at their feed rates. -/
theorem move_retraces {σ τ : Type} (machine returned : Machine ℝ)
    (same : returned.parameters = machine.parameters) (first : Dispatcher σ ℝ) (firstQueue : σ)
    (firstWilling : first.Willing) (second : Dispatcher τ ℝ) (secondQueue : τ)
    (secondWilling : second.Willing) (request : MoveRequest ℝ) (still : request.offset = .zero) :
    MoveReport.Retraces machine request (machine.move first firstQueue request)
      (returned.move second secondQueue request.reversed) := by
  have count := MoveRequest.segmentCount_reversed still machine.parameters.segmentLength
  have stepBack (step : ℕ)
      (within : step ≤ request.segmentCount machine.parameters.segmentLength) :
      returned.stepEnd request.reversed step = machine.stepEnd request
        (request.segmentCount machine.parameters.segmentLength - step) := by
    rw [← same] at within ⊢
    have sameEnds : machine.stepEnd request = returned.stepEnd request := by
      funext number
      cases number with
      | zero => rw [Machine.stepEnd, Machine.stepEnd, same]
      | succ number => rw [Machine.stepEnd, Machine.stepEnd, same]
    rw [sameEnds, returned.stepEnd_reversed still within]
  have completedIff : (machine.move first firstQueue request).outcome = .ok () ↔
      (returned.move second secondQueue request.reversed).outcome = .ok () := by
    rw [Machine.move_completes_iff firstWilling, Machine.move_completes_iff secondWilling, same,
      count]
    constructor
    · intro reachable step within
      rw [stepBack step within]
      exact reachable _ (Nat.sub_le _ _)
    · intro reachable step within
      have reached := reachable (request.segmentCount machine.parameters.segmentLength - step)
        (Nat.sub_le _ _)
      rwa [stepBack _ (Nat.sub_le _ _), Nat.sub_sub_self within] at reached
  refine ⟨completedIff, count, ?_, ?_⟩
  · intro completed
    have sentBack :=
      (Machine.accepted_of_completed secondWilling (completedIff.1 completed)).1
    rw [same, count] at sentBack
    exact ⟨(Machine.accepted_of_completed firstWilling completed).1, sentBack⟩
  · intro completed number someNumber within
    obtain ⟨step, rfl⟩ := Nat.exists_eq_succ_of_ne_zero (Nat.pos_iff_ne_zero.1 someNumber)
    have sent := (Machine.accepted_of_completed firstWilling completed).2
    have sentBack :=
      (Machine.accepted_of_completed secondWilling (completedIff.1 completed)).2
    rw [same, count] at sentBack
    obtain ⟨leftFrom, endsIn, left, ended, leaving⟩ :=
      sent (request.segmentCount machine.parameters.segmentLength - (step + 1)) (by omega)
    obtain ⟨previous, angles, leftBack, endedBack, returning⟩ := sentBack step within
    have sameStep : request.segmentCount machine.parameters.segmentLength - (step + 1) + 1 =
        request.segmentCount machine.parameters.segmentLength - step := by omega
    rw [stepBack step (Nat.le_of_succ_le within), ← sameStep] at leftBack
    rw [stepBack (step + 1) within] at endedBack
    cases left.symm.trans endedBack
    cases ended.symm.trans leftBack
    rw [MoveRequest.segment_reversed still] at returning
    exact ⟨_, _, leaving, returning, left, rfl, rfl⟩

/-- The stubby machine descends and comes back, in two segments each way. -/
theorem stubbyDescent_retraces :
    stubbyDescent.offset = .zero ∧
      (Machine.stubby.move .acceptAll () stubbyDescent).outcome = .ok () ∧
      (Machine.stubby.move .acceptAll () stubbyDescent.reversed).outcome = .ok () ∧
      (Machine.stubby.move .acceptAll () stubbyDescent.reversed).accepted.length = 2 := by
  have count : stubbyDescent.segmentCount Machine.stubby.parameters.segmentLength = 2 :=
    segmentCount_stubbyDescent
  have completed : (Machine.stubby.move .acceptAll () stubbyDescent).outcome = .ok () := by
    rw [Machine.move_completes_iff Dispatcher.willing_acceptAll, count]
    exact fun step => stepEnd_stubbyDescent
  have retraces := move_retraces Machine.stubby Machine.stubby rfl .acceptAll ()
    Dispatcher.willing_acceptAll .acceptAll () Dispatcher.willing_acceptAll stubbyDescent rfl
  have lengthBack := (retraces.lengths completed).2
  rw [count] at lengthBack
  exact ⟨rfl, completed, retraces.completed_iff.1 completed, lengthBack⟩

end DeltaRobot
