import DeltaRobot.Proofs.Exact.Distance
import DeltaRobot.Proofs.Move.Continuation

/-!
Contract: a move that was stopped and is taken up again.

A move without a work offset that stops on its way leaves the machine at one of its waypoints. The
same request from there is cut into the steps that were left, with the same waypoints and the same
step length, so it sends what the whole move would still have sent, and ends as the whole move ends:
nothing is lost or repeated by stopping.

Owns: the geometry of what is left of a line, and that a resumed move completes the whole one.
Does not own: moves under a work offset, which a resumed move would apply once more.
-/

namespace DeltaRobot

/-- The request once more, from another position. -/
def MoveRequest.resumedFrom {α : Type} (request : MoveRequest α) (position : Point α) :
    MoveRequest α :=
  { request with position }

/-- What is left of a request after some steps is carried out by the same request from the position
that the stopped machine keeps. -/
structure MoveReport.Resumes {σ : Type} (machine : Machine ℝ) (request : MoveRequest ℝ) (sent : ℕ)
    (stopped : MoveReport σ ℝ) : Prop where
  continues : (request.resumedFrom stopped.machine.pose.cartesian).Continues request
    machine.parameters.segmentLength sent
  /-- Queues that cancel nothing are sent the whole move by the one and its rest by the other. -/
  completes : ∀ {τ υ : Type} (first : Dispatcher τ ℝ) (firstQueue : τ) (second : Dispatcher υ ℝ)
    (secondQueue : υ), first.Willing → second.Willing →
      (stopped.machine.move second secondQueue
        (request.resumedFrom stopped.machine.pose.cartesian)).Completes
          (machine.move first firstQueue request) sent

/-! ### What is left of a line -/

section

variable {request : MoveRequest ℝ} {longest : ℝ} {sent : ℕ}

theorem MoveRequest.start_of_still (still : request.offset = .zero) :
    request.start = request.position := by
  rw [start, still]
  simp [Point.translate, Displacement.zero]

/-- What is left of the way after some steps. -/
theorem MoveRequest.way_resumedFrom (still : request.offset = .zero)
    (someLeft : sent < request.segmentCount longest) :
    (request.resumedFrom (request.waypoint longest sent)).way =
      request.way.scale (1 - sent / request.segmentCount longest) := by
  have resumedStart : (request.resumedFrom (request.waypoint longest sent)).start =
      request.waypoint longest sent := start_of_still still
  rw [way, resumedStart]
  simp only [resumedFrom, waypoint, if_pos someLeft, Point.displacementFrom, Point.translate,
    Displacement.scale, Scalar.ofNat_real, way, Displacement.mk.injEq]
  refine ⟨?_, ?_, ?_⟩ <;> ring

theorem MoveRequest.length_way_resumedFrom (still : request.offset = .zero)
    (someLeft : sent < request.segmentCount longest) :
    (request.resumedFrom (request.waypoint longest sent)).way.length =
      request.stepLength longest * (request.segmentCount longest - sent : ℕ) := by
  have count : (0 : ℝ) < request.segmentCount longest := by
    exact_mod_cast Nat.zero_lt_of_lt someLeft
  have part : (sent : ℝ) / request.segmentCount longest ≤ 1 := by
    rw [div_le_one count]
    exact_mod_cast someLeft.le
  rw [way_resumedFrom still someLeft, Displacement.length_scale _ (sub_nonneg.2 part), stepLength,
    Scalar.ofNat_real, Nat.cast_sub someLeft.le]
  field_simp

/-- The rest of a line takes the steps that were left. -/
theorem MoveRequest.segmentCount_resumedFrom (positive : 0 < longest)
    (far : request.way.length ≤ Scalar.maxCount * longest) (still : request.offset = .zero)
    (someLeft : sent < request.segmentCount longest) :
    (request.resumedFrom (request.waypoint longest sent)).segmentCount longest =
      request.segmentCount longest - sent := by
  have whole : request.stepLength longest * request.segmentCount longest = request.way.length :=
    div_mul_cancel₀ _ (Nat.cast_ne_zero.2 (Nat.ne_zero_of_lt someLeft))
  have nonneg : 0 ≤ request.stepLength longest :=
    div_nonneg request.way.length_nonneg (Nat.cast_nonneg _)
  change DeltaRobot.segmentCount
    (request.resumedFrom (request.waypoint longest sent)).way.length longest = _
  rw [length_way_resumedFrom still someLeft]
  apply segmentCount_part positive nonneg
  · rwa [whole]
  · rw [whole]
    rfl
  · exact Nat.sub_pos_of_lt someLeft
  · exact Nat.sub_le _ _

/-- The request from one of its waypoints goes on where the whole was. -/
theorem MoveRequest.continues_resumedFrom (positive : 0 < longest)
    (far : request.way.length ≤ Scalar.maxCount * longest) (still : request.offset = .zero)
    (someLeft : sent < request.segmentCount longest) :
    (request.resumedFrom (request.waypoint longest sent)).Continues request longest sent := by
  have counted := segmentCount_resumedFrom positive far still someLeft
  have steps : (0 : ℝ) < request.segmentCount longest := by
    exact_mod_cast Nat.zero_lt_of_lt someLeft
  have stepsLeft : (0 : ℝ) < (request.segmentCount longest - sent : ℕ) := by
    exact_mod_cast Nat.sub_pos_of_lt someLeft
  refine ⟨rfl, rfl, rfl, counted, ?_, ?_⟩
  · rw [stepLength, counted, length_way_resumedFrom still someLeft, Scalar.ofNat_real]
    exact mul_div_cancel_right₀ _ stepsLeft.ne'
  · intro step
    have resumedStart : (request.resumedFrom (request.waypoint longest sent)).start =
        request.waypoint longest sent := start_of_still still
    rw [waypoint, counted, resumedStart, way_resumedFrom still someLeft]
    by_cases before : sent + step < request.segmentCount longest
    · rw [waypoint, waypoint, if_pos (by omega), if_pos someLeft, if_pos before]
      rw [Nat.cast_sub someLeft.le] at stepsLeft
      have parts : (sent : ℝ) / request.segmentCount longest +
          (1 - sent / request.segmentCount longest) *
            (step / (request.segmentCount longest - sent : ℝ)) =
          ((sent + step : ℕ) : ℝ) / request.segmentCount longest := by
        push_cast
        field_simp
      simp only [Point.translate, Displacement.scale, Scalar.ofNat_real, Point.mk.injEq,
        Nat.cast_sub someLeft.le, ← parts]
      refine ⟨?_, ?_, ?_⟩ <;> ring
    · have past : ¬step < request.segmentCount longest - sent := by omega
      rw [if_neg past]
      change request.target = request.waypoint longest (sent + step)
      rw [waypoint, if_neg before]

end

/-- Every move without a work offset can be stopped behind each of its steps that it reaches, and
however it was stopped there, the same request from the position of the machine does the rest of
it. -/
theorem move_resumes (machine : Machine ℝ) (valid : machine.parameters.validate = .ok ())
    (request : MoveRequest ℝ) (still : request.offset = .zero)
    {startAngles targetAngles : ArmAngles ℝ}
    (started : inverse machine.parameters request.position = .ok startAngles)
    (reached : inverse machine.parameters request.target = .ok targetAngles)
    {sent : ℕ} (someSent : 0 < sent)
    (someLeft : sent < request.segmentCount machine.parameters.segmentLength)
    (passable : ∀ step, 0 < step → step ≤ sent → ∃ angles, inverse machine.parameters
      (request.waypoint machine.parameters.segmentLength step) = .ok angles) :
    (machine.move .acceptAtMost (some sent) request).accepted.length = sent ∧
      ∀ {σ : Type} (dispatcher : Dispatcher σ ℝ) (queue : σ),
        (machine.move dispatcher queue request).accepted.length = sent →
          (machine.move dispatcher queue request).Resumes machine request sent := by
  constructor
  · obtain ⟨segments, beyond, departed⟩ :=
      machine.exists_departed .acceptAtMost (some sent) request started reached
    rw [departed.travelled.accepted_eq rfl]
    apply departed.length_eq_of_acceptAtMost someLeft.le
    intro step within
    cases step with
    | zero => exact ⟨_, started⟩
    | succ step => exact passable (step + 1) (Nat.succ_pos _) within
  · intro σ dispatcher queue length
    obtain ⟨segments, beyond, stopped⟩ :=
      machine.exists_departed dispatcher queue request started reached
    rw [stopped.travelled.accepted_eq rfl] at length
    subst length
    obtain ⟨position, restStarted⟩ := stopped.inverse_pose someSent
    have far : request.way.length ≤ Scalar.maxCount * machine.parameters.segmentLength := by
      rw [MoveRequest.way, MoveRequest.start_of_still still]
      exact length_le_maxCount_mul valid started reached
    have continues := MoveRequest.continues_resumedFrom
      (Parameters.segmentLength_pos valid) far still someLeft
    rw [← position] at continues
    refine ⟨continues, ?_⟩
    intro τ υ first firstQueue second secondQueue firstWilling secondWilling
    obtain ⟨all, beyondAll, entire⟩ :=
      machine.exists_departed first firstQueue request started reached
    have sameParameters : (machine.move dispatcher queue request).machine.parameters =
        machine.parameters := by
      rw [stopped.machine_eq]
    rw [← sameParameters] at restStarted reached
    obtain ⟨remaining, beyondRest, resumed⟩ :=
      (machine.move dispatcher queue request).machine.exists_departed second secondQueue
        (request.resumedFrom _) restStarted reached
    exact stopped.completes someSent continues entire firstWilling resumed secondWilling

/-- The descent of the stubby machine stops half way when the queue has room for one segment. From
there it takes one more segment, and ends as it would have ended. -/
theorem stubbyDescent_resumes :
    Machine.stubby.parameters.validate = .ok () ∧ stubbyDescent.offset = .zero ∧
      (∃ start target, inverse Machine.stubby.parameters stubbyDescent.position = .ok start ∧
        inverse Machine.stubby.parameters stubbyDescent.target = .ok target) ∧
      stubbyDescent.segmentCount Machine.stubby.parameters.segmentLength = 2 ∧
      (∀ step, 0 < step → step ≤ 1 → ∃ angles, inverse Machine.stubby.parameters
        (stubbyDescent.waypoint Machine.stubby.parameters.segmentLength step) = .ok angles) ∧
      ∃ rest, rest = stubbyDescent.resumedFrom
          (Machine.stubby.move .acceptAtMost (some 1) stubbyDescent).machine.pose.cartesian ∧
        rest.segmentCount Machine.stubby.parameters.segmentLength = 1 ∧
        ((Machine.stubby.move .acceptAtMost (some 1) stubbyDescent).machine.move .acceptAll ()
          rest).Completes (Machine.stubby.move .acceptAll () stubbyDescent) 1 := by
  have count : stubbyDescent.segmentCount Machine.stubby.parameters.segmentLength = 2 :=
    segmentCount_stubbyDescent
  obtain ⟨start, started⟩ := stepEnd_stubbyDescent (Nat.zero_le 2)
  obtain ⟨target, reached⟩ :=
    inverse_stubby (-51) (-1240 / 51) (by norm_num) (by norm_num) (by norm_num)
  have passable (step : ℕ) (someStep : 0 < step) (within : step ≤ 1) :
      ∃ angles, inverse Machine.stubby.parameters
        (stubbyDescent.waypoint Machine.stubby.parameters.segmentLength step) = .ok angles := by
    obtain rfl : step = 1 := by omega
    exact stepEnd_stubbyDescent one_le_two
  obtain ⟨stops, resumes⟩ := move_resumes Machine.stubby Parameters.stubby_valid stubbyDescent rfl
    started reached one_pos (by rw [count]; exact one_lt_two) passable
  obtain ⟨continues, completes⟩ := resumes .acceptAtMost (some 1) stops
  refine ⟨Parameters.stubby_valid, rfl, ⟨_, _, started, reached⟩, count, passable, _, rfl, ?_, ?_⟩
  · rw [continues.segmentCount, count]
    rfl
  · exact completes .acceptAll () .acceptAll () Dispatcher.willing_acceptAll
      Dispatcher.willing_acceptAll

end DeltaRobot
