import DeltaRobot.Proofs.Exact.Resumption
import DeltaRobot.Proofs.Move.Ends
import DeltaRobot.Proofs.Script.Tracking

/-!
Contract: how many segments a move can send.

Crank and linkage bound the distance between two points in reach, so with the ranges of the
parameters they bound the number of segments of a line from one to the other. `Parameters.capacity`
is that bound, and it is far below what a count holds. The moves of a script start where they are
taken to be, so each one that gets under way stays within it.

Owns: the capacity, and that moves and script runs keep within it.
Does not own: moves under a work offset, whose lines can start anywhere.
-/

namespace DeltaRobot

/-! ### The capacity of a work space -/

namespace Parameters

variable {parameters : Parameters ℝ}

/-- The most segments that a line between two points in reach is cut into. -/
noncomputable def capacity (parameters : Parameters ℝ) : ℕ :=
  ⌈Scalar.two * (parameters.linkage + parameters.crank) / parameters.segmentLength⌉₊

theorem capacity_eq (parameters : Parameters ℝ) :
    parameters.capacity =
      ⌈2 * (parameters.linkage + parameters.crank) / parameters.segmentLength⌉₊ := by
  rw [capacity, Scalar.two_real]

theorem capacity_pos (valid : parameters.validate = .ok ()) : 0 < parameters.capacity := by
  have linkage := linkage_pos valid
  have crank := crank_pos valid
  have segmentLength := segmentLength_pos valid
  rw [capacity_eq, Nat.ceil_pos]
  positivity

theorem capacity_le (valid : parameters.validate = .ok ()) : parameters.capacity ≤ 40000 := by
  rw [capacity_eq, Nat.ceil_le, div_le_iff₀ (segmentLength_pos valid)]
  exact_mod_cast extent_le valid

theorem ceil_le_capacity (valid : parameters.validate = .ok ()) {distance : ℝ}
    (near : distance ≤ 2 * (parameters.linkage + parameters.crank)) :
    ⌈distance / parameters.segmentLength⌉₊ ≤ parameters.capacity := by
  have segmentLength := segmentLength_pos valid
  rw [capacity_eq]
  apply Nat.ceil_mono
  gcongr

theorem segmentCount_le_capacity (valid : parameters.validate = .ok ()) {distance : ℝ}
    (near : distance ≤ 2 * (parameters.linkage + parameters.crank)) :
    segmentCount distance parameters.segmentLength ≤ parameters.capacity :=
  max_le ((min_le_left _ _).trans (ceil_le_capacity valid near)) (capacity_pos valid)

/-- Within the work space the number of segments is far from where counting stops. -/
theorem ceilCount_eq_ceil (valid : parameters.validate = .ok ()) {distance : ℝ}
    (near : distance ≤ 2 * (parameters.linkage + parameters.crank)) :
    Scalar.ceilCount (distance / parameters.segmentLength) =
      ⌈distance / parameters.segmentLength⌉₊ := by
  have counted : 40000 ≤ Scalar.maxCount := by decide
  exact min_eq_left (((ceil_le_capacity valid near).trans (capacity_le valid)).trans counted)

end Parameters

/-! ### One move -/

section

variable {σ : Type} {machine : Machine ℝ} {dispatcher : Dispatcher σ ℝ} {queue : σ}
  {request : MoveRequest ℝ}

theorem Machine.length_le_of_reaches (valid : machine.parameters.validate = .ok ())
    {start target : Point ℝ} (started : machine.Reaches start) (reached : machine.Reaches target) :
    (target.displacementFrom start).length ≤
      2 * (machine.parameters.linkage + machine.parameters.crank) := by
  obtain ⟨startAngles, started⟩ := started
  obtain ⟨targetAngles, reached⟩ := reached
  exact length_le_of_inverse valid started reached

/-- A line that starts where the move is taken to be keeps within the capacity if its ends are in
reach. -/
theorem Machine.count_routeOf_le_capacity (valid : machine.parameters.validate = .ok ())
    (still : request.offset = .zero) (started : machine.Reaches request.position)
    (reached : machine.Reaches request.target) :
    (machine.routeOf request).count ≤ machine.parameters.capacity := by
  have near := length_le_of_reaches valid started reached
  rw [← MoveRequest.start_of_still still] at near
  exact Parameters.segmentCount_le_capacity valid near

theorem Machine.length_offered_le_capacity (valid : machine.parameters.validate = .ok ())
    (still : request.offset = .zero) :
    (machine.move dispatcher queue request).offered.length ≤ machine.parameters.capacity := by
  by_cases silent : (machine.move dispatcher queue request).offered = []
  · rw [silent]
    exact Nat.zero_le _
  · obtain ⟨started, reached, -⟩ :=
      (machine.moved dispatcher queue request).offered_ne_nil_iff.1 silent
    have short := count_routeOf_le_capacity valid still started reached
    obtain ⟨startAngles, started⟩ := started
    obtain ⟨targetAngles, reached⟩ := reached
    obtain ⟨segments, beyond, departed⟩ :=
      machine.exists_departed dispatcher queue request started reached
    exact departed.within.trans short

end

/-! ### A script run -/

/-- A step that was refused at neither end had its line cut into segments. -/
def ScriptStep.UnderWay {α : Type} (step : ScriptStep α) : Prop :=
  ¬∃ cause, step.report.outcome = .error (.startUnreachable cause) ∨
    step.report.outcome = .error (.targetUnreachable cause)

theorem ScriptState.parameters_of_mem_run {α : Type} [Scalar α] {state : ScriptState α}
    {index : Nat} {commands : List (MoveCommand α)} {step : ScriptStep α}
    (member : step ∈ state.run index commands) :
    step.before.machine.parameters = state.machine.parameters := by
  refine holds_of_mem_run (fun before => before.machine.parameters = state.machine.parameters)
    (fun before index command same => ?_) rfl member
  exact (before.balanced_step index command).parameters.trans same

/-- A step under way has both ends of its line in reach. -/
theorem ScriptState.length_le_of_underWay {state : ScriptState ℝ} {index : ℕ}
    {commands : List (MoveCommand ℝ)} {step : ScriptStep ℝ}
    (valid : state.machine.parameters.validate = .ok ())
    (member : step ∈ state.run index commands) (underWay : step.UnderWay) :
    step.request.way.length ≤
      2 * (state.machine.parameters.linkage + state.machine.parameters.crank) := by
  have moved : step.before.machine.Moved .journalling (.startingAt step.before.unreported)
      step.request step.report := by
    rw [eq_step_of_mem_run member]
    exact step.before.machine.moved _ _ _
  have bothReached := not_not.1 (mt moved.refused_iff.2 underWay)
  have sameParameters := parameters_of_mem_run member
  rw [← sameParameters] at valid ⊢
  have near := Machine.length_le_of_reaches valid bothReached.1 bothReached.2
  have sameStart : step.request.start = step.request.position := MoveRequest.start_of_still rfl
  rwa [← sameStart] at near

/-- No move floods the queue. The effector joint of a point in reach is no further from the pivot
of its crank than crank and linkage together, so a move without a work offset that offers anything
is at most twice that long, and whatever the queue answers it is cut into no more segments than the
capacity, of which no validated parameters have more than 40000. In a script run the number of
segments is therefore never cut off where counting stops. -/
theorem move_within_capacity (machine : Machine ℝ)
    (valid : machine.parameters.validate = .ok ()) :
    (∀ point, machine.Reaches point →
      ((machine.parameters.effectorJoint point).displacementFrom machine.parameters.pivot).length ≤
        machine.parameters.linkage + machine.parameters.crank) ∧
    (∀ (σ : Type) (dispatcher : Dispatcher σ ℝ) (queue : σ) (request : MoveRequest ℝ),
      request.offset = .zero →
        ((machine.move dispatcher queue request).offered ≠ [] →
          (request.target.displacementFrom request.position).length ≤
              2 * (machine.parameters.linkage + machine.parameters.crank) ∧
            (machine.routeOf request).count ≤ machine.parameters.capacity) ∧
        (machine.move dispatcher queue request).offered.length ≤ machine.parameters.capacity) ∧
    machine.parameters.capacity ≤ 40000 ∧
    ∀ commands, ∀ step ∈ (ScriptState.initial machine).run 0 commands, step.UnderWay →
      Scalar.ceilCount (step.request.way.length / machine.parameters.segmentLength) =
        ⌈step.request.way.length / machine.parameters.segmentLength⌉₊ := by
  refine ⟨?_, ?_, Parameters.capacity_le valid, ?_⟩
  · rintro point ⟨angles, found⟩
    exact Parameters.length_effectorJoint_le valid (spans_of_inverse valid found)
  · intro σ dispatcher queue request still
    refine ⟨fun sent => ?_, Machine.length_offered_le_capacity valid still⟩
    obtain ⟨started, reached, -⟩ :=
      (machine.moved dispatcher queue request).offered_ne_nil_iff.1 sent
    exact ⟨Machine.length_le_of_reaches valid started reached,
      Machine.count_routeOf_le_capacity valid still started reached⟩
  · intro commands step member underWay
    exact Parameters.ceilCount_eq_ceil valid
      (ScriptState.length_le_of_underWay valid member underWay)

/-- The stubby machine has room for 13 segments, and the descent is cut into no more. -/
theorem stubbyDescent_within_capacity :
    Machine.stubby.parameters.validate = .ok () ∧ stubbyDescent.offset = .zero ∧
      (Machine.stubby.move .acceptAll () stubbyDescent).offered ≠ [] ∧
      Machine.stubby.parameters.capacity = 13 ∧
      (Machine.stubby.routeOf stubbyDescent).count ≤ 13 ∧
      ∀ step ∈ (ScriptState.initial .stubby).run 0 [⟨⟨0, 0, -51⟩, 600, false⟩], step.UnderWay →
        Scalar.ceilCount (step.request.way.length / 20) = ⌈step.request.way.length / 20⌉₊ := by
  have within := move_within_capacity .stubby Parameters.stubby_valid
  have reached {step : ℕ} (below : step < 2) :
      Machine.stubby.Reaches ((Machine.stubby.routeOf stubbyDescent).waypoint (step + 1)) := by
    have steps : step < stubbyDescent.segmentCount Machine.stubby.parameters.segmentLength :=
      below.trans_eq segmentCount_stubbyDescent.symm
    rw [Machine.Reaches, ← Machine.stepEnd_succ steps]
    exact stepEnd_stubbyDescent below
  have targetReached : Machine.stubby.Reaches stubbyDescent.target := by
    have last : 1 + 1 = (Machine.stubby.routeOf stubbyDescent).count :=
      segmentCount_stubbyDescent.symm
    have arrived := reached one_lt_two
    rwa [last, Route.waypoint_count] at arrived
  have sent : (Machine.stubby.move .acceptAll () stubbyDescent).offered ≠ [] :=
    (Machine.stubby.moved .acceptAll () stubbyDescent).offered_ne_nil_iff.2
      ⟨stepEnd_stubbyDescent (Nat.zero_le 2), targetReached, reached two_pos⟩
  have room : Machine.stubby.parameters.capacity = 13 := by
    rw [Parameters.capacity_eq, Nat.ceil_eq_iff (by decide)]
    norm_num [Machine.stubby, Parameters.stubby]
  have counted := ((within.2.1 Unit .acceptAll () stubbyDescent rfl).1 sent).2
  rw [room] at counted
  exact ⟨Parameters.stubby_valid, rfl, sent, room, counted, within.2.2.2 _⟩

end DeltaRobot
