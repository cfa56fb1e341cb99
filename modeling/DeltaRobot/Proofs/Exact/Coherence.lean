import DeltaRobot.Proofs.Exact.Forward
import DeltaRobot.Proofs.Exact.Inverse
import DeltaRobot.Proofs.Move.Accounting

/-!
Contract: when the pose that a machine keeps is the one that its motors take.

The inverse solver asks of a point that all linkages reach it. With the same angles they reach its
mirror image in the plane of the virtual joints as well, and the forward solver takes the lower of
the two. So the solvers agree on the points that hang, and on no other: a point above the plane
comes back as its image, and a point of joints in line does not come back.

Owns: what the forward solver says of the poses that a machine goes through.
Does not own: which points hang on a given geometry.
-/

namespace DeltaRobot

/-! ### Points that hang -/

/-- The point is not above the plane through the virtual joints, which are not in line. -/
def Parameters.Hangs (parameters : Parameters ℝ) (angles : ArmAngles ℝ) (point : Point ℝ) :
    Prop :=
  ¬parameters.JointsCollinear angles ∧ (parameters.tripod angles).height point ≤ 0

/-- What a machine makes of angles whose linkages reach a point. -/
structure Machine.Relocates (machine : Machine ℝ) (angles : ArmAngles ℝ) (point : Point ℝ) :
    Prop where
  reached : machine.parameters.Reach angles point
  /-- A point that hangs comes back, and no other does. -/
  located_iff : (machine.locate angles).1 = .ok point ↔ machine.parameters.Hangs angles point
  /-- A point above the joints comes back as its image in their plane. -/
  mirrored : ¬machine.parameters.JointsCollinear angles →
    0 < (machine.parameters.tripod angles).height point →
      (machine.locate angles).1 = .ok ((machine.parameters.tripod angles).mirror point)
  /-- With the joints in line nothing comes back. -/
  lost : machine.parameters.JointsCollinear angles →
    (machine.locate angles).1 = .error .noForwardSolution

/-- Angles that reach a point are all that is needed. -/
theorem Machine.relocates_of_reach {machine : Machine ℝ} {angles : ArmAngles ℝ} {point : Point ℝ}
    (positive : 0 < machine.parameters.linkage)
    (reach : machine.parameters.Reach angles point) : machine.Relocates angles point := by
  have touches := (Parameters.reach_iff_touches positive point).1 reach
  refine ⟨reach, ?_, ?_, ?_⟩
  · rw [locate_eq_ok_iff]
    constructor
    · intro found
      obtain ⟨spread, -, isLow⟩ := forward_eq_ok_iff.1 found
      refine ⟨spread, ?_⟩
      rw [machine.parameters.jointsCollinear_iff] at spread
      exact (Tripod.eq_lowPoint_iff spread touches).1 isLow.symm
    · rintro ⟨spread, below⟩
      rw [forward_of_reach positive spread reach]
      rw [machine.parameters.jointsCollinear_iff] at spread
      rw [← (Tripod.eq_lowPoint_iff spread touches).2 below]
  · intro spread above
    rw [locate_eq_ok_iff, forward_of_reach positive spread reach]
    rw [machine.parameters.jointsCollinear_iff] at spread
    rw [Tripod.lowPoint_eq_mirror spread touches above]
  · intro inLine
    apply locate_eq_error_iff.2
    intro other found
    exact (forward_eq_ok_iff.1 found).1 inLine

/-! ### The poses of a machine -/

/-- The machines that moves lead to, whatever is asked of them and whatever the queues answer. -/
inductive Machine.MovedTo {α : Type} [Scalar α] (start : Machine α) : Machine α → Prop where
  | start : MovedTo start start
  | move {machine : Machine α} {σ : Type} (dispatcher : Dispatcher σ α) (queue : σ)
      (request : MoveRequest α) (before : MovedTo start machine) :
      MovedTo start (machine.move dispatcher queue request).machine

/-- The angles of the pose hold the effector where the pose says it is. -/
structure Machine.Holds (machine : Machine ℝ) : Prop where
  valid : machine.parameters.validate = .ok ()
  reached : machine.parameters.Reach machine.pose.angles machine.pose.cartesian

/-- A zero pose that is found is reported with its height, and then solved back. -/
theorem Machine.initialise_eq_of_located {machine : Machine ℝ} {point : Point ℝ}
    (located : (machine.locate .zero).1 = .ok point) :
    machine.initialise =
      ({ machine with pose := ⟨.zero, point⟩, zOffset := some point.z },
        [.initialising, .locating .zero,
          .offsetFound point.z machine.parameters.maxNegativeAngle
            machine.parameters.maxPositiveAngle,
          machine.selfCheck point]) := by
  have found := locate_eq_ok_iff.1 located
  simp only [initialise, locate, found, List.cons_append, List.nil_append]

theorem Machine.initialise_eq_of_failed {machine : Machine ℝ} {failure : ForwardFailure ℝ}
    (failed : forward machine.parameters .zero = .error failure) :
    machine.initialise =
      ({ machine with pose := .initial, zOffset := none },
        [.initialising, .locating .zero, .forwardFailed failure,
          .offsetUnavailable .noForwardSolution]) := by
  simp only [initialise, locate, failed, List.cons_append, List.nil_append]

theorem Machine.initialise_of_located {machine : Machine ℝ} {point : Point ℝ}
    (located : (machine.locate .zero).1 = .ok point) :
    machine.initialise.1 =
      { machine with pose := ⟨.zero, point⟩, zOffset := some point.z } := by
  rw [initialise_eq_of_located located]

theorem Machine.holds_initialise {machine : Machine ℝ} {offset : ℝ}
    (valid : machine.parameters.validate = .ok ())
    (found : machine.initialise.1.zOffset = some offset) : machine.initialise.1.Holds := by
  cases solved : forward machine.parameters .zero with
  | error failure =>
      rw [initialise_eq_of_failed solved] at found
      cases found
  | ok point =>
      rw [initialise_of_located (locate_eq_ok_iff.2 solved)]
      exact ⟨valid, reach_of_forward (Parameters.linkage_pos valid) solved⟩

/-- A move either leaves the pose alone or leaves one that the inverse solver answered. -/
theorem Machine.Holds.move {machine : Machine ℝ} (holds : machine.Holds) {σ : Type}
    (dispatcher : Dispatcher σ ℝ) (queue : σ) (request : MoveRequest ℝ) :
    (machine.move dispatcher queue request).machine.Holds := by
  have balanced := (machine.moved dispatcher queue request).balanced
  refine ⟨balanced.parameters ▸ holds.valid, ?_⟩
  rw [balanced.parameters]
  rcases balanced.pose_cases with ⟨-, samePose⟩ | ⟨segment, -, angles, solved⟩
  · rw [samePose]
    exact holds.reached
  · rw [angles]
    exact reach_of_inverse holds.valid solved

theorem Machine.MovedTo.holds {start machine : Machine ℝ} (moves : start.MovedTo machine)
    (holds : start.Holds) : machine.Holds := by
  induction moves with
  | start => exact holds
  | move dispatcher queue request before inductionHypothesis =>
      exact inductionHypothesis.move dispatcher queue request

/-! ### A pose above the joints -/

/-- A move of one segment that the queue accepts ends on its target. -/
theorem Machine.pose_of_single {α : Type} [Scalar α] {machine : Machine α}
    {request : MoveRequest α} {startAngles angles : ArmAngles α}
    (started : inverse machine.parameters request.position = .ok startAngles)
    (reached : inverse machine.parameters request.target = .ok angles)
    (single : (machine.routeOf request).count = 1) :
    (machine.move .acceptAll () request).machine.pose = ⟨angles, request.target⟩ := by
  have isTarget : (machine.routeOf request).waypoint ((machine.routeOf request).count - 0) =
      request.target := by
    rw [Nat.sub_zero, Route.waypoint_count]
    rfl
  rw [move, started, reached]
  change (followRoute _ _ (machine.routeOf request) (machine.routeOf request).count _).machine.pose
    = _
  rw [single, followRoute, isTarget, reached]
  rfl

namespace Inverse

/-- On equal triangles the axis is straight below the base joint, in the frame of each arm. -/
theorem lineSlope_axis {parameters : Parameters ℝ}
    (even : parameters.effectorTriangle = parameters.baseTriangle) (height : ℝ) :
    lineSlope parameters 0 height = 0 := by
  rw [lineSlope, even]
  ring

theorem lineHeight_stubby {height drop : ℝ} (level : height ≠ 0)
    (line : 2 * height * drop = height ^ 2 - 11 ^ 2) :
    lineHeight .stubby 0 0 height = drop := by
  rw [lineHeight, Scalar.two_real, div_eq_iff (mul_ne_zero two_ne_zero level)]
  change 0 * 0 + (0 - sideDistance 100) * (0 - sideDistance 100) + height * height + 60 * 60 -
    61 * 61 - -sideDistance 100 * -sideDistance 100 = drop * (2 * height)
  linear_combination -line

theorem crankEnd_stubby {height drop : ℝ} (level : height ≠ 0)
    (line : 2 * height * drop = height ^ 2 - 11 ^ 2) (within : drop ^ 2 ≤ 60 ^ 2) :
    crankEnd .stubby 0 0 height =
      .ok
        { base := -sideDistance 100
          y := -sideDistance 100 - √(60 ^ 2 - drop ^ 2)
          z := drop } := by
  have slope : lineSlope .stubby 0 height = 0 := lineSlope_axis rfl height
  have square : radicand (-sideDistance Parameters.stubby.baseTriangle)
      Parameters.stubby.crank drop 0 = 60 ^ 2 - drop ^ 2 := by
    rw [radicand, Parameters.stubby]
    ring
  rw [crankEnd_eq _ _ _ level, slope, lineHeight_stubby level line, outerRoot, square,
    if_pos (sub_nonneg.2 within)]
  simp [Parameters.stubby]

theorem armAngle_stubby {height drop : ℝ} (level : height ≠ 0)
    (line : 2 * height * drop = height ^ 2 - 11 ^ 2) (shallow : drop ^ 2 ≤ 60 ^ 2 - drop ^ 2) :
    ∃ angle, armAngle .stubby 0 0 height = .ok angle := by
  have within : drop ^ 2 ≤ 60 ^ 2 := by linarith [sq_nonneg drop]
  have positive : 0 < √(60 ^ 2 - drop ^ 2) := Real.sqrt_pos.2 (by linarith)
  have ratio : |-drop / √(60 ^ 2 - drop ^ 2)| ≤ 1 := by
    rw [abs_div, abs_neg, abs_of_pos positive, div_le_one positive]
    exact Real.abs_le_sqrt shallow
  have eighth : |Real.arctan (-drop / √(60 ^ 2 - drop ^ 2))| ≤ 13 / 10 := by
    obtain ⟨low, high⟩ := abs_le.1 ratio
    have lowAngle := Real.arctan_strictMono.monotone low
    have highAngle := Real.arctan_strictMono.monotone high
    rw [Real.arctan_neg, Real.arctan_one] at lowAngle
    rw [Real.arctan_one] at highAngle
    rw [abs_le]
    constructor <;> linarith [Real.pi_le_four]
  refine ⟨Real.arctan (-drop / √(60 ^ 2 - drop ^ 2)), ?_⟩
  rw [armAngle, crankEnd_stubby level line within]
  dsimp only
  rw [angle_real]
  dsimp only
  rw [sub_sub_cancel, if_neg positive.ne', if_neg (by linarith), add_zero]
  obtain ⟨low, high⟩ := abs_le.1 eighth
  exact withinLimits_of_mem_limits low high

end Inverse

/-- The stubby machine reaches points of the Z axis with its arms alike, above as below. -/
theorem inverse_stubby (height drop : ℝ) (level : height ≠ 0)
    (line : 2 * height * drop = height ^ 2 - 11 ^ 2) (shallow : drop ^ 2 ≤ 60 ^ 2 - drop ^ 2) :
    ∃ angle, inverse .stubby ⟨0, 0, height⟩ = .ok (.alike angle) := by
  obtain ⟨angle, found⟩ := Inverse.armAngle_stubby level line shallow
  refine ⟨angle, inverse_eq_ok_iff.2 ?_⟩
  simp [found, ArmAngles.alike]

theorem locate_stubby_zero : (Machine.stubby.locate .zero).1 = .ok ⟨0, 0, -11⟩ := by
  have relocates : Machine.stubby.Relocates .zero ⟨0, 0, -11⟩ :=
    Machine.relocates_of_reach (Parameters.linkage_pos Parameters.stubby_valid)
      (Parameters.stubby_reach_zero (by norm_num))
  refine relocates.located_iff.2 ⟨Parameters.stubby_spread, ?_⟩
  have spread := Parameters.stubby_spread
  rw [ArmAngles.zero_eq_alike] at spread ⊢
  change (Parameters.stubby.tripod _).height _ ≤ 0
  rw [Parameters.height_alike _ _ _ spread, Real.sin_zero]
  norm_num

/-- From the zero pose of the stubby machine to a point above its joints, in one segment. -/
noncomputable def stubbyLift : MoveRequest ℝ where
  target := ⟨0, 0, 8⟩
  plan := ⟨600, .interpolated⟩
  position := ⟨0, 0, -11⟩
  offset := .zero

noncomputable def Machine.stubbyLifted : Machine ℝ :=
  (Machine.stubby.initialise.1.move .acceptAll () stubbyLift).machine

theorem count_stubbyLift (machine : Machine ℝ) (stubby : machine.parameters = .stubby) :
    (machine.routeOf stubbyLift).count = 1 := by
  have straight : (stubbyLift.target.displacementFrom
      (stubbyLift.position.translate stubbyLift.offset)).length = 19 := by
    rw [Displacement.length_eq_iff (by norm_num)]
    norm_num [stubbyLift, Point.displacementFrom, Point.translate, Displacement.zero]
  have step : ⌈(19 : ℝ) / 20⌉₊ = 1 := by
    rw [Nat.ceil_eq_iff one_ne_zero]
    norm_num
  rw [Machine.count_routeOf, MoveRequest.segmentCount, straight, stubby, segmentCount]
  change max (min ⌈(19 : ℝ) / 20⌉₊ Scalar.maxCount) 1 = 1
  rw [step]
  rfl

theorem pose_stubbyLifted :
    ∃ angle, Machine.stubbyLifted.pose = ⟨.alike angle, ⟨0, 0, 8⟩⟩ ∧
      inverse .stubby ⟨0, 0, 8⟩ = .ok (.alike angle) := by
  obtain ⟨startAngle, started⟩ :=
    inverse_stubby (-11) 0 (by norm_num) (by norm_num) (by norm_num)
  obtain ⟨angle, reached⟩ :=
    inverse_stubby 8 (-57 / 16) (by norm_num) (by norm_num) (by norm_num)
  refine ⟨angle, ?_, reached⟩
  have stubby : Machine.stubby.initialise.1.parameters = .stubby := by
    rw [Machine.initialise_of_located locate_stubby_zero]
    rfl
  rw [← stubby] at started reached
  exact Machine.pose_of_single started reached (count_stubbyLift _ stubby)

/-- The cranks that reach the target of the lift point down, and their ends are below it. -/
theorem above_of_stubby_reach {angle : ℝ}
    (reach : Parameters.stubby.Reach (.alike angle) ⟨0, 0, 8⟩) :
    0 < (Parameters.stubby.tripod (.alike angle)).height ⟨0, 0, 8⟩ := by
  rw [Parameters.reach_alike_iff (Parameters.linkage_pos Parameters.stubby_valid),
    Parameters.stubby_inset] at reach
  simp only [Parameters.stubby, zero_add] at reach
  have unit := Real.sin_sq_add_cos_sq angle
  have down : Real.sin angle = 57 / 960 := by linarith
  have spread : ¬Parameters.stubby.JointsCollinear (.alike angle) := by
    rw [Parameters.jointsCollinear_alike_iff, Parameters.stubby_inset]
    intro vertical
    have flat : Real.cos angle = 0 := by simpa [Parameters.stubby] using vertical
    rw [flat, down] at unit
    norm_num at unit
  rw [Parameters.height_alike _ _ _ spread, down]
  norm_num [Parameters.stubby]

theorem zOffset_stubby : Machine.stubby.initialise.1.zOffset = some (-11) := by
  rw [Machine.initialise_of_located locate_stubby_zero]

theorem Machine.stubbyLifted_movedTo : Machine.stubby.initialise.1.MovedTo stubbyLifted :=
  .move .acceptAll () stubbyLift .start

/-! ### The solvers together -/

/-- Whatever moves an initialised machine has made, the angles of its pose hold the effector at
the position of its pose, and the forward solver finds that position exactly when it hangs. The
same is true of all that the inverse solver answers. -/
theorem moved_pose_relocates (machine : Machine ℝ) (offset : ℝ)
    (valid : machine.parameters.validate = .ok ())
    (found : machine.initialise.1.zOffset = some offset) (later : Machine ℝ)
    (moves : machine.initialise.1.MovedTo later) :
    later.Relocates later.pose.angles later.pose.cartesian ∧
      ∀ point angles, inverse later.parameters point = .ok angles →
        later.Relocates angles point := by
  have holds := moves.holds (Machine.holds_initialise valid found)
  have positive := Parameters.linkage_pos holds.valid
  refine ⟨Machine.relocates_of_reach positive holds.reached, ?_⟩
  intro point angles solved
  exact Machine.relocates_of_reach positive (reach_of_inverse holds.valid solved)

theorem stubbyLifted_relocates :
    Machine.stubby.parameters.validate = .ok () ∧
      Machine.stubby.initialise.1.zOffset = some (-11) ∧
      Machine.stubby.initialise.1.MovedTo .stubbyLifted ∧
      Machine.stubbyLifted.Relocates Machine.stubbyLifted.pose.angles
        Machine.stubbyLifted.pose.cartesian := by
  have relocates := moved_pose_relocates Machine.stubby (-11) Parameters.stubby_valid
    zOffset_stubby .stubbyLifted Machine.stubbyLifted_movedTo
  exact ⟨Parameters.stubby_valid, zOffset_stubby, Machine.stubbyLifted_movedTo, relocates.1⟩

/-- The position of a pose need not hang: the lift ends above the joints. -/
theorem exists_moved_pose_not_located :
    ¬∀ machine later : Machine ℝ, machine.parameters.validate = .ok () →
      (∃ offset, machine.initialise.1.zOffset = some offset) →
      machine.initialise.1.MovedTo later →
      (later.locate later.pose.angles).1 = .ok later.pose.cartesian := by
  intro located
  obtain ⟨angle, pose, solved⟩ := pose_stubbyLifted
  have balanced := (Machine.stubby.initialise.1.moved .acceptAll () stubbyLift).balanced
  have stubby : Machine.stubbyLifted.parameters = .stubby := by
    refine balanced.parameters.trans ?_
    rw [Machine.initialise_of_located locate_stubby_zero]
    rfl
  have reach := reach_of_inverse Parameters.stubby_valid solved
  have above := above_of_stubby_reach reach
  have found := located Machine.stubby .stubbyLifted Parameters.stubby_valid
    ⟨-11, zOffset_stubby⟩ Machine.stubbyLifted_movedTo
  rw [pose] at found
  rw [← stubby] at reach above
  have positive : 0 < Machine.stubbyLifted.parameters.linkage := by
    rw [stubby]
    exact Parameters.linkage_pos Parameters.stubby_valid
  have hangs := (Machine.relocates_of_reach positive reach).located_iff.1 found
  exact absurd hangs.2 (not_le.2 above)

end DeltaRobot
