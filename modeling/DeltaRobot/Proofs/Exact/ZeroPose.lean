import DeltaRobot.Log.Notice
import DeltaRobot.Proofs.Exact.RoundTrip

/-!
Contract: what initialisation makes of every geometry.

With all cranks horizontal the virtual joints stand around the Z axis at the height of the arm axes.
`Parameters.zeroReach` is how far out they stand; it is negative where the effector is so wide that
they stand beyond the axis. The linkages then meet on the axis if they are long enough, and nowhere
else, so initialisation finds the zero pose of every geometry that has one. A crank that is
horizontal is never folded, so solving back gives the zero angles again, unless the linkages are
stretched flat and hold the effector at the height of the axes.

Owns: the pose, the height and the notices that initialisation leaves.
Does not own: what moves make of them.
-/

namespace DeltaRobot

/-! ### The joints of horizontal cranks -/

namespace Parameters

/-- How far the virtual joints stand from the Z axis, each towards its own arm. -/
noncomputable def zeroReach (parameters : Parameters ℝ) : ℝ :=
  parameters.inset + parameters.crank

/-- The height at which the linkages meet below the joints. -/
noncomputable def zeroHeight (parameters : Parameters ℝ) : ℝ :=
  -√(parameters.linkage ^ 2 - parameters.zeroReach ^ 2)

variable {parameters : Parameters ℝ}

theorem zeroHeight_nonpos (parameters : Parameters ℝ) : parameters.zeroHeight ≤ 0 :=
  neg_nonpos.2 (Real.sqrt_nonneg _)

theorem zeroHeight_neg (short : |parameters.zeroReach| < parameters.linkage) :
    parameters.zeroHeight < 0 := by
  have square := sq_lt_sq' (abs_lt.1 short).1 (abs_lt.1 short).2
  exact neg_neg_of_pos (Real.sqrt_pos.2 (sub_pos.2 square))

theorem zeroHeight_of_flat (flat : |parameters.zeroReach| = parameters.linkage) :
    parameters.zeroHeight = 0 := by
  rw [zeroHeight, ← flat, sq_abs, sub_self, Real.sqrt_zero, neg_zero]

theorem jointsCollinear_zero_iff :
    parameters.JointsCollinear .zero ↔ parameters.zeroReach = 0 := by
  rw [ArmAngles.zero_eq_alike, jointsCollinear_alike_iff, Real.cos_zero, mul_one, zeroReach]

/-- The joints stand evenly around the axis, so what their linkages reach is no further from the
origin than the linkages allow for. -/
theorem square_of_reach_zero (positive : 0 < parameters.linkage) {point : Point ℝ}
    (reach : parameters.Reach .zero point) :
    point.x ^ 2 + point.y ^ 2 + point.z ^ 2 + parameters.zeroReach ^ 2 =
      parameters.linkage ^ 2 := by
  have sphere (arm : Arm) := (linkage_eq_iff positive _ _ arm).1 (reach arm)
  have first := sphere .arm0
  have second := sphere .arm1
  have third := sphere .arm2
  rw [Point.rotateZ_arm0] at first
  rw [Point.rotateZ_arm1] at second
  rw [Point.rotateZ_arm2] at third
  simp only [ArmAngles.zero_eq_alike, ArmAngles.of_alike, Real.cos_zero, Real.sin_zero, mul_one,
    mul_zero, add_zero, Inverse.sin120_real, Inverse.cos120_real] at first second third
  have root : √3 ^ 2 = (3 : ℝ) := Real.sq_sqrt (by norm_num)
  rw [zeroReach]
  linear_combination (first + second + third) / 3 - (point.x ^ 2 + point.y ^ 2) / 6 * root

theorem abs_zeroReach_le_of_reach (positive : 0 < parameters.linkage) {point : Point ℝ}
    (reach : parameters.Reach .zero point) : |parameters.zeroReach| ≤ parameters.linkage := by
  apply abs_le_of_sq_le_sq _ positive.le
  linarith [square_of_reach_zero positive reach, sq_nonneg point.x, sq_nonneg point.y,
    sq_nonneg point.z]

theorem reach_zeroHeight (positive : 0 < parameters.linkage)
    (short : |parameters.zeroReach| ≤ parameters.linkage) :
    parameters.Reach .zero ⟨0, 0, parameters.zeroHeight⟩ := by
  have square := sq_le_sq' (abs_le.1 short).1 (abs_le.1 short).2
  rw [ArmAngles.zero_eq_alike, reach_alike_iff positive, Real.cos_zero, Real.sin_zero, mul_one,
    mul_zero, add_zero, zeroHeight, neg_sq, Real.sq_sqrt (sub_nonneg.2 square), zeroReach]
  ring

theorem hangs_zeroHeight (apart : parameters.zeroReach ≠ 0) :
    parameters.Hangs .zero ⟨0, 0, parameters.zeroHeight⟩ := by
  have spread := jointsCollinear_zero_iff.not.2 apart
  refine ⟨spread, ?_⟩
  rw [ArmAngles.zero_eq_alike] at spread ⊢
  rw [height_alike _ _ _ spread, Real.sin_zero, mul_zero, add_zero]
  exact parameters.zeroHeight_nonpos

/-- Validated limits let a crank be horizontal. -/
theorem zero_mem_limits (valid : parameters.validate = .ok ()) :
    parameters.maxNegativeAngle ≤ 0 ∧ 0 ≤ parameters.maxPositiveAngle := by
  have negative := (mem_range_of_validate valid .maxNegativeAngle).2
  have positive := (mem_range_of_validate valid .maxPositiveAngle).1
  simp only [Parameter.low, Parameter.high, get, Scalar.zero_real] at negative positive
  exact ⟨negative, positive⟩

end Parameters

/-! ### Solving forward -/

section

variable {machine : Machine ℝ}

theorem Machine.locate_zero (positive : 0 < machine.parameters.linkage)
    (apart : machine.parameters.zeroReach ≠ 0)
    (short : |machine.parameters.zeroReach| ≤ machine.parameters.linkage) :
    (machine.locate .zero).1 = .ok ⟨0, 0, machine.parameters.zeroHeight⟩ :=
  (relocates_of_reach positive (Parameters.reach_zeroHeight positive short)).located_iff.2
    (Parameters.hangs_zeroHeight apart)

/-- Joints on the axis are in line, and linkages that are too short do not meet. -/
theorem Machine.exists_forward_zero_error (positive : 0 < machine.parameters.linkage)
    (unsound : ¬(0 < |machine.parameters.zeroReach| ∧
      |machine.parameters.zeroReach| ≤ machine.parameters.linkage)) :
    ∃ failure, forward machine.parameters .zero = .error failure := by
  cases found : forward machine.parameters .zero with
  | error failure => exact ⟨failure, rfl⟩
  | ok point =>
      have spread := (forward_eq_ok_iff.1 found).1
      rw [Parameters.jointsCollinear_zero_iff] at spread
      exact absurd ⟨abs_pos.2 spread,
        Parameters.abs_zeroReach_le_of_reach positive (reach_of_forward positive found)⟩ unsound

end

/-! ### Solving back -/

/-- No crank reaches further out than a horizontal one. -/
theorem inverse_zeroHeight {parameters : Parameters ℝ} (valid : parameters.validate = .ok ())
    (short : |parameters.zeroReach| < parameters.linkage) :
    inverse parameters ⟨0, 0, parameters.zeroHeight⟩ = .ok .zero := by
  have positive := Parameters.linkage_pos valid
  obtain ⟨low, high⟩ := Parameters.zero_mem_limits valid
  have spans := (Parameters.reach_iff_spans positive _ _).1
    (Parameters.reach_zeroHeight positive short.le)
  rw [ArmAngles.zero_eq_alike, inverse_eq_ok_iff_armAngle]
  intro arm
  have under : (Point.rotateZ ⟨0, 0, parameters.zeroHeight⟩ (-arm.bearing)).z ≠ 0 :=
    (Parameters.zeroHeight_neg short).ne
  have armSpans := spans arm
  rw [ArmAngles.zero_eq_alike, ArmAngles.of_alike] at armSpans
  rw [ArmAngles.of_alike, Inverse.armAngle_eq_ok_iff_of_spans valid under low high armSpans]
  intro other otherSpans
  rw [Real.cos_zero]
  exact Real.cos_le_one other

/-! ### Initialisation -/

/-- Whatever a machine was before, initialisation leaves it in its zero pose, and says whether
solving back confirms that. -/
structure Machine.FindsZeroPose (machine : Machine ℝ) (reach height : ℝ) : Prop where
  found : 0 < |reach| ∧ |reach| ≤ machine.parameters.linkage →
    machine.initialise.1 =
      { machine with pose := ⟨.zero, ⟨0, 0, height⟩⟩, zOffset := some height }
  missing : ¬(0 < |reach| ∧ |reach| ≤ machine.parameters.linkage) →
    machine.initialise.1 = { machine with pose := ⟨.zero, .origin⟩, zOffset := none } ∧
      ∃ failure, machine.initialise.2 =
        [.initialising, .locating .zero, .forwardFailed failure,
          .offsetUnavailable .noForwardSolution]
  /-- Nothing is warned of where the linkages are longer than they need to be. -/
  confirmed : 0 < |reach| → |reach| < machine.parameters.linkage →
    inverse machine.parameters ⟨0, 0, height⟩ = .ok .zero ∧
      machine.parameters.maxNegativeAngle ≤ 0 ∧ 0 ≤ machine.parameters.maxPositiveAngle ∧
      machine.initialise.2 =
        [.initialising, .locating .zero,
          .offsetFound height machine.parameters.maxNegativeAngle
            machine.parameters.maxPositiveAngle,
          .selfCheck .zero] ∧
      ∀ notice ∈ machine.initialise.2,
        notice = .locating .zero ∨ notice.severity = .information
  /-- The point is found all the same where they are stretched flat. -/
  doubted : |reach| = machine.parameters.linkage →
    inverse machine.parameters ⟨0, 0, height⟩ = .error .outOfRange ∧
      machine.initialise.2 =
        [.initialising, .locating .zero,
          .offsetFound height machine.parameters.maxNegativeAngle
            machine.parameters.maxPositiveAngle,
          .selfCheckFailed .outOfRange] ∧
      ∀ notice ∈ machine.initialise.2.getLast?, notice.severity = .warning

/-- Initialisation and its check are right for every geometry. The virtual joints of the zero pose
stand `inset + crank` out, on either side of the axis, and the pose hangs as far below them as the
linkages reach. -/
theorem initialise_finds_zero_pose (machine : Machine ℝ)
    (valid : machine.parameters.validate = .ok ()) :
    machine.FindsZeroPose (machine.parameters.inset + machine.parameters.crank)
      (-√(machine.parameters.linkage ^ 2 -
        (machine.parameters.inset + machine.parameters.crank) ^ 2)) := by
  have positive := Parameters.linkage_pos valid
  have located (apart : 0 < |machine.parameters.zeroReach|) :=
    machine.locate_zero positive (abs_pos.1 apart)
  change machine.FindsZeroPose machine.parameters.zeroReach machine.parameters.zeroHeight
  refine ⟨?_, ?_, ?_, ?_⟩
  · rintro ⟨apart, short⟩
    rw [Machine.initialise_eq_of_located (located apart short)]
  · intro unsound
    obtain ⟨failure, failed⟩ := Machine.exists_forward_zero_error positive unsound
    rw [Machine.initialise_eq_of_failed failed]
    exact ⟨rfl, failure, rfl⟩
  · intro apart short
    have solved := inverse_zeroHeight valid short
    obtain ⟨low, high⟩ := Parameters.zero_mem_limits valid
    rw [Machine.initialise_eq_of_located (located apart short.le), Machine.selfCheck, solved]
    exact ⟨rfl, low, high, rfl, by simp [Notice.severity]⟩
  · intro flat
    have apart : 0 < |machine.parameters.zeroReach| := flat ▸ positive
    have unsolved : inverse machine.parameters ⟨0, 0, machine.parameters.zeroHeight⟩ =
        .error .outOfRange :=
      inverse_of_level (by simp [Parameters.zeroHeight_of_flat flat])
    rw [Machine.initialise_eq_of_located (located apart flat.le), Machine.selfCheck, unsolved]
    exact ⟨rfl, rfl, by simp [Notice.severity]⟩

/-- The wide machine, before anything is known of it. -/
noncomputable def Machine.wide : Machine ℝ where
  parameters := .wide
  pose := .initial
  zOffset := none

/-- Its horizontal cranks reach ten beyond the axis, and it is initialised like any other. -/
theorem wide_finds_zero_pose :
    Machine.wide.parameters.validate = .ok () ∧
      Machine.wide.initialise.1 =
        { Machine.wide with pose := ⟨.zero, ⟨0, 0, -√1200⟩⟩, zOffset := some (-√1200) } ∧
      inverse .wide ⟨0, 0, -√1200⟩ = .ok .zero := by
  have pose := initialise_finds_zero_pose .wide Parameters.wide_valid
  have beyond : Machine.wide.parameters.inset + Machine.wide.parameters.crank = -10 := by
    rw [show Machine.wide.parameters = .wide from rfl, Parameters.wide_inset]
    norm_num [Parameters.wide]
  have square : Machine.wide.parameters.linkage ^ 2 = 1300 := Real.sq_sqrt (by norm_num)
  have long : 10 < Machine.wide.parameters.linkage := Real.lt_sqrt_of_sq_lt (by norm_num)
  have ten : |(-10 : ℝ)| = 10 := by norm_num
  have apart : 0 < |(-10 : ℝ)| := by norm_num
  have short : |(-10 : ℝ)| < Machine.wide.parameters.linkage := ten.trans_lt long
  rw [beyond, square, show (1300 - (-10) ^ 2 : ℝ) = 1200 by norm_num] at pose
  exact ⟨Parameters.wide_valid, pose.found ⟨apart, short.le⟩, (pose.confirmed apart short).1⟩

end DeltaRobot
