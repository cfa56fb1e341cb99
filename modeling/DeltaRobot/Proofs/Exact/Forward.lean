import DeltaRobot.Machine.State
import DeltaRobot.Proofs.Exact.Joint
import DeltaRobot.Proofs.Exact.Tripod

/-!
Contract: what the forward solver answers.

The virtual joints of given angles are the centres of a `Tripod`, so the solver answers with the
lower of the two points that all linkages reach, and it fails exactly when there is none or when
the joints are in line seen from above.

Owns: the soundness and the completeness of `forward`, and which of the reached points it answers.
Does not own: how the angles were found.
-/

namespace DeltaRobot

/-- Three points of a plane are in line if the cross product of two sides of their triangle
vanishes. -/
theorem collinear_range_iff (corner : Arm → ℝ × ℝ) :
    Collinear ℝ (Set.range corner) ↔
      ((corner .arm1).2 - (corner .arm0).2) * ((corner .arm2).1 - (corner .arm0).1) -
        ((corner .arm2).2 - (corner .arm0).2) * ((corner .arm1).1 - (corner .arm0).1) = 0 := by
  rw [collinear_iff_of_mem (Set.mem_range_self Arm.arm0)]
  simp only [Set.forall_mem_range, vadd_eq_add, Prod.ext_iff, Prod.fst_add, Prod.snd_add,
    Prod.smul_fst, Prod.smul_snd, smul_eq_mul]
  constructor
  · rintro ⟨direction, onLine⟩
    obtain ⟨factor, x1, y1⟩ := onLine .arm1
    obtain ⟨other, x2, y2⟩ := onLine .arm2
    rw [x1, y1, x2, y2]
    ring
  · intro flat
    by_cases same : corner .arm1 = corner .arm0
    · refine ⟨corner .arm2 - corner .arm0, fun arm => ?_⟩
      cases arm with
      | arm0 => exact ⟨0, by simp⟩
      | arm1 => exact ⟨0, by simp [same]⟩
      | arm2 => exact ⟨1, by simp⟩
    · -- The first side spans the line, and the second is its projection to it.
      have apart : 0 < ((corner .arm1).1 - (corner .arm0).1) ^ 2 +
          ((corner .arm1).2 - (corner .arm0).2) ^ 2 := by
        rcases not_and_or.1 (fun both => same (Prod.ext both.1 both.2)) with x | y
        · exact add_pos_of_pos_of_nonneg (sq_pos_of_ne_zero (sub_ne_zero.2 x)) (sq_nonneg _)
        · exact add_pos_of_nonneg_of_pos (sq_nonneg _) (sq_pos_of_ne_zero (sub_ne_zero.2 y))
      refine ⟨corner .arm1 - corner .arm0, fun arm => ?_⟩
      cases arm with
      | arm0 => exact ⟨0, by simp⟩
      | arm1 => exact ⟨1, by simp⟩
      | arm2 =>
          refine ⟨(((corner .arm1).1 - (corner .arm0).1) * ((corner .arm2).1 - (corner .arm0).1) +
            ((corner .arm1).2 - (corner .arm0).2) * ((corner .arm2).2 - (corner .arm0).2)) /
              (((corner .arm1).1 - (corner .arm0).1) ^ 2 +
                ((corner .arm1).2 - (corner .arm0).2) ^ 2), ?_, ?_⟩
          · simp only [Prod.fst_sub]
            field_simp
            linear_combination ((corner .arm1).2 - (corner .arm0).2) * flat
          · simp only [Prod.snd_sub]
            field_simp
            linear_combination -((corner .arm1).1 - (corner .arm0).1) * flat

namespace Parameters

variable (parameters : Parameters ℝ) (angles : ArmAngles ℝ)

/-- The virtual joints as the centres of the linkage spheres. -/
noncomputable def tripod : Tripod where
  first := parameters.joint angles .arm0
  second := parameters.joint angles .arm1
  third := parameters.joint angles .arm2
  first_x := by rw [joint_arm0]

theorem det_tripod :
    (parameters.tripod angles).det =
      ((parameters.joint angles .arm1).y - (parameters.joint angles .arm0).y) *
          (parameters.joint angles .arm2).x -
        ((parameters.joint angles .arm2).y - (parameters.joint angles .arm0).y) *
          (parameters.joint angles .arm1).x :=
  rfl

/-- Whether the joints are in line depends on how far out they are, not on which is which. -/
theorem det_tripod_reach :
    (parameters.tripod angles).det =
      -(√3 / 2) *
        (Forward.reach parameters angles.arm0 * Forward.reach parameters angles.arm1 +
          Forward.reach parameters angles.arm1 * Forward.reach parameters angles.arm2 +
          Forward.reach parameters angles.arm2 * Forward.reach parameters angles.arm0) := by
  rw [det_tripod, joint_arm0, joint_arm1, joint_arm2]
  ring

theorem jointsCollinear_iff :
    parameters.JointsCollinear angles ↔ (parameters.tripod angles).det = 0 := by
  have firstX : (parameters.joint angles .arm0).x = 0 := (parameters.tripod angles).first_x
  rw [JointsCollinear, collinear_range_iff, firstX, sub_zero, sub_zero, det_tripod]

variable {parameters} {angles}

theorem touches_tripod_iff {radius : ℝ} {point : Point ℝ} :
    (parameters.tripod angles).Touches radius point ↔
      ∀ arm, (point.x - (parameters.joint angles arm).x) ^ 2 +
        (point.y - (parameters.joint angles arm).y) ^ 2 +
        (point.z - (parameters.joint angles arm).z) ^ 2 = radius ^ 2 := by
  constructor
  · intro touches arm
    refine touches _ ?_
    cases arm <;> simp [tripod]
  · intro onSphere centre member
    simp only [List.mem_cons, List.not_mem_nil, or_false] at member
    rcases member with rfl | rfl | rfl
    · exact onSphere .arm0
    · exact onSphere .arm1
    · exact onSphere .arm2

theorem reach_iff_touches (positive : 0 < parameters.linkage) (point : Point ℝ) :
    parameters.Reach angles point ↔
      (parameters.tripod angles).Touches parameters.linkage point := by
  rw [touches_tripod_iff]
  exact forall_congr' (fun arm => Displacement.length_eq_iff positive _)

end Parameters

variable {parameters : Parameters ℝ} {angles : ArmAngles ℝ}

variable (parameters angles) in
/-- The forward solver goes through the elimination for the virtual joints. -/
theorem forward_eq :
    forward parameters angles =
      if (parameters.tripod angles).det = 0 then .error .collinear
      else if 0 ≤ (parameters.tripod angles).discriminant parameters.linkage then
        .ok ((parameters.tripod angles).lowPoint parameters.linkage)
      else .error (.apart ((parameters.tripod angles).discriminant parameters.linkage)) :=
  (forward_eq_lowestMeeting parameters angles).trans
    ((parameters.tripod angles).lowestMeeting_eq parameters.linkage)

theorem forward_eq_ok_iff {point : Point ℝ} :
    forward parameters angles = .ok point ↔
      ¬parameters.JointsCollinear angles ∧
        0 ≤ (parameters.tripod angles).discriminant parameters.linkage ∧
          (parameters.tripod angles).lowPoint parameters.linkage = point := by
  rw [forward_eq, parameters.jointsCollinear_iff]
  split_ifs with flat real
  · simp [flat]
  · simp [flat, real]
  · simp [flat, real]

/-- The solver finds a point wherever there is one to find. -/
theorem forward_of_reach {common : Point ℝ} (positive : 0 < parameters.linkage)
    (spread : ¬parameters.JointsCollinear angles) (reach : parameters.Reach angles common) :
    forward parameters angles =
      .ok ((parameters.tripod angles).lowPoint parameters.linkage) := by
  refine forward_eq_ok_iff.2 ⟨spread, ?_, rfl⟩
  rw [parameters.jointsCollinear_iff] at spread
  exact Tripod.discriminant_nonneg spread ((Parameters.reach_iff_touches positive _).1 reach)

theorem reach_of_forward {point : Point ℝ} (positive : 0 < parameters.linkage)
    (found : forward parameters angles = .ok point) : parameters.Reach angles point := by
  obtain ⟨spread, real, isLow⟩ := forward_eq_ok_iff.1 found
  rw [parameters.jointsCollinear_iff] at spread
  rw [Parameters.reach_iff_touches positive, ← isLow]
  exact Tripod.lowPoint_touches spread real

theorem le_of_forward {point common : Point ℝ} (positive : 0 < parameters.linkage)
    (found : forward parameters angles = .ok point) (reach : parameters.Reach angles common) :
    point.z ≤ common.z := by
  obtain ⟨spread, -, isLow⟩ := forward_eq_ok_iff.1 found
  rw [parameters.jointsCollinear_iff] at spread
  rw [← isLow]
  exact Tripod.lowHeight_le spread ((Parameters.reach_iff_touches positive _).1 reach)

/-! ### Arms alike -/

section

variable (parameters : Parameters ℝ) (angle : ℝ)

theorem Parameters.det_alike :
    (parameters.tripod (.alike angle)).det =
      -(3 / 2 * √3) * (parameters.inset + parameters.crank * Real.cos angle) ^ 2 := by
  rw [det_tripod_reach, ← Forward.reach_real]
  simp only [ArmAngles.alike]
  ring

/-- Arms alike have their joints in line only on the Z axis. -/
theorem Parameters.jointsCollinear_alike_iff :
    parameters.JointsCollinear (.alike angle) ↔
      parameters.inset + parameters.crank * Real.cos angle = 0 := by
  have factor : -(3 / 2 * √3) ≠ 0 := by simp
  rw [jointsCollinear_iff, det_alike, mul_eq_zero, or_iff_right factor, sq_eq_zero_iff]

theorem Parameters.height_alike (height : ℝ)
    (spread : ¬parameters.JointsCollinear (.alike angle)) :
    (parameters.tripod (.alike angle)).height ⟨0, 0, height⟩ =
      height + parameters.crank * Real.sin angle := by
  rw [jointsCollinear_iff] at spread
  have scaled := Tripod.height_mul_det ⟨0, 0, height⟩ spread
  have level (arm : Arm) :
      (parameters.joint (.alike angle) arm).z = -parameters.crank * Real.sin angle := by
    rw [joint, Point.rotateZ, ArmAngles.of_alike]
  have slopeX : (parameters.tripod (.alike angle)).slopeX = 0 := by
    simp [Tripod.slopeX, tripod, level]
  have slopeY : (parameters.tripod (.alike angle)).slopeY = 0 := by
    simp [Tripod.slopeY, tripod, level]
  have first : (parameters.tripod (.alike angle)).first.z = -parameters.crank * Real.sin angle :=
    level .arm0
  rw [slopeX, slopeY, first, zero_mul, zero_mul, zero_add, zero_add, mul_comm] at scaled
  rw [mul_left_cancel₀ spread scaled]
  ring

end

/-! ### A stubby machine -/

/-- Linkages hardly longer than the cranks, on equal triangles. -/
noncomputable def Parameters.stubby : Parameters ℝ where
  crank := 60
  linkage := 61
  baseTriangle := 100
  effectorTriangle := 100
  maxNegativeAngle := -(13 / 10)
  maxPositiveAngle := 13 / 10
  segmentLength := 20

theorem Parameters.stubby_valid : stubby.validate = .ok () := by
  apply stubby.validate_eq_ok_iff.2
  intro parameter
  have quarter : (13 / 10 : ℝ) ≤ Real.pi / 2 := by linarith [Real.pi_gt_three]
  cases parameter <;>
    simp [Parameter.allows, Scalar.inRange, get, stubby, Parameter.low, Parameter.high] <;>
    norm_num
  · exact quarter
  · exact quarter

theorem Parameters.stubby_inset : stubby.inset = 0 := by
  simp [inset, sideDistance, stubby]

/-- Its horizontal cranks can hold the effector as far above as below. -/
theorem Parameters.stubby_reach_zero {height : ℝ} (square : height ^ 2 = 11 ^ 2) :
    stubby.Reach .zero ⟨0, 0, height⟩ := by
  have positive := linkage_pos stubby_valid
  rw [ArmAngles.zero_eq_alike, reach_alike_iff positive, stubby_inset, Real.cos_zero,
    Real.sin_zero]
  norm_num [stubby, square]

theorem Parameters.stubby_spread : ¬stubby.JointsCollinear .zero := by
  rw [ArmAngles.zero_eq_alike, jointsCollinear_alike_iff, stubby_inset, Real.cos_zero]
  norm_num [stubby]

/-- The machine, before anything is known of it. -/
noncomputable def Machine.stubby : Machine ℝ where
  parameters := .stubby
  pose := .initial
  zOffset := none

/-! ### The solver of a machine -/

theorem Machine.locate_eq_ok_iff {machine : Machine ℝ} {point : Point ℝ} :
    (machine.locate angles).1 = .ok point ↔ forward machine.parameters angles = .ok point := by
  rw [locate]
  cases forward machine.parameters angles <;> simp

/-- Every failure of the solver becomes one error. -/
theorem Machine.locate_eq_error_iff {machine : Machine ℝ} :
    (machine.locate angles).1 = .error .noForwardSolution ↔
      ∀ point, forward machine.parameters angles ≠ .ok point := by
  rw [locate]
  cases forward machine.parameters angles <;> simp

/-- The solver is sound and complete: it answers exactly when the joints are not in line and some
point is reached, it answers with the lowest such point, and otherwise it says so. -/
theorem locate_lowest_reached (machine : Machine ℝ)
    (valid : machine.parameters.validate = .ok ()) (angles : ArmAngles ℝ) :
    ((∃ point, (machine.locate angles).1 = .ok point) ↔
      ¬machine.parameters.JointsCollinear angles ∧
        ∃ common, machine.parameters.Reach angles common) ∧
    (∀ point, (machine.locate angles).1 = .ok point →
      machine.parameters.Reach angles point ∧
        ∀ common, machine.parameters.Reach angles common → point.z ≤ common.z) ∧
    (¬(¬machine.parameters.JointsCollinear angles ∧
        ∃ common, machine.parameters.Reach angles common) →
      (machine.locate angles).1 = .error .noForwardSolution) := by
  have positive := Parameters.linkage_pos valid
  have answers : (∃ point, (machine.locate angles).1 = .ok point) ↔
      ¬machine.parameters.JointsCollinear angles ∧
        ∃ common, machine.parameters.Reach angles common := by
    simp only [Machine.locate_eq_ok_iff]
    constructor
    · rintro ⟨point, found⟩
      exact ⟨(forward_eq_ok_iff.1 found).1, point, reach_of_forward positive found⟩
    · rintro ⟨spread, common, reach⟩
      exact ⟨_, forward_of_reach positive spread reach⟩
  refine ⟨answers, ?_, ?_⟩
  · intro point located
    have found := Machine.locate_eq_ok_iff.1 located
    exact ⟨reach_of_forward positive found, fun common => le_of_forward positive found⟩
  · intro unsolvable
    apply Machine.locate_eq_error_iff.2
    intro point found
    exact unsolvable (answers.1 ⟨point, Machine.locate_eq_ok_iff.2 found⟩)

/-- With its cranks horizontal the stubby machine hangs eleven below its joints, or lower. -/
theorem stubby_locate_lowest :
    Machine.stubby.parameters.validate = .ok () ∧
      ∃ point, (Machine.stubby.locate .zero).1 = .ok point ∧
        Parameters.stubby.Reach .zero point ∧ point.z ≤ -11 := by
  obtain ⟨answers, lowest, -⟩ :=
    locate_lowest_reached Machine.stubby Parameters.stubby_valid .zero
  have reach : Parameters.stubby.Reach .zero ⟨0, 0, -11⟩ :=
    Parameters.stubby_reach_zero (by norm_num)
  obtain ⟨point, located⟩ := answers.2 ⟨Parameters.stubby_spread, _, reach⟩
  obtain ⟨reached, isLowest⟩ := lowest point located
  exact ⟨Parameters.stubby_valid, point, located, reached, isLowest _ reach⟩

end DeltaRobot
