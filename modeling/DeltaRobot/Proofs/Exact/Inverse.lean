import DeltaRobot.Proofs.Kinematics.Limits
import DeltaRobot.Proofs.Exact.Joint

/-!
Contract: what the inverse solver answers over the real numbers.

In the plane of an arm the crank end is a common point of the crank circle and the linkage sphere,
and the angle is the direction in which the crank points to it. So the answered angles hold the
effector at the point they were asked for, in the sense that all linkages reach it.

Owns: the soundness of `inverse`, and what its limits are there.
Does not own: whether there is an answer, or whether the forward solver finds the point again.
-/

namespace DeltaRobot

namespace Inverse

/-! ### The crank end -/

theorem tan30_real : (tan30 : ℝ) = Real.tan (Real.pi / 6) := by
  rw [Real.tan_pi_div_six]
  change (Scalar.one : ℝ) / Scalar.sqrtThree = 1 / √3
  rw [Scalar.one_real, Scalar.sqrtThree_real]

section

variable (parameters : Parameters ℝ) (x0 y0 z0 : ℝ)

/-- How steep the line is on which the crank circle and the linkage sphere meet. -/
noncomputable def lineSlope : ℝ :=
  (-sideDistance parameters.baseTriangle -
    (y0 - sideDistance parameters.effectorTriangle)) / z0

noncomputable def lineHeight : ℝ :=
  (x0 * x0 + (y0 - sideDistance parameters.effectorTriangle) *
      (y0 - sideDistance parameters.effectorTriangle) + z0 * z0 +
    parameters.crank * parameters.crank - parameters.linkage * parameters.linkage -
    -sideDistance parameters.baseTriangle * -sideDistance parameters.baseTriangle) /
      (Scalar.two * z0)

/-- What the solver takes the root of: the line meets the circle of a radius about `y = centre`
if it is not negative. -/
noncomputable def radicand (centre radius height slope : ℝ) : ℝ :=
  -(height + slope * centre) * (height + slope * centre) +
    radius * (slope * slope * radius + radius)

/-- Of the two points in which a line meets a circle, the y coordinate of the outer one. -/
noncomputable def outerRoot (centre radius height slope : ℝ) : ℝ :=
  (centre - height * slope - √(radicand centre radius height slope)) / (slope * slope + 1)

variable {z0}

theorem crankEnd_eq (level : z0 ≠ 0) :
    crankEnd parameters x0 y0 z0 =
      if 0 ≤ radicand (-sideDistance parameters.baseTriangle) parameters.crank
          (lineHeight parameters x0 y0 z0) (lineSlope parameters y0 z0) then
        .ok
          { base := -sideDistance parameters.baseTriangle
            y := outerRoot (-sideDistance parameters.baseTriangle) parameters.crank
              (lineHeight parameters x0 y0 z0) (lineSlope parameters y0 z0)
            z := lineHeight parameters x0 y0 z0 + lineSlope parameters y0 z0 *
              outerRoot (-sideDistance parameters.baseTriangle) parameters.crank
                (lineHeight parameters x0 y0 z0) (lineSlope parameters y0 z0) }
      else .error .outOfRange := by
  have base : -(1 / 2) * Real.tan (Real.pi / 6) * parameters.baseTriangle =
      -sideDistance parameters.baseTriangle := by
    rw [sideDistance]
    ring
  have effector : 1 / 2 * Real.tan (Real.pi / 6) * parameters.effectorTriangle =
      sideDistance parameters.effectorTriangle := by
    rw [sideDistance]
    ring
  unfold crankEnd
  simp only [Scalar.half_real, Scalar.one_real, Scalar.zero_real, tan30_real,
    Scalar.equal_real, Scalar.lessEq_real, Scalar.sqrt_real, decide_eq_true_eq, base, effector,
    if_neg level]
  rfl

theorem crankEnd_level : crankEnd parameters x0 y0 0 = .error .outOfRange := by
  unfold crankEnd
  simp only [Scalar.zero_real, Scalar.equal_real, decide_true, if_true]

end

theorem circle_of_outerRoot {centre radius height slope : ℝ}
    (real : 0 ≤ radicand centre radius height slope) :
    (centre - outerRoot centre radius height slope) ^ 2 +
      (height + slope * outerRoot centre radius height slope) ^ 2 = radius ^ 2 := by
  have positive : slope * slope + 1 ≠ 0 :=
    (add_pos_of_nonneg_of_pos (mul_self_nonneg slope) one_pos).ne'
  have root : outerRoot centre radius height slope * (slope * slope + 1) =
      centre - height * slope - √(radicand centre radius height slope) :=
    div_mul_cancel₀ _ positive
  have shifted : √(radicand centre radius height slope) =
      centre - height * slope - outerRoot centre radius height slope * (slope * slope + 1) := by
    linarith
  have square := Real.sq_sqrt real
  rw [shifted, radicand] at square
  refine sub_eq_zero.1 ((mul_eq_zero.1 ?_).resolve_left positive)
  linear_combination square

/-- Where the line meets the crank circle, it meets the linkage sphere. -/
theorem sphere_of_circle {parameters : Parameters ℝ} {x0 y0 z0 y : ℝ} (level : z0 ≠ 0)
    (circle : (-sideDistance parameters.baseTriangle - y) ^ 2 +
      (lineHeight parameters x0 y0 z0 + lineSlope parameters y0 z0 * y) ^ 2 =
        parameters.crank ^ 2) :
    x0 ^ 2 + (y0 - sideDistance parameters.effectorTriangle - y) ^ 2 +
      (z0 - (lineHeight parameters x0 y0 z0 + lineSlope parameters y0 z0 * y)) ^ 2 =
        parameters.linkage ^ 2 := by
  have slope : lineSlope parameters y0 z0 * z0 = _ := div_mul_cancel₀ _ level
  have height : lineHeight parameters x0 y0 z0 * (2 * z0) = _ :=
    div_mul_cancel₀ _ (mul_ne_zero two_ne_zero level)
  linear_combination circle - height - 2 * y * slope

/-- The crank end is on the crank circle and on the linkage sphere. -/
theorem spheres_of_crankEnd {parameters : Parameters ℝ} {x0 y0 z0 : ℝ} {crank : CrankEnd ℝ}
    (found : crankEnd parameters x0 y0 z0 = .ok crank) :
    crank.base = -sideDistance parameters.baseTriangle ∧
      (crank.base - crank.y) ^ 2 + crank.z ^ 2 = parameters.crank ^ 2 ∧
      x0 ^ 2 + (y0 - sideDistance parameters.effectorTriangle - crank.y) ^ 2 +
        (z0 - crank.z) ^ 2 = parameters.linkage ^ 2 := by
  rcases eq_or_ne z0 0 with rfl | level
  · rw [crankEnd_level] at found
    cases found
  · rw [crankEnd_eq parameters x0 y0 level] at found
    split_ifs at found with real
    cases found
    have circle := circle_of_outerRoot real
    exact ⟨rfl, circle, sphere_of_circle level circle⟩

/-! ### The angle -/

/-- The arc tangent of a quotient points the same way as the two numbers, up to a half turn. -/
theorem cos_sin_arctan {horizontal vertical radius : ℝ} (upright : horizontal ≠ 0)
    (positive : 0 < radius) (circle : horizontal ^ 2 + vertical ^ 2 = radius ^ 2) :
    radius * Real.cos (Real.arctan (vertical / horizontal)) = |horizontal| ∧
      radius * Real.sin (Real.arctan (vertical / horizontal)) =
        |horizontal| * (vertical / horizontal) := by
  have hypotenuse : √(1 + (vertical / horizontal) ^ 2) = radius / |horizontal| := by
    rw [Real.sqrt_eq_iff_mul_self_eq_of_pos (div_pos positive (abs_pos.2 upright)), ← sq, div_pow,
      sq_abs, ← circle]
    field_simp
  rw [Real.cos_arctan, Real.sin_arctan, hypotenuse]
  have nonzero := abs_ne_zero.2 upright
  constructor <;> field_simp

theorem angle_real (crank : CrankEnd ℝ) :
    crank.angle =
      (if crank.base - crank.y = 0 then SignType.sign (-crank.z) * (Real.pi / 2)
        else Real.arctan (-crank.z / (crank.base - crank.y))) +
      (if crank.base < crank.y then Real.pi else 0) := by
  rw [CrankEnd.angle, Scalar.less_real, Scalar.zero_real]
  simp only [decide_eq_true_eq]
  rfl

/-- The angle of a crank is the direction in which the crank points. -/
theorem cos_sin_angle {crank : CrankEnd ℝ} {radius : ℝ} (positive : 0 < radius)
    (circle : (crank.base - crank.y) ^ 2 + crank.z ^ 2 = radius ^ 2) :
    radius * Real.cos crank.angle = crank.base - crank.y ∧
      radius * Real.sin crank.angle = -crank.z := by
  have drop : (crank.base - crank.y) ^ 2 + (-crank.z) ^ 2 = radius ^ 2 := by
    rw [neg_sq, circle]
  rw [angle_real]
  rcases lt_trichotomy crank.base crank.y with inner | level | outer
  · have negative : crank.base - crank.y < 0 := sub_neg.2 inner
    obtain ⟨cos, sin⟩ := cos_sin_arctan negative.ne positive drop
    rw [abs_of_neg negative] at cos sin
    rw [if_neg negative.ne, if_pos inner, Real.cos_add_pi, Real.sin_add_pi, mul_neg, mul_neg, cos,
      sin]
    refine ⟨neg_neg _, ?_⟩
    rw [neg_mul, neg_neg, mul_div_cancel₀ _ negative.ne]
  · -- The crank is vertical, so the quotient has no value of its own.
    have vertical : crank.z ^ 2 = radius ^ 2 := by
      rw [← circle, level]
      ring
    rw [if_pos (sub_eq_zero.2 level), if_neg level.not_lt, add_zero, level, sub_self]
    rcases sq_eq_sq_iff_eq_or_eq_neg.1 vertical with above | below
    · rw [above, sign_neg (neg_neg_of_pos positive)]
      simp
    · rw [below, neg_neg, sign_pos positive]
      simp
  · have positiveReach : 0 < crank.base - crank.y := sub_pos.2 outer
    obtain ⟨cos, sin⟩ := cos_sin_arctan positiveReach.ne' positive drop
    rw [abs_of_pos positiveReach] at cos sin
    rw [if_neg positiveReach.ne', if_neg outer.not_gt, add_zero]
    refine ⟨cos, ?_⟩
    rw [sin, mul_div_cancel₀ _ positiveReach.ne']

/-! ### The limits -/

theorem withinLimits_real (parameters : Parameters ℝ) (angle : ℝ) :
    withinLimits parameters angle =
      if angle < parameters.maxNegativeAngle - 1 / 10 ^ 9 then .error .angleTooNegative
      else if parameters.maxPositiveAngle + 1 / 10 ^ 9 < angle then .error .angleTooPositive
      else .ok angle := by
  rw [withinLimits, limitSlack, Scalar.decimal_real, Nat.cast_one]
  simp only [Scalar.less_real, decide_eq_true_eq]

theorem withinLimits_of_mem_limits {parameters : Parameters ℝ} {angle : ℝ}
    (low : parameters.maxNegativeAngle ≤ angle) (high : angle ≤ parameters.maxPositiveAngle) :
    withinLimits parameters angle = .ok angle := by
  have slack : (0 : ℝ) < 1 / 10 ^ 9 := by positivity
  rw [withinLimits_real, if_neg, if_neg]
  · linarith
  · linarith

/-! ### The arms -/

/-- The angle of a crank end puts the virtual joint of its arm at one linkage length from the
effector. -/
theorem linkage_of_crankEnd {parameters : Parameters ℝ} {x0 y0 z0 : ℝ} {crank : CrankEnd ℝ}
    (positive : 0 < parameters.crank) (ended : crankEnd parameters x0 y0 z0 = .ok crank) :
    x0 ^ 2 + (y0 + (parameters.inset + parameters.crank * Real.cos crank.angle)) ^ 2 +
      (z0 + parameters.crank * Real.sin crank.angle) ^ 2 = parameters.linkage ^ 2 := by
  obtain ⟨base, circle, sphere⟩ := spheres_of_crankEnd ended
  obtain ⟨cos, sin⟩ := cos_sin_angle positive circle
  rw [cos, sin, base, Parameters.inset, sideDistance_sub, ← sphere]
  ring

theorem linkage_of_armAngle {parameters : Parameters ℝ} {x0 y0 z0 angle : ℝ}
    (positive : 0 < parameters.crank) (found : armAngle parameters x0 y0 z0 = .ok angle) :
    x0 ^ 2 + (y0 + (parameters.inset + parameters.crank * Real.cos angle)) ^ 2 +
      (z0 + parameters.crank * Real.sin angle) ^ 2 = parameters.linkage ^ 2 := by
  obtain ⟨crank, ended, within⟩ := armAngle_eq_ok_iff.1 found
  rw [(withinLimits_eq_ok_iff.1 within).1]
  exact linkage_of_crankEnd positive ended

theorem sin120_real : (sin120 : ℝ) = √3 / 2 := by
  change (Scalar.sqrtThree : ℝ) / Scalar.two = √3 / 2
  rw [Scalar.sqrtThree_real, Scalar.two_real]

theorem cos120_real : (cos120 : ℝ) = -(1 / 2) := by
  rw [cos120, Scalar.half_real]

end Inverse

open Inverse

theorem Point.rotateZ_arm0 (point : Point ℝ) : point.rotateZ (-Arm.arm0.bearing) = point := by
  simp [Point.rotateZ, Arm.bearing]

theorem Point.rotateZ_arm1 (point : Point ℝ) :
    point.rotateZ (-Arm.arm1.bearing) =
      ⟨point.x * cos120 + point.y * sin120, point.y * cos120 - point.x * sin120, point.z⟩ := by
  rw [sin120_real, cos120_real]
  simp only [Point.rotateZ, Arm.bearing, Real.cos_neg, Real.sin_neg, cos_bearing_third,
    sin_bearing_third, Point.mk.injEq, and_true]
  constructor <;> ring

theorem Point.rotateZ_arm2 (point : Point ℝ) :
    point.rotateZ (-Arm.arm2.bearing) =
      ⟨point.x * cos120 - point.y * sin120, point.y * cos120 + point.x * sin120, point.z⟩ := by
  rw [sin120_real, cos120_real]
  simp only [Point.rotateZ, Arm.bearing, neg_neg, cos_bearing_third, sin_bearing_third,
    Point.mk.injEq, and_true, true_and]
  exact add_comm _ _

/-- Each arm is solved for the point in the frame of the arm. -/
theorem inverse_eq_ok_iff_armAngle {parameters : Parameters ℝ} {point : Point ℝ}
    {angles : ArmAngles ℝ} :
    inverse parameters point = .ok angles ↔
      ∀ arm : Arm, armAngle parameters (point.rotateZ (-arm.bearing)).x
        (point.rotateZ (-arm.bearing)).y (point.rotateZ (-arm.bearing)).z =
          .ok (angles.of arm) := by
  rw [inverse_eq_ok_iff]
  constructor
  · rintro ⟨arm0, arm1, arm2⟩ arm
    cases arm with
    | arm0 =>
        rw [Point.rotateZ_arm0]
        exact arm0
    | arm1 =>
        rw [Point.rotateZ_arm1]
        exact arm1
    | arm2 =>
        rw [Point.rotateZ_arm2]
        exact arm2
  · intro solved
    have arm0 := solved .arm0
    have arm1 := solved .arm1
    have arm2 := solved .arm2
    rw [Point.rotateZ_arm0] at arm0
    rw [Point.rotateZ_arm1] at arm1
    rw [Point.rotateZ_arm2] at arm2
    exact ⟨arm0, arm1, arm2⟩

/-- The answered angles hold the effector at the point. -/
theorem reach_of_inverse {parameters : Parameters ℝ} (valid : parameters.validate = .ok ())
    {point : Point ℝ} {angles : ArmAngles ℝ} (found : inverse parameters point = .ok angles) :
    parameters.Reach angles point := by
  intro arm
  rw [Parameters.linkage_eq_iff (Parameters.linkage_pos valid)]
  exact linkage_of_armAngle (Parameters.crank_pos valid) (inverse_eq_ok_iff_armAngle.1 found arm)

end DeltaRobot
