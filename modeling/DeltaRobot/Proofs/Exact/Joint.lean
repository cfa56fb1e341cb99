import DeltaRobot.Kinematics.Forward
import DeltaRobot.Proofs.Exact.Scalar
import DeltaRobot.Proofs.Kinematics.Limits

/-!
Contract: where the linkages of a delta robot are centred.

Arm by arm the crank end is moved inward by the effector triangle, which gives the virtual joint:
the linkages hold the effector at one linkage length from all three of them. The joints are stated
here from the geometry, as turns about the Z axis, and `forward_eq_lowestMeeting` finds them in the
formulas of the forward solver.

Owns: the bearings of the arms, the virtual joints, and the points that all linkages reach.
Does not own: which of those points a solver takes.
-/

namespace DeltaRobot

/-- The direction in which an arm stands, as a turn from arm 0 about the Z axis. -/
noncomputable def Arm.bearing : Arm → ℝ
  | arm0 => 0
  | arm1 => 2 * Real.pi / 3
  | arm2 => -(2 * Real.pi / 3)

/-- A point turned about the Z axis. -/
noncomputable def Point.rotateZ (point : Point ℝ) (turn : ℝ) : Point ℝ :=
  ⟨point.x * Real.cos turn - point.y * Real.sin turn,
    point.x * Real.sin turn + point.y * Real.cos turn, point.z⟩

/-- How far the side of an equilateral triangle is from its middle. -/
noncomputable def sideDistance (side : ℝ) : ℝ := side * Real.tan (Real.pi / 6) / 2

theorem sideDistance_sub (left right : ℝ) :
    sideDistance (left - right) = sideDistance left - sideDistance right := by
  unfold sideDistance
  ring

namespace Parameters

/-- How far the base joints stand outside the effector joints. -/
noncomputable def inset (parameters : Parameters ℝ) : ℝ :=
  sideDistance (parameters.baseTriangle - parameters.effectorTriangle)

/-- The virtual joint of an arm. -/
noncomputable def joint (parameters : Parameters ℝ) (angles : ArmAngles ℝ) (arm : Arm) :
    Point ℝ :=
  Point.rotateZ
    ⟨0, -(parameters.inset + parameters.crank * Real.cos (angles.of arm)),
      -parameters.crank * Real.sin (angles.of arm)⟩
    arm.bearing

/-- All three linkages reach the point: it lies on the sphere of linkage radius about every virtual
joint. -/
def Reach (parameters : Parameters ℝ) (angles : ArmAngles ℝ) (point : Point ℝ) : Prop :=
  ∀ arm, (point.displacementFrom (parameters.joint angles arm)).length = parameters.linkage

/-- Seen from above, the virtual joints lie on one line. -/
def JointsCollinear (parameters : Parameters ℝ) (angles : ArmAngles ℝ) : Prop :=
  Collinear ℝ (Set.range (fun arm =>
    ((parameters.joint angles arm).x, (parameters.joint angles arm).y)))

end Parameters

theorem Displacement.length_eq_iff {radius : ℝ} (positive : 0 < radius)
    (displacement : Displacement ℝ) :
    displacement.length = radius ↔
      displacement.x ^ 2 + displacement.y ^ 2 + displacement.z ^ 2 = radius ^ 2 := by
  rw [length, Scalar.sqrt_real, Real.sqrt_eq_iff_mul_self_eq_of_pos positive, ← sq, eq_comm]
  simp only [Scalar.square_real]

/-- In the frame of an arm the joint is in the plane of the crank. -/
theorem Parameters.square_from_joint (parameters : Parameters ℝ) (angles : ArmAngles ℝ)
    (point : Point ℝ) (arm : Arm) :
    (point.x - (parameters.joint angles arm).x) ^ 2 +
        (point.y - (parameters.joint angles arm).y) ^ 2 +
        (point.z - (parameters.joint angles arm).z) ^ 2 =
      (point.rotateZ (-arm.bearing)).x ^ 2 +
        ((point.rotateZ (-arm.bearing)).y +
          (parameters.inset + parameters.crank * Real.cos (angles.of arm))) ^ 2 +
        ((point.rotateZ (-arm.bearing)).z +
          parameters.crank * Real.sin (angles.of arm)) ^ 2 := by
  simp only [joint, Point.rotateZ, Real.cos_neg, Real.sin_neg]
  linear_combination
    ((parameters.inset + parameters.crank * Real.cos (angles.of arm)) ^ 2 -
      point.x ^ 2 - point.y ^ 2) * Real.sin_sq_add_cos_sq arm.bearing

theorem Parameters.linkage_eq_iff {parameters : Parameters ℝ} (positive : 0 < parameters.linkage)
    (angles : ArmAngles ℝ) (point : Point ℝ) (arm : Arm) :
    (point.displacementFrom (parameters.joint angles arm)).length = parameters.linkage ↔
      (point.rotateZ (-arm.bearing)).x ^ 2 +
        ((point.rotateZ (-arm.bearing)).y +
          (parameters.inset + parameters.crank * Real.cos (angles.of arm))) ^ 2 +
        ((point.rotateZ (-arm.bearing)).z +
          parameters.crank * Real.sin (angles.of arm)) ^ 2 = parameters.linkage ^ 2 := by
  rw [Displacement.length_eq_iff positive, ← square_from_joint]
  rfl

/-! ### The joints in the formulas of the forward solver -/

theorem cos_bearing_third : Real.cos (2 * Real.pi / 3) = -(1 / 2) := by
  have sameAngle : 2 * Real.pi / 3 = Real.pi - Real.pi / 3 := by ring
  rw [sameAngle, Real.cos_pi_sub, Real.cos_pi_div_three]

theorem sin_bearing_third : Real.sin (2 * Real.pi / 3) = √3 / 2 := by
  have sameAngle : 2 * Real.pi / 3 = Real.pi - Real.pi / 3 := by ring
  rw [sameAngle, Real.sin_pi_sub, Real.sin_pi_div_three]

section

variable (parameters : Parameters ℝ) (angles : ArmAngles ℝ)

theorem Forward.inset_real : Forward.inset parameters = parameters.inset := by
  change (parameters.baseTriangle - parameters.effectorTriangle) *
    ((Scalar.one : ℝ) / Scalar.sqrtThree) / (Scalar.two : ℝ) = _
  rw [Scalar.one_real, Scalar.two_real, Scalar.sqrtThree_real, Parameters.inset, sideDistance,
    Real.tan_pi_div_six]

theorem Forward.reach_real (angle : ℝ) :
    Forward.reach parameters angle = parameters.inset + parameters.crank * Real.cos angle := by
  rw [← Forward.inset_real]
  rfl

theorem Forward.drop_real (angle : ℝ) :
    Forward.drop parameters angle = -parameters.crank * Real.sin angle :=
  rfl

theorem Parameters.joint_arm0 :
    parameters.joint angles .arm0 =
      ⟨0, -(Forward.reach parameters angles.arm0), Forward.drop parameters angles.arm0⟩ := by
  rw [Forward.reach_real, Forward.drop_real]
  simp [joint, Point.rotateZ, Arm.bearing, ArmAngles.of]

theorem Parameters.joint_arm1 :
    parameters.joint angles .arm1 =
      ⟨Forward.reach parameters angles.arm1 * (1 / 2) * √3,
        Forward.reach parameters angles.arm1 * (1 / 2), Forward.drop parameters angles.arm1⟩ := by
  rw [Forward.reach_real, Forward.drop_real]
  simp only [joint, Point.rotateZ, Arm.bearing, ArmAngles.of, cos_bearing_third, sin_bearing_third,
    Point.mk.injEq, and_true]
  constructor <;> ring

theorem Parameters.joint_arm2 :
    parameters.joint angles .arm2 =
      ⟨-(Forward.reach parameters angles.arm2 * (1 / 2)) * √3,
        Forward.reach parameters angles.arm2 * (1 / 2), Forward.drop parameters angles.arm2⟩ := by
  rw [Forward.reach_real, Forward.drop_real]
  simp only [joint, Point.rotateZ, Arm.bearing, ArmAngles.of, Real.cos_neg, Real.sin_neg,
    cos_bearing_third, sin_bearing_third, Point.mk.injEq, and_true]
  constructor <;> ring

/-- The forward solver meets spheres about the virtual joints. -/
theorem forward_eq_lowestMeeting :
    forward parameters angles =
      Forward.lowestMeeting parameters.linkage
        (parameters.joint angles .arm0).y (parameters.joint angles .arm0).z
        (parameters.joint angles .arm1).x (parameters.joint angles .arm1).y
        (parameters.joint angles .arm1).z
        (parameters.joint angles .arm2).x (parameters.joint angles .arm2).y
        (parameters.joint angles .arm2).z := by
  rw [parameters.joint_arm0, parameters.joint_arm1, parameters.joint_arm2, forward,
    Forward.sin30, Forward.tan60, Scalar.half_real, Scalar.sqrtThree_real]

end

/-! ### Arms alike -/

/-- All arms at one angle. -/
def ArmAngles.alike {α : Type} (angle : α) : ArmAngles α := ⟨angle, angle, angle⟩

@[simp]
theorem ArmAngles.of_alike {α : Type} (angle : α) (arm : Arm) :
    (alike angle).of arm = angle := by
  cases arm <;> rfl

theorem ArmAngles.zero_eq_alike : (zero : ArmAngles ℝ) = alike 0 := by
  rw [zero, Scalar.zero_real, alike]

/-- With all arms alike, a point of the Z axis is as far from one joint as from another. -/
theorem Parameters.reach_alike_iff {parameters : Parameters ℝ} (positive : 0 < parameters.linkage)
    (angle height : ℝ) :
    parameters.Reach (.alike angle) ⟨0, 0, height⟩ ↔
      (parameters.inset + parameters.crank * Real.cos angle) ^ 2 +
        (height + parameters.crank * Real.sin angle) ^ 2 = parameters.linkage ^ 2 := by
  have sphere (arm : Arm) := linkage_eq_iff positive (.alike angle) ⟨0, 0, height⟩ arm
  simp only [Point.rotateZ, ArmAngles.of_alike, zero_mul, sub_zero, add_zero, zero_add, zero_pow,
    ne_eq, OfNat.ofNat_ne_zero, not_false_eq_true] at sphere
  constructor
  · intro reach
    exact (sphere .arm0).1 (reach .arm0)
  · intro square arm
    exact (sphere arm).2 square

end DeltaRobot
