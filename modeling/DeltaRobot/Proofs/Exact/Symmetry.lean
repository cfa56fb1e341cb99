import DeltaRobot.Proofs.Exact.Forward
import DeltaRobot.Proofs.Exact.Inverse

/-!
Contract: the three arms are alike.

A turn by a third about the Z axis puts every arm in the place of the next one, and the reflection
in the plane of arm 0 swaps the two others. Seen from the arm that takes a place, a moved point is
where the point was for the arm that left it, except that a reflection changes sides, which no arm
can tell (`Symmetry.alongside_frame`). Both solvers reach a point through the frames of the arms
alone, so they answer the moved question with the moved answer.

Owns: the symmetries of the machine about its Z axis, and that the solvers respect them.
Does not own: what the solvers answer, and which of several failing arms gives the error.
-/

namespace DeltaRobot

/-! ### Points in the frames of the arms -/

namespace Point

theorem rotateZ_rotateZ (point : Point ℝ) (first second : ℝ) :
    (point.rotateZ first).rotateZ second = point.rotateZ (first + second) := by
  simp only [rotateZ, Real.cos_add, Real.sin_add, Point.mk.injEq, and_true]
  constructor <;> ring

@[simp]
theorem rotateZ_zero (point : Point ℝ) : point.rotateZ 0 = point := by
  simp [rotateZ]

theorem rotateZ_full_turn (point : Point ℝ) (turn : ℝ) :
    point.rotateZ (turn + 2 * Real.pi) = point.rotateZ turn := by
  simp only [rotateZ, Real.cos_add_two_pi, Real.sin_add_two_pi]

/-- The points are the same or images of each other in the plane `x = 0`. -/
structure Alongside (left right : Point ℝ) : Prop where
  side : left.x ^ 2 = right.x ^ 2
  y : left.y = right.y
  z : left.z = right.z

theorem Alongside.of_eq {left right : Point ℝ} (same : left = right) : left.Alongside right := by
  rw [same]
  exact ⟨rfl, rfl, rfl⟩

theorem Alongside.trans {left middle right : Point ℝ} (first : left.Alongside middle)
    (second : middle.Alongside right) : left.Alongside right :=
  ⟨first.side.trans second.side, first.y.trans second.y, first.z.trans second.z⟩

end Point

/-- An arm does not see on which side of its plane the effector is. -/
theorem Inverse.armAngle_alongside {parameters : Parameters ℝ} {left right : Point ℝ}
    (alongside : left.Alongside right) :
    armAngle parameters left.x left.y left.z = armAngle parameters right.x right.y right.z := by
  have ended : crankEnd parameters left.x left.y left.z =
      crankEnd parameters right.x right.y right.z := by
    rw [alongside.y, alongside.z]
    rcases eq_or_ne right.z 0 with level | level
    · rw [level, crankEnd_level, crankEnd_level]
    · have height : lineHeight parameters left.x right.y right.z =
          lineHeight parameters right.x right.y right.z := by
        rw [lineHeight, lineHeight, ← sq left.x, ← sq right.x, alongside.side]
      rw [crankEnd_eq _ _ _ level, crankEnd_eq _ _ _ level, height]
  rw [armAngle, armAngle, ended]

/-! ### The symmetries -/

/-- The products of turns by a third and of the reflection in the plane of arm 0. -/
inductive Symmetry where
  /-- By 120 degrees, from arm 0 to arm 1. -/
  | turn
  /-- By 120 degrees, from arm 0 to arm 2. -/
  | turnBack
  | reflection
  /-- One symmetry after another. -/
  | product (outer inner : Symmetry)
deriving DecidableEq, Repr

namespace Symmetry

/-- Where a symmetry puts a point. -/
noncomputable def move : Symmetry → Point ℝ → Point ℝ
  | turn, point => point.rotateZ (2 * Real.pi / 3)
  | turnBack, point => point.rotateZ (-(2 * Real.pi / 3))
  | reflection, point => ⟨-point.x, point.y, point.z⟩
  | product outer inner, point => outer.move (inner.move point)

@[simp]
theorem move_turn (point : Point ℝ) : turn.move point = point.rotateZ (2 * Real.pi / 3) := rfl

@[simp]
theorem move_turnBack (point : Point ℝ) :
    turnBack.move point = point.rotateZ (-(2 * Real.pi / 3)) := rfl

@[simp]
theorem move_reflection (point : Point ℝ) : reflection.move point = ⟨-point.x, point.y, point.z⟩ :=
  rfl

/-- The angles of the arms that take the places. -/
def permute {α : Type} : Symmetry → ArmAngles α → ArmAngles α
  | turn, angles => ⟨angles.arm2, angles.arm0, angles.arm1⟩
  | turnBack, angles => ⟨angles.arm1, angles.arm2, angles.arm0⟩
  | reflection, angles => ⟨angles.arm0, angles.arm2, angles.arm1⟩
  | product outer inner, angles => outer.permute (inner.permute angles)

/-- The place that an arm takes. -/
def place : Symmetry → Arm → Arm
  | turn, .arm0 => .arm1
  | turn, .arm1 => .arm2
  | turn, .arm2 => .arm0
  | turnBack, .arm0 => .arm2
  | turnBack, .arm1 => .arm0
  | turnBack, .arm2 => .arm1
  | reflection, .arm0 => .arm0
  | reflection, .arm1 => .arm2
  | reflection, .arm2 => .arm1
  | product outer inner, arm => outer.place (inner.place arm)

/-- An arm keeps its angle where it goes. -/
theorem of_permute {α : Type} (symmetry : Symmetry) (angles : ArmAngles α) (arm : Arm) :
    (symmetry.permute angles).of (symmetry.place arm) = angles.of arm := by
  induction symmetry generalizing angles arm with
  | product outer inner outerKeeps innerKeeps =>
      exact (outerKeeps _ _).trans (innerKeeps _ _)
  | _ => cases arm <;> rfl

/-- The symmetry that takes everything back. -/
def undo : Symmetry → Symmetry
  | turn => turnBack
  | turnBack => turn
  | reflection => reflection
  | product outer inner => product inner.undo outer.undo

theorem place_undo (symmetry : Symmetry) (arm : Arm) :
    symmetry.place (symmetry.undo.place arm) = arm := by
  induction symmetry generalizing arm with
  | product outer inner outerUndone innerUndone =>
      exact (congrArg outer.place (innerUndone _)).trans (outerUndone arm)
  | _ => cases arm <;> rfl

theorem move_undo (symmetry : Symmetry) (point : Point ℝ) :
    symmetry.move (symmetry.undo.move point) = point := by
  induction symmetry generalizing point with
  | turn => simp [undo, Point.rotateZ_rotateZ]
  | turnBack => simp [undo, Point.rotateZ_rotateZ]
  | reflection => simp [undo]
  | product outer inner outerUndone innerUndone =>
      exact (congrArg outer.move (innerUndone _)).trans (outerUndone point)

theorem place_surjective (symmetry : Symmetry) : Function.Surjective symmetry.place :=
  fun arm => ⟨_, symmetry.place_undo arm⟩

theorem move_surjective (symmetry : Symmetry) : Function.Surjective symmetry.move :=
  fun point => ⟨_, symmetry.move_undo point⟩

/-- The Z axis is the axis of every symmetry. -/
theorem move_z (symmetry : Symmetry) (point : Point ℝ) : (symmetry.move point).z = point.z := by
  induction symmetry generalizing point with
  | product outer inner outerKeeps innerKeeps => exact (outerKeeps _).trans (innerKeeps point)
  | _ => rfl

/-! ### What the arms see -/

/-- A turn takes each arm a third further, up to full turns. -/
private theorem rotateZ_bearing_turn (point : Point ℝ) (arm : Arm) :
    point.rotateZ (2 * Real.pi / 3 - (turn.place arm).bearing) = point.rotateZ (-arm.bearing) := by
  cases arm with
  | arm0 => simp [place, Arm.bearing]
  | arm1 =>
      rw [← point.rotateZ_full_turn (-_)]
      congr 1
      simp only [place, Arm.bearing]
      ring
  | arm2 => simp [place, Arm.bearing]

private theorem rotateZ_bearing_turnBack (point : Point ℝ) (arm : Arm) :
    point.rotateZ (-(2 * Real.pi / 3) - (turnBack.place arm).bearing) =
      point.rotateZ (-arm.bearing) := by
  cases arm with
  | arm0 => simp [place, Arm.bearing]
  | arm1 => simp [place, Arm.bearing]
  | arm2 =>
      rw [← point.rotateZ_full_turn (_ - _)]
      congr 1
      simp only [place, Arm.bearing]
      ring

private theorem bearing_reflection (arm : Arm) :
    (reflection.place arm).bearing = -arm.bearing := by
  cases arm <;> simp [place, Arm.bearing]

/-- Seen from the arm that takes a place, the moved point is where the point was for the arm that
went there, perhaps on the other side. -/
theorem alongside_frame (symmetry : Symmetry) (point : Point ℝ) (arm : Arm) :
    ((symmetry.move point).rotateZ (-(symmetry.place arm).bearing)).Alongside
      (point.rotateZ (-arm.bearing)) := by
  induction symmetry generalizing point arm with
  | turn =>
      refine .of_eq ?_
      rw [move_turn, Point.rotateZ_rotateZ, ← sub_eq_add_neg, rotateZ_bearing_turn]
  | turnBack =>
      refine .of_eq ?_
      rw [move_turnBack, Point.rotateZ_rotateZ, ← sub_eq_add_neg, rotateZ_bearing_turnBack]
  | reflection =>
      rw [bearing_reflection, neg_neg]
      simp only [move_reflection, Point.rotateZ, Real.cos_neg, Real.sin_neg]
      constructor <;> ring
  | product outer inner outerSees innerSees =>
      exact (outerSees _ _).trans (innerSees point arm)

end Symmetry

/-! ### The solvers -/

theorem forward_eq_ok_iff_touches {parameters : Parameters ℝ} {angles : ArmAngles ℝ}
    {point : Point ℝ} :
    forward parameters angles = .ok point ↔
      (parameters.tripod angles).det ≠ 0 ∧
      (parameters.tripod angles).Touches parameters.linkage point ∧
      ∀ other, (parameters.tripod angles).Touches parameters.linkage other →
        point.z ≤ other.z := by
  rw [forward_eq_ok_iff, parameters.jointsCollinear_iff]
  constructor
  · rintro ⟨spread, real, rfl⟩
    exact ⟨spread, Tripod.lowPoint_touches spread real, fun other => Tripod.lowHeight_le spread⟩
  · rintro ⟨spread, touches, lowest⟩
    have real := Tripod.discriminant_nonneg spread touches
    have lowTouches := Tripod.lowPoint_touches spread real
    refine ⟨spread, real, ?_⟩
    refine Tripod.eq_of_onAxis spread (Tripod.onAxis_of_touches lowTouches)
      (Tripod.onAxis_of_touches touches) ?_
    exact le_antisymm (Tripod.lowHeight_le spread touches) (lowest _ lowTouches)

namespace Symmetry

variable (symmetry : Symmetry) (parameters : Parameters ℝ) (angles : ArmAngles ℝ)
  (point : Point ℝ)

theorem inverse_move_iff :
    inverse parameters (symmetry.move point) = .ok (symmetry.permute angles) ↔
      inverse parameters point = .ok angles := by
  rw [inverse_eq_ok_iff_armAngle, inverse_eq_ok_iff_armAngle,
    symmetry.place_surjective.forall]
  refine forall_congr' (fun arm => ?_)
  rw [Inverse.armAngle_alongside (symmetry.alongside_frame point arm), symmetry.of_permute]

theorem touches_move_iff (radius : ℝ) :
    (parameters.tripod (symmetry.permute angles)).Touches radius (symmetry.move point) ↔
      (parameters.tripod angles).Touches radius point := by
  rw [Parameters.touches_tripod_iff, Parameters.touches_tripod_iff,
    symmetry.place_surjective.forall]
  refine forall_congr' (fun arm => ?_)
  obtain ⟨side, y, z⟩ := symmetry.alongside_frame point arm
  rw [Parameters.square_from_joint, Parameters.square_from_joint, side, y, z, symmetry.of_permute]

theorem det_permute :
    (parameters.tripod (symmetry.permute angles)).det = (parameters.tripod angles).det := by
  induction symmetry generalizing angles with
  | product outer inner outerKeeps innerKeeps => exact (outerKeeps _).trans (innerKeeps angles)
  | _ =>
      rw [Parameters.det_tripod_reach, Parameters.det_tripod_reach]
      simp only [permute]
      ring

theorem forward_permute_iff :
    forward parameters (symmetry.permute angles) = .ok (symmetry.move point) ↔
      forward parameters angles = .ok point := by
  rw [forward_eq_ok_iff_touches, forward_eq_ok_iff_touches, symmetry.det_permute,
    symmetry.touches_move_iff, symmetry.move_surjective.forall]
  simp only [symmetry.touches_move_iff, symmetry.move_z]

end Symmetry

/-- On the Z axis every arm sees the same, so all take one angle. -/
theorem inverse_axis_iff (parameters : Parameters ℝ) (height : ℝ) (angles : ArmAngles ℝ) :
    inverse parameters ⟨0, 0, height⟩ = .ok angles ↔
      ∃ angle, Inverse.armAngle parameters 0 0 height = .ok angle ∧ angles = .alike angle := by
  have frame (arm : Arm) : Point.rotateZ ⟨0, 0, height⟩ (-arm.bearing) = ⟨0, 0, height⟩ := by
    simp [Point.rotateZ]
  rw [inverse_eq_ok_iff_armAngle]
  simp only [frame]
  constructor
  · intro solved
    have same (arm : Arm) : angles.of arm = angles.arm0 :=
      Except.ok.inj ((solved arm).symm.trans (solved .arm0))
    refine ⟨angles.arm0, solved .arm0, ?_⟩
    obtain ⟨arm0, arm1, arm2⟩ := angles
    have second : arm1 = arm0 := same .arm1
    have third : arm2 = arm0 := same .arm2
    rw [second, third]
    rfl
  · rintro ⟨angle, solved, rfl⟩ arm
    rw [ArmAngles.of_alike]
    exact solved

/-- The three arms are treated alike. Whatever a product of turns by a third and of the reflection
does to a point, it does to the answered angles, and the other way round; on the Z axis all arms
take one angle. -/
theorem solvers_respect_symmetries (parameters : Parameters ℝ) :
    (∀ (symmetry : Symmetry) (point : Point ℝ) (angles : ArmAngles ℝ),
      inverse parameters (symmetry.move point) = .ok (symmetry.permute angles) ↔
        inverse parameters point = .ok angles) ∧
    (∀ (symmetry : Symmetry) (angles : ArmAngles ℝ) (point : Point ℝ),
      forward parameters (symmetry.permute angles) = .ok (symmetry.move point) ↔
        forward parameters angles = .ok point) ∧
    ∀ (height : ℝ) (angles : ArmAngles ℝ),
      inverse parameters ⟨0, 0, height⟩ = .ok angles ↔
        ∃ angle, Inverse.armAngle parameters 0 0 height = .ok angle ∧ angles = .alike angle :=
  ⟨fun symmetry point angles => symmetry.inverse_move_iff parameters angles point,
    fun symmetry angles point => symmetry.forward_permute_iff parameters angles point,
    inverse_axis_iff parameters⟩

end DeltaRobot
