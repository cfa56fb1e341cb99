import DeltaRobot.Kinematics.Inverse
import DeltaRobot.Scalar.Binary64

/-!
Contract: what the inverse solver answers, arm by arm, over any arithmetic.

The solver answers if all three arms do, each for the point as its own frame has it. An arm answers
the angle of its crank end, unless that angle compares as beyond a limit. An angle that compares
with nothing, such as one that is not a number, is beyond none. In binary64 arithmetic the answer
depends on the library in the arc tangents of the three crank ends, and in nothing else.

Owns: the arms and their frames, the inversion of an answer, and the limits on its angles.
Does not own: where the angles put the end effector.
-/

namespace DeltaRobot

open Inverse

/-- The arms, in the order of their angles. -/
inductive Arm where
  | arm0
  | arm1
  | arm2
deriving DecidableEq, Repr

def ArmAngles.of {α : Type} (angles : ArmAngles α) : Arm → α
  | .arm0 => angles.arm0
  | .arm1 => angles.arm1
  | .arm2 => angles.arm2

variable {α : Type} [Scalar α] {parameters : Parameters α}

/-- The angle does not compare as beyond either limit by more than the slack. -/
def Parameters.Permits (parameters : Parameters α) (angle : α) : Prop :=
  Scalar.less angle (parameters.maxNegativeAngle - limitSlack) = false ∧
    Scalar.less (parameters.maxPositiveAngle + limitSlack) angle = false

namespace Inverse

variable {x0 y0 z0 angle limited : α}

theorem withinLimits_eq_ok_iff :
    withinLimits parameters angle = .ok limited ↔
      limited = angle ∧ parameters.Permits angle := by
  rw [withinLimits, Parameters.Permits]
  cases Scalar.less angle (parameters.maxNegativeAngle - limitSlack) with
  | true => simp
  | false =>
      cases Scalar.less (parameters.maxPositiveAngle + limitSlack) angle with
      | true => simp
      | false => simp [eq_comm]

theorem armAngle_eq_ok_iff :
    armAngle parameters x0 y0 z0 = .ok angle ↔
      ∃ crank, crankEnd parameters x0 y0 z0 = .ok crank ∧
        withinLimits parameters crank.angle = .ok angle := by
  rw [armAngle]
  cases crankEnd parameters x0 y0 z0 with
  | error cause => simp
  | ok crank => simp

theorem permits_of_armAngle (found : armAngle parameters x0 y0 z0 = .ok angle) :
    parameters.Permits angle := by
  obtain ⟨crank, -, within⟩ := armAngle_eq_ok_iff.1 found
  obtain ⟨rfl, permits⟩ := withinLimits_eq_ok_iff.1 within
  exact permits

end Inverse

theorem inverse_eq_ok_iff {point : Point α} {angles : ArmAngles α} :
    inverse parameters point = .ok angles ↔
      armAngle parameters point.x point.y point.z = .ok angles.arm0 ∧
      armAngle parameters (point.x * cos120 + point.y * sin120)
        (point.y * cos120 - point.x * sin120) point.z = .ok angles.arm1 ∧
      armAngle parameters (point.x * cos120 - point.y * sin120)
        (point.y * cos120 + point.x * sin120) point.z = .ok angles.arm2 := by
  rw [inverse]
  cases armAngle parameters point.x point.y point.z with
  | error cause => simp [bind, Except.bind]
  | ok arm0 =>
      cases armAngle parameters (point.x * cos120 + point.y * sin120)
          (point.y * cos120 - point.x * sin120) point.z with
      | error cause => simp [bind, Except.bind]
      | ok arm1 =>
          cases armAngle parameters (point.x * cos120 - point.y * sin120)
              (point.y * cos120 + point.x * sin120) point.z with
          | error cause => simp [bind, Except.bind]
          | ok arm2 =>
              cases angles
              simp [bind, Except.bind, pure, Except.pure]

/-- No arm reaches the height of the arm axes. -/
theorem inverse_of_level {point : Point α} (level : Scalar.equal point.z Scalar.zero = true) :
    inverse parameters point = .error .outOfRange := by
  have unreached : armAngle parameters point.x point.y point.z = .error .outOfRange := by
    rw [armAngle, crankEnd]
    dsimp only
    rw [level]
    rfl
  rw [inverse, unreached]
  rfl

/-- A point as the frame of an arm has it, in the arithmetic of the solver. -/
def Inverse.armFrame (point : Point α) : Arm → Point α
  | .arm0 => point
  | .arm1 =>
      ⟨point.x * cos120 + point.y * sin120, point.y * cos120 - point.x * sin120, point.z⟩
  | .arm2 =>
      ⟨point.x * cos120 - point.y * sin120, point.y * cos120 + point.x * sin120, point.z⟩

/-- What an arm answers for a point. -/
def Inverse.armAnswer (parameters : Parameters α) (point : Point α) (arm : Arm) :
    Except KinematicError α :=
  armAngle parameters (armFrame point arm).x (armFrame point arm).y (armFrame point arm).z

theorem Inverse.inverse_eq_armAnswer (parameters : Parameters α) (point : Point α) :
    inverse parameters point = do
      return ⟨← armAnswer parameters point .arm0, ← armAnswer parameters point .arm1,
        ← armAnswer parameters point .arm2⟩ := rfl

theorem Inverse.inverse_eq_ok_iff_armFrame {point : Point α} {angles : ArmAngles α} :
    inverse parameters point = .ok angles ↔
      ∀ arm, armAngle parameters (armFrame point arm).x (armFrame point arm).y
        (armFrame point arm).z = .ok (angles.of arm) := by
  rw [inverse_eq_ok_iff]
  constructor
  · rintro ⟨arm0, arm1, arm2⟩ arm
    cases arm with
    | arm0 => exact arm0
    | arm1 => exact arm1
    | arm2 => exact arm2
  · intro solved
    exact ⟨solved .arm0, solved .arm1, solved .arm2⟩

/-- Each of the three angles passed the limits. -/
theorem permits_of_inverse {point : Point α} {angles : ArmAngles α}
    (found : inverse parameters point = .ok angles) :
    ∀ angle ∈ angles.toList, parameters.Permits angle := by
  obtain ⟨arm0, arm1, arm2⟩ := inverse_eq_ok_iff.1 found
  simp [ArmAngles.toList, permits_of_armAngle arm0, permits_of_armAngle arm1,
    permits_of_armAngle arm2]

/-! ### Other functions -/

/-- The number that the angle of a crank end is the arc tangent of. -/
def Inverse.CrankEnd.quotient (crank : CrankEnd Float) : Float :=
  -crank.z / (crank.base - crank.y)

section

variable {functions others : Transcendental} {parameters : Parameters Float}

theorem Inverse.armAngle_congr {x0 y0 z0 : Float}
    (agree : ∀ crank, @crankEnd Float (.binary64 others) parameters x0 y0 z0 = .ok crank →
      functions.arcTan crank.quotient = others.arcTan crank.quotient) :
    @armAngle Float (.binary64 functions) parameters x0 y0 z0 =
      @armAngle Float (.binary64 others) parameters x0 y0 z0 := by
  have sameEnd : @crankEnd Float (.binary64 functions) parameters x0 y0 z0 =
      @crankEnd Float (.binary64 others) parameters x0 y0 z0 := rfl
  unfold armAngle
  rw [sameEnd]
  cases reached : @crankEnd Float (.binary64 others) parameters x0 y0 z0 with
  | error cause => rfl
  | ok crank =>
      have sameAngle : @CrankEnd.angle Float (.binary64 functions) crank =
          @CrankEnd.angle Float (.binary64 others) crank :=
        congrArg (· + _) (agree crank reached)
      dsimp only
      rw [sameAngle]
      rfl

theorem inverse_congr {point : Point Float}
    (agree : ∀ arm crank,
      letI := Scalar.binary64 others
      crankEnd parameters (armFrame point arm).x (armFrame point arm).y (armFrame point arm).z =
        .ok crank → functions.arcTan crank.quotient = others.arcTan crank.quotient) :
    @inverse Float (.binary64 functions) parameters point =
      @inverse Float (.binary64 others) parameters point := by
  have same (arm : Arm) : @armAnswer Float (.binary64 functions) parameters point arm =
      @armAnswer Float (.binary64 others) parameters point arm :=
    armAngle_congr (agree arm)
  rw [@inverse_eq_armAnswer _ (.binary64 functions), same, same, same]
  rfl

/-- Where all arms have one quotient, as on the axis, a single arc tangent decides. -/
theorem inverse_congr_of_quotient (others : Transcendental) {point : Point Float}
    {quotient : Float}
    (alike : ∀ arm,
      letI := Scalar.binary64 others
      (crankEnd parameters (armFrame point arm).x (armFrame point arm).y
        (armFrame point arm).z).toOption.all (fun crank => crank.quotient = quotient) = true)
    (agree : functions.arcTan quotient = others.arcTan quotient) :
    @inverse Float (.binary64 functions) parameters point =
      @inverse Float (.binary64 others) parameters point := by
  refine inverse_congr (fun arm crank reached => ?_)
  have same := alike arm
  rw [reached] at same
  rw [show crank.quotient = quotient from of_decide_eq_true same]
  exact agree

end

end DeltaRobot
