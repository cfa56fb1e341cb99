import DeltaRobot.Proofs.Parameters.Access
import Mathlib

/-!
Contract: the real numbers as the numbers of a delta robot.

At the reals every kinematic formula means what it says, without rounding, so what is proved of
them here is the geometry that the running program approximates.

Owns: the `Scalar ℝ` instance, the values of its constants, and what validated parameters are.
Does not own: any kinematic formula.
-/

namespace DeltaRobot

-- Arithmetic on reals is found as the field operations, not through the exact arithmetic below.
noncomputable instance (priority := high) realAdd : Add ℝ := Real.instAdd
noncomputable instance (priority := high) realSub : Sub ℝ := Real.instSub
noncomputable instance (priority := high) realMul : Mul ℝ := Real.instMul
noncomputable instance (priority := high) realDiv : Div ℝ := DivInvMonoid.toDiv
noncomputable instance (priority := high) realNeg : Neg ℝ := Real.instNeg

/-- The exact arithmetic. A nonzero number over zero counts as an infinity of its sign, whose arc
tangent is a quarter turn. -/
noncomputable instance realScalar : Scalar ℝ where
  ofNat value := value
  decimal significand places := significand / (10 ^ places : ℕ)
  sqrtThree := √(3 : ℕ)
  pi := Real.pi
  sqrt := Real.sqrt
  sin := Real.sin
  cos := Real.cos
  atanQuotient numerator denominator :=
    if denominator = 0 then SignType.sign numerator * (Real.pi / (2 : ℕ))
    else Real.arctan (numerator / denominator)
  less left right := decide (left < right)
  lessEq left right := decide (left ≤ right)
  equal left right := decide (left = right)
  ceilCount value := min ⌈value⌉₊ Scalar.maxCount

namespace Scalar

/-! ### Constants and operations at the reals -/

@[simp]
theorem zero_real : (zero : ℝ) = 0 := Nat.cast_zero

@[simp]
theorem one_real : (one : ℝ) = 1 := Nat.cast_one

@[simp]
theorem two_real : (two : ℝ) = 2 := Nat.cast_ofNat

@[simp]
theorem four_real : (four : ℝ) = 4 := Nat.cast_ofNat

@[simp]
theorem half_real : (half : ℝ) = 1 / 2 := by
  change ((5 : ℕ) : ℝ) / (10 ^ 1 : ℕ) = 1 / 2
  norm_num

@[simp]
theorem ofNat_real (value : Nat) : (ofNat value : ℝ) = value := rfl

@[simp]
theorem decimal_real (significand places : Nat) :
    (decimal significand places : ℝ) = significand / 10 ^ places := by
  change (significand : ℝ) / (10 ^ places : ℕ) = _
  push_cast
  rfl

@[simp]
theorem sqrtThree_real : (sqrtThree : ℝ) = √3 := by
  change √((3 : ℕ) : ℝ) = √3
  norm_num

@[simp]
theorem pi_real : (pi : ℝ) = Real.pi := rfl

@[simp]
theorem sqrt_real (value : ℝ) : sqrt value = √value := rfl

@[simp]
theorem sin_real (angle : ℝ) : sin angle = Real.sin angle := rfl

@[simp]
theorem cos_real (angle : ℝ) : cos angle = Real.cos angle := rfl

@[simp]
theorem less_real (left right : ℝ) : less left right = decide (left < right) := rfl

@[simp]
theorem lessEq_real (left right : ℝ) : lessEq left right = decide (left ≤ right) := rfl

@[simp]
theorem equal_real (left right : ℝ) : equal left right = decide (left = right) := rfl

@[simp]
theorem square_real (value : ℝ) : square value = value ^ 2 := (sq value).symm

@[simp]
theorem quarterTurn_real : (quarterTurn : ℝ) = Real.pi / 2 := by
  change Real.pi / (two : ℝ) = Real.pi / 2
  rw [two_real]

end Scalar

/-! ### Validated parameters -/

/-- At the reals a validated parameter lies between its bounds. -/
theorem Parameters.mem_range_of_validate {parameters : Parameters ℝ}
    (valid : parameters.validate = .ok ()) (parameter : Parameter) :
    parameter.low ≤ parameters.get parameter ∧ parameters.get parameter ≤ parameter.high := by
  have allowed := parameters.validate_eq_ok_iff.1 valid parameter
  simpa [Parameter.allows, Scalar.inRange] using allowed

theorem Parameters.crank_pos {parameters : Parameters ℝ}
    (valid : parameters.validate = .ok ()) : 0 < parameters.crank := by
  have low := (mem_range_of_validate valid .crank).1
  have fifty : (50 : ℝ) ≤ parameters.crank := by simpa [Parameter.low, get] using low
  linarith

theorem Parameters.linkage_pos {parameters : Parameters ℝ}
    (valid : parameters.validate = .ok ()) : 0 < parameters.linkage := by
  have low := (mem_range_of_validate valid .linkage).1
  have twenty : (20 : ℝ) ≤ parameters.linkage := by simpa [Parameter.low, get] using low
  linarith

end DeltaRobot
