import DeltaRobot.Motion.Route
import DeltaRobot.Proofs.Exact.Elbow

/-!
Contract: how far apart reachable points are, and how many steps a distance takes.

A crank and a linkage keep the effector joint of their arm near the joint of the crank, so two
points that the inverse solver accepts are never further apart than twice the two lengths. A step
count held within 64 bits is therefore the true one on every line between such points.

Owns: lengths of real displacements, the bound on the work space, and `segmentCount` at the reals.
Does not own: the waypoints of a line.
-/

namespace DeltaRobot

/-! ### Lengths -/

namespace Displacement

noncomputable def vector (displacement : Displacement ℝ) : EuclideanSpace ℝ (Fin 3) :=
  WithLp.toLp _ ![displacement.x, displacement.y, displacement.z]

theorem length_eq_norm (displacement : Displacement ℝ) :
    displacement.length = ‖displacement.vector‖ := by
  rw [EuclideanSpace.norm_eq, Fin.sum_univ_three, length, Scalar.sqrt_real]
  simp [vector]

theorem length_nonneg (displacement : Displacement ℝ) : 0 ≤ displacement.length :=
  Real.sqrt_nonneg _

theorem sq_length (displacement : Displacement ℝ) :
    displacement.length ^ 2 = displacement.x ^ 2 + displacement.y ^ 2 + displacement.z ^ 2 := by
  simp only [length, Scalar.sqrt_real, Scalar.square_real]
  exact Real.sq_sqrt (by positivity)

theorem length_scale (displacement : Displacement ℝ) {factor : ℝ} (positive : 0 ≤ factor) :
    (displacement.scale factor).length = displacement.length * factor := by
  have scaled : (displacement.scale factor).vector = factor • displacement.vector := by
    ext axis
    fin_cases axis <;> simp [vector, scale, mul_comm]
  rw [length_eq_norm, length_eq_norm, scaled, norm_smul, Real.norm_of_nonneg positive, mul_comm]

end Displacement

theorem Point.length_displacementFrom_le (target between start : Point ℝ) :
    (target.displacementFrom start).length ≤
      (target.displacementFrom between).length + (between.displacementFrom start).length := by
  have sum : (target.displacementFrom start).vector =
      (target.displacementFrom between).vector + (between.displacementFrom start).vector := by
    ext axis
    fin_cases axis <;> simp [Displacement.vector, displacementFrom]
  rw [Displacement.length_eq_norm, Displacement.length_eq_norm, Displacement.length_eq_norm, sum]
  exact norm_add_le _ _

theorem Point.length_displacementFrom_comm (target start : Point ℝ) :
    (target.displacementFrom start).length = (start.displacementFrom target).length := by
  have opposite : (target.displacementFrom start).vector =
      -(start.displacementFrom target).vector := by
    ext axis
    fin_cases axis <;> simp [Displacement.vector, displacementFrom]
  rw [Displacement.length_eq_norm, Displacement.length_eq_norm, opposite, norm_neg]

/-! ### The work space -/

section

variable {parameters : Parameters ℝ}

/-- The joint about which a crank turns, in the frame of its arm. -/
noncomputable def Parameters.pivot (parameters : Parameters ℝ) : Point ℝ :=
  ⟨0, -sideDistance parameters.baseTriangle, 0⟩

theorem Parameters.length_crankTip (positive : 0 < parameters.crank) (angle : ℝ) :
    ((parameters.crankTip angle).displacementFrom parameters.pivot).length =
      parameters.crank := by
  rw [Displacement.length_eq_iff positive]
  simp only [Point.displacementFrom, crankTip, pivot]
  linear_combination parameters.crank ^ 2 * Real.sin_sq_add_cos_sq angle

/-- Crank and linkage together bound how far the effector joint is from the pivot. -/
theorem Parameters.length_effectorJoint_le (valid : parameters.validate = .ok ())
    {effector : Point ℝ} {angle : ℝ} (spans : parameters.Spans effector angle) :
    ((parameters.effectorJoint effector).displacementFrom parameters.pivot).length ≤
      parameters.linkage + parameters.crank := by
  have path := Point.length_displacementFrom_le (parameters.effectorJoint effector)
    (parameters.crankTip angle) parameters.pivot
  rwa [length_crankTip (crank_pos valid), spans] at path

theorem spans_of_inverse (valid : parameters.validate = .ok ()) {point : Point ℝ}
    {angles : ArmAngles ℝ} (found : inverse parameters point = .ok angles) :
    parameters.Spans point angles.arm0 := by
  have spans := (Parameters.reach_iff_spans (Parameters.linkage_pos valid) angles point).1
    (reach_of_inverse valid found) .arm0
  rwa [Point.rotateZ_arm0] at spans

/-- Two points that the inverse solver accepts are at most twice crank and linkage apart. -/
theorem length_le_of_inverse (valid : parameters.validate = .ok ()) {start target : Point ℝ}
    {startAngles targetAngles : ArmAngles ℝ}
    (started : inverse parameters start = .ok startAngles)
    (reached : inverse parameters target = .ok targetAngles) :
    (target.displacementFrom start).length ≤ 2 * (parameters.linkage + parameters.crank) := by
  have fromTarget := Parameters.length_effectorJoint_le valid (spans_of_inverse valid reached)
  have fromStart := Parameters.length_effectorJoint_le valid (spans_of_inverse valid started)
  rw [Point.length_displacementFrom_comm] at fromStart
  have path := Point.length_displacementFrom_le (parameters.effectorJoint target) parameters.pivot
    (parameters.effectorJoint start)
  have shifted : (parameters.effectorJoint target).displacementFrom
      (parameters.effectorJoint start) = target.displacementFrom start := by
    simp [Parameters.effectorJoint, Point.displacementFrom]
  rw [shifted] at path
  linarith

theorem Parameter.pos_of_allows_segmentLength {longest : ℝ}
    (allowed : segmentLength.allows longest = true) : 0 < longest := by
  have low : (5 : ℝ) / 10 ^ 2 ≤ longest := by
    simp only [allows, Scalar.inRange, Parameter.low, Scalar.lessEq_real, Scalar.decimal_real,
      Bool.and_eq_true, decide_eq_true_eq] at allowed
    exact_mod_cast allowed.1
  linarith

theorem Parameters.segmentLength_pos (valid : parameters.validate = .ok ()) :
    0 < parameters.segmentLength :=
  Parameter.pos_of_allows_segmentLength
    ((Parameters.validate_eq_ok_iff parameters).1 valid .segmentLength)

/-- The ranges of the parameters keep twice crank and linkage within so many segments. -/
theorem Parameters.extent_le (valid : parameters.validate = .ok ()) :
    2 * (parameters.linkage + parameters.crank) ≤ 40000 * parameters.segmentLength := by
  have crank := (mem_range_of_validate valid .crank).2
  have linkage := (mem_range_of_validate valid .linkage).2
  have segmentLength := (mem_range_of_validate valid .segmentLength).1
  simp only [Parameter.low, Parameter.high, get, Scalar.ofNat_real, Scalar.decimal_real]
    at crank linkage segmentLength
  norm_num at crank linkage segmentLength
  linarith

/-- A line between accepted points takes no more steps than can be counted. -/
theorem length_le_maxCount_mul (valid : parameters.validate = .ok ()) {start target : Point ℝ}
    {startAngles targetAngles : ArmAngles ℝ}
    (started : inverse parameters start = .ok startAngles)
    (reached : inverse parameters target = .ok targetAngles) :
    (target.displacementFrom start).length ≤ Scalar.maxCount * parameters.segmentLength := by
  have segmentLength := Parameters.segmentLength_pos valid
  have many : (40000 : ℝ) ≤ Scalar.maxCount := by
    have counted : 40000 ≤ Scalar.maxCount := by decide
    exact_mod_cast counted
  calc (target.displacementFrom start).length
      ≤ 2 * (parameters.linkage + parameters.crank) := length_le_of_inverse valid started reached
    _ ≤ 40000 * parameters.segmentLength := Parameters.extent_le valid
    _ ≤ Scalar.maxCount * parameters.segmentLength := by gcongr

end

/-! ### Counting steps -/

/-- A distance is covered by as many steps as it is counted for, and by no fewer. -/
theorem segmentCount_le_iff {distance longest : ℝ} {count : ℕ} (positive : 0 < longest)
    (far : distance ≤ Scalar.maxCount * longest) (someStep : 1 ≤ count) :
    segmentCount distance longest ≤ count ↔ distance ≤ count * longest := by
  have counted : ⌈distance / longest⌉₊ ≤ Scalar.maxCount := by
    rwa [Nat.ceil_le, div_le_iff₀ positive]
  change max (min ⌈distance / longest⌉₊ Scalar.maxCount) 1 ≤ count ↔ _
  rw [min_eq_left counted, max_le_iff, and_iff_left someStep, Nat.ceil_le, div_le_iff₀ positive]

/-- If so many equal steps are counted as they are, so is each part of them. -/
theorem segmentCount_part {step longest : ℝ} {count part : ℕ} (positive : 0 < longest)
    (nonneg : 0 ≤ step) (far : step * count ≤ Scalar.maxCount * longest)
    (counted : segmentCount (step * count) longest = count) (someStep : 1 ≤ part)
    (within : part ≤ count) : segmentCount (step * part) longest = part := by
  have partLe : (part : ℝ) ≤ count := by exact_mod_cast within
  have partFar : step * part ≤ Scalar.maxCount * longest :=
    (mul_le_mul_of_nonneg_left partLe nonneg).trans far
  apply le_antisymm
  · rw [segmentCount_le_iff positive partFar someStep, mul_comm]
    have covered := (segmentCount_le_iff positive far (someStep.trans within)).1 counted.le
    have countPos : (0 : ℝ) < count := by exact_mod_cast someStep.trans within
    rw [mul_comm] at covered
    have short := le_of_mul_le_mul_left covered countPos
    gcongr
  · -- One step less would do for the part, so it would do for the whole.
    apply Nat.le_of_not_lt
    intro fewer
    obtain ⟨less, rfl⟩ : ∃ less, part = less + 1 := ⟨part - 1, by omega⟩
    obtain ⟨lessWhole, rfl⟩ : ∃ lessWhole, count = lessWhole + 1 := ⟨count - 1, by omega⟩
    have someLess : 1 ≤ less :=
      (segmentCount_pos _ _).trans_le (Nat.le_of_lt_succ fewer)
    have lessDoes := (segmentCount_le_iff positive partFar someLess).1 (Nat.le_of_lt_succ fewer)
    have wholeLess : 1 ≤ lessWhole := someLess.trans (Nat.le_of_succ_le_succ within)
    have wholeNeeds := mt (segmentCount_le_iff positive far wholeLess).2 (by omega)
    push_cast at lessDoes wholeNeeds partLe
    have lessNonneg : (0 : ℝ) ≤ less := Nat.cast_nonneg less
    nlinarith

end DeltaRobot
