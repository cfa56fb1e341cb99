import DeltaRobot.Proofs.Exact.Coherence
import DeltaRobot.Proofs.Exact.Elbow

/-!
Contract: when the inverse solver gives back the angles that a point was found from.

The forward solver does not ask how the arms are bent, so it also answers for poses that the inverse
solver never takes. An arm is folded if another angle of its crank holds the effector at the same
point and reaches further out. Within the limits the angles come back from every point off the plane
of the arm axes, exactly if no arm is folded.

Owns: folded arms, and the round trip from angles to a point and back.
Does not own: the other round trip, from a point to angles and back.
-/

namespace DeltaRobot

/-- Another angle of the crank holds the effector at the point and reaches further out. -/
def Parameters.Folded (parameters : Parameters ℝ) (angles : ArmAngles ℝ) (point : Point ℝ)
    (arm : Arm) : Prop :=
  ∃ other, parameters.Spans (point.rotateZ (-arm.bearing)) other ∧
    Real.cos (angles.of arm) < Real.cos other

namespace Inverse

variable {parameters : Parameters ℝ} {effector : Point ℝ} {angle : ℝ}

/-- Validated limits lie in the turn that the solver answers from. -/
theorem mem_turn_of_mem_limits (valid : parameters.validate = .ok ())
    (low : parameters.maxNegativeAngle ≤ angle) (high : angle ≤ parameters.maxPositiveAngle) :
    angle ∈ Set.Ico (-(Real.pi / 2)) (3 * Real.pi / 2) := by
  have negative := (Parameters.mem_range_of_validate valid .maxNegativeAngle).1
  have positive := (Parameters.mem_range_of_validate valid .maxPositiveAngle).2
  simp only [Parameter.low, Parameter.high, Parameters.get, Scalar.quarterTurn_real]
    at negative positive
  constructor <;> linarith [Real.pi_pos]

/-- An angle within the limits is the answer for an effector that it holds if none reaches further
out. -/
theorem armAngle_eq_ok_iff_of_spans (valid : parameters.validate = .ok ())
    (level : effector.z ≠ 0) (low : parameters.maxNegativeAngle ≤ angle)
    (high : angle ≤ parameters.maxPositiveAngle) (spans : parameters.Spans effector angle) :
    armAngle parameters effector.x effector.y effector.z = .ok angle ↔
      ∀ other, parameters.Spans effector other → Real.cos other ≤ Real.cos angle := by
  constructor
  · intro found other otherSpans
    obtain ⟨crank, ended, within⟩ := armAngle_eq_ok_iff.1 found
    obtain ⟨reached, reachedEnd, reaches⟩ := crankEnd_of_spans valid level otherSpans
    have same : reached = crank := Except.ok.inj (reachedEnd.symm.trans ended)
    rw [(withinLimits_eq_ok_iff.1 within).1, ← same]
    exact reaches
  · intro outermost
    obtain ⟨crank, ended, reaches⟩ := crankEnd_of_spans valid level spans
    have outer := angle_mem_crankAngles valid ended
    have same : crank.angle = angle := by
      apply eq_of_mem_crankAngles valid level outer
      · exact ⟨mem_turn_of_mem_limits valid low high, spans⟩
      · exact le_antisymm (outermost _ outer.2) reaches
    rw [armAngle_of_crankEnd ended, same, withinLimits_of_mem_limits low high]

end Inverse

/-- Angles within the limits come back from the point that the forward solver found for them
exactly if no arm is folded there. -/
theorem inverse_forward_iff (parameters : Parameters ℝ) (valid : parameters.validate = .ok ())
    (angles : ArmAngles ℝ)
    (within : ∀ arm, parameters.maxNegativeAngle ≤ angles.of arm ∧
      angles.of arm ≤ parameters.maxPositiveAngle)
    (point : Point ℝ) (found : forward parameters angles = .ok point) (level : point.z ≠ 0) :
    inverse parameters point = .ok angles ↔
      ∀ arm, ¬parameters.Folded angles point arm := by
  have positive := Parameters.linkage_pos valid
  have spans := (Parameters.reach_iff_spans positive angles point).1
    (reach_of_forward positive found)
  rw [inverse_eq_ok_iff_armAngle]
  apply forall_congr'
  intro arm
  obtain ⟨low, high⟩ := within arm
  have sameHeight : (point.rotateZ (-arm.bearing)).z ≠ 0 := level
  rw [Inverse.armAngle_eq_ok_iff_of_spans valid sameHeight low high (spans arm)]
  simp only [Parameters.Folded, not_exists, not_and, not_lt]

/-- No crank reaches further out than a horizontal one. -/
theorem inverse_forward_stubby :
    Parameters.stubby.validate = .ok () ∧
      (∀ arm, Parameters.stubby.maxNegativeAngle ≤ (ArmAngles.zero : ArmAngles ℝ).of arm ∧
        (ArmAngles.zero : ArmAngles ℝ).of arm ≤ Parameters.stubby.maxPositiveAngle) ∧
      forward .stubby .zero = .ok ⟨0, 0, -11⟩ ∧ (-11 : ℝ) ≠ 0 ∧
      inverse .stubby ⟨0, 0, -11⟩ = .ok .zero := by
  have valid := Parameters.stubby_valid
  have horizontal (arm : Arm) : (ArmAngles.zero : ArmAngles ℝ).of arm = 0 := by
    rw [ArmAngles.zero_eq_alike, ArmAngles.of_alike]
  have within (arm : Arm) :
      Parameters.stubby.maxNegativeAngle ≤ (ArmAngles.zero : ArmAngles ℝ).of arm ∧
        (ArmAngles.zero : ArmAngles ℝ).of arm ≤ Parameters.stubby.maxPositiveAngle := by
    rw [horizontal]
    norm_num [Parameters.stubby]
  have found := locate_stubby_zero
  rw [Machine.locate_eq_ok_iff] at found
  have level : (-11 : ℝ) ≠ 0 := by norm_num
  refine ⟨valid, within, found, level, ?_⟩
  refine (inverse_forward_iff .stubby valid .zero within ⟨0, 0, -11⟩ found level).2 ?_
  rintro arm ⟨other, -, further⟩
  rw [horizontal, Real.cos_zero] at further
  exact absurd (Real.cos_le_one other) (not_le.2 further)

/-! ### A folded pose -/

/-- The stubby machine with a wider effector, and linkages shorter than the cranks. -/
noncomputable def Parameters.wide : Parameters ℝ :=
  { stubby with
    crank := 50
    linkage := √1300
    effectorTriangle := stubby.baseTriangle + 120 * Scalar.sqrtThree }

theorem Parameters.wide_valid : wide.validate = .ok () := by
  apply wide.validate_eq_ok_iff.2
  have root : √3 ≤ 2 := Real.sqrt_le_iff.2 (by norm_num)
  have long : 20 ≤ √1300 := Real.le_sqrt_of_sq_le (by norm_num)
  have short : √1300 ≤ 500 := Real.sqrt_le_iff.2 (by norm_num)
  have wider : 0 ≤ 120 * √3 := by positivity
  intro parameter
  have stubbyAllows := stubby.validate_eq_ok_iff.1 stubby_valid parameter
  cases parameter
  case crank | linkage | effectorTriangle =>
    simp only [Parameter.allows, Scalar.inRange, get, wide, stubby, Parameter.low,
      Parameter.high, Scalar.lessEq_real, Scalar.ofNat_real, Scalar.sqrtThree_real,
      Bool.and_eq_true, decide_eq_true_eq]
    constructor <;> norm_num <;> linarith
  all_goals exact stubbyAllows

theorem Parameters.wide_inset : wide.inset = -60 := by
  rw [inset, sideDistance, Real.tan_pi_div_six]
  simp only [wide, Scalar.sqrtThree_real]
  field_simp
  ring

/-- At this height the cosine and the sine of a crank angle can change places. -/
theorem Parameters.wide_reach_iff {angle : ℝ} :
    wide.Reach (.alike angle) ⟨0, 0, -60⟩ ↔
      (-60 + 50 * Real.cos angle) ^ 2 + (-60 + 50 * Real.sin angle) ^ 2 = 1300 := by
  have square : √1300 ^ 2 = (1300 : ℝ) := Real.sq_sqrt (by norm_num)
  rw [reach_alike_iff (linkage_pos wide_valid), wide_inset]
  simp only [wide, square]

/-- The angle between the sides three and five of a right triangle. -/
theorem exists_angle_of_sides : ∃ angle ∈ Set.Icc (0 : ℝ) (13 / 10),
    Real.cos angle = 3 / 5 ∧ Real.sin angle = 4 / 5 := by
  refine ⟨Real.arccos (3 / 5), ⟨Real.arccos_nonneg _, ?_⟩, Real.cos_arccos ?_ ?_, ?_⟩
  · calc Real.arccos (3 / 5) ≤ Real.arccos (Real.cos (Real.pi / 3)) := by
          apply Real.arccos_le_arccos
          rw [Real.cos_pi_div_three]
          norm_num
      _ = Real.pi / 3 :=
          Real.arccos_cos (by positivity) (by linarith [Real.pi_pos])
      _ ≤ 13 / 10 := by linarith [Real.pi_lt_d2]
  · norm_num
  · norm_num
  · rw [Real.sin_arccos, Real.sqrt_eq_iff_mul_self_eq] <;> norm_num

/-- The forward solver also answers for cranks that are folded. -/
theorem exists_folded : ∃ parameters : Parameters ℝ, ∃ angles point,
    parameters.validate = .ok () ∧
      (∀ arm, parameters.maxNegativeAngle ≤ angles.of arm ∧
        angles.of arm ≤ parameters.maxPositiveAngle) ∧
      forward parameters angles = .ok point ∧ point.z ≠ 0 ∧
      ∀ arm, parameters.Folded angles point arm := by
  have positive := Parameters.linkage_pos Parameters.wide_valid
  obtain ⟨steep, ⟨low, high⟩, cos, sin⟩ := exists_angle_of_sides
  have reach : Parameters.wide.Reach (.alike steep) ⟨0, 0, -60⟩ := by
    rw [Parameters.wide_reach_iff, cos, sin]
    norm_num
  have reachFlat : Parameters.wide.Reach (.alike (Real.pi / 2 - steep)) ⟨0, 0, -60⟩ := by
    rw [Parameters.wide_reach_iff, Real.cos_pi_div_two_sub, Real.sin_pi_div_two_sub, cos, sin]
    norm_num
  have spread : ¬Parameters.wide.JointsCollinear (.alike steep) := by
    rw [Parameters.jointsCollinear_alike_iff, Parameters.wide_inset, cos]
    norm_num [Parameters.wide]
  refine ⟨.wide, .alike steep, ⟨0, 0, -60⟩, Parameters.wide_valid, ?_, ?_, ?_, ?_⟩
  · intro arm
    rw [ArmAngles.of_alike]
    refine ⟨le_trans ?_ low, high⟩
    norm_num [Parameters.wide, Parameters.stubby]
  · have touches := (Parameters.reach_iff_touches positive _).1 reach
    rw [forward_of_reach positive spread reach, Except.ok.injEq, eq_comm,
      Tripod.eq_lowPoint_iff ((Parameters.jointsCollinear_iff _ _).not.1 spread) touches,
      Parameters.height_alike _ _ _ spread, sin]
    norm_num [Parameters.wide]
  · norm_num
  · intro arm
    have spans := (Parameters.reach_iff_spans positive _ _).1 reachFlat arm
    rw [ArmAngles.of_alike] at spans
    refine ⟨_, spans, ?_⟩
    rw [ArmAngles.of_alike, Real.cos_pi_div_two_sub, cos, sin]
    norm_num

end DeltaRobot
