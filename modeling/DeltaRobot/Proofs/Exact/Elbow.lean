import DeltaRobot.Proofs.Exact.Forward
import DeltaRobot.Proofs.Exact.Inverse

/-!
Contract: which crank angle the solver of one arm takes.

A crank holds the effector at the angles that bring its end to one linkage length from the effector
joint. Those crank ends are where a line that is not vertical meets the crank circle, so there are
at most two in a turn and no two reach equally far out. The solver answers with the one that
reaches furthest out, and it finds none only if there is none.

Owns: the angles that span the linkage of an arm, and the completeness of `armAngle` over them.
Does not own: the three arms together.
-/

namespace DeltaRobot

namespace Parameters

/-- The end of a crank, in the frame of its arm. -/
noncomputable def crankTip (parameters : Parameters ℝ) (angle : ℝ) : Point ℝ :=
  ⟨0, -sideDistance parameters.baseTriangle - parameters.crank * Real.cos angle,
    -(parameters.crank * Real.sin angle)⟩

/-- The joint on the side of the effector that an arm holds, in the frame of the arm. -/
noncomputable def effectorJoint (parameters : Parameters ℝ) (effector : Point ℝ) : Point ℝ :=
  ⟨effector.x, effector.y - sideDistance parameters.effectorTriangle, effector.z⟩

/-- With the crank at an angle, the linkage of an arm reaches the effector. -/
def Spans (parameters : Parameters ℝ) (effector : Point ℝ) (angle : ℝ) : Prop :=
  ((parameters.effectorJoint effector).displacementFrom (parameters.crankTip angle)).length =
    parameters.linkage

/-- An angle of one turn at which the linkage reaches. The turn starts with the crank upright. -/
structure IsCrankAngle (parameters : Parameters ℝ) (effector : Point ℝ) (angle : ℝ) : Prop where
  turn : angle ∈ Set.Ico (-(Real.pi / 2)) (3 * Real.pi / 2)
  spans : parameters.Spans effector angle

def crankAngles (parameters : Parameters ℝ) (effector : Point ℝ) : Set ℝ :=
  {angle | parameters.IsCrankAngle effector angle}

variable {parameters : Parameters ℝ} {effector : Point ℝ} {angle : ℝ}

theorem spans_iff (positive : 0 < parameters.linkage) :
    parameters.Spans effector angle ↔
      effector.x ^ 2 +
        (effector.y + (parameters.inset + parameters.crank * Real.cos angle)) ^ 2 +
        (effector.z + parameters.crank * Real.sin angle) ^ 2 = parameters.linkage ^ 2 := by
  rw [Spans, Displacement.length_eq_iff positive]
  apply Eq.congr_left
  simp only [effectorJoint, crankTip, Point.displacementFrom, inset, sideDistance_sub]
  ring

theorem circle_crankTip (parameters : Parameters ℝ) (angle : ℝ) :
    (-sideDistance parameters.baseTriangle - (parameters.crankTip angle).y) ^ 2 +
      (parameters.crankTip angle).z ^ 2 = parameters.crank ^ 2 := by
  simp only [crankTip]
  linear_combination parameters.crank ^ 2 * Real.sin_sq_add_cos_sq angle

theorem sphere_crankTip (positive : 0 < parameters.linkage)
    (spans : parameters.Spans effector angle) :
    effector.x ^ 2 + (effector.y - sideDistance parameters.effectorTriangle -
        (parameters.crankTip angle).y) ^ 2 +
      (effector.z - (parameters.crankTip angle).z) ^ 2 = parameters.linkage ^ 2 := by
  rw [Spans, Displacement.length_eq_iff positive] at spans
  simp only [effectorJoint, Point.displacementFrom] at spans
  rw [← spans]
  simp only [crankTip]
  ring

/-- All linkages reach a point if each of them does, in the frame of its own arm. -/
theorem reach_iff_spans (positive : 0 < parameters.linkage) (angles : ArmAngles ℝ)
    (point : Point ℝ) :
    parameters.Reach angles point ↔
      ∀ arm : Arm, parameters.Spans (point.rotateZ (-arm.bearing)) (angles.of arm) := by
  unfold Reach
  simp only [linkage_eq_iff positive, spans_iff positive]

/-- On the stubby machine the effector joint of a point of the Z axis is straight below or above
the base joint. -/
theorem stubby_spans_axis_iff {height : ℝ} :
    stubby.Spans ⟨0, 0, height⟩ angle ↔ height ^ 2 + 120 * height * Real.sin angle = 11 ^ 2 := by
  have unit := Real.sin_sq_add_cos_sq angle
  rw [spans_iff (linkage_pos stubby_valid), stubby_inset]
  simp only [stubby]
  constructor
  · intro sphere
    linear_combination sphere - 60 ^ 2 * unit
  · intro line
    linear_combination line + 60 ^ 2 * unit

end Parameters

namespace Inverse

/-! ### The outer point of a line on a circle -/

section

variable {centre radius height slope y : ℝ}

/-- The root that the solver takes is real wherever the line meets the circle. -/
theorem radicand_eq_sq_of_circle
    (circle : (centre - y) ^ 2 + (height + slope * y) ^ 2 = radius ^ 2) :
    radicand centre radius height slope =
      (centre - height * slope - y * (slope * slope + 1)) ^ 2 := by
  unfold radicand
  linear_combination -(slope ^ 2 + 1) * circle

theorem outerRoot_le_of_circle
    (circle : (centre - y) ^ 2 + (height + slope * y) ^ 2 = radius ^ 2) :
    outerRoot centre radius height slope ≤ y := by
  have positive : 0 < slope * slope + 1 :=
    add_pos_of_nonneg_of_pos (mul_self_nonneg slope) one_pos
  rw [outerRoot, div_le_iff₀ positive, radicand_eq_sq_of_circle circle, Real.sqrt_sq_eq_abs]
  have gap := le_abs_self (centre - height * slope - y * (slope * slope + 1))
  linarith

end

/-- Where the crank circle meets the linkage sphere, it meets the line. -/
theorem line_of_spheres {parameters : Parameters ℝ} {x0 y0 z0 y z : ℝ} (level : z0 ≠ 0)
    (circle : (-sideDistance parameters.baseTriangle - y) ^ 2 + z ^ 2 = parameters.crank ^ 2)
    (sphere : x0 ^ 2 + (y0 - sideDistance parameters.effectorTriangle - y) ^ 2 + (z0 - z) ^ 2 =
      parameters.linkage ^ 2) :
    z = lineHeight parameters x0 y0 z0 + lineSlope parameters y0 z0 * y := by
  have slope : lineSlope parameters y0 z0 * z0 = _ := div_mul_cancel₀ _ level
  have height : lineHeight parameters x0 y0 z0 * (2 * z0) = _ :=
    div_mul_cancel₀ _ (mul_ne_zero two_ne_zero level)
  apply mul_left_cancel₀ (mul_ne_zero two_ne_zero level)
  linear_combination circle - sphere - height - 2 * y * slope

/-! ### One turn of the crank -/

theorem eq_of_cos_sin {left right : ℝ}
    (leftTurn : left ∈ Set.Ico (-(Real.pi / 2)) (3 * Real.pi / 2))
    (rightTurn : right ∈ Set.Ico (-(Real.pi / 2)) (3 * Real.pi / 2))
    (cos : Real.cos left = Real.cos right) (sin : Real.sin left = Real.sin right) :
    left = right := by
  have together : Real.cos (left - right) = 1 := by
    rw [Real.cos_sub, cos, sin, ← sq, ← sq, Real.cos_sq_add_sin_sq]
  obtain ⟨leftLow, leftHigh⟩ := leftTurn
  obtain ⟨rightLow, rightHigh⟩ := rightTurn
  have same := (Real.cos_eq_one_iff_of_lt_of_lt (by linarith) (by linarith)).1 together
  exact sub_eq_zero.1 same

theorem angle_mem_turn (crank : CrankEnd ℝ) :
    crank.angle ∈ Set.Ico (-(Real.pi / 2)) (3 * Real.pi / 2) := by
  have turn := Real.pi_pos
  have low := Real.neg_pi_div_two_lt_arctan (-crank.z / (crank.base - crank.y))
  have high := Real.arctan_lt_pi_div_two (-crank.z / (crank.base - crank.y))
  rw [angle_real]
  rcases lt_trichotomy crank.base crank.y with inner | level | outer
  · rw [if_neg (sub_neg.2 inner).ne, if_pos inner]
    constructor <;> linarith
  · -- The quotient counts as an infinity, and the crank is upright or hangs.
    rw [if_pos (sub_eq_zero.2 level), if_neg level.not_lt, add_zero]
    rcases lt_trichotomy (-crank.z) 0 with up | flat | down
    · rw [sign_neg up, SignType.coe_neg_one]
      constructor <;> linarith
    · rw [flat, sign_zero, SignType.coe_zero]
      constructor <;> linarith
    · rw [sign_pos down, SignType.coe_one]
      constructor <;> linarith
  · rw [if_neg (sub_pos.2 outer).ne', if_neg outer.not_gt, add_zero]
    constructor <;> linarith

/-! ### The answer among the angles that span -/

section

variable {parameters : Parameters ℝ} {effector : Point ℝ}

theorem angle_mem_crankAngles (valid : parameters.validate = .ok ()) {crank : CrankEnd ℝ}
    (ended : crankEnd parameters effector.x effector.y effector.z = .ok crank) :
    crank.angle ∈ parameters.crankAngles effector := by
  refine ⟨angle_mem_turn crank, ?_⟩
  rw [Parameters.spans_iff (Parameters.linkage_pos valid)]
  exact linkage_of_crankEnd (Parameters.crank_pos valid) ended

/-- Wherever some angle spans the linkage the solver finds a crank end, and none reaches further
out. -/
theorem crankEnd_of_spans (valid : parameters.validate = .ok ()) (level : effector.z ≠ 0)
    {angle : ℝ} (spans : parameters.Spans effector angle) :
    ∃ crank, crankEnd parameters effector.x effector.y effector.z = .ok crank ∧
      Real.cos angle ≤ Real.cos crank.angle := by
  have circle := parameters.circle_crankTip angle
  have onLine := line_of_spheres level circle
    (Parameters.sphere_crankTip (Parameters.linkage_pos valid) spans)
  rw [onLine] at circle
  have real := (sq_nonneg _).trans_eq (radicand_eq_sq_of_circle circle).symm
  have ended := crankEnd_eq parameters effector.x effector.y level
  rw [if_pos real] at ended
  refine ⟨_, ended, ?_⟩
  obtain ⟨-, foundCircle, -⟩ := spheres_of_crankEnd ended
  have positive := Parameters.crank_pos valid
  apply le_of_mul_le_mul_left _ positive
  rw [(cos_sin_angle positive foundCircle).1]
  have outer := outerRoot_le_of_circle circle
  change _ ≤ -sideDistance parameters.baseTriangle - parameters.crank * Real.cos angle at outer
  linarith

/-- Of two angles that span the linkage one reaches further out. -/
theorem eq_of_mem_crankAngles (valid : parameters.validate = .ok ()) (level : effector.z ≠ 0)
    {left right : ℝ} (leftSpans : left ∈ parameters.crankAngles effector)
    (rightSpans : right ∈ parameters.crankAngles effector)
    (cos : Real.cos left = Real.cos right) : left = right := by
  have onLine {angle : ℝ} (spans : parameters.Spans effector angle) :=
    line_of_spheres level (parameters.circle_crankTip angle)
      (Parameters.sphere_crankTip (Parameters.linkage_pos valid) spans)
  have leftLine := onLine leftSpans.2
  have rightLine := onLine rightSpans.2
  simp only [Parameters.crankTip] at leftLine rightLine
  rw [cos, ← rightLine, neg_inj] at leftLine
  have sin := mul_left_cancel₀ (Parameters.crank_pos valid).ne' leftLine
  exact eq_of_cos_sin leftSpans.1 rightSpans.1 cos sin

theorem armAngle_of_crankEnd {crank : CrankEnd ℝ}
    (ended : crankEnd parameters effector.x effector.y effector.z = .ok crank) :
    armAngle parameters effector.x effector.y effector.z = withinLimits parameters crank.angle := by
  rw [armAngle, ended]

end

/-- The solver of one arm is sound and complete, and it takes the outer elbow: it fails with
`outOfRange` if no angle spans the linkage, and otherwise one angle reaches further out than all
others and is the answer, unless it is beyond a limit. -/
theorem armAngle_outermost (parameters : Parameters ℝ) (valid : parameters.validate = .ok ())
    (effector : Point ℝ) (level : effector.z ≠ 0) :
    (parameters.crankAngles effector = ∅ →
      armAngle parameters effector.x effector.y effector.z = .error .outOfRange) ∧
    ((parameters.crankAngles effector).Nonempty →
      ∃ outer ∈ parameters.crankAngles effector,
        (∀ other ∈ parameters.crankAngles effector, other ≠ outer →
          Real.cos other < Real.cos outer) ∧
        armAngle parameters effector.x effector.y effector.z =
          if outer < parameters.maxNegativeAngle - 1 / 10 ^ 9 then .error .angleTooNegative
          else if parameters.maxPositiveAngle + 1 / 10 ^ 9 < outer then .error .angleTooPositive
          else .ok outer) := by
  constructor
  · intro none
    cases ended : crankEnd parameters effector.x effector.y effector.z with
    | ok crank =>
        have spans := angle_mem_crankAngles valid ended
        rw [none] at spans
        exact absurd spans (Set.notMem_empty _)
    | error cause =>
        rw [crankEnd_eq _ _ _ level] at ended
        split_ifs at ended with real
        rw [armAngle, crankEnd_eq _ _ _ level, if_neg real]
  · rintro ⟨angle, -, spans⟩
    obtain ⟨crank, ended, -⟩ := crankEnd_of_spans valid level spans
    have outer := angle_mem_crankAngles valid ended
    refine ⟨crank.angle, outer, ?_, ?_⟩
    · intro other otherSpans distinct
      obtain ⟨found, foundEnd, reaches⟩ := crankEnd_of_spans valid level otherSpans.2
      have same : found = crank := Except.ok.inj (foundEnd.symm.trans ended)
      rw [same] at reaches
      apply lt_of_le_of_ne reaches
      intro sameReach
      exact distinct (eq_of_mem_crankAngles valid level otherSpans outer sameReach)
    · rw [armAngle_of_crankEnd ended, withinLimits_real]

/-- An effector straight below the base joint, at the full length of crank and linkage: the crank
can only hang, which is where its angle has no tangent. -/
theorem armAngle_stretched :
    Parameters.stubby.validate = .ok () ∧ (-121 : ℝ) ≠ 0 ∧
      armAngle .stubby 0 0 (-121) = .error .angleTooPositive := by
  have valid := Parameters.stubby_valid
  have level : (-121 : ℝ) ≠ 0 := by norm_num
  have hangs : Real.pi / 2 ∈ Parameters.stubby.crankAngles ⟨0, 0, -121⟩ := by
    refine ⟨⟨?_, ?_⟩, Parameters.stubby_spans_axis_iff.2 ?_⟩
    · linarith [Real.pi_pos]
    · linarith [Real.pi_pos]
    · rw [Real.sin_pi_div_two]
      norm_num
  obtain ⟨outer, spans, -, answer⟩ :=
    (armAngle_outermost .stubby valid ⟨0, 0, -121⟩ level).2 ⟨_, hangs⟩
  have sin : Real.sin outer = 1 := by linarith [Parameters.stubby_spans_axis_iff.1 spans.2]
  have cos : Real.cos outer = 0 := by simpa [sin] using Real.sin_sq_add_cos_sq outer
  have down : outer = Real.pi / 2 := by
    apply eq_of_cos_sin spans.1 hangs.1
    · rw [cos, Real.cos_pi_div_two]
    · rw [sin, Real.sin_pi_div_two]
  have threeHalves : 3 / 2 < Real.pi / 2 := by linarith [Real.pi_gt_three]
  refine ⟨valid, level, answer.trans ?_⟩
  rw [down, if_neg, if_pos]
  · change 13 / 10 + 1 / 10 ^ 9 < Real.pi / 2
    norm_num
    linarith
  · change ¬Real.pi / 2 < -(13 / 10) - 1 / 10 ^ 9
    norm_num
    linarith

end Inverse

end DeltaRobot
