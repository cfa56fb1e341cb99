import DeltaRobot.Kinematics.Forward
import DeltaRobot.Proofs.Exact.Scalar

/-!
Contract: the points at one distance from three centres, and the elimination that finds them.

Three spheres of one radius meet on the axis of their centres, the line of all points that are as
far from one centre as from the others. If the centres are not in line seen from above, the axis is
a graph over z, and the spheres cut it in the roots of one quadratic.

Owns: the elimination over the reals, its quadratic, the lower of the two common points, and the
plane of the centres in which the two are mirror images.
Does not own: where the centres come from.
-/

namespace DeltaRobot

/-- The scalar product. -/
noncomputable def Displacement.dot (left right : Displacement ℝ) : ℝ :=
  left.x * right.x + left.y * right.y + left.z * right.z

/-- The vector product. -/
noncomputable def Displacement.cross (left right : Displacement ℝ) : Displacement ℝ :=
  ⟨left.y * right.z - left.z * right.y, left.z * right.x - left.x * right.z,
    left.x * right.y - left.y * right.x⟩

/-- Three centres, the first of them in the plane of its own arm. -/
structure Tripod where
  first : Point ℝ
  second : Point ℝ
  third : Point ℝ
  first_x : first.x = 0

namespace Tripod

variable (tripod : Tripod)

/-- The point lies on the three spheres of a radius about the centres. -/
def Touches (radius : ℝ) (point : Point ℝ) : Prop :=
  ∀ centre ∈ [tripod.first, tripod.second, tripod.third],
    (point.x - centre.x) ^ 2 + (point.y - centre.y) ^ 2 + (point.z - centre.z) ^ 2 = radius ^ 2

/-! ### The elimination -/

/-- Vanishes for centres in line seen from above. -/
noncomputable def det : ℝ :=
  (tripod.second.y - tripod.first.y) * tripod.third.x -
    (tripod.third.y - tripod.first.y) * tripod.second.x

/-- How much further a centre is from the origin than the first one, in squares. -/
noncomputable def excess (centre : Point ℝ) : ℝ :=
  centre.x * centre.x + centre.y * centre.y + centre.z * centre.z -
    (tripod.first.y * tripod.first.y + tripod.first.z * tripod.first.z)

noncomputable def slopeX : ℝ :=
  (tripod.second.z - tripod.first.z) * (tripod.third.y - tripod.first.y) -
    (tripod.third.z - tripod.first.z) * (tripod.second.y - tripod.first.y)

noncomputable def shiftX : ℝ :=
  -(tripod.excess tripod.second * (tripod.third.y - tripod.first.y) -
    tripod.excess tripod.third * (tripod.second.y - tripod.first.y)) / Scalar.two

noncomputable def slopeY : ℝ :=
  -(tripod.second.z - tripod.first.z) * tripod.third.x +
    (tripod.third.z - tripod.first.z) * tripod.second.x

noncomputable def shiftY : ℝ :=
  (tripod.excess tripod.second * tripod.third.x -
    tripod.excess tripod.third * tripod.second.x) / Scalar.two

/-- The axis as a graph over z. -/
def OnAxis (point : Point ℝ) : Prop :=
  point.x * tripod.det = tripod.slopeX * point.z + tripod.shiftX ∧
    point.y * tripod.det = tripod.slopeY * point.z + tripod.shiftY

noncomputable def quadA : ℝ :=
  tripod.slopeX * tripod.slopeX + tripod.slopeY * tripod.slopeY + tripod.det * tripod.det

noncomputable def quadB : ℝ :=
  Scalar.two * (tripod.slopeX * tripod.shiftX +
    tripod.slopeY * (tripod.shiftY - tripod.first.y * tripod.det) -
      tripod.first.z * tripod.det * tripod.det)

noncomputable def quadC (radius : ℝ) : ℝ :=
  (tripod.shiftY - tripod.first.y * tripod.det) * (tripod.shiftY - tripod.first.y * tripod.det) +
    tripod.shiftX * tripod.shiftX +
    tripod.det * tripod.det * (tripod.first.z * tripod.first.z - radius * radius)

/-- The quadratic whose roots are the heights of the common points. -/
noncomputable def quadratic (radius height : ℝ) : ℝ :=
  tripod.quadA * (height * height) + tripod.quadB * height + tripod.quadC radius

variable {tripod}

theorem onAxis_of_touches {radius : ℝ} {point : Point ℝ}
    (touches : tripod.Touches radius point) : tripod.OnAxis point := by
  have first := touches tripod.first (by simp)
  have second := touches tripod.second (by simp)
  have third := touches tripod.third (by simp)
  rw [tripod.first_x] at first
  unfold OnAxis det slopeX shiftX slopeY shiftY excess
  rw [Scalar.two_real]
  constructor
  · linear_combination ((tripod.second.y - tripod.first.y) / 2) * (first - third) -
      ((tripod.third.y - tripod.first.y) / 2) * (first - second)
  · linear_combination (tripod.third.x / 2) * (first - second) -
      (tripod.second.x / 2) * (first - third)

/-- On the axis the first sphere is the quadratic. -/
theorem quadratic_of_onAxis {point : Point ℝ} (onAxis : tripod.OnAxis point) (radius : ℝ) :
    tripod.quadratic radius point.z =
      tripod.det ^ 2 * (point.x ^ 2 + (point.y - tripod.first.y) ^ 2 +
        (point.z - tripod.first.z) ^ 2 - radius ^ 2) := by
  obtain ⟨x, y⟩ := onAxis
  unfold quadratic quadA quadB quadC
  rw [Scalar.two_real]
  linear_combination
    -(point.x * tripod.det + tripod.slopeX * point.z + tripod.shiftX) * x -
    (point.y * tripod.det + tripod.slopeY * point.z + tripod.shiftY -
      2 * tripod.first.y * tripod.det) * y

theorem touches_iff {radius : ℝ} {point : Point ℝ} (spread : tripod.det ≠ 0) :
    tripod.Touches radius point ↔
      tripod.OnAxis point ∧ tripod.quadratic radius point.z = 0 := by
  constructor
  · intro touches
    have onAxis := onAxis_of_touches touches
    have first := touches tripod.first (by simp)
    rw [tripod.first_x, sub_zero] at first
    refine ⟨onAxis, ?_⟩
    rw [quadratic_of_onAxis onAxis, first, sub_self, mul_zero]
  · rintro ⟨onAxis, root⟩
    rw [quadratic_of_onAxis onAxis] at root
    have first := (mul_eq_zero.1 root).resolve_left (pow_ne_zero 2 spread)
    obtain ⟨x, y⟩ := onAxis
    have second : 2 * point.x * tripod.second.x +
        2 * point.y * (tripod.second.y - tripod.first.y) +
        2 * point.z * (tripod.second.z - tripod.first.z) -
        tripod.excess tripod.second = 0 := by
      refine (mul_eq_zero.1 ?_).resolve_left spread
      unfold det slopeX shiftX slopeY shiftY at *
      rw [Scalar.two_real] at x y
      linear_combination 2 * tripod.second.x * x +
        2 * (tripod.second.y - tripod.first.y) * y
    have third : 2 * point.x * tripod.third.x +
        2 * point.y * (tripod.third.y - tripod.first.y) +
        2 * point.z * (tripod.third.z - tripod.first.z) -
        tripod.excess tripod.third = 0 := by
      refine (mul_eq_zero.1 ?_).resolve_left spread
      unfold det slopeX shiftX slopeY shiftY at *
      rw [Scalar.two_real] at x y
      linear_combination 2 * tripod.third.x * x +
        2 * (tripod.third.y - tripod.first.y) * y
    unfold excess at second third
    intro centre member
    simp only [List.mem_cons, List.not_mem_nil, or_false] at member
    rcases member with rfl | rfl | rfl
    · rw [tripod.first_x]
      linear_combination first
    · linear_combination first - second
    · linear_combination first - third

/-! ### The lower root -/

variable (tripod) in
noncomputable def discriminant (radius : ℝ) : ℝ :=
  tripod.quadB * tripod.quadB - Scalar.four * tripod.quadA * tripod.quadC radius

variable (tripod) in
theorem discriminant_eq_discrim (radius : ℝ) :
    tripod.discriminant radius = discrim tripod.quadA tripod.quadB (tripod.quadC radius) := by
  rw [discriminant, discrim, sq, Scalar.four_real]

variable (tripod) in
/-- The height of the lower common point. -/
noncomputable def lowHeight (radius : ℝ) : ℝ :=
  -Scalar.half * (tripod.quadB + √(tripod.discriminant radius)) / tripod.quadA

variable (tripod) in
/-- The point of the axis at that height. -/
noncomputable def lowPoint (radius : ℝ) : Point ℝ :=
  ⟨(tripod.slopeX * tripod.lowHeight radius + tripod.shiftX) / tripod.det,
    (tripod.slopeY * tripod.lowHeight radius + tripod.shiftY) / tripod.det,
    tripod.lowHeight radius⟩

theorem quadA_pos (spread : tripod.det ≠ 0) : 0 < tripod.quadA := by
  exact add_pos_of_nonneg_of_pos (add_nonneg (mul_self_nonneg _) (mul_self_nonneg _))
    (mul_self_pos.2 spread)

/-- The two roots, the lower one first. -/
theorem quadratic_root_iff {radius : ℝ} (spread : tripod.det ≠ 0)
    (real : 0 ≤ tripod.discriminant radius) (height : ℝ) :
    tripod.quadratic radius height = 0 ↔
      height = tripod.lowHeight radius ∨
        height = tripod.lowHeight radius + √(tripod.discriminant radius) / tripod.quadA := by
  have square : discrim tripod.quadA tripod.quadB (tripod.quadC radius) =
      √(tripod.discriminant radius) * √(tripod.discriminant radius) := by
    rw [Real.mul_self_sqrt real, discriminant_eq_discrim]
  have positive := quadA_pos spread
  have low : (-tripod.quadB - √(tripod.discriminant radius)) / (2 * tripod.quadA) =
      tripod.lowHeight radius := by
    rw [lowHeight, Scalar.half_real]
    field_simp
    ring
  have high : (-tripod.quadB + √(tripod.discriminant radius)) / (2 * tripod.quadA) =
      tripod.lowHeight radius + √(tripod.discriminant radius) / tripod.quadA := by
    rw [lowHeight, Scalar.half_real]
    field_simp
    ring
  rw [quadratic, quadratic_eq_zero_iff positive.ne' square, low, high, or_comm]

theorem discriminant_nonneg {radius : ℝ} {point : Point ℝ} (spread : tripod.det ≠ 0)
    (touches : tripod.Touches radius point) : 0 ≤ tripod.discriminant radius := by
  have root := ((touches_iff spread).1 touches).2
  rw [discriminant_eq_discrim, discrim_eq_sq_of_quadratic_eq_zero root]
  exact sq_nonneg _

theorem lowHeight_le {radius : ℝ} {point : Point ℝ} (spread : tripod.det ≠ 0)
    (touches : tripod.Touches radius point) : tripod.lowHeight radius ≤ point.z := by
  have real := discriminant_nonneg spread touches
  have root := ((touches_iff spread).1 touches).2
  rcases (quadratic_root_iff spread real _).1 root with low | high
  · exact low.ge
  · have gap : 0 ≤ √(tripod.discriminant radius) / tripod.quadA :=
      div_nonneg (Real.sqrt_nonneg _) (quadA_pos spread).le
    linarith

theorem lowPoint_touches {radius : ℝ} (spread : tripod.det ≠ 0)
    (real : 0 ≤ tripod.discriminant radius) :
    tripod.Touches radius (tripod.lowPoint radius) := by
  refine (touches_iff spread).2 ⟨⟨?_, ?_⟩, ?_⟩
  · exact div_mul_cancel₀ _ spread
  · exact div_mul_cancel₀ _ spread
  · exact (quadratic_root_iff spread real _).2 (.inl rfl)

/-- The axis passes each height once. -/
theorem eq_of_onAxis {point other : Point ℝ} (spread : tripod.det ≠ 0)
    (onAxis : tripod.OnAxis point) (otherOnAxis : tripod.OnAxis other)
    (sameHeight : point.z = other.z) : point = other := by
  obtain ⟨x, y⟩ := onAxis
  obtain ⟨otherX, otherY⟩ := otherOnAxis
  rw [sameHeight] at x y
  have sameX : point.x = other.x := mul_right_cancel₀ spread (x.trans otherX.symm)
  have sameY : point.y = other.y := mul_right_cancel₀ spread (y.trans otherY.symm)
  cases point
  cases other
  simp_all

/-! ### What the solver answers -/

variable (tripod) in
/-- The solver, with the elimination it goes through by name. -/
theorem lowestMeeting_eq (radius : ℝ) :
    Forward.lowestMeeting radius tripod.first.y tripod.first.z tripod.second.x tripod.second.y
        tripod.second.z tripod.third.x tripod.third.y tripod.third.z =
      if tripod.det = 0 then .error .collinear
      else if 0 ≤ tripod.discriminant radius then .ok (tripod.lowPoint radius)
      else .error (.apart (tripod.discriminant radius)) := by
  change (if Scalar.equal tripod.det Scalar.zero then _
    else if Scalar.lessEq Scalar.zero (tripod.discriminant radius) then
      Except.ok (tripod.lowPoint radius)
    else _ : Except (ForwardFailure ℝ) (Point ℝ)) = _
  simp only [Scalar.equal_real, Scalar.lessEq_real, Scalar.zero_real, decide_eq_true_eq]
  rfl

/-! ### The plane of the centres -/

variable (tripod) in
/-- A direction at right angles to the plane through the centres. -/
noncomputable def normal : Displacement ℝ :=
  (tripod.second.displacementFrom tripod.first).cross
    (tripod.third.displacementFrom tripod.first)

variable (tripod) in
/-- How far a point is straight above the plane through the centres. -/
noncomputable def height (point : Point ℝ) : ℝ :=
  tripod.normal.dot (point.displacementFrom tripod.first) / tripod.normal.z

variable (tripod) in
/-- How far along the normal a point is moved to its image. -/
noncomputable def mirrorShift (point : Point ℝ) : ℝ :=
  -Scalar.two * tripod.normal.dot (point.displacementFrom tripod.first) /
    tripod.normal.dot tripod.normal

variable (tripod) in
/-- The image of a point in the plane through the centres. -/
noncomputable def mirror (point : Point ℝ) : Point ℝ :=
  point.translate (tripod.normal.scale (tripod.mirrorShift point))

variable (tripod) in
theorem normal_eq : tripod.normal = ⟨-tripod.slopeX, -tripod.slopeY, -tripod.det⟩ := by
  have x : tripod.normal.x = -tripod.slopeX := by
    change (tripod.second.y - tripod.first.y) * (tripod.third.z - tripod.first.z) -
      (tripod.second.z - tripod.first.z) * (tripod.third.y - tripod.first.y) = _
    unfold slopeX
    ring
  have y : tripod.normal.y = -tripod.slopeY := by
    change (tripod.second.z - tripod.first.z) * (tripod.third.x - tripod.first.x) -
      (tripod.second.x - tripod.first.x) * (tripod.third.z - tripod.first.z) = _
    rw [tripod.first_x]
    unfold slopeY
    ring
  have z : tripod.normal.z = -tripod.det := by
    change (tripod.second.x - tripod.first.x) * (tripod.third.y - tripod.first.y) -
      (tripod.second.y - tripod.first.y) * (tripod.third.x - tripod.first.x) = _
    rw [tripod.first_x]
    unfold det
    ring
  rw [← x, ← y, ← z]

theorem height_mul_det (point : Point ℝ) (spread : tripod.det ≠ 0) :
    tripod.height point * tripod.det =
      tripod.slopeX * point.x + tripod.slopeY * (point.y - tripod.first.y) +
        tripod.det * (point.z - tripod.first.z) := by
  have dot : tripod.normal.dot (point.displacementFrom tripod.first) =
      -(tripod.slopeX * point.x + tripod.slopeY * (point.y - tripod.first.y) +
        tripod.det * (point.z - tripod.first.z)) := by
    rw [normal_eq]
    change -tripod.slopeX * (point.x - tripod.first.x) +
      -tripod.slopeY * (point.y - tripod.first.y) +
      -tripod.det * (point.z - tripod.first.z) = _
    rw [tripod.first_x]
    ring
  rw [height, dot, normal_eq]
  field_simp

/-- The slope of the quadratic says on which side of the plane a point of the axis is. -/
theorem slope_eq_height {point : Point ℝ} (spread : tripod.det ≠ 0)
    (onAxis : tripod.OnAxis point) :
    2 * tripod.quadA * point.z + tripod.quadB =
      2 * tripod.det ^ 2 * tripod.height point := by
  obtain ⟨x, y⟩ := onAxis
  have height := height_mul_det point spread
  unfold quadA quadB
  rw [Scalar.two_real]
  linear_combination -2 * tripod.slopeX * x - 2 * tripod.slopeY * y - 2 * tripod.det * height

/-- Of the common points, the one that is not above the plane is the lower one. -/
theorem eq_lowPoint_iff {radius : ℝ} {point : Point ℝ} (spread : tripod.det ≠ 0)
    (touches : tripod.Touches radius point) :
    point = tripod.lowPoint radius ↔ tripod.height point ≤ 0 := by
  have onAxis := onAxis_of_touches touches
  have real := discriminant_nonneg spread touches
  have root := ((touches_iff spread).1 touches).2
  have slope := slope_eq_height spread onAxis
  have square : 0 < 2 * tripod.det ^ 2 := by positivity
  have lowSlope : 2 * tripod.quadA * tripod.lowHeight radius + tripod.quadB =
      -√(tripod.discriminant radius) := by
    have positive := quadA_pos spread
    rw [lowHeight, Scalar.half_real]
    field_simp
    ring
  constructor
  · intro isLow
    have sameHeight : point.z = tripod.lowHeight radius := congrArg Point.z isLow
    rw [sameHeight, lowSlope] at slope
    have below : 2 * tripod.det ^ 2 * tripod.height point ≤ 0 := by
      rw [← slope]
      exact neg_nonpos.2 (Real.sqrt_nonneg _)
    exact nonpos_of_mul_nonpos_right below square
  · intro below
    refine eq_of_onAxis spread onAxis
      (onAxis_of_touches (lowPoint_touches spread real)) ?_
    rcases (quadratic_root_iff spread real _).1 root with low | high
    · exact low
    · have positive := quadA_pos spread
      have highSlope : √(tripod.discriminant radius) =
          2 * tripod.det ^ 2 * tripod.height point := by
        rw [← slope, high]
        field_simp
        linarith
      have noGap : √(tripod.discriminant radius) = 0 :=
        le_antisymm (highSlope ▸ mul_nonpos_of_nonneg_of_nonpos square.le below)
          (Real.sqrt_nonneg _)
      rw [high, noGap, zero_div, add_zero]
      rfl

/-- The plane passes through the centres. -/
theorem normal_dot_centre {centre : Point ℝ}
    (member : centre ∈ [tripod.first, tripod.second, tripod.third]) :
    tripod.normal.dot (centre.displacementFrom tripod.first) = 0 := by
  simp only [List.mem_cons, List.not_mem_nil, or_false] at member
  rcases member with rfl | rfl | rfl <;>
    simp only [normal, Displacement.dot, Displacement.cross, Point.displacementFrom] <;>
    ring

variable (tripod) in
theorem normal_dot_normal : tripod.normal.dot tripod.normal = tripod.quadA := by
  rw [normal_eq, Displacement.dot, quadA]
  ring

theorem mirrorShift_mul (spread : tripod.det ≠ 0) (point : Point ℝ) :
    tripod.mirrorShift point * tripod.normal.dot tripod.normal =
      -2 * tripod.normal.dot (point.displacementFrom tripod.first) := by
  rw [← Scalar.two_real]
  refine div_mul_cancel₀ _ ?_
  rw [normal_dot_normal]
  exact (quadA_pos spread).ne'

variable (tripod) in
theorem mirror_eq (point : Point ℝ) :
    tripod.mirror point =
      ⟨point.x + tripod.normal.x * tripod.mirrorShift point,
        point.y + tripod.normal.y * tripod.mirrorShift point,
        point.z + tripod.normal.z * tripod.mirrorShift point⟩ :=
  rfl

/-- A point is as far from a centre as its image. -/
theorem mirror_touches {radius : ℝ} {point : Point ℝ} (spread : tripod.det ≠ 0)
    (touches : tripod.Touches radius point) : tripod.Touches radius (tripod.mirror point) := by
  intro centre member
  have sphere := touches centre member
  have inPlane := normal_dot_centre member
  have shift := mirrorShift_mul spread point
  rw [mirror_eq]
  simp only [Displacement.dot, Point.displacementFrom] at inPlane shift ⊢
  linear_combination sphere + tripod.mirrorShift point * shift -
    2 * tripod.mirrorShift point * inPlane

theorem height_mirror (spread : tripod.det ≠ 0) (point : Point ℝ) :
    tripod.height (tripod.mirror point) = -tripod.height point := by
  have shift := mirrorShift_mul spread point
  have opposite :
      tripod.normal.dot ((tripod.mirror point).displacementFrom tripod.first) =
        -tripod.normal.dot (point.displacementFrom tripod.first) := by
    rw [mirror_eq]
    simp only [Displacement.dot, Point.displacementFrom] at shift ⊢
    linear_combination shift
  rw [height, height, opposite, neg_div]

/-- Of the common points, the one above the plane is the image of the lower one. -/
theorem lowPoint_eq_mirror {radius : ℝ} {point : Point ℝ} (spread : tripod.det ≠ 0)
    (touches : tripod.Touches radius point) (above : 0 < tripod.height point) :
    tripod.lowPoint radius = tripod.mirror point := by
  refine ((eq_lowPoint_iff spread (mirror_touches spread touches)).2 ?_).symm
  rw [height_mirror spread]
  exact neg_nonpos.2 above.le

end Tripod

end DeltaRobot
