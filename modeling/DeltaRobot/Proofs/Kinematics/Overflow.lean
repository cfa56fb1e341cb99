import DeltaRobot.Proofs.Binary64.NotANumber
import DeltaRobot.Proofs.Binary64.Order
import DeltaRobot.Proofs.Exact.Joint
import DeltaRobot.Proofs.Kinematics.Limits

/-!
Contract: when an angle that the inverse solver accepts is not a number.

Of all that can overflow on the way to an angle only the discriminant is looked at, and infinity
passes. While it is finite, so are the crank end and its distance from the joint, since the slope
and the height of the line are small enough for the products that come after it. The angle is then
lost only where the crank end falls on the joint.

Owns: the exact condition for an accepted angle to be a number, and its limits in that case.
Does not own: which points make the discriminant overflow.
-/

namespace DeltaRobot

namespace Inverse

/-! ### The line of the crank end -/

section

variable {α : Type} [Scalar α]

open Scalar

/-- The joint of an arm, and the line on which its crank end lies. -/
structure ArmLine (α : Type) where
  base : α
  height : α
  slope : α

def armLine (parameters : Parameters α) (x0 y0 z0 : α) : ArmLine α :=
  let base := (-half) * tan30 * parameters.baseTriangle
  let y0 := y0 - half * tan30 * parameters.effectorTriangle
  { base
    height := (x0 * x0 + y0 * y0 + z0 * z0 + parameters.crank * parameters.crank -
      parameters.linkage * parameters.linkage - base * base) / (two * z0)
    slope := (base - y0) / z0 }

/-- What the solver takes the root of. -/
def ArmLine.discriminant (line : ArmLine α) (crank : α) : α :=
  (-(line.height + line.slope * line.base)) * (line.height + line.slope * line.base) +
    crank * (line.slope * line.slope * crank + crank)

def ArmLine.crankEnd (line : ArmLine α) (crank : α) : CrankEnd α :=
  let y := (line.base - line.height * line.slope - sqrt (line.discriminant crank)) /
    (line.slope * line.slope + one)
  { base := line.base, y, z := line.height + line.slope * y }

theorem crankEnd_eq_ok_iff {parameters : Parameters α} {x0 y0 z0 : α} {found : CrankEnd α} :
    crankEnd parameters x0 y0 z0 = .ok found ↔
      equal z0 zero = false ∧
        lessEq zero ((armLine parameters x0 y0 z0).discriminant parameters.crank) = true ∧
        (armLine parameters x0 y0 z0).crankEnd parameters.crank = found := by
  have computed : crankEnd parameters x0 y0 z0 =
      if equal z0 zero then .error .outOfRange
      else if lessEq zero ((armLine parameters x0 y0 z0).discriminant parameters.crank) then
        .ok ((armLine parameters x0 y0 z0).crankEnd parameters.crank)
      else .error .outOfRange := rfl
  rw [computed]
  cases equal z0 zero with
  | true => simp
  | false =>
      cases lessEq zero ((armLine parameters x0 y0 z0).discriminant parameters.crank) with
      | false => simp
      | true => simp

end

/-! ### A finite discriminant -/

open Binary64

section

variable {base height slope crank : Float}

/-- A steep line makes the discriminant overflow. -/
theorem slope_within (crankFinite : crank.isFinite = true) (crankLow : size 1 5 ≤ value crank)
    (finite : (crank * (slope * slope * crank + crank)).isFinite = true) :
    Within 1 507 slope := by
  obtain ⟨-, sumFinite⟩ := isFinite_of_mul finite
  obtain ⟨productFinite, -⟩ := isFinite_of_add sumFinite
  obtain ⟨squareFinite, -⟩ := isFinite_of_mul productFinite
  obtain ⟨slopeFinite, -⟩ := isFinite_of_mul squareFinite
  refine ⟨slopeFinite, ?_⟩
  by_contra steep
  have steep' : size 1 507 ≤ |value slope| := (not_le.1 steep).le
  have square : size 1 1014 ≤ value (slope * slope) := by
    apply (rounds_mul slopeFinite slopeFinite).le_value squareFinite (representable_size _ _)
    · calc size 1 1014 = size 1 507 * size 1 507 := by rw [size_mul]
        _ ≤ |value slope| * |value slope| :=
            mul_le_mul steep' steep' (size_pos _).le (abs_nonneg _)
        _ = value slope * value slope := abs_mul_abs_self _
    · norm_num
  have product : size 1 1019 ≤ value (slope * slope * crank) := by
    apply (rounds_mul squareFinite crankFinite).le_value productFinite (representable_size _ _)
    · calc size 1 1019 = size 1 1014 * size 1 5 := by rw [size_mul]
        _ ≤ value (slope * slope) * value crank :=
            mul_le_mul square crankLow (size_pos _).le ((size_pos _).le.trans square)
    · norm_num
  have sum : size 1 1019 ≤ value (slope * slope * crank + crank) := by
    apply (rounds_add productFinite crankFinite).le_value sumFinite (representable_size _ _)
    · exact le_add_of_le_of_nonneg product ((size_pos _).le.trans crankLow)
    · norm_num
  have whole := (rounds_mul crankFinite sumFinite).abs_lt finite
  have large : size 1 1024 ≤ |value crank * value (slope * slope * crank + crank)| := by
    calc size 1 1024 = size 1 5 * size 1 1019 := by rw [size_mul]
      _ ≤ value crank * value (slope * slope * crank + crank) :=
          mul_le_mul crankLow sum (size_pos _).le ((size_pos _).le.trans crankLow)
      _ ≤ _ := le_abs_self _
  exact absurd (large.trans_lt whole) (not_lt.2 overflow_lt_size.le)

theorem abs_value_lt_of_square {number : Float}
    (finite : (-number * number).isFinite = true) : |value number| < size 1 512 := by
  obtain ⟨-, numberFinite⟩ := isFinite_of_mul finite
  have square := (rounds_mul ((isFinite_neg number).trans numberFinite) numberFinite).abs_lt finite
  rw [value_neg, abs_mul, abs_neg] at square
  apply lt_of_mul_self_lt_mul_self₀ (size_pos _).le
  exact (square.trans overflow_lt_size).trans_eq (by rw [size_mul])

/-- Where the line rises to at the joint, the square does not overflow. -/
theorem height_within (baseWithin : Within 1 8 base) (slopeWithin : Within 1 507 slope)
    (finite : (-(height + slope * base) * (height + slope * base)).isFinite = true) :
    Within 9 512 height := by
  obtain ⟨-, sumFinite⟩ := isFinite_of_mul finite
  obtain ⟨heightFinite, riseFinite⟩ := isFinite_of_add sumFinite
  have rise : Within 1 515 (slope * base) :=
    slopeWithin.mul baseWithin (by norm_num) (by norm_num)
  have sum := abs_value_lt_of_square finite
  have rounds := rounds_add heightFinite riseFinite
  have representable : Representable (size 1 512) := representable_size (by norm_num) 512
  have exact : |value height + value (slope * base)| < size 1 512 := by
    by_contra large
    rcases le_abs.1 (not_lt.1 large) with above | below
    · have kept := rounds.le_value sumFinite representable above
      exact absurd ((le_abs_self _).trans_lt sum) (not_lt.2 kept)
    · have kept := rounds.value_le sumFinite representable.neg (le_neg_of_le_neg below)
      exact absurd ((neg_le_abs _).trans_lt sum) (not_lt.2 (le_neg_of_le_neg kept))
  refine ⟨heightFinite, ?_⟩
  calc |value height| = |value height + value (slope * base) - value (slope * base)| := by
        rw [add_sub_cancel_right]
    _ ≤ |value height + value (slope * base)| + |value (slope * base)| := abs_sub _ _
    _ ≤ size 1 512 + size 1 515 := add_le_add exact.le rise.bounded
    _ = size 9 512 := by
      rw [size_shift 1 512 3, size_add]
      rfl

/-- What the solver divides by is at least one, and at least the slope. -/
theorem divisor_bounds (slopeWithin : Within 1 507 slope) :
    (slope * slope + 1).isFinite = true ∧ size 1 0 ≤ value (slope * slope + 1) ∧
      |value slope| ≤ value (slope * slope + 1) := by
  have oneValue : value 1 = 1 := by decide +kernel
  have oneWithin : Within 1 0 1 := ⟨by decide +kernel, by decide +kernel⟩
  have square : Within 1 1014 (slope * slope) :=
    slopeWithin.mul slopeWithin (by norm_num) (by norm_num)
  have sum : Within 2 1014 (slope * slope + 1) :=
    square.add (oneWithin.mono le_rfl (by norm_num)) (by norm_num) (by norm_num)
  have squareRounds := rounds_mul slopeWithin.isFinite slopeWithin.isFinite
  have sumRounds := rounds_add square.isFinite oneWithin.isFinite
  rw [oneValue] at sumRounds
  have nonneg : 0 ≤ value (slope * slope) :=
    squareRounds.le_value square.isFinite representable_zero (mul_self_nonneg _)
  have one : 1 ≤ value (slope * slope + 1) :=
    sumRounds.le_value sum.isFinite (oneValue ▸ representable_value 1) (by linarith)
  refine ⟨sum.isFinite, size_one_zero.trans_le one, ?_⟩
  by_cases flat : |value slope| ≤ 1
  · exact flat.trans one
  · have steep : |value slope| ≤ value slope * value slope := by
      rw [← abs_mul_abs_self]
      exact le_mul_of_one_le_left (abs_nonneg _) (not_le.1 flat).le
    have kept := squareRounds.le_value square.isFinite (representable_value slope).abs steep
    exact sumRounds.le_value sum.isFinite (representable_value slope).abs (by linarith)

/-- The rise of the line to the crank end: the steeper the line, the closer the crank end. -/
theorem rise_within {numerator : Float} (slopeWithin : Within 1 507 slope)
    (numeratorWithin : Within 11 1019 numerator) :
    Within 22 1019 (slope * (numerator / (slope * slope + 1))) := by
  obtain ⟨finite, one, steepness⟩ := divisor_bounds slopeWithin
  by_cases flat : |value slope| ≤ 1
  · have slopeFlat : Within 1 0 slope := ⟨slopeWithin.isFinite, flat.trans size_one_zero.ge⟩
    have quotient : Within 11 1019 (numerator / (slope * slope + 1)) :=
      .div 0 numeratorWithin finite one (by norm_num) le_rfl
    have product := slopeFlat.mul quotient (by norm_num) (by norm_num)
    exact product.mono (by norm_num) (by norm_num)
  · obtain ⟨place, below, above⟩ := exists_nat_pow_near (not_le.1 flat).le one_lt_two
    have lower : size 1 place ≤ |value slope| := by
      rw [size, Nat.cast_one, one_mul]
      exact below
    have upper : Within 2 place slope := ⟨slopeWithin.isFinite, by
      rw [size, mul_comm, Nat.cast_ofNat, ← pow_succ]
      exact above.le⟩
    have inRange : place ≤ 507 := size_one_le_iff.1 (lower.trans slopeWithin.bounded)
    have quotient : Within 11 (1019 - place) (numerator / (slope * slope + 1)) := by
      apply Within.div place _ finite (lower.trans steepness) (by norm_num) (by omega)
      rwa [Nat.sub_add_cancel (by omega)]
    have product := upper.mul quotient (by norm_num) (by omega)
    rwa [Nat.add_sub_cancel' (by omega)] at product

/-- While the discriminant is finite, so is all that comes after it. -/
theorem crankEnd_isFinite (functions : Transcendental) {line : ArmLine Float} {crank : Float}
    (baseWithin : Within 1 8 line.base) (crankFinite : crank.isFinite = true)
    (crankLow : size 1 5 ≤ value crank) :
    letI := Scalar.binary64 functions
    (line.discriminant crank).isFinite = true → 0 ≤ value (line.discriminant crank) →
      (line.crankEnd crank).y.isFinite = true ∧ (line.crankEnd crank).z.isFinite = true ∧
        (line.base - (line.crankEnd crank).y).isFinite = true := by
  let := Scalar.binary64 functions
  intro finite nonneg
  obtain ⟨squareFinite, productFinite⟩ := isFinite_of_add finite
  have slopeWithin := slope_within crankFinite crankLow productFinite
  have heightWithin := height_within baseWithin slopeWithin squareFinite
  have root : Within 1 512 (line.discriminant crank).sqrt := by
    apply Within.sqrt finite nonneg (by norm_num)
    rw [size_mul]
    exact (lt_of_abs_lt (abs_value_lt _)).trans overflow_lt_size
  have product : Within 9 1019 (line.height * line.slope) :=
    heightWithin.mul slopeWithin (by norm_num) (by norm_num)
  have difference : Within 10 1019 (line.base - line.height * line.slope) :=
    (baseWithin.mono le_rfl (by norm_num)).sub product (by norm_num) le_rfl
  have numerator : Within 11 1019
      (line.base - line.height * line.slope - (line.discriminant crank).sqrt) :=
    difference.sub (root.mono le_rfl (by norm_num)) (by norm_num) le_rfl
  have rise := rise_within slopeWithin numerator
  obtain ⟨divisorFinite, one, -⟩ := divisor_bounds slopeWithin
  have outer : Within 11 1019 (line.crankEnd crank).y :=
    .div 0 numerator divisorFinite one (by norm_num) le_rfl
  have lifted : Within 31 1019 (line.crankEnd crank).z :=
    (heightWithin.mono le_rfl (by norm_num)).add rise (by norm_num) le_rfl
  have offset : Within 12 1019 (line.base - (line.crankEnd crank).y) :=
    (baseWithin.mono le_rfl (by norm_num)).sub outer (by norm_num) le_rfl
  exact ⟨outer.isFinite, lifted.isFinite, offset.isFinite⟩

/-- Nothing that comes after a discriminant is finite unless that is. -/
theorem discriminant_isFinite (functions : Transcendental) (line : ArmLine Float)
    (crank : Float) :
    letI := Scalar.binary64 functions
    (line.crankEnd crank).z.isFinite = true ∨
        (line.base - (line.crankEnd crank).y).isFinite = true →
      (line.discriminant crank).isFinite = true := by
  let := Scalar.binary64 functions
  intro finite
  have outer : (line.crankEnd crank).y.isFinite = true := by
    rcases finite with endFinite | offsetFinite
    · exact (isFinite_of_mul (isFinite_of_add endFinite).2).2
    · exact (isFinite_of_sub offsetFinite).2
  exact isFinite_of_sqrt (isFinite_of_sub (isFinite_of_div outer)).2

end

end Inverse

/-! ### Validated parameters -/

section

open Binary64

variable {functions : Transcendental} {parameters : Parameters Float}

theorem Parameters.between_of_validate (parameter : Parameter) :
    letI := Scalar.binary64 functions
    parameters.validate = .ok () →
      parameter.low ≤ parameters.get parameter ∧ parameters.get parameter ≤ parameter.high := by
  let := Scalar.binary64 functions
  intro valid
  have allowed := parameters.validate_eq_ok_iff.1 valid parameter
  rw [Parameter.allows, Scalar.inRange, Bool.and_eq_true] at allowed
  exact ⟨of_decide_eq_true allowed.1, of_decide_eq_true allowed.2⟩

theorem Parameters.crank_large :
    letI := Scalar.binary64 functions
    parameters.validate = .ok () →
      parameters.crank.isFinite = true ∧ size 1 5 ≤ value parameters.crank := by
  let := Scalar.binary64 functions
  intro valid
  have lowFinite : (Float.ofNat 50).isFinite = true := by decide +kernel
  have highFinite : (Float.ofNat 500).isFinite = true := by decide +kernel
  have lowValue : size 1 5 ≤ value (Float.ofNat 50) := by decide +kernel
  obtain ⟨above, below⟩ := between_of_validate .crank valid
  have finite := isFinite_of_between lowFinite highFinite above below
  exact ⟨finite, lowValue.trans ((le_iff lowFinite finite).1 above)⟩

/-- The arm axes are close enough to the machine's axis for a steep line to stay bounded. -/
theorem Inverse.base_within (x0 y0 z0 : Float) :
    letI := Scalar.binary64 functions
    parameters.validate = .ok () → Within 1 8 (armLine parameters x0 y0 z0).base := by
  let := Scalar.binary64 functions
  intro valid
  have lowWithin : Within 500 0 (Float.ofNat 20) := ⟨by decide +kernel, by decide +kernel⟩
  have highWithin : Within 500 0 (Float.ofNat 500) := ⟨by decide +kernel, by decide +kernel⟩
  obtain ⟨above, below⟩ := Parameters.between_of_validate .baseTriangle valid
  have side : Within 500 0 parameters.baseTriangle := .of_between lowWithin highWithin above below
  have factorFinite : (-(Float.ofScientific 5 true 1) *
      (Float.ofNat 1 / 1.7320508075688772)).isFinite = true := by decide +kernel
  have factorSmall : |value (-(Float.ofScientific 5 true 1) *
      (Float.ofNat 1 / 1.7320508075688772))| ≤ 1 / 2 := by decide +kernel
  have bound : 1 / 2 * size 500 0 ≤ size 1 8 := by decide +kernel
  apply (rounds_mul factorFinite side.isFinite).within _ (by norm_num) (by norm_num)
  rw [abs_mul]
  exact (mul_le_mul factorSmall side.bounded (abs_nonneg _) (by norm_num)).trans bound

/-- The limits with their slack are numbers that an angle can be compared with. -/
theorem Parameters.limits_isFinite :
    letI := Scalar.binary64 functions
    parameters.validate = .ok () →
      (parameters.maxNegativeAngle - Inverse.limitSlack).isFinite = true ∧
        (parameters.maxPositiveAngle + Inverse.limitSlack).isFinite = true := by
  let := Scalar.binary64 functions
  intro valid
  have slack : Within 2 0 (Float.ofScientific 1 true 9) := ⟨by decide +kernel, by decide +kernel⟩
  have level : Within 2 0 (Float.ofNat 0) := ⟨by decide +kernel, by decide +kernel⟩
  have quarter : Within 2 0 ((3.141592653589793 : Float) / Float.ofNat 2) :=
    ⟨by decide +kernel, by decide +kernel⟩
  have negativeQuarter : Within 2 0 (-((3.141592653589793 : Float) / Float.ofNat 2)) :=
    ⟨by decide +kernel, by decide +kernel⟩
  obtain ⟨negativeAbove, negativeBelow⟩ := between_of_validate .maxNegativeAngle valid
  obtain ⟨positiveAbove, positiveBelow⟩ := between_of_validate .maxPositiveAngle valid
  have negative : Within 2 0 parameters.maxNegativeAngle :=
    .of_between negativeQuarter level negativeAbove negativeBelow
  have positive : Within 2 0 parameters.maxPositiveAngle :=
    .of_between level quarter positiveAbove positiveBelow
  exact ⟨(negative.sub slack (by norm_num) (by norm_num)).isFinite,
    (positive.add slack (by norm_num) (by norm_num)).isFinite⟩

end

/-! ### The angle -/

/-- What is documented of an arc tangent: for a number it lies within a quarter turn, and for what
is not a number it is not one either. -/
structure Transcendental.ArcTanInRange (functions : Transcendental) : Prop where
  notANumber : ∀ quotient : Float, quotient.isNaN = true →
    (functions.arcTan quotient).isNaN = true
  inRange : ∀ quotient : Float, quotient.isNaN = false →
    -1.5707963267948966 ≤ functions.arcTan quotient ∧
      functions.arcTan quotient ≤ 1.5707963267948966

section

open Binary64

variable {functions : Transcendental}

/-- An angle is as finite as the quotient that it is the arc tangent of is a number. -/
theorem Inverse.CrankEnd.angle_isNaN_iff (arcTan : functions.ArcTanInRange)
    (crank : CrankEnd Float) :
    letI := Scalar.binary64 functions
    (crank.angle.isNaN = true ↔ (-crank.z / (crank.base - crank.y)).isNaN = true) ∧
      (crank.angle.isNaN = false → crank.angle.isFinite = true) := by
  let := Scalar.binary64 functions
  have sum : crank.angle = functions.arcTan (-crank.z / (crank.base - crank.y)) +
      if decide (crank.base < crank.y) then 3.141592653589793 else Float.ofNat 0 := rfl
  rw [sum]
  by_cases quotient : (-crank.z / (crank.base - crank.y)).isNaN = true
  · have lost := isNaN_add (arcTan.notANumber _ quotient)
      (if decide (crank.base < crank.y) then 3.141592653589793 else Float.ofNat 0)
    rw [lost]
    exact ⟨iff_of_true rfl quotient, nofun⟩
  · rw [Bool.not_eq_true] at quotient
    obtain ⟨above, below⟩ := arcTan.inRange _ quotient
    have low : Within 2 0 (-1.5707963267948966) := ⟨by decide +kernel, by decide +kernel⟩
    have high : Within 2 0 1.5707963267948966 := ⟨by decide +kernel, by decide +kernel⟩
    have turn : Within 2 0 (functions.arcTan (-crank.z / (crank.base - crank.y))) :=
      .of_between low high above below
    have half : Within 4 0 3.141592653589793 := ⟨by decide +kernel, by decide +kernel⟩
    have none : Within 4 0 (Float.ofNat 0) := ⟨by decide +kernel, by decide +kernel⟩
    have shift : Within 4 0
        (if decide (crank.base < crank.y) then 3.141592653589793 else Float.ofNat 0) := by
      split_ifs
      · exact half
      · exact none
    have angle := (turn.mono (by norm_num : 2 ≤ 4) le_rfl).add shift (by norm_num) (by norm_num)
    rw [quotient, isNaN_of_isFinite angle.isFinite]
    exact ⟨Iff.rfl, fun _ => angle.isFinite⟩

end

/-! ### Accepted angles -/

namespace Inverse

/-- Why the angle of an arm is lost for a point in its frame: the discriminant overflowed, or the
crank end came out on the joint that it is seen from. -/
inductive LosesAngle [Scalar Float] (parameters : Parameters Float) (frame : Point Float) :
    Prop where
  | overflow :
      ((armLine parameters frame.x frame.y frame.z).discriminant parameters.crank).isFinite =
        false → LosesAngle parameters frame
  | onJoint (crank : CrankEnd Float) :
      crankEnd parameters frame.x frame.y frame.z = .ok crank → (crank.z == 0) = true →
        (crank.y == crank.base) = true → LosesAngle parameters frame

end Inverse

section

open Binary64 Inverse

/-- The angle of a crank end is lost with its discriminant, and where it is on the joint. -/
theorem Inverse.losesAngle_iff (functions : Transcendental) (arcTan : functions.ArcTanInRange)
    {parameters : Parameters Float} {frame : Point Float} {crank : CrankEnd Float} :
    letI := Scalar.binary64 functions
    parameters.validate = .ok () → crankEnd parameters frame.x frame.y frame.z = .ok crank →
      (crank.angle.isNaN = true ↔ LosesAngle parameters frame) := by
  let := Scalar.binary64 functions
  intro valid reached
  obtain ⟨-, guard, rfl⟩ := crankEnd_eq_ok_iff.1 reached
  obtain ⟨crankFinite, crankLow⟩ := Parameters.crank_large valid
  have base := base_within frame.x frame.y frame.z valid
  rw [(CrankEnd.angle_isNaN_iff arcTan _).1]
  generalize lineEq : armLine parameters frame.x frame.y frame.z = line at *
  by_cases finite : (line.discriminant parameters.crank).isFinite = true
  · have zeroFinite : (Float.ofNat 0).isFinite = true := by decide +kernel
    have zeroValue : value (Float.ofNat 0) = 0 := by decide +kernel
    have nonneg : 0 ≤ value (line.discriminant parameters.crank) := by
      rw [← zeroValue]
      exact (le_iff zeroFinite finite).1 (of_decide_eq_true guard)
    obtain ⟨outer, rise, offset⟩ := crankEnd_isFinite functions base crankFinite crankLow finite
      nonneg
    have quotient := isNaN_div_iff ((isFinite_neg _).trans rise) offset
    have level := beq_iff rise zeroFinite
    have atJoint := beq_iff outer base.isFinite
    rw [zeroValue] at level
    rw [value_neg, neg_eq_zero, value_sub_eq_zero_iff base.isFinite outer offset,
      eq_comm (a := value line.base), ← level, ← atJoint] at quotient
    refine quotient.trans ⟨fun both => .onJoint _ reached both.1 both.2, fun loses => ?_⟩
    cases loses with
    | overflow lost =>
        rw [lineEq, finite] at lost
        cases lost
    | onJoint crank found levelled joined =>
        rw [reached, Except.ok.injEq] at found
        rw [← found] at levelled joined
        exact ⟨levelled, joined⟩
  · -- Both parts of the quotient are lost with the discriminant.
    have through := discriminant_isFinite functions line parameters.crank
    have endLost : (line.crankEnd parameters.crank).z.isFinite = false := by
      rw [← Bool.not_eq_true]
      exact fun kept => finite (through (.inl kept))
    have offsetLost : (line.base - (line.crankEnd parameters.crank).y).isFinite = false := by
      rw [← Bool.not_eq_true]
      exact fun kept => finite (through (.inr kept))
    refine iff_of_true ?_ (.overflow ?_)
    · exact isNaN_div_of_not_isFinite ((isFinite_neg _).trans endLost) offsetLost
    · rw [lineEq, ← Bool.not_eq_true]
      exact finite

/-- An angle that the inverse solver accepts is not a number exactly where the discriminant of the
arm overflowed or its crank end came out on the joint. Every other accepted angle lies between the
limits. -/
theorem inverse_isNaN_iff (functions : Transcendental) (arcTan : functions.ArcTanInRange)
    (parameters : Parameters Float) (point : Point Float) (angles : ArmAngles Float) :
    letI := Scalar.binary64 functions
    parameters.validate = .ok () → inverse parameters point = .ok angles →
      ∀ arm : Arm,
        ((angles.of arm).isNaN = true ↔ LosesAngle parameters (armFrame point arm)) ∧
        ((angles.of arm).isNaN = false →
          parameters.maxNegativeAngle - limitSlack ≤ angles.of arm ∧
            angles.of arm ≤ parameters.maxPositiveAngle + limitSlack) := by
  let := Scalar.binary64 functions
  intro valid found arm
  obtain ⟨crank, reached, within⟩ := armAngle_eq_ok_iff.1 (inverse_eq_ok_iff_armFrame.1 found arm)
  obtain ⟨same, notBelow, notAbove⟩ := withinLimits_eq_ok_iff.1 within
  rw [same]
  refine ⟨losesAngle_iff functions arcTan valid reached, fun isNumber => ?_⟩
  have finite := (CrankEnd.angle_isNaN_iff arcTan crank).2 isNumber
  obtain ⟨lowFinite, highFinite⟩ := Parameters.limits_isFinite valid
  constructor
  · exact le_of_not_lt lowFinite finite (of_decide_eq_false notBelow)
  · exact le_of_not_lt finite highFinite (of_decide_eq_false notAbove)

/-! ### Points just below the arm axes -/

/-- A large effector that hangs from a small base, on long cranks and linkages. -/
def Parameters.flared : Parameters Float where
  crank := 500
  linkage := 500
  baseTriangle := 20
  effectorTriangle := 500
  maxNegativeAngle := -1.5
  maxPositiveAngle := 1.5
  segmentLength := 20

/-- The arc tangent of the crank position half a metre below the arm axes. -/
def Transcendental.flared : Transcendental where
  sin := id
  cos := fun _ => 1
  arcTan quotient := if quotient.isNaN then quotient else 0.2751555223167466

theorem Transcendental.flared_inRange : Transcendental.flared.ArcTanInRange where
  notANumber quotient isNaN := by
    rw [flared]
    dsimp only
    rwa [if_pos isNaN]
  inRange quotient isNumber := by
    rw [flared]
    dsimp only
    rw [isNumber, if_neg Bool.false_ne_true]
    decide +kernel

theorem Parameters.flared_valid (functions : Transcendental) :
    letI := Scalar.binary64 functions
    Parameters.flared.validate = .ok () :=
  validate_binary64 functions (fun parameter => by cases parameter <;> decide +kernel)

theorem flared_keeps_angles :
    letI := Scalar.binary64 .flared
    Transcendental.flared.ArcTanInRange ∧ Parameters.flared.validate = .ok () ∧
      inverse .flared ⟨0, 0, -500⟩ = .ok (ArmAngles.alike 0.2751555223167466) ∧
      ∀ arm, ¬LosesAngle .flared (armFrame ⟨0, 0, -500⟩ arm) := by
  let := Scalar.binary64 .flared
  have found : inverse .flared ⟨0, 0, -500⟩ = .ok (ArmAngles.alike 0.2751555223167466) := by
    decide +kernel
  have valid := Parameters.flared_valid .flared
  have all := inverse_isNaN_iff .flared Transcendental.flared_inRange .flared ⟨0, 0, -500⟩ _ valid
    found
  refine ⟨Transcendental.flared_inRange, valid, found, fun arm loses => ?_⟩
  have isNaN := (all arm).1.2 loses
  have isNumber : ∀ arm, ((ArmAngles.alike (0.2751555223167466 : Float)).of arm).isNaN = false := by
    intro arm
    cases arm <;> decide +kernel
  rw [isNumber arm] at isNaN
  cases isNaN

/-- What is not a number is beyond no limit. -/
theorem Parameters.permits_of_isNaN (functions : Transcendental) (parameters : Parameters Float)
    {angle : Float} (isNaN : angle.isNaN = true) :
    letI := Scalar.binary64 functions
    parameters.Permits angle :=
  ⟨decide_eq_false (not_lt_of_isNaN_left isNaN), decide_eq_false (not_lt_of_isNaN_right isNaN)⟩

/-- Just below the arm axes the crank end comes out infinitely far away in both directions. -/
theorem flared_steep (functions : Transcendental) (arm : Arm) :
    letI := Scalar.binary64 functions
    ∃ crank, crankEnd Parameters.flared (armFrame ⟨0, 0, -2e-150⟩ arm).x
        (armFrame ⟨0, 0, -2e-150⟩ arm).y (armFrame ⟨0, 0, -2e-150⟩ arm).z = .ok crank ∧
      crank.quotient.isNaN = true := by
  let computed := @crankEnd Float (.binary64 .flared) .flared (armFrame ⟨0, 0, -2e-150⟩ arm).x
    (armFrame ⟨0, 0, -2e-150⟩ arm).y (armFrame ⟨0, 0, -2e-150⟩ arm).z
  have lost : computed.toOption.any (fun crank => crank.quotient.isNaN) = true := by
    cases arm <;> decide +kernel
  cases reached : computed with
  | error cause =>
      rw [reached] at lost
      cases lost
  | ok crank =>
      rw [reached] at lost
      exact ⟨crank, reached, lost⟩

/-- An accepted angle need not be a number. Just below the arm axes the line of the crank end is so
steep that the discriminant overflows, which a test for negative numbers lets through. -/
theorem exists_inverse_isNaN :
    ¬∃ functions : Transcendental, functions.ArcTanInRange ∧
      letI := Scalar.binary64 functions
      ∀ (parameters : Parameters Float) (point : Point Float) (angles : ArmAngles Float),
        parameters.validate = .ok () → inverse parameters point = .ok angles →
          ∀ arm, (angles.of arm).isNaN = false := by
  rintro ⟨functions, arcTan, numbers⟩
  let := Scalar.binary64 functions
  choose cranks reached lost using flared_steep functions
  have isNaN (arm : Arm) : (cranks arm).angle.isNaN = true :=
    (CrankEnd.angle_isNaN_iff arcTan (cranks arm)).1.2 (lost arm)
  have found : inverse Parameters.flared ⟨0, 0, -2e-150⟩ =
      .ok ⟨(cranks .arm0).angle, (cranks .arm1).angle, (cranks .arm2).angle⟩ := by
    refine inverse_eq_ok_iff_armFrame.2 (fun arm => ?_)
    refine armAngle_eq_ok_iff.2 ⟨cranks arm, reached arm, withinLimits_eq_ok_iff.2 ⟨?_, ?_⟩⟩
    · cases arm <;> rfl
    · exact Parameters.permits_of_isNaN functions _ (isNaN arm)
  have isNumber := numbers .flared _ _ (Parameters.flared_valid functions) found .arm0
  rw [ArmAngles.of, isNaN] at isNumber
  cases isNumber

/-- With other sides and a less steep line, cancellation puts the crank end on the joint. -/
example :
    letI := Scalar.binary64 .flared
    let parameters : Parameters Float :=
      { Parameters.flared with
        crank := 77, linkage := 98, baseTriangle := 467, effectorTriangle := 257 }
    (crankEnd parameters 0 0 (-9e-30)).toOption.any
      (fun crank => crank.z == 0 && crank.y == crank.base) = true := by
  decide +kernel

end

end DeltaRobot
