import DeltaRobot.Proofs.Binary64.Operations

/-!
Contract: the comparisons of binary64 numbers are those of their exact values.

Finite numbers compare by sign, exponent and significand. Since all bits are in use above the least
exponent, this is the order of the exact values.

Owns: what a comparison says of two finite numbers, or of what lies between two.
Does not own: comparisons with what is not a number.
-/

namespace DeltaRobot

namespace Binary64

open Float.Model Float.Model.UnpackedFloat

/-! ### Magnitudes -/

section

variable {mantissa other : ℕ} {exponent otherExponent : ℤ}

theorem Fits.lt_of_exponent_lt (fits : Fits mantissa exponent)
    (otherFits : Fits other otherExponent) (less : exponent < otherExponent) :
    (mantissa : ℚ) * 2 ^ exponent < other * 2 ^ otherExponent := by
  have small : (mantissa : ℚ) < 2 ^ 53 := by exact_mod_cast fits.small
  have long : (2 : ℚ) ^ 52 ≤ other := by
    exact_mod_cast otherFits.long (fits.least.trans_lt less)
  calc (mantissa : ℚ) * 2 ^ exponent < 2 ^ 53 * 2 ^ exponent := by gcongr
    _ = 2 ^ 52 * 2 ^ (exponent + 1) := by
      rw [zpow_add_one₀ two_ne_zero]
      ring
    _ ≤ other * 2 ^ otherExponent := by
      gcongr
      · norm_num
      · omega

theorem Fits.compare_eq (fits : Fits mantissa exponent) (otherFits : Fits other otherExponent) :
    (compare exponent otherExponent).then (compare mantissa other) =
      compare ((mantissa : ℚ) * 2 ^ exponent) (other * 2 ^ otherExponent) := by
  rcases lt_trichotomy exponent otherExponent with less | rfl | greater
  · rw [compare_lt_iff_lt.2 less, compare_lt_iff_lt.2 (fits.lt_of_exponent_lt otherFits less)]
    rfl
  · have unit : (0 : ℚ) < 2 ^ exponent := by positivity
    rw [compare_eq_iff_eq.2 rfl]
    change compare mantissa other = _
    rcases lt_trichotomy mantissa other with fewer | rfl | more
    · rw [compare_lt_iff_lt.2 fewer, compare_lt_iff_lt.2 (by gcongr)]
    · rw [compare_eq_iff_eq.2 rfl, compare_eq_iff_eq.2 rfl]
    · rw [compare_gt_iff_gt.2 more, compare_gt_iff_gt.2 (by gcongr)]
  · rw [compare_gt_iff_gt.2 greater, compare_gt_iff_gt.2 (otherFits.lt_of_exponent_lt fits greater)]
    rfl

end

/-! ### Comparisons -/

theorem compare_neg (left right : ℚ) : compare (-left) (-right) = (compare left right).swap := by
  rcases lt_trichotomy left right with less | rfl | greater
  · rw [compare_lt_iff_lt.2 less, compare_gt_iff_gt.2 (neg_lt_neg less)]
    rfl
  · rw [compare_eq_iff_eq.2 rfl, compare_eq_iff_eq.2 rfl]
    rfl
  · rw [compare_gt_iff_gt.2 greater, compare_lt_iff_lt.2 (neg_lt_neg greater)]
    rfl

section

variable {left right : Float}

theorem compare_eq (leftFinite : left.isFinite = true) (rightFinite : right.isFinite = true) :
    left.toModel.unpack.compare right.toModel.unpack =
      some (compare (value left) (value right)) := by
  rcases unpack_of_isFinite leftFinite with ⟨sign, unpacked⟩ |
    ⟨sign, mantissa, exponent, positive, unpacked⟩
  · rcases unpack_of_isFinite rightFinite with ⟨otherSign, other⟩ |
      ⟨otherSign, otherMantissa, otherExponent, otherPositive, other⟩
    · rw [value_of_unpack_zero unpacked, value_of_unpack_zero other, compare_eq_iff_eq.2 rfl,
        unpacked, other]
      rfl
    · have size : (0 : ℚ) < otherMantissa * 2 ^ otherExponent := by positivity
      rw [value_of_unpack_zero unpacked, value_of_unpack other, unpacked, other]
      cases otherSign with
      | positive =>
          rw [compare_lt_iff_lt.2 (by simpa [Sign.apply] using size)]
          rfl
      | negative =>
          rw [compare_gt_iff_gt.2 (by simpa [Sign.apply] using size)]
          rfl
  · have size : (0 : ℚ) < mantissa * 2 ^ exponent := by positivity
    rcases unpack_of_isFinite rightFinite with ⟨otherSign, other⟩ |
      ⟨otherSign, otherMantissa, otherExponent, otherPositive, other⟩
    · rw [value_of_unpack unpacked, value_of_unpack_zero other, unpacked, other]
      cases sign with
      | positive =>
          rw [compare_gt_iff_gt.2 (by simpa [Sign.apply] using size)]
          rfl
      | negative =>
          rw [compare_lt_iff_lt.2 (by simpa [Sign.apply] using size)]
          rfl
    · have otherSize : (0 : ℚ) < otherMantissa * 2 ^ otherExponent := by positivity
      have magnitudes := (fits_of_unpack unpacked).compare_eq (fits_of_unpack other)
      rw [value_of_unpack unpacked, value_of_unpack other, unpacked, other]
      simp only [Sign.apply]
      cases sign with
      | negative =>
          cases otherSign with
          | negative =>
              change some (((compare exponent otherExponent).then
                (compare mantissa otherMantissa)).swap) = _
              rw [magnitudes, Int.cast_neg, Int.cast_one, neg_one_mul, neg_one_mul, compare_neg]
          | positive =>
              rw [compare_lt_iff_lt.2 (by push_cast; linarith)]
              rfl
      | positive =>
          cases otherSign with
          | negative =>
              rw [compare_gt_iff_gt.2 (by push_cast; linarith)]
              rfl
          | positive =>
              change some ((compare exponent otherExponent).then
                (compare mantissa otherMantissa)) = _
              rw [magnitudes, Int.cast_one, one_mul, one_mul]

theorem le_iff (leftFinite : left.isFinite = true) (rightFinite : right.isFinite = true) :
    left ≤ right ↔ value left ≤ value right := by
  have ordered : left ≤ right ↔ left.toModel.unpack.le right.toModel.unpack = true :=
    decide_eq_true_iff
  rw [ordered, UnpackedFloat.le, compare_eq leftFinite rightFinite, Option.any_some]
  exact Ordering.ne_gt_iff_isLE.symm.trans compare_le_iff_le

theorem lt_iff (leftFinite : left.isFinite = true) (rightFinite : right.isFinite = true) :
    left < right ↔ value left < value right := by
  have ordered : left < right ↔ left.toModel.unpack.lt right.toModel.unpack = true :=
    decide_eq_true_iff
  rw [ordered, UnpackedFloat.lt, compare_eq leftFinite rightFinite, beq_iff_eq, Option.some_inj]
  exact compare_lt_iff_lt

theorem le_of_not_lt (leftFinite : left.isFinite = true) (rightFinite : right.isFinite = true)
    (notLess : ¬right < left) : left ≤ right := by
  rw [lt_iff rightFinite leftFinite, not_lt] at notLess
  exact (le_iff leftFinite rightFinite).2 notLess

theorem beq_iff (leftFinite : left.isFinite = true) (rightFinite : right.isFinite = true) :
    (left == right) = true ↔ value left = value right := by
  have same : (left == right) = left.toModel.unpack.beq right.toModel.unpack := rfl
  rw [same, UnpackedFloat.beq, compare_eq leftFinite rightFinite, beq_iff_eq, Option.some_inj]
  exact compare_eq_iff_eq

/-- What lies between finite numbers is finite. -/
theorem isFinite_of_between {low number high : Float} (lowFinite : low.isFinite = true)
    (highFinite : high.isFinite = true) (above : low ≤ number) (below : number ≤ high) :
    number.isFinite = true := by
  have above' : low.toModel.unpack.le number.toModel.unpack = true := of_decide_eq_true above
  have below' : number.toModel.unpack.le high.toModel.unpack = true := of_decide_eq_true below
  rw [isFinite_eq]
  cases unpacked : number.toModel.unpack with
  | finite sign mantissa exponent positive => rfl
  | zero sign => rfl
  | notANumber =>
      rw [unpacked] at below'
      cases below'
  | infinity sign =>
      cases sign with
      | positive =>
          rcases unpack_of_isFinite highFinite with ⟨other, bound⟩ | ⟨other, _, _, _, bound⟩
          · rw [unpacked, bound] at below'
            cases below'
          · rw [unpacked, bound] at below'
            cases below'
      | negative =>
          rcases unpack_of_isFinite lowFinite with ⟨other, bound⟩ | ⟨other, _, _, _, bound⟩
          · rw [unpacked, bound] at above'
            cases above'
          · rw [unpacked, bound] at above'
            cases above'

/-- What neither of two numbers exceeds in size, no number between them does. -/
theorem Within.of_between {low number high : Float} {count place : ℕ}
    (lowWithin : Within count place low) (highWithin : Within count place high)
    (above : low ≤ number) (below : number ≤ high) : Within count place number := by
  have finite := isFinite_of_between lowWithin.isFinite highWithin.isFinite above below
  refine ⟨finite, abs_le.2 ⟨?_, ?_⟩⟩
  · exact (abs_le.1 lowWithin.bounded).1.trans ((le_iff lowWithin.isFinite finite).1 above)
  · exact ((le_iff finite highWithin.isFinite).1 below).trans (abs_le.1 highWithin.bounded).2

end

end Binary64

end DeltaRobot
