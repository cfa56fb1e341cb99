import DeltaRobot.Json.Number
import DeltaRobot.Proofs.Binary64.Operations
import DeltaRobot.Proofs.Binary64.NotANumber
import DeltaRobot.Proofs.Binary64.Order

/-!
Contract: every number that a JSON text is read as is finite.

A significand has at most 64 bits, so it is far below the greatest number, and a power of ten that
it is scaled by is finite and at least one. Dividing by such a power keeps a number finite, and a
product that is not finite has no worth.

Owns: powers of ten as doubles, and the finiteness of `Numeral.worth?`.
Does not own: how near a number is to its numeral.
-/

namespace DeltaRobot

open Float.Model Float.Model.UnpackedFloat

namespace Binary64

variable {left right : Float}

/-- A decimal number without places behind the point is rounded once. -/
theorem rounds_ofScientific (significand : ℕ) {exponent : ℕ} (inRange : exponent ≤ 308) :
    Rounds (significand * 10 ^ exponent)
      (stored (UnpackedFloat.ofScientific .binary64 significand exponent)) := by
  by_cases zero : significand = 0
  · rw [zero, UnpackedFloat.ofScientific, dif_pos rfl, Nat.cast_zero, zero_mul]
    exact rounds_zero .positive
  · have long : 2 ^ 53 ≤ significand <<< 53 * 10 ^ exponent := by
      rw [Nat.shiftLeft_eq, mul_right_comm]
      exact Nat.le_mul_of_pos_left _ (Nat.mul_pos (Nat.pos_of_ne_zero zero) (by positivity))
    have precise : Precise (significand <<< 53 * 10 ^ exponent) (-53) :=
      .inl ((Nat.pow_le_pow_right two_pos (by omega)).trans long)
    have rounds := precise.rounds zero_lt_one .positive
    have exact_eq : (Sign.positive.apply 1 : ℚ) *
        (((significand <<< 53 * 10 ^ exponent : ℕ) + (0 : ℕ) / (1 : ℕ)) * 2 ^ (-53 : ℤ)) =
          significand * 10 ^ exponent := by
      rw [Nat.shiftLeft_eq]
      push_cast
      norm_num [Sign.apply]
      ring
    rw [exact_eq] at rounds
    have width : Format.binary64.mantissaBits = 53 := rfl
    have place : -((53 : ℕ) : ℤ) + 0 = -53 := rfl
    rw [UnpackedFloat.ofScientific, dif_neg zero, if_neg (by norm_num; omega),
      if_neg (by norm_num; omega), if_pos (Int.natCast_nonneg _), UnpackedFloat.mul,
      Int.toNat_natCast, width, place]
    exact rounds

/-- A whole number that 64 bits hold is far below the greatest number. -/
theorem isFinite_ofNat {count : ℕ} (small : count < 2 ^ 64) :
    (Float.ofNat count).isFinite = true := by
  have bounded : |(count : ℚ)| < overflow := by
    rw [abs_of_nonneg (Nat.cast_nonneg _)]
    calc (count : ℚ) < 2 ^ 64 := by exact_mod_cast small
      _ ≤ overflow := by decide +kernel
  change (Float.ofScientific count false 0).isFinite = true
  rw [Float.ofScientific]
  by_cases short : count < 2 ^ 53 ∧ 0 ≤ 22
  · rw [dif_pos short]
    have rounds : Rounds count.toUInt64.toNat count.toUInt64.toFloat.toModel.unpack := by
      have normal := rounds_normalize count.toUInt64.toNat 0 .positive
      rw [zpow_zero, mul_one] at normal
      exact normal
    have inRange : |(count.toUInt64.toNat : ℚ)| < overflow := by
      rwa [Nat.toUInt64, UInt64.toNat_ofNat_of_lt' (by omega)]
    have one : Float.exactlyRepresentablePowersOfTen[0].isFinite = true ∧
        value Float.exactlyRepresentablePowersOfTen[0] = 1 := by decide +kernel
    have product := rounds_mul (rounds.isFinite_iff.2 inRange) one.1
    rw [one.2, mul_one] at product
    exact product.isFinite_iff.2 (abs_value_lt _)
  · rw [dif_neg short]
    have rounds := rounds_ofScientific count (Nat.zero_le 308)
    rw [pow_zero, mul_one] at rounds
    exact rounds.isFinite_iff.2 bounded

/-- The powers of ten that are used are finite and at least one. -/
theorem power_ok {exponent : ℕ} (inRange : exponent ≤ 308) :
    (Float.ofScientific 1 false exponent).isFinite = true ∧
      1 ≤ value (Float.ofScientific 1 false exponent) := by
  by_cases small : exponent ≤ 22
  · have all : ∀ exponent < 23, (Float.ofScientific 1 false exponent).isFinite = true ∧
      1 ≤ value (Float.ofScientific 1 false exponent) := by decide +kernel
    exact all exponent (by omega)
  · have rounds := rounds_ofScientific 1 inRange
    have unfolded : Float.ofScientific 1 false exponent =
        ⟨Float.Model.ofScientific 1 (exponent : ℤ)⟩ := by
      rw [Float.ofScientific, dif_neg (by omega)]
      rfl
    rw [Nat.cast_one, one_mul] at rounds
    have finite : (Float.ofScientific 1 false exponent).isFinite = true := by
      rw [unfolded]
      refine rounds.isFinite_iff.2 ?_
      rw [abs_of_pos (by positivity)]
      calc (10 : ℚ) ^ exponent ≤ 10 ^ 308 := pow_le_pow_right₀ (by norm_num) inRange
        _ < overflow := by decide +kernel
    refine ⟨finite, ?_⟩
    rw [unfolded] at finite ⊢
    have one : Representable (size 1 0) := representable_size (by omega) 0
    rw [size_one_zero] at one
    exact rounds.ge finite 1 one (one_le_pow₀ (by norm_num))

theorem isNaN_mul (leftFinite : left.isFinite = true) (rightFinite : right.isFinite = true) :
    (left * right).isNaN = false := by
  rw [isNaN_eq, unpack_mul, isNaN_stored]
  rcases unpack_of_isFinite leftFinite with ⟨_, unpacked⟩ | ⟨_, _, _, _, unpacked⟩
  · rcases unpack_of_isFinite rightFinite with ⟨_, other⟩ | ⟨_, _, _, _, other⟩
    · rw [unpacked, other]
      rfl
    · rw [unpacked, other]
      rfl
  · rcases unpack_of_isFinite rightFinite with ⟨_, other⟩ | ⟨_, _, _, _, other⟩
    · rw [unpacked, other]
      rfl
    · rw [unpacked, other, UnpackedFloat.mul, isNaN_round]

/-- A product that is not infinite is finite. -/
theorem isFinite_mul_of_not_isInf (leftFinite : left.isFinite = true)
    (rightFinite : right.isFinite = true) (inRange : (left * right).isInf = false) :
    (left * right).isFinite = true := by
  have aNumber := isNaN_mul leftFinite rightFinite
  by_contra lost
  rcases unpack_of_not_isFinite (Bool.eq_false_iff.2 lost) with ⟨sign, unpacked⟩ | unpacked
  · have isInf_eq : (left * right).isInf = (left * right).toModel.unpack.isInf := rfl
    rw [isInf_eq, unpacked] at inRange
    cases inRange
  · rw [isNaN_eq, unpacked] at aNumber
    cases aNumber

/-- Dividing by a power of ten does not make a number greater. -/
theorem isFinite_div_power (finite : left.isFinite = true) {exponent : ℕ}
    (inRange : exponent ≤ 308) :
    (left / Float.ofScientific 1 false exponent).isFinite = true := by
  obtain ⟨powerFinite, atLeastOne⟩ := power_ok inRange
  have positive : 0 < value (Float.ofScientific 1 false exponent) := by linarith
  have rounds := rounds_div finite powerFinite positive.ne'
  refine rounds.isFinite_iff.2 ?_
  rw [abs_div, abs_of_pos positive]
  exact (div_le_self (abs_nonneg _) atLeastOne).trans_lt (abs_value_lt left)

end Binary64

namespace Json.Numeral

open Binary64

theorem isFinite_of_scale {size result : Float} {exponent : ℤ} (finite : size.isFinite = true)
    (scaled : scale? size exponent = some result) : result.isFinite = true := by
  fun_induction scale? size exponent with
  | case1 size exponent inRange up product infinite => cases scaled
  | case2 size exponent inRange up product inside =>
      rw [← Option.some.inj scaled]
      exact isFinite_mul_of_not_isInf finite (power_ok inRange).1 (Bool.eq_false_iff.2 inside)
  | case3 size exponent inRange down =>
      cases scaled
      exact isFinite_div_power finite inRange
  | case4 size exponent outside zero =>
      cases scaled
      exact finite
  | case5 size exponent outside nonzero up => cases scaled
  | case6 size exponent outside nonzero down inductionHypothesis =>
      exact inductionHypothesis (isFinite_div_power finite (Nat.le_refl maxExponent)) scaled

theorem gather_le (significand : ℕ) (digits : List ℕ) (small : significand ≤ maxSignificand) :
    (gather significand digits).1 ≤ maxSignificand := by
  fun_induction gather significand digits with
  | case1 significand => exact small
  | case2 significand digit digits fits inductionHypothesis => exact inductionHypothesis fits
  | case3 significand digit digits full => exact small

theorem natAbs_le_of_integer {numeral : Numeral} {value : ℤ}
    (isInteger : numeral.integer? = some value) : value.natAbs ≤ maxSignificand := by
  have small := gather_le 0 numeral.whole (Nat.zero_le _)
  simp only [integer?] at isInteger
  split_ifs at isInteger
  · cases isInteger
    rwa [Int.natAbs_neg, Int.natAbs_natCast]
  · cases isInteger
    rwa [Int.natAbs_natCast]

/-- Whatever a numeral is worth is a finite number. -/
theorem isFinite_of_worth {numeral : Numeral} {number : Number}
    (worth : numeral.worth? = some number) : number.toFloat.isFinite = true := by
  have small : maxSignificand < 2 ^ 64 := by decide
  rw [worth?] at worth
  split at worth
  · rename_i value isInteger
    cases worth
    have bounded := natAbs_le_of_integer isInteger
    rw [Number.toFloat, floatOfInt]
    split_ifs with nonneg
    · exact isFinite_ofNat (by omega)
    · rw [isFinite_neg]
      exact isFinite_ofNat (by omega)
  · obtain ⟨size, scaled, rfl⟩ := Option.map_eq_some_iff.1 worth
    have sizeFinite : size.isFinite = true := by
      refine isFinite_of_scale (isFinite_ofNat (Nat.lt_of_le_of_lt ?_ small)) scaled
      exact gather_le _ _ (gather_le 0 numeral.whole (Nat.zero_le _))
    rw [Number.toFloat]
    split_ifs
    · rw [isFinite_neg, sizeFinite]
    · exact sizeFinite

end Json.Numeral

end DeltaRobot
