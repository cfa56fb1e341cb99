import DeltaRobot.Proofs.Binary64.Magnitude

/-!
Contract: each operation on finite binary64 numbers rounds its exact result.

Sums, differences, products and quotients round the result that they have in the rational numbers.
A root has none there, so only a bound on it is given. From these follow bounds on the result of an
operation from bounds on what it is applied to.

Owns: what is rounded in each operation, and the bounds that follow.
Does not own: operations on infinities, and what is not a number.
-/

namespace DeltaRobot

namespace Binary64

open Float.Model Float.Model.UnpackedFloat

/-! ### Results -/

section

variable (left right : Float)

theorem unpack_mul : (left * right).toModel.unpack =
    stored (left.toModel.unpack.mul .binary64 right.toModel.unpack) := by
  rfl

theorem unpack_div : (left / right).toModel.unpack =
    stored (left.toModel.unpack.div .binary64 right.toModel.unpack) := by
  rfl

theorem unpack_add : (left + right).toModel.unpack =
    stored (left.toModel.unpack.add .binary64 right.toModel.unpack) := by
  rfl

theorem unpack_sqrt : left.sqrt.toModel.unpack =
    stored (left.toModel.unpack.sqrt .binary64) := by
  rfl

end

/-! ### Products and quotients -/

section

variable {left right : Float}

theorem apply_one_mul (leftSign rightSign : Sign) :
    ((leftSign * rightSign).apply 1 : ℚ) = leftSign.apply 1 * rightSign.apply 1 := by
  have signs : (leftSign * rightSign).apply 1 = leftSign.apply 1 * rightSign.apply 1 := by
    cases leftSign <;> cases rightSign <;> rfl
  exact_mod_cast signs

theorem apply_one_div (leftSign rightSign : Sign) :
    ((leftSign / rightSign).apply 1 : ℚ) = leftSign.apply 1 / rightSign.apply 1 := by
  have product : leftSign / rightSign = leftSign * rightSign := by
    cases leftSign <;> cases rightSign <;> rfl
  rw [product, apply_one_mul]
  cases leftSign <;> cases rightSign <;> simp [Sign.apply]

theorem rounds_mul (leftFinite : left.isFinite = true) (rightFinite : right.isFinite = true) :
    Rounds (value left * value right) (left * right).toModel.unpack := by
  rw [unpack_mul]
  rcases unpack_of_isFinite leftFinite with ⟨sign, unpacked⟩ |
    ⟨sign, mantissa, exponent, positive, unpacked⟩
  · rw [value_of_unpack_zero unpacked, zero_mul, unpacked]
    rcases unpack_of_isFinite rightFinite with ⟨otherSign, other⟩ | ⟨otherSign, _, _, _, other⟩
    · rw [other]
      exact rounds_zero _
    · rw [other]
      exact rounds_zero _
  · rcases unpack_of_isFinite rightFinite with ⟨otherSign, other⟩ |
      ⟨otherSign, otherMantissa, otherExponent, otherPositive, other⟩
    · rw [value_of_unpack_zero other, mul_zero, unpacked, other]
      exact rounds_zero _
    · have precise := precise_mul positive otherPositive (precise_of_unpack unpacked)
        (precise_of_unpack other)
      have rounds := precise.rounds zero_lt_one (sign * otherSign)
      have exact_eq : ((sign * otherSign).apply 1 : ℚ) *
          (((mantissa * otherMantissa : ℕ) + (0 : ℕ) / (1 : ℕ)) * 2 ^ (exponent + otherExponent)) =
            value left * value right := by
        rw [value_of_unpack unpacked, value_of_unpack other, apply_one_mul,
          zpow_add₀ two_ne_zero]
        push_cast
        ring
      rw [exact_eq] at rounds
      rw [unpacked, other]
      exact rounds

theorem rounds_div (leftFinite : left.isFinite = true) (rightFinite : right.isFinite = true)
    (nonzero : value right ≠ 0) :
    Rounds (value left / value right) (left / right).toModel.unpack := by
  rw [unpack_div]
  rcases unpack_of_isFinite rightFinite with ⟨otherSign, other⟩ |
    ⟨otherSign, otherMantissa, otherExponent, otherPositive, other⟩
  · exact absurd (value_of_unpack_zero other) nonzero
  · rcases unpack_of_isFinite leftFinite with ⟨sign, unpacked⟩ |
      ⟨sign, mantissa, exponent, positive, unpacked⟩
    · rw [value_of_unpack_zero unpacked, zero_div, unpacked, other]
      exact rounds_zero _
    · obtain ⟨digits, place, part, computed, less, precise, exact⟩ :=
        @exists_divCore mantissa otherMantissa exponent otherExponent positive otherPositive
      have rounds := precise.rounds less (sign / otherSign)
      have exact_eq : ((sign / otherSign).apply 1 : ℚ) *
          ((digits + part / otherMantissa) * 2 ^ place) = value left / value right := by
        rw [exact, value_of_unpack unpacked, value_of_unpack other, apply_one_div]
        exact (mul_div_mul_comm _ _ _ _).symm
      rw [exact_eq] at rounds
      rw [unpacked, other, UnpackedFloat.div, computed]
      exact rounds

end

/-! ### Sums and differences -/

/-- Rounding an exact number appends the digits that it lacks first. -/
theorem exists_round (sign : Sign) {mantissa : ℕ} (positive : 0 < mantissa) (exponent : ℤ) :
    ∃ digits place, Precise digits place ∧
      (digits : ℚ) * 2 ^ place = mantissa * 2 ^ exponent ∧
      UnpackedFloat.round .binary64 sign mantissa exponent =
        roundWithAccuracy .binary64 sign digits place .exact := by
  generalize shiftEq : (exponent - lastPlace mantissa exponent).toNat = shift
  refine ⟨mantissa * 2 ^ shift, exponent - shift, ?_, ?_, ?_⟩
  · rw [lastPlace] at shiftEq
    by_cases low : exponent - shift ≤ -1074
    · exact .inr low
    · left
      calc 2 ^ 52 ≤ 2 ^ (mantissa.log2 + shift) := Nat.pow_le_pow_right two_pos (by omega)
        _ = 2 ^ mantissa.log2 * 2 ^ shift := pow_add _ _ _
        _ ≤ mantissa * 2 ^ shift :=
            Nat.mul_le_mul_right _ (Nat.log2_self_le positive.ne')
  · rw [zpow_sub₀ two_ne_zero, zpow_natCast]
    push_cast
    field_simp
  · rw [← shiftEq, ← Nat.shiftLeft_eq]
    rfl

theorem rounds_round (sign : Sign) {mantissa : ℕ} (positive : 0 < mantissa) (exponent : ℤ) :
    Rounds (sign.apply 1 * (mantissa * 2 ^ exponent))
      (stored (UnpackedFloat.round .binary64 sign mantissa exponent)) := by
  obtain ⟨digits, place, precise, same, computed⟩ := exists_round sign positive exponent
  have rounds := precise.rounds zero_lt_one sign
  rw [Nat.cast_zero, zero_div, add_zero, same] at rounds
  rw [computed]
  exact rounds

theorem rounds_normalize (total exponent : ℤ) (zeroSign : Sign) :
    Rounds (total * 2 ^ exponent)
      (stored (UnpackedFloat.normalize .binary64 total exponent zeroSign)) := by
  rw [UnpackedFloat.normalize]
  cases compared : compare total 0 with
  | lt =>
      have below := Int.compare_eq_lt.1 compared
      have positive : 0 < (-total).toNat := by omega
      have rounds := rounds_round .negative positive exponent
      have size : (((-total).toNat : ℤ) : ℚ) = -total := by
        rw [Int.toNat_of_nonneg (by omega)]
        push_cast
        rfl
      rw [Int.cast_natCast] at size
      rw [size] at rounds
      simpa [Sign.apply] using rounds
  | eq =>
      rw [Int.compare_eq_eq.1 compared, Int.cast_zero, zero_mul]
      exact rounds_zero zeroSign
  | gt =>
      have above := Int.compare_eq_gt.1 compared
      have positive : 0 < total.toNat := by omega
      have rounds := rounds_round .positive positive exponent
      have size : ((total.toNat : ℤ) : ℚ) = total := by
        rw [Int.toNat_of_nonneg (by omega)]
      rw [Int.cast_natCast] at size
      rw [size] at rounds
      simpa [Sign.apply] using rounds

/-- Both operands counted in units of the finer place of the two. -/
theorem decreaseExponent_mul (mantissa : ℕ) {exponent place : ℤ} (finer : place ≤ exponent) :
    ((decreaseExponent mantissa exponent place).1 : ℚ) * 2 ^ place = mantissa * 2 ^ exponent := by
  obtain ⟨shift, rfl⟩ := Int.le.dest finer
  rw [decreaseExponent, add_sub_cancel_left, Int.toNat_natCast, Nat.shiftLeft_eq,
    zpow_add₀ two_ne_zero, zpow_natCast]
  push_cast
  ring

section

variable {left right : Float}

theorem rounds_add (leftFinite : left.isFinite = true) (rightFinite : right.isFinite = true) :
    Rounds (value left + value right) (left + right).toModel.unpack := by
  rw [unpack_add]
  rcases unpack_of_isFinite leftFinite with ⟨sign, unpacked⟩ |
    ⟨sign, mantissa, exponent, positive, unpacked⟩
  · rcases unpack_of_isFinite rightFinite with ⟨otherSign, other⟩ | ⟨otherSign, _, _, _, other⟩
    · rw [value_of_unpack_zero unpacked, value_of_unpack_zero other, add_zero, unpacked, other]
      rw [UnpackedFloat.add]
      split_ifs
      · exact rounds_zero _
      · exact rounds_zero _
    · have same : left.toModel.unpack.add .binary64 right.toModel.unpack =
          right.toModel.unpack := by
        rw [unpacked, other]
        rfl
      rw [value_of_unpack_zero unpacked, zero_add, same]
      exact rounds_value rightFinite
  · rcases unpack_of_isFinite rightFinite with ⟨otherSign, other⟩ |
      ⟨otherSign, otherMantissa, otherExponent, otherPositive, other⟩
    · have same : left.toModel.unpack.add .binary64 right.toModel.unpack =
          left.toModel.unpack := by
        rw [unpacked, other]
        rfl
      rw [value_of_unpack_zero other, add_zero, same]
      exact rounds_value leftFinite
    · have rounds := rounds_normalize
        (sign.apply (decreaseExponent mantissa exponent (min exponent otherExponent)).1 +
          otherSign.apply
            (decreaseExponent otherMantissa otherExponent (min exponent otherExponent)).1)
        (min exponent otherExponent) .positive
      rw [Int.cast_add, apply_eq sign, apply_eq otherSign, add_mul, mul_assoc, mul_assoc,
        Int.cast_natCast, Int.cast_natCast, decreaseExponent_mul _ (min_le_left _ _),
        decreaseExponent_mul _ (min_le_right _ _), ← value_of_unpack unpacked,
        ← value_of_unpack other] at rounds
      rw [unpacked, other]
      exact rounds

end

section

variable (number : Float)

/-- Negation needs no rounding. -/
theorem unpack_neg : (-number).toModel.unpack = number.toModel.unpack.neg := by
  have negated : (-number).toModel.unpack = stored number.toModel.unpack.neg := rfl
  rw [negated]
  cases unpacked : number.toModel.unpack with
  | finite sign mantissa exponent positive =>
      have same : (UnpackedFloat.finite sign mantissa exponent positive).neg =
          ofSignificand (-sign) mantissa exponent := by
        rw [ofSignificand, dif_neg positive.ne']
        rfl
      rw [same, (fits_of_unpack unpacked).stored_eq]
  | zero sign => exact stored_zero (-sign)
  | infinity sign => cases sign <;> rfl
  | notANumber => rfl

@[simp]
theorem isFinite_neg : (-number).isFinite = number.isFinite := by
  rw [isFinite_eq, isFinite_eq, unpack_neg]
  cases number.toModel.unpack <;> rfl

@[simp]
theorem value_neg : value (-number) = -value number := by
  rw [value, value, unpack_neg]
  cases number.toModel.unpack with
  | finite sign mantissa exponent positive =>
      change ((-sign).apply mantissa : ℚ) * 2 ^ exponent = -(sign.apply mantissa * 2 ^ exponent)
      rw [apply_neg, Int.cast_neg, neg_mul]
  | zero sign => exact neg_zero.symm
  | infinity sign => exact neg_zero.symm
  | notANumber => exact neg_zero.symm

end

theorem sub_eq_add_neg (left right : UnpackedFloat) :
    left.sub .binary64 right = left.add .binary64 right.neg := by
  cases left <;> cases right
  case finite.finite =>
    simp only [UnpackedFloat.sub, UnpackedFloat.add, UnpackedFloat.neg, apply_neg,
      Int.sub_eq_add_neg]
  all_goals rfl

/-- A difference is the sum with the negated number. -/
theorem unpack_sub (left right : Float) :
    (left - right).toModel.unpack = (left + -right).toModel.unpack := by
  have difference : (left - right).toModel.unpack =
      stored (left.toModel.unpack.sub .binary64 right.toModel.unpack) := rfl
  rw [difference, sub_eq_add_neg, ← unpack_neg, unpack_add]

theorem rounds_sub {left right : Float} (leftFinite : left.isFinite = true)
    (rightFinite : right.isFinite = true) :
    Rounds (value left - value right) (left - right).toModel.unpack := by
  have rounds := rounds_add leftFinite ((isFinite_neg right).trans rightFinite)
  rw [value_neg, ← Rat.sub_eq_add_neg] at rounds
  rw [unpack_sub]
  exact rounds

/-! ### Square roots -/

/-- A root is worked out to digits enough, and its square is not too large. -/
theorem exists_sqrtCore {mantissa : ℕ} (positive : 0 < mantissa) (exponent : ℤ) :
    ∃ root place part,
      sqrtCore .binary64 mantissa exponent = (root, place, accuracyOfFraction part 4) ∧
      part < 4 ∧ Precise root place ∧ 0 < root ∧
      ((root : ℚ) * 2 ^ place) ^ 2 ≤ mantissa * 2 ^ exponent := by
  -- The place to which the root is worked out, and the digits appended for that.
  generalize placeEq : min (exponent.ediv 2) (Format.binary64.targetExponent
    ((totalExponent mantissa exponent + 1).ediv 2)) = place
  generalize shiftEq : (exponent - 2 * place).toNat = shift
  have below : place ≤ exponent / 2 := by
    rw [← placeEq]
    exact min_le_left _ _
  have target : place ≤ max ((mantissa.log2 + 1 + exponent + 1) / 2 - 53) (-1074) := by
    rw [← placeEq]
    exact min_le_right _ _
  generalize radicandEq : mantissa <<< shift = radicand
  have radicand_eq : radicand = mantissa * 2 ^ shift := by rw [← radicandEq, Nat.shiftLeft_eq]
  have radicandPositive : 0 < radicand := by
    rw [radicand_eq]
    positivity
  have square := Nat.sqrt_le' radicand
  generalize restEq : radicand - Nat.sqrt radicand * Nat.sqrt radicand = rest
  have computed : sqrtCore .binary64 mantissa exponent =
      (Nat.sqrt radicand, place, if rest = 0 then .exact
        else .inexact (if rest ≤ Nat.sqrt radicand then .lt else .gt)) := by
    rw [← restEq, ← radicandEq, ← shiftEq, ← placeEq]
    rfl
  refine ⟨Nat.sqrt radicand, place, if rest = 0 then 0 else if rest ≤ Nat.sqrt radicand then 1
    else 3, ?_, ?_, ?_, Nat.sqrt_pos.2 radicandPositive, ?_⟩
  · rw [computed]
    split_ifs
    · rfl
    · rfl
    · rfl
  · split_ifs <;> omega
  · by_cases low : place ≤ -1074
    · exact .inr low
    · left
      apply Nat.le_sqrt'.2
      rw [radicand_eq]
      calc (2 ^ 52) ^ 2 ≤ 2 ^ (mantissa.log2 + shift) := by
            rw [← pow_mul]
            exact Nat.pow_le_pow_right two_pos (by omega)
        _ = 2 ^ mantissa.log2 * 2 ^ shift := pow_add _ _ _
        _ ≤ mantissa * 2 ^ shift :=
            Nat.mul_le_mul_right _ (Nat.log2_self_le positive.ne')
  · have places : exponent = (shift : ℤ) + 2 * place := by omega
    have square' : ((Nat.sqrt radicand : ℕ) : ℚ) ^ 2 ≤ mantissa * 2 ^ shift := by
      rw [radicand_eq] at square ⊢
      exact_mod_cast square
    calc ((Nat.sqrt radicand : ℕ) * (2 : ℚ) ^ place) ^ 2 =
          ((Nat.sqrt radicand : ℕ) : ℚ) ^ 2 * (2 : ℚ) ^ (2 * place) := by
          rw [mul_pow, mul_comm 2 place, zpow_mul]
          rfl
      _ ≤ (mantissa * 2 ^ shift : ℚ) * 2 ^ (2 * place) := by gcongr
      _ = mantissa * 2 ^ exponent := by
          rw [places, zpow_add₀ two_ne_zero, zpow_natCast, mul_assoc]

/-- A power of two that is passed by some units is passed by one more. -/
theorem succ_mul_le_of_lt {digits place : ℕ} {last : ℤ} (someDigits : 0 < digits)
    (below : (digits : ℚ) * 2 ^ last < 2 ^ place) : ((digits : ℚ) + 1) * 2 ^ last ≤ 2 ^ place := by
  have unit : (0 : ℚ) < 2 ^ last := by positivity
  have one : (1 : ℚ) ≤ digits := by exact_mod_cast someDigits
  have lower : last < place := by
    have unitBelow : (2 : ℚ) ^ last < 2 ^ (place : ℤ) := by
      rw [zpow_natCast]
      exact (le_mul_of_one_le_left unit.le one).trans_lt below
    exact (zpow_lt_zpow_iff_right₀ one_lt_two).1 unitBelow
  obtain ⟨gap, gapEq⟩ := Int.le.dest lower.le
  have aligned : (2 : ℚ) ^ place = (2 ^ gap : ℕ) * 2 ^ last := by
    rw [← zpow_natCast, ← gapEq, zpow_add₀ two_ne_zero, zpow_natCast, mul_comm]
    push_cast
    rfl
  rw [aligned] at below ⊢
  have fewer : digits < 2 ^ gap := by exact_mod_cast lt_of_mul_lt_mul_right below unit.le
  gcongr
  exact_mod_cast Nat.succ_le_of_lt fewer

/-- What is left over from a root is less than a unit, so the root stays below the bound. -/
theorem exists_rounds_sqrt {mantissa place : ℕ} (positive : 0 < mantissa) (exponent : ℤ)
    (small : mantissa * 2 ^ exponent < size 1 place * size 1 place) :
    ∃ exact, |exact| ≤ size 1 place ∧
      Rounds exact
        (stored ((UnpackedFloat.finite .positive mantissa exponent positive).sqrt .binary64)) := by
  obtain ⟨digits, last, part, computed, less, precise, digitsPositive, square⟩ :=
    exists_sqrtCore positive exponent
  have rounds := precise.rounds less .positive
  have below : (digits : ℚ) * 2 ^ last < size 1 place := by
    rw [← sq] at small
    exact lt_of_pow_lt_pow_left₀ 2 (size_pos place).le (square.trans_lt small)
  have fraction : (part / (4 : ℕ) : ℚ) ≤ 1 := by
    rw [div_le_one (by norm_num)]
    exact_mod_cast less.le
  simp only [Sign.apply, Int.cast_one, one_mul] at rounds
  rw [UnpackedFloat.sqrt, computed]
  refine ⟨_, ?_, rounds⟩
  rw [size, Nat.cast_one, one_mul] at below ⊢
  rw [abs_of_nonneg (by positivity)]
  calc ((digits : ℚ) + part / (4 : ℕ)) * 2 ^ last ≤ (digits + 1) * 2 ^ last := by gcongr
    _ ≤ 2 ^ place := succ_mul_le_of_lt digitsPositive below

theorem Within.sqrt {number : Float} (finite : number.isFinite = true)
    (nonneg : 0 ≤ value number) {place : ℕ} (inRange : place ≤ 1019)
    (small : value number < size 1 place * size 1 place) : Within 1 place number.sqrt := by
  suffices rounds : ∃ exact, |exact| ≤ size 1 place ∧ Rounds exact number.sqrt.toModel.unpack by
    obtain ⟨exact, exactSmall, rounds⟩ := rounds
    exact rounds.within exactSmall (by norm_num) inRange
  rw [unpack_sqrt]
  rcases unpack_of_isFinite finite with ⟨sign, unpacked⟩ |
    ⟨sign, mantissa, exponent, positive, unpacked⟩
  · rw [unpacked]
    exact ⟨0, abs_zero.trans_le (size_pos place).le, rounds_zero sign⟩
  · have someSize : (0 : ℚ) < mantissa * 2 ^ exponent := by positivity
    rw [value_of_unpack unpacked] at nonneg small
    rw [unpacked]
    cases sign with
    | negative =>
        simp only [Sign.apply, Int.cast_neg, Int.cast_one, neg_one_mul] at nonneg
        linarith
    | positive =>
        simp only [Sign.apply, Int.cast_one, one_mul] at small
        exact exists_rounds_sqrt positive exponent small

/-- Numbers that differ have a difference: it is a whole number of the least units. -/
theorem value_sub_eq_zero_iff {left right : Float} (leftFinite : left.isFinite = true)
    (rightFinite : right.isFinite = true) (finite : (left - right).isFinite = true) :
    value (left - right) = 0 ↔ value left = value right := by
  have rounds := rounds_sub leftFinite rightFinite
  constructor
  · intro nothing
    by_contra different
    obtain ⟨count, countEq⟩ := (representable_value left).exists_int
    obtain ⟨otherCount, otherEq⟩ := (representable_value right).exists_int
    have unit := leastUnit_pos
    have apart : count ≠ otherCount := by
      rintro rfl
      exact different (countEq.trans otherEq.symm)
    have gap : value left - value right = (count - otherCount : ℤ) * leastUnit := by
      rw [countEq, otherEq]
      push_cast
      ring
    rcases apart.lt_or_gt with less | greater
    · have above := rounds.value_le finite representable_leastUnit.neg (by
        have one : ((count - otherCount : ℤ) : ℚ) ≤ -1 := by exact_mod_cast (by omega)
        rw [gap]
        nlinarith)
      linarith
    · have below := rounds.le_value finite representable_leastUnit (by
        have one : (1 : ℚ) ≤ (count - otherCount : ℤ) := by exact_mod_cast (by omega)
        rw [gap]
        nlinarith)
      linarith
  · intro same
    rw [same, sub_self] at rounds
    exact le_antisymm (rounds.value_le finite representable_zero le_rfl)
      (rounds.le_value finite representable_zero le_rfl)

/-! ### Bounds on results -/

section

variable {left right : Float} {count other place higher : ℕ}

theorem Within.mul (leftWithin : Within count place left) (rightWithin : Within other higher right)
    (few : count * other < 32) (inRange : place + higher ≤ 1019) :
    Within (count * other) (place + higher) (left * right) := by
  apply (rounds_mul leftWithin.isFinite rightWithin.isFinite).within _ few inRange
  rw [abs_mul, ← size_mul]
  exact mul_le_mul leftWithin.bounded rightWithin.bounded (abs_nonneg _)
    ((abs_nonneg _).trans leftWithin.bounded)

theorem Within.add (leftWithin : Within count place left) (rightWithin : Within other place right)
    (few : count + other < 32) (inRange : place ≤ 1019) :
    Within (count + other) place (left + right) := by
  apply (rounds_add leftWithin.isFinite rightWithin.isFinite).within _ few inRange
  rw [← size_add]
  exact (abs_add_le _ _).trans (add_le_add leftWithin.bounded rightWithin.bounded)

theorem Within.sub (leftWithin : Within count place left) (rightWithin : Within other place right)
    (few : count + other < 32) (inRange : place ≤ 1019) :
    Within (count + other) place (left - right) := by
  apply (rounds_sub leftWithin.isFinite rightWithin.isFinite).within _ few inRange
  rw [← size_add]
  exact (abs_sub _ _).trans (add_le_add leftWithin.bounded rightWithin.bounded)

theorem Within.div (higher : ℕ) (leftWithin : Within count (place + higher) left)
    (rightFinite : right.isFinite = true) (large : size 1 higher ≤ value right)
    (few : count < 32) (inRange : place ≤ 1019) : Within count place (left / right) := by
  have positive : 0 < value right := (size_pos higher).trans_le large
  apply (rounds_div leftWithin.isFinite rightFinite positive.ne').within _ few inRange
  rw [abs_div, abs_of_pos positive, div_le_iff₀ positive]
  calc |value left| ≤ size count (place + higher) := leftWithin.bounded
    _ = size count place * size 1 higher := by rw [size_mul, Nat.mul_one]
    _ ≤ size count place * value right :=
        mul_le_mul_of_nonneg_left large (mul_nonneg (Nat.cast_nonneg _) (by positivity))

end

end Binary64

end DeltaRobot
