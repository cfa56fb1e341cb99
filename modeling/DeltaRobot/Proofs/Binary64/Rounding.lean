import DeltaRobot.Scalar.Binary64
import Mathlib

/-!
Contract: which exact results binary64 arithmetic keeps.

An operation works out a significand, an exponent and what is left over, drops digits until 53 are
left or the least exponent is reached, and rounds to the nearest, to the even one of two. It then
packs the result into 64 bits, where a large exponent makes it an infinity. `Survives` says for
which sizes the result is neither zero nor an infinity; `properSign_round_iff` proves it of the
steps that the operations are made of.

Owns: rounding and packing of one exact result.
Does not own: any operation, and how far a result is rounded.
-/

namespace DeltaRobot

namespace Binary64

open Float.Model Float.Model.UnpackedFloat

/-! ### Round bit and sticky bit -/

/-- A significand and the two bits behind it stand for an exact number: the first bit is worth a
half, and the second says whether there is anything below that. -/
def Describes (kept : ExtendedMantissa) (exact : ℚ) : Prop :=
  ∃ rest : ℚ, 0 ≤ rest ∧ rest < 1 ∧ (kept.stickyBit = true ↔ rest ≠ 0) ∧
    exact = kept.mantissa + (kept.roundBit.toNat + rest) / 2

theorem describes_of_fraction (mantissa : ℕ) {part whole : ℕ} (less : part < whole) :
    Describes (.ofMantissaAndAccuracy mantissa (accuracyOfFraction part whole))
      (mantissa + part / whole) := by
  have positive : (0 : ℚ) < whole := by exact_mod_cast Nat.zero_lt_of_lt less
  rw [accuracyOfFraction]
  split_ifs with nothing
  · exact ⟨0, le_rfl, one_pos, by simp [ExtendedMantissa.ofMantissaAndAccuracy], by
      simp [ExtendedMantissa.ofMantissaAndAccuracy, nothing]⟩
  · have something : (part : ℚ) ≠ 0 := by exact_mod_cast nothing
    cases compared : compare (2 * part) whole with
    | lt =>
        have below : (2 * part : ℚ) < whole := by
          exact_mod_cast Nat.compare_eq_lt.1 compared
        refine ⟨2 * part / whole, by positivity, (div_lt_one positive).2 below, ?_, ?_⟩
        · simp [ExtendedMantissa.ofMantissaAndAccuracy, something, positive.ne']
        · simp only [ExtendedMantissa.ofMantissaAndAccuracy, Bool.toNat_false]
          push_cast
          ring
    | eq =>
        have half : (2 * part : ℚ) = whole := by
          exact_mod_cast Nat.compare_eq_eq.1 compared
        refine ⟨0, le_rfl, one_pos, by simp [ExtendedMantissa.ofMantissaAndAccuracy], ?_⟩
        simp only [ExtendedMantissa.ofMantissaAndAccuracy, Bool.toNat_true]
        rw [← half]
        field_simp
        norm_num
    | gt =>
        have above : (whole : ℚ) < 2 * part := by
          exact_mod_cast Nat.compare_eq_gt.1 compared
        have less' : (part : ℚ) < whole := by exact_mod_cast less
        refine ⟨(2 * part - whole) / whole, ?_, ?_, ?_, ?_⟩
        · exact div_nonneg (by linarith) positive.le
        · rw [div_lt_one positive]
          linarith
        · simp [ExtendedMantissa.ofMantissaAndAccuracy, positive.ne', (sub_pos.2 above).ne']
        · simp only [ExtendedMantissa.ofMantissaAndAccuracy, Bool.toNat_true]
          field_simp
          push_cast
          ring

theorem Describes.shiftRightOne {kept : ExtendedMantissa} {exact : ℚ}
    (describes : Describes kept exact) : Describes kept.shiftRightOne (exact / 2) := by
  obtain ⟨rest, nonneg, small, sticky_iff, sum⟩ := describes
  have halves : (kept.mantissa : ℚ) = 2 * (kept.mantissa / 2 : ℕ) + (kept.mantissa % 2 : ℕ) := by
    exact_mod_cast (Nat.div_add_mod kept.mantissa 2).symm
  have lastBit : (kept.mantissa % 2 != 0).toNat = kept.mantissa % 2 := by
    rcases Nat.mod_two_eq_zero_or_one kept.mantissa with even | odd
    · simp [even]
    · simp [odd]
  have bit : kept.roundBit.toNat ≤ (1 : ℚ) := by exact_mod_cast Bool.toNat_le _
  refine ⟨(kept.roundBit.toNat + rest) / 2, by positivity, by linarith, ?_, ?_⟩
  · cases round : kept.roundBit with
    | false => simp [ExtendedMantissa.shiftRightOne, round, sticky_iff]
    | true =>
        have positive : (1 + rest) / 2 ≠ 0 := by positivity
        simpa [ExtendedMantissa.shiftRightOne, round] using positive
  · simp only [ExtendedMantissa.shiftRightOne, lastBit]
    rw [sum, halves]
    ring

theorem Describes.shiftRight {kept : ExtendedMantissa} {exact : ℚ}
    (describes : Describes kept exact) (places : ℕ) :
    Describes (kept >>> places) (exact / 2 ^ places) := by
  induction places with
  | zero =>
      rw [pow_zero, div_one]
      exact describes
  | succ places inductionHypothesis =>
      rw [pow_succ, ← div_div]
      exact inductionHypothesis.shiftRightOne

/-! ### The nearest significand -/

/-- A natural number is nearest to an exact one, and the even of two if there are two. -/
structure Nearest (exact : ℚ) (rounded : ℕ) : Prop where
  close : |exact - rounded| ≤ 1 / 2
  even : |exact - rounded| = 1 / 2 → Even rounded

theorem Describes.nearest {kept : ExtendedMantissa} {exact : ℚ}
    (describes : Describes kept exact) : Nearest exact kept.roundedMantissa := by
  obtain ⟨rest, nonneg, small, sticky_iff, rfl⟩ := describes
  obtain ⟨mantissa, round, sticky⟩ := kept
  cases round with
  | false =>
      -- The significand stays, and is less than a half away.
      have stays : (ExtendedMantissa.mk mantissa false sticky).roundedMantissa = mantissa := by
        cases sticky <;> rfl
      rw [stays]
      have distance : |mantissa + ((false.toNat : ℚ) + rest) / 2 - mantissa| = rest / 2 := by
        rw [Bool.toNat_false, Nat.cast_zero, zero_add, add_sub_cancel_left,
          abs_of_nonneg (by linarith)]
      refine ⟨?_, fun tie => ?_⟩
      · dsimp only
        linarith
      · dsimp only at tie
        linarith
  | true =>
      cases sticky with
      | false =>
          -- Halfway between two significands the last bit decides.
          have halfway : rest = 0 := by simpa using sticky_iff
          have parity : Even (mantissa + mantissa % 2) := by
            rw [Nat.even_iff]
            omega
          refine ⟨?_, fun _ => parity⟩
          change |mantissa + ((true.toNat : ℚ) + rest) / 2 - (mantissa + mantissa % 2 : ℕ)| ≤ 1 / 2
          rw [halfway]
          rcases Nat.mod_two_eq_zero_or_one mantissa with even | odd
          · rw [even]
            norm_num
          · rw [odd]
            norm_num [abs_le]
      | true =>
          have positive : 0 < rest := lt_of_le_of_ne nonneg (Ne.symm (by simpa using sticky_iff))
          have distance : |mantissa + ((true.toNat : ℚ) + rest) / 2 - (mantissa + 1 : ℕ)| =
              (1 - rest) / 2 := by
            rw [abs_of_nonpos]
            · push_cast [Bool.toNat_true]
              ring
            · push_cast [Bool.toNat_true]
              linarith
          change Nearest _ (mantissa + 1)
          constructor
          · dsimp only
            rw [distance]
            linarith
          · intro tie
            dsimp only at tie
            rw [distance] at tie
            linarith

namespace Nearest

variable {exact : ℚ} {rounded bound : ℕ}

theorem bounds (nearest : Nearest exact rounded) :
    exact - 1 / 2 ≤ rounded ∧ (rounded : ℚ) ≤ exact + 1 / 2 := by
  obtain ⟨low, high⟩ := abs_le.1 nearest.close
  constructor <;> linarith

theorem even_of_tie (nearest : Nearest exact rounded)
    (tie : exact = rounded - 1 / 2 ∨ exact = rounded + 1 / 2) : Even rounded := by
  apply nearest.even
  rcases tie with rfl | rfl
  · rw [sub_sub_cancel_left, abs_neg, abs_of_pos one_half_pos]
  · rw [add_sub_cancel_left, abs_of_pos one_half_pos]

theorem even_le_iff (nearest : Nearest exact rounded) (even : Even bound) :
    bound ≤ rounded ↔ (bound : ℚ) - 1 / 2 ≤ exact := by
  obtain ⟨low, high⟩ := nearest.bounds
  constructor
  · intro above
    have above' : (bound : ℚ) ≤ rounded := by exact_mod_cast above
    linarith
  · intro near
    apply Nat.le_of_not_lt
    intro below
    have below' : (rounded : ℚ) + 1 ≤ bound := by exact_mod_cast below
    have tie : exact = rounded + 1 / 2 := by linarith
    have next : rounded + 1 = bound := by
      have : (rounded : ℚ) + 1 = bound := by linarith
      exact_mod_cast this
    rw [← next, Nat.even_add_one] at even
    exact even (nearest.even_of_tie (.inr tie))

theorem odd_le_iff (nearest : Nearest exact rounded) (odd : Odd bound) :
    bound ≤ rounded ↔ (bound : ℚ) - 1 / 2 < exact := by
  obtain ⟨low, high⟩ := nearest.bounds
  constructor
  · intro above
    have above' : (bound : ℚ) ≤ rounded := by exact_mod_cast above
    refine lt_of_le_of_ne (by linarith) (fun tie => ?_)
    have same : rounded = bound := by
      have : (rounded : ℚ) = bound := by linarith
      exact_mod_cast this
    rw [← same] at tie odd
    exact Nat.not_even_iff_odd.2 odd (nearest.even_of_tie (.inl tie.symm))
  · intro near
    apply Nat.le_of_not_lt
    intro below
    have below' : (rounded : ℚ) + 1 ≤ bound := by exact_mod_cast below
    linarith

end Nearest

/-! ### Rounding to 53 bits -/

/-- The exponent of the last place that is kept of `mantissa * 2 ^ exponent`. -/
def lastPlace (mantissa : ℕ) (exponent : ℤ) : ℤ :=
  max (mantissa.log2 + 1 + exponent - 53) (-1074)

theorem shiftToTargetExponent_eq (mantissa : ℕ) (exponent : ℤ) (accuracy : Accuracy) :
    shiftToTargetExponent .binary64 mantissa exponent accuracy =
      (ExtendedMantissa.ofMantissaAndAccuracy mantissa accuracy >>>
          (lastPlace mantissa exponent - exponent).toNat,
        exponent + (lastPlace mantissa exponent - exponent).toNat) := by
  rfl

theorem lastPlace_le_of_lt {mantissa : ℕ} {exponent : ℤ} (small : mantissa < 2 ^ 53)
    (least : -1074 ≤ exponent) : lastPlace mantissa exponent ≤ exponent := by
  have few : mantissa.log2 ≤ 52 := by
    rcases Nat.eq_zero_or_pos mantissa with rfl | positive
    · simp
    · exact Nat.lt_succ_iff.1 ((Nat.log2_lt positive.ne').2 small)
  rw [lastPlace]
  omega

/-- There are digits enough that rounding only ever drops some. -/
def Precise (mantissa : ℕ) (exponent : ℤ) : Prop :=
  2 ^ 52 ≤ mantissa ∨ exponent ≤ -1074

theorem Precise.le_lastPlace {mantissa : ℕ} {exponent : ℤ} (precise : Precise mantissa exponent) :
    exponent ≤ lastPlace mantissa exponent := by
  rw [lastPlace]
  rcases precise with long | low
  · have many : 52 ≤ mantissa.log2 := (Nat.le_log2 (by omega)).2 long
    omega
  · omega

/-- An exact result, counted in units of its last place. -/
def units (mantissa : ℕ) (exponent : ℤ) (fraction : ℚ) : ℚ :=
  (mantissa + fraction) / 2 ^ (lastPlace mantissa exponent - exponent).toNat

section

variable {mantissa : ℕ} {exponent : ℤ} {fraction : ℚ}

theorem Precise.units_mul (precise : Precise mantissa exponent) (fraction : ℚ) :
    units mantissa exponent fraction * 2 ^ lastPlace mantissa exponent =
      (mantissa + fraction) * 2 ^ exponent := by
  have dropped := precise.le_lastPlace
  have places : lastPlace mantissa exponent =
      ((lastPlace mantissa exponent - exponent).toNat : ℤ) + exponent := by omega
  rw [units, div_mul_eq_mul_div, div_eq_iff (by positivity)]
  nth_rewrite 1 [places]
  rw [zpow_add₀ two_ne_zero, zpow_natCast]
  ring

theorem Precise.units_lt (precise : Precise mantissa exponent) (small : fraction < 1) :
    units mantissa exponent fraction < 2 ^ 53 := by
  have places : mantissa.log2 + 1 ≤ 53 + (lastPlace mantissa exponent - exponent).toNat := by
    have dropped := precise.le_lastPlace
    rw [lastPlace] at dropped ⊢
    omega
  have digits : mantissa + 1 ≤ 2 ^ (53 + (lastPlace mantissa exponent - exponent).toNat) :=
    Nat.lt_log2_self.trans_le (Nat.pow_le_pow_right two_pos places)
  have digits' : (mantissa + 1 : ℚ) ≤
      2 ^ 53 * 2 ^ (lastPlace mantissa exponent - exponent).toNat := by
    rw [← pow_add]
    exact_mod_cast digits
  rw [units, div_lt_iff₀ (by positivity)]
  linarith

/-- Above the least exponent all 53 bits are in use. -/
theorem Precise.le_units (precise : Precise mantissa exponent) (nonneg : 0 ≤ fraction)
    (above : -1074 < lastPlace mantissa exponent) :
    2 ^ 52 ≤ units mantissa exponent fraction := by
  have dropped := precise.le_lastPlace
  have something : mantissa ≠ 0 := by
    rintro rfl
    rcases precise with long | low
    · omega
    · rw [lastPlace, Nat.log2_zero] at above
      omega
  have places : 52 + (lastPlace mantissa exponent - exponent).toNat = mantissa.log2 := by
    rw [lastPlace] at above dropped ⊢
    omega
  have digits : 2 ^ (52 + (lastPlace mantissa exponent - exponent).toNat) ≤ mantissa := by
    rw [places]
    exact Nat.log2_self_le something
  have digits' : (2 : ℚ) ^ 52 * 2 ^ (lastPlace mantissa exponent - exponent).toNat ≤ mantissa := by
    rw [← pow_add]
    exact_mod_cast digits
  rw [units, le_div_iff₀ (by positivity)]
  linarith

end

/-- `significand * 2 ^ place` with a sign, zero if there is nothing in the significand. -/
def ofSignificand (sign : Sign) (significand : ℕ) (place : ℤ) : UnpackedFloat :=
  if empty : significand = 0 then .zero sign
  else .finite sign significand place (Nat.pos_of_ne_zero empty)

/-- A rounded significand with its last place, one place up if rounding gained a bit. -/
def renormalise (sign : Sign) (rounded : ℕ) (place : ℤ) : UnpackedFloat :=
  let shifted := shiftToTargetExponent .binary64 rounded place .exact
  ofSignificand sign shifted.1.mantissa shifted.2

theorem renormalise_of_lt (sign : Sign) {rounded : ℕ} {place : ℤ} (small : rounded < 2 ^ 53)
    (least : -1074 ≤ place) :
    renormalise sign rounded place = ofSignificand sign rounded place := by
  have noShift : (lastPlace rounded place - place).toNat = 0 := by
    have := lastPlace_le_of_lt small least
    omega
  rw [renormalise, shiftToTargetExponent_eq, noShift, Nat.cast_zero, add_zero]
  rfl

theorem renormalise_carry (sign : Sign) {place : ℤ} (least : -1074 ≤ place) :
    renormalise sign (2 ^ 53) place = ofSignificand sign (2 ^ 52) (place + 1) := by
  have oneShift : (lastPlace (2 ^ 53) place - place).toNat = 1 := by
    rw [lastPlace, Nat.log2_two_pow]
    omega
  rw [renormalise, shiftToTargetExponent_eq, oneShift, Nat.cast_one]
  rfl

/-- A result that has digits enough is rounded to the nearest of its last place. -/
theorem Precise.exists_nearest {mantissa part whole : ℕ} {exponent : ℤ}
    (precise : Precise mantissa exponent) (less : part < whole) (sign : Sign) :
    ∃ rounded, Nearest (units mantissa exponent (part / whole)) rounded ∧
      roundWithAccuracy .binary64 sign mantissa exponent (accuracyOfFraction part whole) =
        renormalise sign rounded (lastPlace mantissa exponent) := by
  have dropped : exponent + (lastPlace mantissa exponent - exponent).toNat =
      lastPlace mantissa exponent := by
    have := precise.le_lastPlace
    omega
  refine ⟨_, ((describes_of_fraction mantissa less).shiftRight _).nearest, ?_⟩
  rw [← dropped, add_sub_cancel_left, Int.toNat_natCast]
  rfl

/-! ### Sizes that survive -/

/-- A positive number of this size is rounded neither to zero nor to infinity. -/
def Survives (size : ℚ) : Prop :=
  2 ^ (-1075 : ℤ) < size ∧ size < 2 ^ (1024 : ℤ) - 2 ^ (970 : ℤ)

theorem half_lt_scaled_iff {scaled : ℚ} {place : ℤ} (least : -1074 ≤ place)
    (long : -1074 < place → 2 ^ 52 ≤ scaled) :
    2 ^ (-1075 : ℤ) < scaled * 2 ^ place ↔ 1 / 2 < scaled := by
  have unit : (0 : ℚ) < 2 ^ place := by positivity
  rcases least.eq_or_lt with rfl | above
  · have half : (2 : ℚ) ^ (-1075 : ℤ) = 1 / 2 * 2 ^ (-1074 : ℤ) := by
      rw [show (-1075 : ℤ) = -1074 - 1 by norm_num, zpow_sub_one₀ two_ne_zero]
      ring
    rw [half, mul_lt_mul_iff_left₀ unit]
  · have large := long above
    have below : (2 : ℚ) ^ (-1075 : ℤ) < 2 ^ place := zpow_lt_zpow_right₀ one_lt_two (by omega)
    refine iff_of_true (below.trans_le (le_mul_of_one_le_left unit.le ?_)) ?_
    · linarith
    · linarith

theorem scaled_lt_iff {scaled : ℚ} {place : ℤ} (least : -1074 ≤ place)
    (small : scaled < 2 ^ 53) (long : -1074 < place → 2 ^ 52 ≤ scaled) :
    scaled * 2 ^ place < 2 ^ (1024 : ℤ) - 2 ^ (970 : ℤ) ↔
      place ≤ 970 ∨ place = 971 ∧ scaled < 2 ^ 53 - 1 / 2 := by
  have unit : (0 : ℚ) < 2 ^ place := by positivity
  have top : (2 : ℚ) ^ (1024 : ℤ) = 2 ^ 53 * 2 ^ (971 : ℤ) := by
    rw [show (1024 : ℤ) = 53 + 971 by norm_num, zpow_add₀ two_ne_zero]
    rfl
  have half : (2 : ℚ) ^ (970 : ℤ) = 1 / 2 * 2 ^ (971 : ℤ) := by
    rw [show (970 : ℤ) = 971 - 1 by norm_num, zpow_sub_one₀ two_ne_zero]
    ring
  have tiny : (0 : ℚ) < 2 ^ (971 : ℤ) := by positivity
  rw [top, half, ← sub_mul]
  rcases lt_trichotomy place 971 with low | rfl | high
  · have fits : (2 : ℚ) ^ place ≤ 2 ^ (970 : ℤ) := zpow_le_zpow_right₀ one_le_two (by omega)
    refine iff_of_true ?_ (.inl (by omega))
    calc scaled * 2 ^ place < 2 ^ 53 * 2 ^ place := by gcongr
      _ ≤ 2 ^ 53 * 2 ^ (970 : ℤ) := by gcongr
      _ ≤ _ := by
        rw [half, ← mul_assoc]
        gcongr
        norm_num
  · rw [mul_lt_mul_iff_left₀ unit]
    simp
  · have large := long (by omega)
    have beyond : (2 : ℚ) ^ (972 : ℤ) ≤ 2 ^ place := zpow_le_zpow_right₀ one_le_two (by omega)
    have double : (2 : ℚ) ^ (972 : ℤ) = 2 * 2 ^ (971 : ℤ) := by
      rw [show (972 : ℤ) = 971 + 1 by norm_num, zpow_add_one₀ two_ne_zero]
      ring
    refine iff_of_false (not_lt.2 ?_) (by omega)
    calc (2 ^ 53 - 1 / 2) * (2 : ℚ) ^ (971 : ℤ) ≤ 2 ^ 52 * 2 ^ (972 : ℤ) := by
          rw [double, ← mul_assoc]
          gcongr
          norm_num
      _ ≤ scaled * 2 ^ place := by gcongr

/-! ### Packing -/

def properSign : UnpackedFloat → Option Sign
  | .finite sign _ _ _ => some sign
  | _ => none

theorem unpackSign_packComponents (sign : Sign) (exponent : BitVec 11) (mantissa : BitVec 52) :
    Sign.ofBitVec (unpackSign (packComponents .binary64 sign exponent mantissa)) = sign := by
  rw [unpackSign, packComponents, BitVec.extractLsb, BitVec.extractLsb'_append_eq_of_le (by decide),
    BitVec.extractLsb'_append_eq_of_le (by decide)]
  cases sign <;> rfl

/-- The greatest exponent is that of the infinities, and the least with no significand that of the
zeros. -/
theorem properSign_unpack_packComponents (sign : Sign) (exponent : BitVec 11)
    (mantissa : BitVec 52) :
    properSign (UnpackedFloat.unpack .binary64 (packComponents .binary64 sign exponent mantissa)) =
      if exponent.toNat = 2047 ∨ exponent.toNat = 0 ∧ mantissa.toNat = 0 then none
      else some sign := by
  have full : exponent.toNat = 2047 ↔ exponent = -1#11 := BitVec.toNat_inj (y := -1#11)
  have least : exponent.toNat = 0 ↔ exponent = 0#11 := BitVec.toNat_inj (y := 0#11)
  have nothing : mantissa.toNat = 0 ↔ mantissa = 0#52 := BitVec.toNat_inj (y := 0#52)
  simp only [full, least, nothing]
  unfold UnpackedFloat.unpack
  simp only [unpackExponent_packComponents, unpackMantissa_packComponents,
    unpackSign_packComponents]
  split_ifs <;> simp_all [properSign]

theorem pack_finite (sign : Sign) {significand : ℕ} (place : ℤ) (positive : 0 < significand) :
    UnpackedFloat.pack .binary64 (.finite sign significand place positive) =
      if 2 ^ 11 ≤ (place + 1075).toNat + 1 then packedInfinity .binary64 sign
      else if significand.log2 + 1 = 53 then
        packComponents .binary64 sign (BitVec.ofNat 11 (place + 1075).toNat)
          (BitVec.ofNat 52 significand)
      else packComponents .binary64 sign (0#11) (BitVec.ofNat 52 significand) := by
  have biased : place + Format.binary64.exponentBias + Format.binary64.mantissaBitsWithoutImplicit =
      place + 1075 := by
    change place + 1023 + 52 = place + 1075
    omega
  rw [UnpackedFloat.pack, biased]
  rfl

theorem properSign_unpack_pack {sign : Sign} {significand : ℕ} {place : ℤ}
    (small : significand < 2 ^ 53) (least : -1074 ≤ place) :
    properSign (UnpackedFloat.unpack .binary64
        (UnpackedFloat.pack .binary64 (ofSignificand sign significand place))) =
      if 0 < significand ∧ place ≤ 971 then some sign else none := by
  rw [ofSignificand]
  split_ifs with empty kept kept
  · omega
  · rw [UnpackedFloat.pack, packedZero, properSign_unpack_packComponents]
    simp
  · rw [pack_finite, if_neg (by omega)]
    split_ifs with normal
    · rw [properSign_unpack_packComponents, if_neg]
      rw [BitVec.toNat_ofNat, Nat.mod_eq_of_lt (by omega)]
      omega
    · have few : significand < 2 ^ 52 := by
        have digits := (Nat.log2_lt empty).2 small
        exact (Nat.log2_lt empty).1 (by omega)
      rw [properSign_unpack_packComponents, if_neg]
      simp only [BitVec.toNat_ofNat, Nat.mod_eq_of_lt few]
      omega
  · rw [pack_finite, if_pos (by omega), packedInfinity, properSign_unpack_packComponents,
      if_pos (.inl rfl)]

theorem properSign_renormalise_iff {sign other : Sign} {rounded : ℕ} {place : ℤ}
    (atMost : rounded ≤ 2 ^ 53) (least : -1074 ≤ place) :
    properSign (UnpackedFloat.unpack .binary64
        (UnpackedFloat.pack .binary64 (renormalise sign rounded place))) = some other ↔
      sign = other ∧ 0 < rounded ∧ (place ≤ 970 ∨ place = 971 ∧ rounded < 2 ^ 53) := by
  rcases atMost.lt_or_eq with small | rfl
  · rw [renormalise_of_lt sign small least, properSign_unpack_pack small least]
    split_ifs with kept
    · rw [Option.some_inj, iff_self_and]
      intro _
      omega
    · rw [iff_false_left nofun]
      omega
  · rw [renormalise_carry sign least, properSign_unpack_pack (by norm_num) (by omega)]
    split_ifs with kept
    · rw [Option.some_inj, iff_self_and]
      intro _
      omega
    · rw [iff_false_left nofun]
      omega

/-- A rounded and packed result keeps its sign if its size survives. -/
theorem properSign_round_iff {sign other : Sign} {mantissa part whole : ℕ} {exponent : ℤ}
    (precise : Precise mantissa exponent) (less : part < whole) :
    properSign (UnpackedFloat.unpack .binary64 (UnpackedFloat.pack .binary64
        (roundWithAccuracy .binary64 sign mantissa exponent (accuracyOfFraction part whole)))) =
      some other ↔ sign = other ∧ Survives ((mantissa + part / whole) * 2 ^ exponent) := by
  obtain ⟨rounded, nearest, isRounded⟩ := precise.exists_nearest less sign
  have least : -1074 ≤ lastPlace mantissa exponent := le_max_right _ _
  have nonneg : (0 : ℚ) ≤ part / whole := by positivity
  have fraction : (part / whole : ℚ) < 1 := by
    have positive : (0 : ℚ) < whole := by exact_mod_cast Nat.zero_lt_of_lt less
    exact (div_lt_one positive).2 (by exact_mod_cast less)
  have small := precise.units_lt fraction
  have long := precise.le_units nonneg
  have atMost : rounded ≤ 2 ^ 53 := by
    have bounded : (rounded : ℚ) < 2 ^ 53 + 1 := by linarith [nearest.bounds.2]
    exact Nat.lt_succ_iff.1 (by exact_mod_cast bounded)
  have notLost : 0 < rounded ↔ 1 / 2 < units mantissa exponent (part / whole) := by
    have one := nearest.odd_le_iff odd_one
    rw [Nat.one_le_iff_ne_zero, ← Nat.pos_iff_ne_zero] at one
    rw [one]
    norm_num
  have notCarried : rounded < 2 ^ 53 ↔
      units mantissa exponent (part / whole) < 2 ^ 53 - 1 / 2 := by
    rw [← not_le, nearest.even_le_iff (by decide), not_le]
    norm_num
  rw [isRounded, properSign_renormalise_iff atMost least, notLost, notCarried,
    ← precise.units_mul, Survives, half_lt_scaled_iff least long, scaled_lt_iff least small long]

end Binary64

end DeltaRobot
