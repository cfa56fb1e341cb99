import DeltaRobot.Proofs.Binary64.Arithmetic

/-!
Contract: how large the results of binary64 arithmetic are.

The exact value of a finite number is a rational number with few binary digits. An operation on
finite numbers works out an exact result and rounds it. What rounding does to the size is `Rounds`:
the result is finite unless the exact one is too large, and it never passes a number that needs no
rounding. So any bound of that kind on the exact result is one on the rounded result.

Owns: exact values, and what rounding does to them in each operation.
Does not own: how far a result is from the exact one.
-/

namespace DeltaRobot

namespace Binary64

open Float.Model Float.Model.UnpackedFloat

/-! ### Exact values -/

/-- The exact value of a finite number, and zero for the others. -/
def exactValue : UnpackedFloat → ℚ
  | .finite sign mantissa exponent _ => sign.apply mantissa * 2 ^ exponent
  | .zero _ => 0
  | .infinity _ => 0
  | .notANumber => 0

def value (number : Float) : ℚ :=
  exactValue number.toModel.unpack

/-- The fields of a finite number: at most 53 bits, and all of them in use above the least
exponent. -/
structure Fits (mantissa : ℕ) (exponent : ℤ) : Prop where
  small : mantissa < 2 ^ 53
  least : -1074 ≤ exponent
  greatest : exponent ≤ 971
  long : -1074 < exponent → 2 ^ 52 ≤ mantissa

theorem fits_of_unpack {number : Float} {sign : Sign} {mantissa : ℕ} {exponent : ℤ}
    {positive : 0 < mantissa}
    (unpacked : number.toModel.unpack = .finite sign mantissa exponent positive) :
    Fits mantissa exponent := by
  have fraction := Nat.mod_lt number.toModel.toBits.toBitVec.toNat (Nat.two_pow_pos 52)
  have field := Nat.mod_lt (number.toModel.toBits.toBitVec.toNat / 2 ^ 52) (Nat.two_pow_pos 11)
  rcases (bits_of_unpack unpacked).2 with ⟨-, rfl, rfl⟩ | ⟨some, notFull, rfl, rfl⟩
  · exact ⟨by omega, le_rfl, by omega, fun above => absurd above (lt_irrefl _)⟩
  · exact ⟨by omega, by omega, by omega, fun _ => Nat.le_add_left _ _⟩

/-! ### Packing -/

theorem unpack_packComponents (sign : Sign) (exponent : BitVec 11) (mantissa : BitVec 52) :
    UnpackedFloat.unpack .binary64 (packComponents .binary64 sign exponent mantissa) =
      if exponent = -1#11 then if mantissa = 0#52 then .infinity sign else .notANumber
      else if exponent = 0#11 then ofSignificand sign mantissa.toNat (-1074)
      else ofSignificand sign (mantissa.toNat + 2 ^ 52) (exponent.toNat - 1075) := by
  unfold UnpackedFloat.unpack
  simp only [unpackExponent_packComponents, unpackMantissa_packComponents,
    unpackSign_packComponents]
  split_ifs with full empty least nothing
  · rfl
  · rfl
  · rw [nothing]
    rfl
  · have something : mantissa.toNat ≠ 0 := fun none => nothing (BitVec.eq_of_toNat_eq none)
    rw [ofSignificand, dif_neg something, least]
    rfl
  · have something : mantissa.toNat + 2 ^ 52 ≠ 0 := by omega
    rw [ofSignificand, dif_neg something]
    congr 1
    exact toNat_one_append mantissa

section

variable {place : ℤ}

theorem toNat_exponentField (inRange : place ≤ 971) :
    (BitVec.ofNat 11 (place + 1075).toNat).toNat = (place + 1075).toNat := by
  rw [BitVec.toNat_ofNat, Nat.mod_eq_of_lt (by omega)]

theorem exponentField_ne_full (inRange : place ≤ 971) :
    BitVec.ofNat 11 (place + 1075).toNat ≠ -1#11 := by
  intro full
  have field := toNat_exponentField inRange
  rw [full] at field
  change 2047 = _ at field
  omega

theorem exponentField_ne_zero (least : -1074 ≤ place) (inRange : place ≤ 971) :
    BitVec.ofNat 11 (place + 1075).toNat ≠ 0#11 := by
  intro empty
  have field := toNat_exponentField inRange
  rw [empty] at field
  change 0 = _ at field
  omega

end

/-- A result as it is read back from the 64 bits that it was packed into. -/
def stored (unpacked : UnpackedFloat) : UnpackedFloat :=
  UnpackedFloat.unpack .binary64 (UnpackedFloat.pack .binary64 unpacked)

theorem stored_zero (sign : Sign) : stored (.zero sign) = .zero sign := by
  cases sign <;> rfl

theorem Fits.stored_eq {significand : ℕ} {place : ℤ} (fits : Fits significand place)
    (sign : Sign) :
    stored (ofSignificand sign significand place) = ofSignificand sign significand place := by
  obtain ⟨small, least, greatest, long⟩ := fits
  rw [ofSignificand]
  split_ifs with empty
  · exact stored_zero sign
  · rw [stored, pack_finite, if_neg (by omega)]
    split_ifs with normal
    · -- The leading bit is in use, and is left out.
      have many : 2 ^ 52 ≤ significand := (Nat.le_log2 empty).1 (by omega)
      rw [unpack_packComponents, if_neg (exponentField_ne_full greatest),
        if_neg (exponentField_ne_zero least greatest), toNat_exponentField greatest,
        BitVec.toNat_ofNat, show significand % 2 ^ 52 + 2 ^ 52 = significand by omega,
        show ((place + 1075).toNat - 1075 : ℤ) = place by omega, ofSignificand, dif_neg empty]
    · have few : significand < 2 ^ 52 := by
        have digits := (Nat.log2_lt empty).2 small
        exact (Nat.log2_lt empty).1 (by omega)
      have bottom : place = -1074 := by
        by_contra above
        have := long (by omega)
        omega
      rw [unpack_packComponents, if_neg (by decide), if_pos rfl, BitVec.toNat_ofNat,
        Nat.mod_eq_of_lt few, bottom, ofSignificand, dif_neg empty]

theorem stored_of_overflow (sign : Sign) {significand : ℕ} {place : ℤ}
    (positive : 0 < significand) (overflow : 971 < place) :
    stored (ofSignificand sign significand place) = .infinity sign := by
  rw [stored, ofSignificand, dif_neg positive.ne', pack_finite, if_pos (by omega), packedInfinity,
    unpack_packComponents]
  rfl

@[simp]
theorem isFinite_ofSignificand (sign : Sign) (significand : ℕ) (place : ℤ) :
    (ofSignificand sign significand place).isFinite = true := by
  rw [ofSignificand]
  split_ifs
  · rfl
  · rfl

@[simp]
theorem exactValue_ofSignificand (sign : Sign) (significand : ℕ) (place : ℤ) :
    exactValue (ofSignificand sign significand place) = sign.apply significand * 2 ^ place := by
  rw [ofSignificand]
  split_ifs with empty
  · rw [empty]
    cases sign <;> simp [exactValue, Sign.apply]
  · rfl

/-- A rounded significand in its place is packed without a loss, or overflows. -/
theorem stored_renormalise (sign : Sign) {rounded : ℕ} {place : ℤ} (atMost : rounded ≤ 2 ^ 53)
    (least : -1074 ≤ place) (long : -1074 < place → 2 ^ 52 ≤ rounded) :
    ((stored (renormalise sign rounded place)).isFinite = true ↔
      place ≤ 970 ∨ place = 971 ∧ rounded < 2 ^ 53) ∧
    ((stored (renormalise sign rounded place)).isFinite = true →
      exactValue (stored (renormalise sign rounded place)) = sign.apply rounded * 2 ^ place) := by
  rcases atMost.lt_or_eq with small | rfl
  · rw [renormalise_of_lt sign small least]
    by_cases overflow : 971 < place
    · rw [stored_of_overflow sign (by omega) overflow]
      exact ⟨iff_of_false nofun (by omega), nofun⟩
    · rw [Fits.stored_eq ⟨small, least, by omega, long⟩]
      simp only [isFinite_ofSignificand, exactValue_ofSignificand, true_iff, implies_true, and_true]
      omega
  · rw [renormalise_carry sign least]
    by_cases overflow : 971 < place + 1
    · rw [stored_of_overflow sign (by norm_num) overflow]
      exact ⟨iff_of_false nofun (by omega), nofun⟩
    · rw [Fits.stored_eq ⟨by norm_num, by omega, by omega, fun _ => le_rfl⟩]
      refine ⟨iff_of_true (isFinite_ofSignificand _ _ _) (by omega), fun _ => ?_⟩
      rw [exactValue_ofSignificand, zpow_add_one₀ two_ne_zero]
      cases sign
      · simp only [Sign.apply]
        push_cast
        ring
      · simp only [Sign.apply]
        push_cast
        ring

/-! ### Numbers that need no rounding -/

/-- A number of at most 53 bits, none of them below the least place. -/
def Representable (bound : ℚ) : Prop :=
  ∃ (count : ℤ) (place : ℤ), |count| ≤ 2 ^ 53 ∧ -1074 ≤ place ∧ bound = count * 2 ^ place

theorem Representable.neg {bound : ℚ} (representable : Representable bound) :
    Representable (-bound) := by
  obtain ⟨count, place, few, least, rfl⟩ := representable
  refine ⟨-count, place, by rwa [abs_neg], least, ?_⟩
  push_cast
  ring

theorem Representable.abs {bound : ℚ} (representable : Representable bound) :
    Representable |bound| := by
  rcases abs_choice bound with same | negated
  · rwa [same]
  · rw [negated]
    exact representable.neg

/-- A rounded number does not pass a number that needs no rounding. -/
theorem Precise.between {mantissa rounded : ℕ} {exponent : ℤ} {fraction bound : ℚ}
    (precise : Precise mantissa exponent) (nonneg : 0 ≤ fraction)
    (nearest : Nearest (units mantissa exponent fraction) rounded)
    (representable : Representable bound) :
    ((mantissa + fraction) * 2 ^ exponent ≤ bound →
      rounded * 2 ^ lastPlace mantissa exponent ≤ bound) ∧
    (bound ≤ (mantissa + fraction) * 2 ^ exponent →
      bound ≤ rounded * 2 ^ lastPlace mantissa exponent) := by
  obtain ⟨count, place, few, least, rfl⟩ := representable
  obtain ⟨low, high⟩ := nearest.bounds
  rw [← precise.units_mul]
  have long := precise.le_units nonneg
  generalize units mantissa exponent fraction = exact at *
  generalize lastPlace mantissa exponent = last at *
  have unit : (0 : ℚ) < 2 ^ last := by positivity
  -- A whole number of units is not passed.
  have whole : ∀ number : ℤ, (exact ≤ number → (rounded : ℚ) ≤ number) ∧
      (number ≤ exact → (number : ℚ) ≤ rounded) := by
    intro number
    constructor
    · intro below
      have near : (rounded : ℚ) < number + 1 := by linarith
      exact_mod_cast Int.lt_add_one_iff.1 (by exact_mod_cast near)
    · intro above
      have near : (number : ℚ) < rounded + 1 := by linarith
      exact_mod_cast Int.lt_add_one_iff.1 (by exact_mod_cast near)
  by_cases coarse : last ≤ place
  · obtain ⟨shift, rfl⟩ := Int.le.dest coarse
    have aligned : (count : ℚ) * 2 ^ (last + shift) = (count * 2 ^ shift : ℤ) * 2 ^ last := by
      rw [zpow_add₀ two_ne_zero, zpow_natCast]
      push_cast
      ring
    rw [aligned]
    constructor
    · intro below
      gcongr
      exact (whole _).1 (le_of_mul_le_mul_right below unit)
    · intro above
      gcongr
      exact (whole _).2 (le_of_mul_le_mul_right above unit)
  · -- All 53 bits are in use, so nothing as fine as this exceeds the least such number.
    have used : 2 ^ 52 ≤ exact := long (by omega)
    have fine : (count : ℚ) * 2 ^ place ≤ 2 ^ 52 * 2 ^ last := by
      have fewer : (count : ℚ) ≤ 2 ^ 53 := by exact_mod_cast (le_abs_self count).trans few
      calc (count : ℚ) * 2 ^ place ≤ 2 ^ 53 * 2 ^ place := by gcongr
        _ = 2 ^ 52 * 2 ^ (place + 1) := by
          rw [zpow_add_one₀ two_ne_zero]
          ring
        _ ≤ 2 ^ 52 * 2 ^ last := by
          gcongr
          · norm_num
          · omega
    have kept := whole (2 ^ 52)
    push_cast at kept
    constructor
    · intro below
      have least' : exact ≤ 2 ^ 52 := le_of_mul_le_mul_right (below.trans fine) unit
      calc (rounded : ℚ) * 2 ^ last ≤ 2 ^ 52 * 2 ^ last := by
            gcongr
            exact kept.1 least'
        _ ≤ exact * 2 ^ last := by gcongr
        _ ≤ _ := below
    · intro _
      exact fine.trans (by
        gcongr
        exact kept.2 used)

/-! ### Rounding -/

/-- The least size that is rounded to infinity. -/
def overflow : ℚ :=
  2 ^ (1024 : ℤ) - 2 ^ (970 : ℤ)

/-- What rounding does to the size of an exact result. It is lost only if it is too large, and it
passes no number that needs no rounding. -/
structure Rounds (exact : ℚ) (result : UnpackedFloat) : Prop where
  isFinite_iff : result.isFinite = true ↔ |exact| < overflow
  le : result.isFinite = true → ∀ bound, Representable bound → exact ≤ bound →
    exactValue result ≤ bound
  ge : result.isFinite = true → ∀ bound, Representable bound → bound ≤ exact →
    bound ≤ exactValue result

theorem apply_eq (sign : Sign) (size : ℤ) : (sign.apply size : ℚ) = sign.apply 1 * size := by
  cases sign <;> simp [Sign.apply]

theorem apply_neg (sign : Sign) (size : ℤ) : (-sign).apply size = -sign.apply size := by
  cases sign
  · exact (neg_neg size).symm
  · rfl

theorem abs_apply_one (sign : Sign) : |(sign.apply 1 : ℚ)| = 1 := by
  cases sign <;> simp [Sign.apply]

theorem Precise.rounds {mantissa part whole : ℕ} {exponent : ℤ}
    (precise : Precise mantissa exponent) (less : part < whole) (sign : Sign) :
    Rounds (sign.apply 1 * ((mantissa + part / whole) * 2 ^ exponent))
      (stored (roundWithAccuracy .binary64 sign mantissa exponent
        (accuracyOfFraction part whole))) := by
  obtain ⟨rounded, nearest, isRounded⟩ := precise.exists_nearest less sign
  have least : -1074 ≤ lastPlace mantissa exponent := le_max_right _ _
  have nonneg : (0 : ℚ) ≤ part / whole := by positivity
  have fraction : (part / whole : ℚ) < 1 := by
    have positive : (0 : ℚ) < whole := by exact_mod_cast Nat.zero_lt_of_lt less
    exact (div_lt_one positive).2 (by exact_mod_cast less)
  have small := precise.units_lt fraction
  have long := precise.le_units nonneg
  have atMost : rounded ≤ 2 ^ 53 := by
    have bounded : (rounded : ℚ) < 2 ^ 53 + 1 := by linarith [nearest.bounds.2]
    exact Nat.lt_succ_iff.1 (by exact_mod_cast bounded)
  have notCarried : rounded < 2 ^ 53 ↔
      units mantissa exponent (part / whole) < 2 ^ 53 - 1 / 2 := by
    rw [← not_le, nearest.even_le_iff (by decide), not_le]
    norm_num
  have longRounded : -1074 < lastPlace mantissa exponent → 2 ^ 52 ≤ rounded := by
    intro above
    apply (nearest.even_le_iff (by decide)).2
    push_cast
    linarith [long above]
  have between := fun (bound : ℚ) (representable : Representable bound) =>
    precise.between nonneg nearest representable
  obtain ⟨kept_iff, kept⟩ := stored_renormalise sign atMost least longRounded
  rw [isRounded]
  generalize stored (renormalise sign rounded (lastPlace mantissa exponent)) = result at *
  have exactNonneg : 0 ≤ (mantissa + part / whole : ℚ) * 2 ^ exponent := by positivity
  refine ⟨?_, fun finite bound representable below => ?_,
    fun finite bound representable above => ?_⟩
  · rw [kept_iff, notCarried, abs_mul, abs_apply_one, one_mul, abs_of_nonneg exactNonneg,
      ← precise.units_mul, overflow, scaled_lt_iff least small long]
  · rw [kept finite]
    cases sign with
    | positive =>
        simp only [Sign.apply, Int.cast_one, one_mul] at below
        exact (between bound representable).1 below
    | negative =>
        simp only [Sign.apply, Int.cast_neg, Int.cast_one, neg_one_mul] at below
        have passed := (between (-bound) representable.neg).2 (by linarith)
        simp only [Sign.apply, Int.cast_neg, Int.cast_natCast]
        linarith
  · rw [kept finite]
    cases sign with
    | positive =>
        simp only [Sign.apply, Int.cast_one, one_mul] at above
        exact (between bound representable).2 above
    | negative =>
        simp only [Sign.apply, Int.cast_neg, Int.cast_one, neg_one_mul] at above
        have passed := (between (-bound) representable.neg).1 (by linarith)
        simp only [Sign.apply, Int.cast_neg, Int.cast_natCast]
        linarith

/-- Fields of a number that needs no rounding. -/
theorem Fits.representable {mantissa : ℕ} {exponent : ℤ} (fits : Fits mantissa exponent)
    (sign : Sign) : Representable (sign.apply mantissa * 2 ^ exponent) := by
  refine ⟨sign.apply mantissa, exponent, ?_, fits.least, rfl⟩
  have small := fits.small
  cases sign <;> simp only [Sign.apply, abs_neg, Nat.abs_cast] <;> omega

theorem Fits.abs_lt {mantissa : ℕ} {exponent : ℤ} (fits : Fits mantissa exponent) (sign : Sign) :
    |(sign.apply mantissa : ℚ) * 2 ^ exponent| < overflow := by
  have unit : (0 : ℚ) < 2 ^ exponent := by positivity
  have small : (mantissa : ℚ) ≤ 2 ^ 53 - 1 := by
    have := fits.small
    have whole : (mantissa : ℚ) + 1 ≤ 2 ^ 53 := by exact_mod_cast this
    linarith
  rw [apply_eq, abs_mul, abs_mul, abs_apply_one, one_mul, abs_of_pos unit, Int.cast_natCast,
    Nat.abs_cast]
  apply (scaled_lt_iff fits.least (by linarith) (fun above => ?_)).2
  · have := fits.greatest
    rcases this.lt_or_eq with below | rfl
    · left
      omega
    · exact .inr ⟨rfl, by linarith⟩
  · exact_mod_cast fits.long above

/-! ### Finite numbers -/

theorem isFinite_eq (number : Float) : number.isFinite = number.toModel.unpack.isFinite := by
  rfl

theorem unpack_of_isFinite {number : Float} (finite : number.isFinite = true) :
    (∃ sign, number.toModel.unpack = .zero sign) ∨
      ∃ sign mantissa exponent positive,
        number.toModel.unpack = .finite sign mantissa exponent positive := by
  rw [isFinite_eq] at finite
  cases unpacked : number.toModel.unpack with
  | zero sign => exact .inl ⟨sign, rfl⟩
  | finite sign mantissa exponent positive => exact .inr ⟨sign, mantissa, exponent, positive, rfl⟩
  | infinity sign =>
      rw [unpacked] at finite
      cases finite
  | notANumber =>
      rw [unpacked] at finite
      cases finite

theorem value_of_unpack_zero {number : Float} {sign : Sign}
    (unpacked : number.toModel.unpack = .zero sign) : value number = 0 := by
  rw [value, unpacked]
  rfl

theorem value_of_unpack {number : Float} {sign : Sign} {mantissa : ℕ} {exponent : ℤ}
    {positive : 0 < mantissa}
    (unpacked : number.toModel.unpack = .finite sign mantissa exponent positive) :
    value number = sign.apply 1 * (mantissa * 2 ^ exponent) := by
  rw [value, unpacked, exactValue, apply_eq, Int.cast_natCast, mul_assoc]

theorem value_ne_zero_of_unpack {number : Float} {sign : Sign} {mantissa : ℕ} {exponent : ℤ}
    {positive : 0 < mantissa}
    (unpacked : number.toModel.unpack = .finite sign mantissa exponent positive) :
    value number ≠ 0 := by
  have size : (0 : ℚ) < mantissa * 2 ^ exponent := by positivity
  rw [value_of_unpack unpacked, ← abs_pos, abs_mul, abs_apply_one, one_mul, abs_of_pos size]
  exact size

theorem zero_lt_overflow : |(0 : ℚ)| < overflow := by
  rw [abs_zero, overflow, sub_pos]
  exact zpow_lt_zpow_right₀ one_lt_two (by norm_num)

theorem representable_zero : Representable 0 :=
  ⟨0, 0, by norm_num, by norm_num, by norm_num⟩

theorem representable_value (number : Float) : Representable (value number) := by
  rw [value]
  cases unpacked : number.toModel.unpack with
  | finite sign mantissa exponent positive => exact (fits_of_unpack unpacked).representable sign
  | zero sign => exact representable_zero
  | infinity sign => exact representable_zero
  | notANumber => exact representable_zero

theorem abs_value_lt (number : Float) : |value number| < overflow := by
  rw [value]
  cases unpacked : number.toModel.unpack with
  | finite sign mantissa exponent positive => exact (fits_of_unpack unpacked).abs_lt sign
  | zero sign => exact zero_lt_overflow
  | infinity sign => exact zero_lt_overflow
  | notANumber => exact zero_lt_overflow

/-- A finite number is its own rounding, also after it is packed once more. -/
theorem rounds_value {number : Float} (finite : number.isFinite = true) :
    Rounds (value number) (stored number.toModel.unpack) := by
  have packed : stored number.toModel.unpack = number.toModel.unpack := by
    rcases unpack_of_isFinite finite with ⟨sign, unpacked⟩ |
      ⟨sign, mantissa, exponent, positive, unpacked⟩
    · rw [unpacked, stored_zero]
    · have same : ofSignificand sign mantissa exponent =
          .finite sign mantissa exponent positive := dif_neg positive.ne'
      rw [unpacked, ← same, (fits_of_unpack unpacked).stored_eq]
  rw [packed]
  exact ⟨iff_of_true finite (abs_value_lt number), fun _ _ _ below => below,
    fun _ _ _ above => above⟩

theorem rounds_zero (sign : Sign) : Rounds 0 (stored (.zero sign)) := by
  rw [stored_zero]
  exact ⟨iff_of_true rfl zero_lt_overflow, fun _ _ _ below => below, fun _ _ _ above => above⟩

/-! ### Bounds -/

/-- What the last place of the smallest numbers is worth. -/
def leastUnit : ℚ :=
  2 ^ (-1074 : ℤ)

theorem leastUnit_pos : 0 < leastUnit := by
  rw [leastUnit]
  positivity

theorem representable_leastUnit : Representable leastUnit :=
  ⟨1, -1074, by norm_num, le_rfl, by rw [Int.cast_one, one_mul, leastUnit]⟩

theorem Representable.exists_int {bound : ℚ} (representable : Representable bound) :
    ∃ count : ℤ, bound = count * leastUnit := by
  obtain ⟨count, place, -, least, rfl⟩ := representable
  obtain ⟨shift, rfl⟩ := Int.le.dest least
  refine ⟨count * 2 ^ shift, ?_⟩
  rw [zpow_add₀ two_ne_zero, zpow_natCast, ← leastUnit]
  push_cast
  ring

/-- A count of large units, each a power of two. -/
def size (count place : ℕ) : ℚ :=
  count * 2 ^ place

section

variable {count other place higher : ℕ}

theorem size_pos (place : ℕ) : 0 < size 1 place := by
  rw [size, Nat.cast_one, one_mul]
  exact pow_pos two_pos place

theorem size_one_zero : size 1 0 = 1 := by
  rw [size, Nat.cast_one, one_mul, pow_zero]

theorem size_mul (count place other higher : ℕ) :
    size count place * size other higher = size (count * other) (place + higher) := by
  rw [size, size, size, pow_add]
  push_cast
  ring

theorem size_add (count other place : ℕ) :
    size count place + size other place = size (count + other) place := by
  rw [size, size, size]
  push_cast
  ring

theorem size_shift (count place shift : ℕ) :
    size count (place + shift) = size (count * 2 ^ shift) place := by
  rw [size, size, pow_add]
  push_cast
  ring

theorem size_one_le_iff : size 1 place ≤ size 1 higher ↔ place ≤ higher := by
  rw [size, size, Nat.cast_one, one_mul, one_mul]
  exact pow_le_pow_iff_right₀ one_lt_two

theorem size_le_size (fewer : count ≤ other) (lower : place ≤ higher) :
    size count place ≤ size other higher := by
  rw [size, size]
  exact mul_le_mul (by exact_mod_cast fewer) (pow_le_pow_right₀ one_le_two lower)
    (pow_nonneg zero_le_two place) (Nat.cast_nonneg other)

theorem representable_size (few : count < 32) (place : ℕ) : Representable (size count place) := by
  refine ⟨count, place, ?_, by omega, by rw [size, Int.cast_natCast, zpow_natCast]⟩
  rw [Nat.abs_cast]
  omega

theorem size_lt_overflow (few : count < 32) (inRange : place ≤ 1019) :
    size count place < overflow := by
  have gap : (2 : ℚ) ^ (970 : ℤ) < size 1 1019 := by
    rw [size, Nat.cast_one, one_mul, ← zpow_natCast]
    exact zpow_lt_zpow_right₀ one_lt_two (by norm_num)
  have all : (2 : ℚ) ^ (1024 : ℤ) = size 31 1019 + size 1 1019 := by
    rw [size_add, size, show (1024 : ℤ) = 5 + (1019 : ℕ) by norm_num, zpow_add₀ two_ne_zero,
      zpow_natCast]
    congr 1
  rw [overflow, all, lt_sub_iff_add_lt]
  exact add_lt_add_of_le_of_lt (size_le_size (by omega) inRange) gap

theorem overflow_lt_size : overflow < size 1 1024 := by
  rw [overflow, size, Nat.cast_one, one_mul, ← zpow_natCast]
  exact sub_lt_self _ (by positivity)

/-- A finite number that exceeds a size in neither direction. -/
structure Within (count place : ℕ) (number : Float) : Prop where
  isFinite : number.isFinite = true
  bounded : |value number| ≤ size count place

theorem Within.mono {number : Float} (within : Within count place number) (fewer : count ≤ other)
    (lower : place ≤ higher) : Within other higher number :=
  ⟨within.isFinite, within.bounded.trans (size_le_size fewer lower)⟩

end

section

variable {exact bound : ℚ} {number : Float}

theorem Rounds.le_value (rounds : Rounds exact number.toModel.unpack)
    (finite : number.isFinite = true) (representable : Representable bound)
    (below : bound ≤ exact) : bound ≤ value number :=
  rounds.ge finite bound representable below

theorem Rounds.value_le (rounds : Rounds exact number.toModel.unpack)
    (finite : number.isFinite = true) (representable : Representable bound)
    (above : exact ≤ bound) : value number ≤ bound :=
  rounds.le finite bound representable above

theorem Rounds.abs_lt (rounds : Rounds exact number.toModel.unpack)
    (finite : number.isFinite = true) : |exact| < overflow :=
  rounds.isFinite_iff.1 finite

theorem Rounds.within {count place : ℕ} (rounds : Rounds exact number.toModel.unpack)
    (small : |exact| ≤ size count place) (few : count < 32) (inRange : place ≤ 1019) :
    Within count place number := by
  have finite : number.isFinite = true :=
    rounds.isFinite_iff.2 (small.trans_lt (size_lt_overflow few inRange))
  have representable := representable_size few place
  obtain ⟨low, high⟩ := abs_le.1 small
  exact ⟨finite, abs_le.2
    ⟨rounds.le_value finite representable.neg low, rounds.value_le finite representable high⟩⟩

end

end Binary64

end DeltaRobot
