import DeltaRobot.Proofs.Binary64.Rounding

/-!
Contract: when a product or a quotient of binary64 numbers is finite and positive.

The sign of a result follows from the signs of the operands. Whether it is a number other than zero
and the infinities depends on the size of the exact result, which need only survive rounding.

Owns: finite positive numbers, and the operations that feed rates are made of.
Does not own: how close a result is to the exact one.
-/

namespace DeltaRobot

namespace Binary64

open Float.Model Float.Model.UnpackedFloat

/-! ### Finite positive numbers -/

/-- The exact value of a finite number, and zero for the others. -/
def toRat : Binary64 → ℚ
  | .finite negative significand exponent =>
      (if negative then -1 else 1) * significand * 2 ^ exponent
  | .infinite _ => 0
  | .notANumber => 0

def IsPositive (value : Float) : Prop :=
  value.isFinite = true ∧ 0 < value

instance (value : Float) : Decidable (IsPositive value) :=
  inferInstanceAs (Decidable (_ ∧ _))

theorem properSign_eq_some_iff {unpacked : UnpackedFloat} {sign : Sign} :
    properSign unpacked = some sign ↔
      ∃ mantissa exponent positive, unpacked = .finite sign mantissa exponent positive := by
  cases unpacked with
  | finite other mantissa exponent positive =>
      simp only [properSign, Option.some_inj, UnpackedFloat.finite.injEq]
      constructor
      · intro same
        exact ⟨_, _, positive, same, rfl, rfl⟩
      · rintro ⟨_, _, _, same, -⟩
        exact same
  | _ => simp [properSign]

theorem unpack_zero : (0 : Float).toModel.unpack = .zero .positive := by
  have bits : (0 : Float).toModel.toBits.toBitVec = packedZero .binary64 .positive := by
    decide +kernel
  rw [Float.Model.unpack, bits]
  rfl

theorem isPositive_iff {value : Float} :
    IsPositive value ↔ properSign value.toModel.unpack = some .positive := by
  have above : 0 < value ↔ (0 : Float).toModel.unpack.lt value.toModel.unpack = true :=
    decide_eq_true_iff
  have isFinite : value.isFinite = value.toModel.unpack.isFinite := rfl
  rw [IsPositive, above, isFinite, unpack_zero]
  cases value.toModel.unpack with
  | notANumber => simp [UnpackedFloat.isFinite, properSign]
  | infinity sign => simp [UnpackedFloat.isFinite, properSign]
  | zero sign => simp [UnpackedFloat.isFinite, UnpackedFloat.lt, UnpackedFloat.compare, properSign]
  | finite sign mantissa exponent positive =>
      cases sign <;>
        simp [UnpackedFloat.isFinite, UnpackedFloat.lt, UnpackedFloat.compare, properSign]

/-! ### Fields of the bits -/

theorem toNat_unpackExponent (bits : BitVec 64) :
    (@unpackExponent .binary64 bits).toNat = bits.toNat / 2 ^ 52 % 2 ^ 11 := by
  rw [unpackExponent, BitVec.toNat_cast, BitVec.extractLsb_toNat, Nat.shiftRight_eq_div_pow]
  rfl

theorem toNat_unpackMantissa (bits : BitVec 64) :
    (@unpackMantissa .binary64 bits).toNat = bits.toNat % 2 ^ 52 := by
  rw [unpackMantissa, BitVec.toNat_cast, BitVec.extractLsb_toNat, Nat.shiftRight_zero]
  rfl

theorem toNat_unpackSign (bits : BitVec 64) :
    (@unpackSign .binary64 bits).toNat = bits.toNat / 2 ^ 63 % 2 := by
  rw [unpackSign, BitVec.toNat_cast, BitVec.extractLsb_toNat, Nat.shiftRight_eq_div_pow]
  rfl

theorem toNat_one_append {width : ℕ} (bits : BitVec width) :
    (1#1 ++ bits).toNat = bits.toNat + 2 ^ width := by
  rw [BitVec.toNat_append, ← Nat.shiftLeft_add_eq_or_of_lt bits.isLt, Nat.shiftLeft_eq]
  simp [Nat.add_comm]

theorem bits_of_unpack {bits : BitVec 64} {sign : Sign} {mantissa : ℕ} {exponent : ℤ}
    {positive : 0 < mantissa}
    (unpacked : UnpackedFloat.unpack .binary64 bits = .finite sign mantissa exponent positive) :
    sign = .ofBitVec (@unpackSign .binary64 bits) ∧
      ((bits.toNat / 2 ^ 52 % 2 ^ 11 = 0 ∧ mantissa = bits.toNat % 2 ^ 52 ∧ exponent = -1074) ∨
        (bits.toNat / 2 ^ 52 % 2 ^ 11 ≠ 0 ∧ bits.toNat / 2 ^ 52 % 2 ^ 11 ≠ 2047 ∧
          mantissa = bits.toNat % 2 ^ 52 + 2 ^ 52 ∧
          exponent = (bits.toNat / 2 ^ 52 % 2 ^ 11 : ℕ) - 1075)) := by
  rw [← toNat_unpackExponent, ← toNat_unpackMantissa]
  unfold UnpackedFloat.unpack at unpacked
  dsimp only at unpacked
  split_ifs at unpacked with full empty least nothing
  · cases unpacked
    refine ⟨rfl, .inl ⟨?_, rfl, ?_⟩⟩
    · rw [least]
      rfl
    · rw [least]
      rfl
  · cases unpacked
    refine ⟨rfl, .inr ⟨?_, ?_, toNat_one_append _, rfl⟩⟩
    · intro none
      exact least (BitVec.eq_of_toNat_eq none)
    · intro all
      exact full (BitVec.eq_of_toNat_eq all)

theorem precise_of_unpack {value : Float} {sign : Sign} {mantissa : ℕ} {exponent : ℤ}
    {positive : 0 < mantissa}
    (unpacked : value.toModel.unpack = .finite sign mantissa exponent positive) :
    2 ^ 52 ≤ mantissa ∨ exponent = -1074 := by
  rcases (bits_of_unpack unpacked).2 with ⟨-, -, least⟩ | ⟨-, -, long, -⟩
  · exact .inr least
  · left
    omega

theorem ofFloat_of_unpack {value : Float} {mantissa : ℕ} {exponent : ℤ} {positive : 0 < mantissa}
    (unpacked : value.toModel.unpack = .finite .positive mantissa exponent positive) :
    ofFloat value = .finite false mantissa exponent := by
  obtain ⟨sign, fields⟩ := bits_of_unpack unpacked
  have sameBits : value.toBits.toNat = value.toModel.toBits.toBitVec.toNat := rfl
  have signBit := toNat_unpackSign value.toModel.toBits.toBitVec
  rw [Sign.ofBitVec] at sign
  split_ifs at sign with noSign
  rw [noSign] at signBit
  rw [ofFloat, sameBits]
  generalize value.toModel.toBits.toBitVec.toNat = bits at fields signBit ⊢
  have isPositive : (bits / Nat.pow 2 63 % 2 == 1) = false := by
    change (bits / 2 ^ 63 % 2 == 1) = false
    rw [← signBit]
    rfl
  rw [ofBits, isPositive]
  change (if bits / 2 ^ 52 % 2 ^ 11 = 2047 then _ else
    if bits / 2 ^ 52 % 2 ^ 11 = 0 then finite false (bits % 2 ^ 52) (-1074) else
      finite false (bits % 2 ^ 52 + 2 ^ 52) (-1074 + ((bits / 2 ^ 52 % 2 ^ 11 : ℕ) - 1))) = _
  rcases fields with ⟨least, rfl, rfl⟩ | ⟨notLeast, notFull, rfl, rfl⟩
  · rw [if_neg (by omega), if_pos least]
  · rw [if_neg notFull, if_neg notLeast]
    congr 1
    omega
/-! ### Signs -/

theorem properSign_of_pack {unpacked : UnpackedFloat} {sign : Sign}
    (packed : properSign (Float.Model.pack unpacked).unpack = some sign) :
    properSign unpacked = some sign := by
  change properSign (UnpackedFloat.unpack .binary64 (UnpackedFloat.pack .binary64 unpacked)) =
    some sign at packed
  cases unpacked with
  | notANumber =>
      rw [UnpackedFloat.pack, packedNaN, properSign_unpack_packComponents, if_pos (.inl rfl)]
        at packed
      cases packed
  | infinity other =>
      rw [UnpackedFloat.pack, packedInfinity, properSign_unpack_packComponents, if_pos (.inl rfl)]
        at packed
      cases packed
  | zero other =>
      rw [UnpackedFloat.pack, packedZero, properSign_unpack_packComponents,
        if_pos (.inr ⟨rfl, rfl⟩)] at packed
      cases packed
  | finite other mantissa exponent positive =>
      rw [pack_finite] at packed
      split_ifs at packed
      all_goals
        first
        | rw [packedInfinity, properSign_unpack_packComponents] at packed
        | rw [properSign_unpack_packComponents] at packed
        split_ifs at packed
        exact packed

/-- Rounding may lose a number, but not turn its sign. -/
theorem properSign_round_cases (sign : Sign) (mantissa : ℕ) (exponent : ℤ) (accuracy : Accuracy) :
    properSign (roundWithAccuracy .binary64 sign mantissa exponent accuracy) = none ∨
      properSign (roundWithAccuracy .binary64 sign mantissa exponent accuracy) = some sign := by
  rw [roundWithAccuracy]
  dsimp only
  split_ifs
  · exact .inl rfl
  · exact .inr rfl

/-! ### Numbers that are not negative -/

/-- A number that is finite and below zero is neither this nor anything that the operations below
make of such numbers. -/
def NonNegative (unpacked : UnpackedFloat) : Prop :=
  properSign unpacked ≠ some .negative

theorem nonNegative_pack {unpacked : UnpackedFloat} (nonNegative : NonNegative unpacked) :
    NonNegative (Float.Model.pack unpacked).unpack :=
  fun negative => nonNegative (properSign_of_pack negative)

theorem nonNegative_round (mantissa : ℕ) (exponent : ℤ) (accuracy : Accuracy) :
    NonNegative (roundWithAccuracy .binary64 .positive mantissa exponent accuracy) := by
  rcases properSign_round_cases .positive mantissa exponent accuracy with lost | kept
  · rw [NonNegative, lost]
    nofun
  · rw [NonNegative, kept]
    nofun

theorem NonNegative.mul {left right : UnpackedFloat} (leftNonNegative : NonNegative left)
    (rightNonNegative : NonNegative right) : NonNegative (left.mul .binary64 right) := by
  cases left <;> cases right
  case finite.finite leftSign _ _ _ rightSign _ _ _ =>
    cases leftSign
    · exact absurd rfl leftNonNegative
    · cases rightSign
      · exact absurd rfl rightNonNegative
      · exact nonNegative_round _ _ _
  all_goals nofun

theorem NonNegative.div {left right : UnpackedFloat} (leftNonNegative : NonNegative left)
    (rightNonNegative : NonNegative right) : NonNegative (left.div .binary64 right) := by
  cases left <;> cases right
  case finite.finite leftSign _ _ _ rightSign _ _ _ =>
    cases leftSign
    · exact absurd rfl leftNonNegative
    · cases rightSign
      · exact absurd rfl rightNonNegative
      · exact nonNegative_round _ _ _
  all_goals nofun

theorem nonNegative_sqrt (unpacked : UnpackedFloat) : NonNegative (unpacked.sqrt .binary64) := by
  cases unpacked with
  | notANumber => nofun
  | zero sign => nofun
  | infinity sign => cases sign <;> nofun
  | finite sign mantissa exponent positive =>
      cases sign with
      | negative => nofun
      | positive => exact nonNegative_round _ _ _

theorem nonNegative_ofUInt64 (count : UInt64) :
    NonNegative (UnpackedFloat.ofUInt64 .binary64 count) := by
  rw [UnpackedFloat.ofUInt64, UnpackedFloat.ofNat, UnpackedFloat.ofInt, UnpackedFloat.normalize]
  cases compared : compare (count.toNat : ℤ) 0 with
  | lt => exact absurd (Int.compare_eq_lt.1 compared) (by omega)
  | eq => nofun
  | gt => exact nonNegative_round _ _ _

theorem nonNegative_ofScientific (mantissa : ℕ) (exponent : ℤ) :
    NonNegative (UnpackedFloat.ofScientific .binary64 mantissa exponent) := by
  rw [UnpackedFloat.ofScientific]
  split_ifs
  · nofun
  · nofun
  · nofun
  · exact NonNegative.mul nofun nofun
  · exact NonNegative.div nofun nofun

theorem nonNegative_ofNat (count : ℕ) : NonNegative (Float.ofNat count).toModel.unpack := by
  have one : NonNegative Float.exactlyRepresentablePowersOfTen[0].toModel.unpack := by
    intro negative
    obtain ⟨mantissa, exponent, positive, unpacked⟩ := properSign_eq_some_iff.1 negative
    cases (bits_of_unpack unpacked).1
  change NonNegative (Float.ofScientific count false 0).toModel.unpack
  rw [Float.ofScientific]
  by_cases small : count < 2 ^ 53 ∧ 0 ≤ 22
  · rw [dif_pos small]
    exact nonNegative_pack (NonNegative.mul (nonNegative_pack (nonNegative_ofUInt64 _)) one)
  · rw [dif_neg small]
    exact nonNegative_pack (nonNegative_ofScientific _ _)

/-! ### Zero and no number -/

def Void : UnpackedFloat → Prop
  | .zero _ => True
  | .notANumber => True
  | .infinity _ => False
  | .finite _ _ _ _ => False

theorem Void.not_isPositive {value : Float} (void : Void value.toModel.unpack) :
    ¬IsPositive value := by
  rw [isPositive_iff]
  cases unpacked : value.toModel.unpack with
  | notANumber => nofun
  | zero sign => nofun
  | infinity sign => nofun
  | finite sign mantissa exponent positive =>
      rw [unpacked] at void
      exact void.elim

theorem Void.pack {unpacked : UnpackedFloat} (void : Void unpacked) :
    Void (Float.Model.pack unpacked).unpack := by
  cases unpacked with
  | notANumber => trivial
  | zero sign => cases sign <;> trivial
  | infinity sign => exact void.elim
  | finite sign mantissa exponent positive => exact void.elim

theorem Void.add {left right : UnpackedFloat} (leftVoid : Void left) (rightVoid : Void right) :
    Void (left.add .binary64 right) := by
  cases left <;> cases right
  case zero.zero leftSign rightSign => cases leftSign <;> cases rightSign <;> trivial
  all_goals trivial

theorem Void.mul {left right : UnpackedFloat} (leftVoid : Void left) (rightVoid : Void right) :
    Void (left.mul .binary64 right) := by
  cases left <;> cases right <;> trivial

theorem Void.sqrt {unpacked : UnpackedFloat} (void : Void unpacked) :
    Void (unpacked.sqrt .binary64) := by
  cases unpacked <;> trivial

/-- Nothing is left of a number that is taken from itself. -/
theorem void_sub_self (unpacked : UnpackedFloat) : Void (unpacked.sub .binary64 unpacked) := by
  cases unpacked with
  | notANumber => trivial
  | zero sign => cases sign <;> trivial
  | infinity sign => cases sign <;> trivial
  | finite sign mantissa exponent positive =>
      simp only [UnpackedFloat.sub, sub_self]
      trivial

/-! ### Products and quotients -/

theorem toRat_of_unpack {value : Float} {mantissa : ℕ} {exponent : ℤ} {positive : 0 < mantissa}
    (unpacked : value.toModel.unpack = .finite .positive mantissa exponent positive) :
    (ofFloat value).toRat = mantissa * 2 ^ exponent := by
  rw [ofFloat_of_unpack unpacked, toRat]
  simp

/-- A product of two proper numbers has digits enough. -/
theorem precise_mul {left right : ℕ} {leftExponent rightExponent : ℤ} (leftPositive : 0 < left)
    (rightPositive : 0 < right) (leftPrecise : 2 ^ 52 ≤ left ∨ leftExponent = -1074)
    (rightPrecise : 2 ^ 52 ≤ right ∨ rightExponent = -1074) :
    Precise (left * right) (leftExponent + rightExponent) := by
  rcases leftPrecise with long | rfl
  · exact .inl (long.trans (Nat.le_mul_of_pos_right left rightPositive))
  · rcases rightPrecise with long | rfl
    · exact .inl (long.trans (Nat.le_mul_of_pos_left right leftPositive))
    · exact .inr (by norm_num)

theorem isPositive_mul_iff {left right : Float} (positive : IsPositive left) :
    IsPositive (left * right) ↔
      IsPositive right ∧ Survives ((ofFloat left).toRat * (ofFloat right).toRat) := by
  obtain ⟨mantissa, exponent, mantissaPositive, unpacked⟩ :=
    properSign_eq_some_iff.1 (isPositive_iff.1 positive)
  have product : (left * right).toModel.unpack = UnpackedFloat.unpack .binary64
      (UnpackedFloat.pack .binary64 (left.toModel.unpack.mul .binary64 right.toModel.unpack)) := rfl
  rw [isPositive_iff, isPositive_iff, product, unpacked]
  cases other : right.toModel.unpack with
  | finite sign otherMantissa otherExponent otherPositive =>
      have precise := precise_mul mantissaPositive otherPositive (precise_of_unpack unpacked)
        (precise_of_unpack other)
      change properSign (UnpackedFloat.unpack .binary64 (UnpackedFloat.pack .binary64
        (roundWithAccuracy .binary64 (.positive * sign) (mantissa * otherMantissa)
          (exponent + otherExponent) (accuracyOfFraction 0 1)))) = _ ↔ some sign = _ ∧ _
      rw [properSign_round_iff precise zero_lt_one]
      cases sign with
      | negative => exact iff_of_false nofun nofun
      | positive =>
          have exact_eq : ((mantissa * otherMantissa : ℕ) + (0 : ℕ) / (1 : ℕ) : ℚ) *
              2 ^ (exponent + otherExponent) =
                (ofFloat left).toRat * (ofFloat right).toRat := by
            rw [toRat_of_unpack unpacked, toRat_of_unpack other, zpow_add₀ two_ne_zero]
            push_cast
            ring
          rw [exact_eq]
          exact and_congr_left' (iff_of_true rfl rfl)
  | notANumber =>
      refine iff_of_false (fun kept => ?_) (by simp [properSign])
      cases properSign_of_pack kept
  | infinity sign =>
      refine iff_of_false (fun kept => ?_) (by simp [properSign])
      cases properSign_of_pack kept
  | zero sign =>
      refine iff_of_false (fun kept => ?_) (by simp [properSign])
      cases properSign_of_pack kept

/-- Division works out digits enough, and says what is left over. -/
theorem exists_divCore {numerator denominator : ℕ} {exponent otherExponent : ℤ}
    (positive : 0 < numerator) (otherPositive : 0 < denominator) :
    ∃ quotient place part,
      divCore .binary64 numerator exponent denominator otherExponent =
        (quotient, place, accuracyOfFraction part denominator) ∧
      part < denominator ∧ Precise quotient place ∧
      (quotient + part / denominator : ℚ) * 2 ^ place =
        numerator * 2 ^ exponent / (denominator * 2 ^ otherExponent) := by
  -- The place to which the quotient is worked out, and the digits appended for that.
  generalize placeEq : min (exponent - otherExponent) (Format.binary64.targetExponent
    (totalExponent numerator exponent - totalExponent denominator otherExponent)) = place
  generalize shiftEq : (exponent - otherExponent - place).toNat = shift
  have below : place ≤ exponent - otherExponent := by
    rw [← placeEq]
    exact min_le_left _ _
  have target : place ≤ max (numerator.log2 + 1 + exponent -
      (denominator.log2 + 1 + otherExponent) - 53) (-1074) := by
    rw [← placeEq]
    exact min_le_right _ _
  refine ⟨(numerator <<< shift) / denominator, place, (numerator <<< shift) % denominator, ?_,
    Nat.mod_lt _ otherPositive, ?_, ?_⟩
  · rw [← shiftEq, ← placeEq]
    rfl
  · by_cases low : place ≤ -1074
    · exact .inr low
    · left
      have places : denominator.log2 + 1 + 52 ≤ numerator.log2 + shift := by omega
      rw [Nat.le_div_iff_mul_le otherPositive, Nat.shiftLeft_eq]
      calc 2 ^ 52 * denominator ≤ 2 ^ 52 * 2 ^ (denominator.log2 + 1) :=
            Nat.mul_le_mul_left _ Nat.lt_log2_self.le
        _ = 2 ^ (denominator.log2 + 1 + 52) := by rw [← pow_add, Nat.add_comm]
        _ ≤ 2 ^ (numerator.log2 + shift) := Nat.pow_le_pow_right two_pos places
        _ = 2 ^ numerator.log2 * 2 ^ shift := pow_add _ _ _
        _ ≤ numerator * 2 ^ shift :=
            Nat.mul_le_mul_right _ (Nat.log2_self_le positive.ne')
  · have whole : (denominator : ℚ) ≠ 0 := by exact_mod_cast otherPositive.ne'
    have division : ((numerator <<< shift) / denominator : ℕ) +
        ((numerator <<< shift) % denominator : ℕ) / (denominator : ℚ) =
          numerator * 2 ^ shift / denominator := by
      rw [eq_div_iff whole, add_mul, div_mul_cancel₀ _ whole]
      have euclid := Nat.div_add_mod' (numerator <<< shift) denominator
      rw [Nat.shiftLeft_eq] at euclid ⊢
      exact_mod_cast euclid
    have places : exponent = (shift : ℤ) + place + otherExponent := by omega
    rw [division, places, zpow_add₀ two_ne_zero, zpow_add₀ two_ne_zero, zpow_natCast]
    field_simp

/-- Only proper numbers have a proper quotient. -/
theorem properSign_of_div {left right : UnpackedFloat} {sign : Sign}
    (kept : properSign (left.div .binary64 right) = some sign) :
    (∃ leftSign, properSign left = some leftSign) ∧
      ∃ rightSign, properSign right = some rightSign := by
  cases left <;> cases right
  all_goals
    first
    | exact ⟨⟨_, rfl⟩, ⟨_, rfl⟩⟩
    | cases kept

theorem properSign_div_iff {leftSign rightSign sign : Sign} {left right : ℕ}
    {leftExponent rightExponent : ℤ} (leftPositive : 0 < left) (rightPositive : 0 < right) :
    properSign (UnpackedFloat.unpack .binary64 (UnpackedFloat.pack .binary64
        (UnpackedFloat.div .binary64 (.finite leftSign left leftExponent leftPositive)
          (.finite rightSign right rightExponent rightPositive)))) = some sign ↔
      leftSign / rightSign = sign ∧
        Survives (left * 2 ^ leftExponent / (right * 2 ^ rightExponent)) := by
  obtain ⟨quotient, place, part, computed, less, precise, exact⟩ :=
    exists_divCore leftPositive rightPositive
  rw [← exact, ← properSign_round_iff precise less, UnpackedFloat.div, computed]

theorem isPositive_div_iff {left right : Float}
    (nonNegative : NonNegative right.toModel.unpack) :
    IsPositive (left / right) ↔
      IsPositive left ∧ IsPositive right ∧
        Survives ((ofFloat left).toRat / (ofFloat right).toRat) := by
  have quotient : (left / right).toModel.unpack = UnpackedFloat.unpack .binary64
      (UnpackedFloat.pack .binary64 (left.toModel.unpack.div .binary64 right.toModel.unpack)) := rfl
  rw [isPositive_iff, isPositive_iff, isPositive_iff, quotient]
  constructor
  · intro kept
    obtain ⟨⟨leftSign, leftProper⟩, ⟨rightSign, rightProper⟩⟩ :=
      properSign_of_div (properSign_of_pack kept)
    obtain ⟨leftMantissa, leftExponent, leftPositive, leftUnpacked⟩ :=
      properSign_eq_some_iff.1 leftProper
    obtain ⟨rightMantissa, rightExponent, rightPositive, rightUnpacked⟩ :=
      properSign_eq_some_iff.1 rightProper
    rw [leftUnpacked, rightUnpacked, properSign_div_iff] at kept
    obtain ⟨sameSign, survives⟩ := kept
    cases rightSign with
    | negative => exact absurd rightProper nonNegative
    | positive =>
        cases leftSign with
        | negative => cases sameSign
        | positive =>
            rw [toRat_of_unpack leftUnpacked, toRat_of_unpack rightUnpacked]
            exact ⟨leftProper, rightProper, survives⟩
  · rintro ⟨leftProper, rightProper, survives⟩
    obtain ⟨leftMantissa, leftExponent, leftPositive, leftUnpacked⟩ :=
      properSign_eq_some_iff.1 leftProper
    obtain ⟨rightMantissa, rightExponent, rightPositive, rightUnpacked⟩ :=
      properSign_eq_some_iff.1 rightProper
    rw [toRat_of_unpack leftUnpacked, toRat_of_unpack rightUnpacked] at survives
    rw [leftUnpacked, rightUnpacked, properSign_div_iff]
    exact ⟨rfl, survives⟩

end Binary64

end DeltaRobot
