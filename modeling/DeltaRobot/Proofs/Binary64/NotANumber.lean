import DeltaRobot.Proofs.Binary64.Operations

/-!
Contract: what becomes of an operand that is not finite, and when a quotient is not a number.

Sums, differences, products and roots are finite only if all operands are, quotients only if the
dividend is. So one overflow goes through a formula to its result. It becomes what is not a number
in a quotient of two such results, and a quotient of finite numbers is not a number only if both
are zero.

Owns: how infinities and what is not a number pass through the operations.
Does not own: which operations on finite numbers overflow.
-/

namespace DeltaRobot

namespace Binary64

open Float.Model Float.Model.UnpackedFloat

/-! ### Packing -/

theorem isFinite_of_stored {unpacked : UnpackedFloat}
    (finite : (stored unpacked).isFinite = true) : unpacked.isFinite = true := by
  cases unpacked with
  | finite sign mantissa exponent positive => rfl
  | zero sign => rfl
  | infinity sign => cases sign <;> cases finite
  | notANumber => cases finite

theorem isNaN_ofSignificand (sign : Sign) (significand : ℕ) (place : ℤ) :
    (ofSignificand sign significand place).isNaN = false := by
  rw [ofSignificand]
  split_ifs
  · rfl
  · rfl

theorem isNaN_stored (unpacked : UnpackedFloat) : (stored unpacked).isNaN = unpacked.isNaN := by
  cases unpacked with
  | zero sign => cases sign <;> rfl
  | infinity sign => cases sign <;> rfl
  | notANumber => rfl
  | finite sign mantissa exponent positive =>
      rw [stored, pack_finite]
      split_ifs with overflow normal
      · rw [packedInfinity, unpack_packComponents]
        rfl
      · rw [unpack_packComponents, if_neg (exponentField_ne_full (by omega))]
        split_ifs
        · exact isNaN_ofSignificand _ _ _
        · exact isNaN_ofSignificand _ _ _
      · rw [unpack_packComponents, if_neg (by decide), if_pos rfl]
        exact isNaN_ofSignificand _ _ _

theorem isNaN_round (sign : Sign) (mantissa : ℕ) (exponent : ℤ) (accuracy : Accuracy) :
    (roundWithAccuracy .binary64 sign mantissa exponent accuracy).isNaN = false := by
  rw [roundWithAccuracy]
  dsimp only
  split_ifs <;> rfl

/-! ### Operands of a finite result -/

section

variable {left right : Float}

theorem isFinite_of_add (finite : (left + right).isFinite = true) :
    left.isFinite = true ∧ right.isFinite = true := by
  rw [isFinite_eq, unpack_add] at finite
  have sum := isFinite_of_stored finite
  rw [isFinite_eq, isFinite_eq]
  cases unpacked : left.toModel.unpack <;> cases other : right.toModel.unpack
  case infinity.infinity =>
    rw [unpacked, other, UnpackedFloat.add] at sum
    split_ifs at sum <;> cases sum
  all_goals
    rw [unpacked, other] at sum
    first
    | exact ⟨rfl, rfl⟩
    | cases sum

theorem isFinite_of_sub (finite : (left - right).isFinite = true) :
    left.isFinite = true ∧ right.isFinite = true := by
  rw [isFinite_eq, unpack_sub, ← isFinite_eq] at finite
  obtain ⟨leftFinite, negFinite⟩ := isFinite_of_add finite
  exact ⟨leftFinite, (isFinite_neg right).symm.trans negFinite⟩

theorem isFinite_of_mul (finite : (left * right).isFinite = true) :
    left.isFinite = true ∧ right.isFinite = true := by
  rw [isFinite_eq, unpack_mul] at finite
  have product := isFinite_of_stored finite
  rw [isFinite_eq, isFinite_eq]
  cases unpacked : left.toModel.unpack <;> cases other : right.toModel.unpack
  all_goals
    rw [unpacked, other] at product
    first
    | exact ⟨rfl, rfl⟩
    | cases product

theorem isFinite_of_div (finite : (left / right).isFinite = true) : left.isFinite = true := by
  rw [isFinite_eq, unpack_div] at finite
  have quotient := isFinite_of_stored finite
  rw [isFinite_eq]
  cases unpacked : left.toModel.unpack <;> cases other : right.toModel.unpack
  all_goals
    rw [unpacked, other] at quotient
    first
    | rfl
    | cases quotient

theorem isFinite_of_sqrt (finite : left.sqrt.isFinite = true) : left.isFinite = true := by
  rw [isFinite_eq, unpack_sqrt] at finite
  have root := isFinite_of_stored finite
  rw [isFinite_eq]
  cases unpacked : left.toModel.unpack with
  | finite sign mantissa exponent positive => rfl
  | zero sign => rfl
  | notANumber =>
      rw [unpacked] at root
      cases root
  | infinity sign =>
      rw [unpacked] at root
      cases sign <;> cases root

/-! ### Results that are not a number -/

theorem unpack_of_not_isFinite (lost : left.isFinite = false) :
    (∃ sign, left.toModel.unpack = .infinity sign) ∨ left.toModel.unpack = .notANumber := by
  rw [isFinite_eq] at lost
  cases unpacked : left.toModel.unpack with
  | infinity sign => exact .inl ⟨sign, rfl⟩
  | notANumber => exact .inr rfl
  | zero sign =>
      rw [unpacked] at lost
      cases lost
  | finite sign mantissa exponent positive =>
      rw [unpacked] at lost
      cases lost

theorem isNaN_eq (number : Float) : number.isNaN = number.toModel.unpack.isNaN := by
  rfl

theorem isNaN_of_isFinite (finite : left.isFinite = true) : left.isNaN = false := by
  rw [isNaN_eq]
  rcases unpack_of_isFinite finite with ⟨_, unpacked⟩ | ⟨_, _, _, _, unpacked⟩
  · rw [unpacked]
    rfl
  · rw [unpacked]
    rfl

theorem unpack_of_isNaN {number : Float} (notANumber : number.isNaN = true) :
    number.toModel.unpack = .notANumber := by
  rw [isNaN_eq] at notANumber
  cases unpacked : number.toModel.unpack with
  | notANumber => rfl
  | finite sign mantissa exponent positive =>
      rw [unpacked] at notANumber
      cases notANumber
  | zero sign =>
      rw [unpacked] at notANumber
      cases notANumber
  | infinity sign =>
      rw [unpacked] at notANumber
      cases notANumber

theorem not_lt_of_isNaN_left (notANumber : left.isNaN = true) : ¬left < right := by
  have ordered : left < right ↔ left.toModel.unpack.lt right.toModel.unpack = true :=
    decide_eq_true_iff
  rw [ordered, unpack_of_isNaN notANumber]
  exact Bool.false_ne_true

theorem not_lt_of_isNaN_right (notANumber : right.isNaN = true) : ¬left < right := by
  have ordered : left < right ↔ left.toModel.unpack.lt right.toModel.unpack = true :=
    decide_eq_true_iff
  rw [ordered, unpack_of_isNaN notANumber]
  cases left.toModel.unpack <;> exact Bool.false_ne_true

theorem isNaN_add (notANumber : left.isNaN = true) (right : Float) :
    (left + right).isNaN = true := by
  rw [isNaN_eq, unpack_add, isNaN_stored, unpack_of_isNaN notANumber]
  rfl

theorem isNaN_div_of_not_isFinite (leftLost : left.isFinite = false)
    (rightLost : right.isFinite = false) : (left / right).isNaN = true := by
  rw [isNaN_eq, unpack_div, isNaN_stored]
  rcases unpack_of_not_isFinite leftLost with ⟨_, unpacked⟩ | unpacked
  · rw [unpacked]
    rcases unpack_of_not_isFinite rightLost with ⟨_, other⟩ | other
    · rw [other]
      rfl
    · rw [other]
      rfl
  · rw [unpacked]
    rfl

theorem isNaN_div_iff (leftFinite : left.isFinite = true) (rightFinite : right.isFinite = true) :
    (left / right).isNaN = true ↔ value left = 0 ∧ value right = 0 := by
  rw [isNaN_eq, unpack_div, isNaN_stored]
  rcases unpack_of_isFinite leftFinite with ⟨sign, unpacked⟩ | ⟨sign, _, _, positive, unpacked⟩
  · rcases unpack_of_isFinite rightFinite with ⟨_, other⟩ | ⟨_, _, _, _, other⟩
    · rw [value_of_unpack_zero unpacked, value_of_unpack_zero other, unpacked, other]
      exact iff_of_true rfl ⟨rfl, rfl⟩
    · refine iff_of_false ?_ (fun both => value_ne_zero_of_unpack other both.2)
      rw [unpacked, other]
      exact Bool.false_ne_true
  · refine iff_of_false ?_ (fun both => value_ne_zero_of_unpack unpacked both.1)
    rcases unpack_of_isFinite rightFinite with ⟨_, other⟩ | ⟨_, _, _, _, other⟩
    · rw [unpacked, other]
      exact Bool.false_ne_true
    · rw [unpacked, other, UnpackedFloat.div, isNaN_round]
      exact Bool.false_ne_true

end

end Binary64

end DeltaRobot
