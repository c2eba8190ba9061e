import LightPilot.Number.Single
import Mathlib

set_option autoImplicit false

/-! # Cutting a single off to a whole number

`Single.truncate16` is core's conversion, which shifts the significand until its exponent is zero. On the
number that significand and exponent stand for, the shift is a rounding towards zero
(`roundToInt_eq`), and so the conversion gives the whole part, as far as 16 bits reach
(`isTruncation_truncate16`). -/

namespace LightPilot.Single

open Float.Model UnpackedFloat

/-! ## Shifting a significand -/

theorem mantissa_shiftRight (shifted : ExtendedMantissa) (amount : Nat) :
    (shifted >>> amount).mantissa = shifted.mantissa / 2 ^ amount := by
  change (Nat.repeat ExtendedMantissa.shiftRightOne amount shifted).mantissa = _
  induction amount with
  | zero => exact (Nat.div_one _).symm
  | succ amount ih =>
      change (Nat.repeat ExtendedMantissa.shiftRightOne amount shifted).mantissa / 2 = _
      rw [ih, Nat.div_div_eq_div_mul, Nat.pow_succ]

/-- `floorScaled` is the floor of what it scales. -/
theorem floorScaled_eq (m e : ℤ) : floorScaled m e = ⌊(m : ℚ) * 2 ^ e⌋ := by
  rw [floorScaled, Int.pow_eq, Int.pow_eq]
  rcases le_or_gt 0 e with hup | hdown
  · obtain ⟨amount, rfl⟩ := Int.eq_ofNat_of_zero_le hup
    have hnone : (-(amount : ℤ)).toNat = 0 := by omega
    rw [hnone, pow_zero, Int.ediv_one, Int.toNat_natCast, zpow_natCast]
    exact_mod_cast (Int.floor_intCast (R := ℚ) (m * 2 ^ amount)).symm
  · obtain ⟨amount, hamount⟩ := Int.eq_ofNat_of_zero_le (show 0 ≤ -e by omega)
    have hnone : e.toNat = 0 := by omega
    have hpow : (2 : ℚ) ^ e = ((2 ^ amount : ℕ) : ℚ)⁻¹ := by
      rw [← neg_neg e, hamount, zpow_neg, zpow_natCast]
      norm_num
    rw [hnone, pow_zero, mul_one, hamount, Int.toNat_natCast, hpow, ← div_eq_mul_inv]
    exact_mod_cast (Rat.floor_intCast_div_natCast m (2 ^ amount)).symm

theorem floor_scaled (significand : Nat) (exponent : Int) :
    ⌊(significand : ℚ) * 2 ^ exponent⌋
      = ↑(significand * 2 ^ exponent.toNat / 2 ^ (-exponent).toNat) := by
  rw [← Int.cast_natCast (R := ℚ) significand, ← floorScaled_eq, floorScaled, Int.pow_eq, Int.pow_eq]
  push_cast
  rfl

/-- The shift of core's conversion rounds towards zero. -/
theorem roundToInt_eq (sign : Sign) (significand : Nat) (exponent : Int) :
    roundToInt sign significand exponent = sign.apply ⌊(significand : ℚ) * 2 ^ exponent⌋ := by
  have hamount : 0 - (exponent - ↑(exponent - 0).toNat) = ↑(-exponent).toNat := by omega
  change sign.apply ((ExtendedMantissa.ofMantissaAndAccuracy (significand <<< (exponent - 0).toNat)
    .exact >>> (0 - (exponent - (exponent - 0).toNat)).toNat).mantissa : Int) = _
  rw [mantissa_shiftRight, hamount, Int.toNat_natCast, Int.sub_zero, floor_scaled,
    ← Nat.shiftLeft_eq]
  rfl

/-! ## Clamping to 16 bits -/

theorem toInt_ofIntClamp (value : Int) :
    (Int16.ofIntClamp value).toInt
      = max Int16.minValue.toInt (min value Int16.maxValue.toInt) := by
  have hrange : Int16.minValue.toInt ≤ Int16.maxValue.toInt := by decide
  unfold Int16.ofIntClamp
  split
  · split
    · rw [Int16.toInt_ofIntLE]
      omega
    · omega
  · omega

/-- The whole number is the single cut off towards zero and clamped to 16 bits; a NaN counts as zero. -/
def IsTruncation (x : Float32) (whole : Int16) : Prop :=
  match x.toModel.unpack with
  | .notANumber => whole = 0
  | .infinity .negative => whole = Int16.minValue
  | .infinity .positive => whole = Int16.maxValue
  | .zero _ => whole = 0
  | .finite sign significand exponent _ =>
    whole.toInt = max Int16.minValue.toInt
      (min (sign.apply ⌊(significand : ℚ) * 2 ^ exponent⌋) Int16.maxValue.toInt)

theorem isTruncation_truncate16 (x : Float32) : IsTruncation x (truncate16 x) := by
  have hcore : truncate16 x = x.toModel.unpack.toInt16 := rfl
  rw [hcore]
  unfold IsTruncation
  cases x.toModel.unpack with
  | notANumber => rfl
  | infinity sign => cases sign <;> decide
  | zero sign => rfl
  | finite sign significand exponent hpos =>
      change (Int16.ofIntClamp (roundToInt sign significand exponent)).toInt = _
      rw [toInt_ofIntClamp, roundToInt_eq]

end LightPilot.Single
