import LightPilot.Number.Single
import LightPilot.Proofs.Number.Nearest

set_option autoImplicit false

/-! # Core's rounding is rounding

Core computes with unpacked floats: it carries a mantissa with two residual bits, shifts it right to its last
place and rounds by the bits. `Represents` says which number such a mantissa is known to be, and every shift
keeps it (`Represents.shiftRight`). So the result of a rounding is the number rounded to its last place, in
the one form that can be packed (`isRounding_roundWithAccuracy`), and the same holds for products, quotients
and sums (`isRounding_mul`, `isRounding_div`, `isRounding_add`). -/

namespace LightPilot.Single

open Float.Model (Format UnpackedFloat totalExponent)
open Float.Model.UnpackedFloat

/-! ## A mantissa with residual bits -/

/-- The number that a mantissa with its residual bits was cut off from. -/
structure Represents (em : ExtendedMantissa) (x : ℚ) : Prop where
  le : em.mantissa ≤ x
  lt : x < em.mantissa + 1
  roundBit : em.roundBit = true ↔ em.mantissa + 1 / 2 ≤ x
  stickyBit : em.stickyBit = true ↔ x ≠ em.mantissa ∧ x ≠ em.mantissa + 1 / 2

theorem represents_exact (m : ℕ) : Represents (.ofMantissaAndAccuracy m .exact) m := by
  constructor <;> norm_num [ExtendedMantissa.ofMantissaAndAccuracy]

theorem represents_below_half (m : ℕ) {rest : ℚ} (hpos : 0 < rest) (hbelow : rest < 1 / 2) :
    Represents (.ofMantissaAndAccuracy m (.inexact .lt)) (m + rest) := by
  constructor
  · exact le_add_of_nonneg_right hpos.le
  · exact add_lt_add_right (hbelow.trans (by norm_num)) _
  · simpa [ExtendedMantissa.ofMantissaAndAccuracy] using hbelow
  · simpa [ExtendedMantissa.ofMantissaAndAccuracy, hpos.ne'] using hbelow.ne

theorem represents_above_half (m : ℕ) {rest : ℚ} (habove : 1 / 2 < rest) (hlt : rest < 1) :
    Represents (.ofMantissaAndAccuracy m (.inexact .gt)) (m + rest) := by
  have hpos : 0 < rest := habove.trans' (by norm_num)
  constructor
  · exact le_add_of_nonneg_right hpos.le
  · exact add_lt_add_right hlt _
  · simpa [ExtendedMantissa.ofMantissaAndAccuracy] using habove.le
  · simpa [ExtendedMantissa.ofMantissaAndAccuracy, hpos.ne'] using habove.ne'

/-- The mantissa of a quotient, with what the remainder says of the places below. -/
theorem represents_fraction (num : ℕ) {den : ℕ} (hden : 0 < den) :
    Represents (.ofMantissaAndAccuracy (num / den) (accuracyOfFraction (num % den) den))
      (num / den : ℚ) := by
  have hden' : (0 : ℚ) < den := by exact_mod_cast hden
  have hsplit : (num : ℚ) / den = (num / den : ℕ) + (num % den : ℕ) / den := by
    have hnum : ((den * (num / den) + num % den : ℕ) : ℚ) = num := by rw [Nat.div_add_mod]
    push_cast at hnum
    rw [div_eq_iff hden'.ne', add_mul, div_mul_cancel₀ _ hden'.ne']
    linarith
  have hmod := Nat.mod_lt num hden
  rw [hsplit]
  generalize num / den = whole, num % den = rest at hmod
  rcases Nat.eq_zero_or_pos rest with rfl | hrest
  · simpa [accuracyOfFraction] using represents_exact whole
  rw [accuracyOfFraction, if_neg hrest.ne']
  rcases Nat.lt_trichotomy (2 * rest) den with hless | heq | hmore
  · have hbelow : (rest : ℚ) / den < 1 / 2 := by
      rw [div_lt_div_iff₀ hden' (by norm_num)]
      exact_mod_cast (show rest * 2 < 1 * den by omega)
    rw [Nat.compare_eq_lt.2 hless]
    exact represents_below_half whole (by positivity) hbelow
  · have hhalf : (rest : ℚ) / den = 1 / 2 := by
      rw [div_eq_div_iff hden'.ne' (by norm_num)]
      exact_mod_cast (show rest * 2 = 1 * den by omega)
    rw [Nat.compare_eq_eq.2 heq, hhalf]
    constructor <;> norm_num [ExtendedMantissa.ofMantissaAndAccuracy]
  · have habove : 1 / 2 < (rest : ℚ) / den := by
      rw [div_lt_div_iff₀ (by norm_num) hden']
      exact_mod_cast (show 1 * den < rest * 2 by omega)
    have hlt : (rest : ℚ) / den < 1 := by
      rw [div_lt_one hden']
      exact_mod_cast hmod
    rw [Nat.compare_eq_gt.2 hmore]
    exact represents_above_half whole habove hlt

/-- The residual bits together say whether there is anything below the mantissa. -/
theorem Represents.residual_iff {em : ExtendedMantissa} {x : ℚ} (h : Represents em x) :
    (em.roundBit || em.stickyBit) = true ↔ x ≠ em.mantissa := by
  rw [Bool.or_eq_true, h.roundBit, h.stickyBit]
  constructor
  · rintro (habove | ⟨hne, -⟩)
    · linarith
    · exact hne
  · intro hne
    rcases le_or_gt ((em.mantissa : ℚ) + 1 / 2) x with habove | hbelow
    · exact .inl habove
    · exact .inr ⟨hne, hbelow.ne⟩

theorem Represents.shiftRightOne {em : ExtendedMantissa} {x : ℚ} (h : Represents em x) :
    Represents em.shiftRightOne (x / 2) := by
  have hrest := h.residual_iff
  obtain ⟨m, roundBit, stickyBit⟩ := em
  obtain ⟨hle, hlt, -, -⟩ := h
  dsimp only at hle hlt hrest
  -- the new round bit is the parity of the mantissa
  rcases Nat.even_or_odd' m with ⟨k, rfl | rfl⟩
  · have hhalf : 2 * k / 2 = k := by omega
    have heven : 2 * k % 2 = 0 := by omega
    push_cast at hle hlt hrest
    rw [ExtendedMantissa.shiftRightOne]
    simp only [hhalf, heven]
    constructor
    · linarith
    · linarith
    · simp only [bne_self_eq_false, Bool.false_eq_true, false_iff]
      linarith
    · rw [hrest]
      constructor
      · intro hne
        exact ⟨fun h => hne (by linarith), by linarith⟩
      · rintro ⟨hne, -⟩ rfl
        exact hne (by ring)
  · have hhalf : (2 * k + 1) / 2 = k := by omega
    have hodd : (2 * k + 1) % 2 = 1 := by omega
    push_cast at hle hlt hrest
    rw [ExtendedMantissa.shiftRightOne]
    simp only [hhalf, hodd]
    constructor
    · linarith
    · linarith
    · simp only [Nat.one_ne_zero, bne_iff_ne, ne_eq, not_false_eq_true, true_iff]
      linarith
    · rw [hrest]
      constructor
      · intro hne
        exact ⟨by linarith, fun h => hne (by linarith)⟩
      · rintro ⟨-, hne⟩ rfl
        exact hne (by ring)

theorem Represents.shiftRight {em : ExtendedMantissa} {x : ℚ} (h : Represents em x) (amount : ℕ) :
    Represents (em >>> amount) (x / 2 ^ amount) := by
  show Represents (Nat.repeat ExtendedMantissa.shiftRightOne amount em) _
  induction amount with
  | zero => rwa [pow_zero, div_one]
  | succ amount ih =>
      rw [pow_succ, ← div_div]
      exact ih.shiftRightOne

/-- Rounding goes by the residual bits. -/
theorem Represents.roundedMantissa {em : ExtendedMantissa} {x : ℚ} (h : Represents em x) :
    |x - em.roundedMantissa| ≤ 1 / 2 ∧ (|x - em.roundedMantissa| = 1 / 2 → Even em.roundedMantissa) := by
  obtain ⟨m, roundBit, stickyBit⟩ := em
  obtain ⟨hle, hlt, hround, hsticky⟩ := h
  dsimp only at hle hlt hround hsticky
  cases roundBit with
  | false =>
      -- less than half a place is dropped
      have hbelow : x < m + 1 / 2 := by simpa using hround
      have hdown : ExtendedMantissa.roundedMantissa ⟨m, false, stickyBit⟩ = m := by
        cases stickyBit <;> rfl
      rw [hdown, abs_of_nonneg (by linarith)]
      exact ⟨by linarith, fun htie => by linarith⟩
  | true =>
      have habove : m + 1 / 2 ≤ x := by simpa using hround
      cases stickyBit with
      | true =>
          have hne : x ≠ m + 1 / 2 := (hsticky.1 rfl).2
          have hup : ExtendedMantissa.roundedMantissa ⟨m, true, true⟩ = m + 1 := rfl
          rw [hup, abs_of_nonpos (by push_cast; linarith)]
          push_cast
          exact ⟨by linarith, fun htie => (hne (by linarith)).elim⟩
      | false =>
          -- exactly half a place
          have hne : x ≠ m := by linarith
          have htie : x = m + 1 / 2 := by
            by_contra hother
            exact Bool.false_ne_true (hsticky.2 ⟨hne, hother⟩)
          have heven : ExtendedMantissa.roundedMantissa ⟨m, true, false⟩ = m + m % 2 := rfl
          rw [heven, htie]
          rcases Nat.mod_two_eq_zero_or_one m with hmod | hmod
          · rw [hmod]
            exact ⟨by norm_num, fun _ => Nat.even_iff.2 hmod⟩
          · rw [hmod]
            refine ⟨by push_cast; norm_num, fun _ => ?_⟩
            exact Nat.even_add_one.2 (Nat.not_even_iff_odd.2 (Nat.odd_iff.2 hmod))

/-! ## Unpacked floats as numbers -/

/-- A number with a sign. -/
def signed (sign : Sign) (q : ℚ) : ℚ :=
  match sign with
  | .negative => -q
  | .positive => q

/-- The number that an unpacked float stands for; zero for those that stand for none. -/
def number : UnpackedFloat → ℚ
  | .finite sign m e _ => signed sign (m * 2 ^ e)
  | _ => 0

/-- The one form of a float that can be packed: its mantissa is as long as its exponent allows. -/
def IsCanonical : UnpackedFloat → Prop
  | .finite _ m e _ => m < 2 ^ 24 ∧ -149 ≤ e ∧ (2 ^ 23 ≤ m ∨ e = -149)
  | _ => True

/-- A float that comes from rounding a number. -/
structure IsRounding (q : ℚ) (f : UnpackedFloat) : Prop where
  finite : f.isFinite = true
  canonical : IsCanonical f
  rounded : IsRounded q (number f)

theorem abs_signed (sign : Sign) (q : ℚ) : |signed sign q| = |q| := by
  cases sign
  · exact abs_neg q
  · rfl

theorem signed_mul_signed (s t : Sign) (p q : ℚ) :
    signed s p * signed t q = signed (s * t) (p * q) := by
  cases s <;> cases t
  · exact neg_mul_neg p q
  · exact neg_mul p q
  · exact mul_neg p q
  · rfl

theorem signed_div_signed (s t : Sign) (p q : ℚ) :
    signed s p / signed t q = signed (s / t) (p / q) := by
  cases s <;> cases t
  · exact neg_div_neg_eq p q
  · exact neg_div q p
  · exact div_neg p
  · rfl

theorem IsRounded.signed {q r : ℚ} (h : IsRounded q r) (sign : Sign) :
    IsRounded (signed sign q) (signed sign r) := by
  cases sign
  · exact h.neg
  · exact h

theorem representable_number {f : UnpackedFloat} (hf : IsCanonical f) : Representable (number f) := by
  cases f with
  | finite sign m e hpos =>
      have hm : |(m : ℤ)| < 2 ^ 24 := by
        rw [abs_of_nonneg (by positivity)]
        exact_mod_cast hf.1
      have habs : Representable (m * 2 ^ e) := by
        exact_mod_cast representable_mul_zpow hm hf.2.1
      cases sign
      · exact habs.neg
      · exact habs
  | infinity sign => exact representable_zero
  | notANumber => exact representable_zero
  | zero sign => exact representable_zero

/-! ## Rounding a mantissa -/

theorem targetExponent_eq (total : ℤ) : Format.binary32.targetExponent total = max (total - 24) (-149) :=
  rfl

/-- The top place of a number whose mantissa is not empty. -/
theorem log_mul_zpow {m : ℕ} (hm : 0 < m) {x : ℚ} (hle : m ≤ x) (hlt : x < m + 1) (e : ℤ) :
    Int.log 2 (x * 2 ^ e) = m.log2 + e := by
  have he : (0 : ℚ) < 2 ^ e := zpow_pos (by norm_num) e
  have hm' : (0 : ℚ) < m := by exact_mod_cast hm
  have hq : 0 < x * 2 ^ e := mul_pos (hm'.trans_le hle) he
  have htop : (2 : ℚ) ^ m.log2 ≤ x := by
    have htop' : (2 : ℚ) ^ m.log2 ≤ m := by exact_mod_cast Nat.log2_self_le hm.ne'
    exact htop'.trans hle
  have hover : x < 2 ^ (m.log2 + 1) := by
    have hover' : (m : ℚ) + 1 ≤ 2 ^ (m.log2 + 1) := by exact_mod_cast Nat.lt_log2_self (n := m)
    exact hlt.trans_le hover'
  apply le_antisymm
  · have hpow : x * 2 ^ e < ((2 : ℕ) : ℚ) ^ (m.log2 + e + 1) := by
      calc x * 2 ^ e < 2 ^ (m.log2 + 1) * 2 ^ e := mul_lt_mul_of_pos_right hover he
        _ = ((2 : ℕ) : ℚ) ^ (m.log2 + e + 1) := by
          rw [← zpow_natCast, ← zpow_add₀ (by norm_num)]
          push_cast
          congr 1
          ring
    have hlog := (Int.lt_zpow_iff_log_lt (by norm_num) hq).1 hpow
    omega
  · apply (Int.zpow_le_iff_le_log (by norm_num) hq).1
    calc ((2 : ℕ) : ℚ) ^ ((m.log2 : ℤ) + e) = 2 ^ m.log2 * 2 ^ e := by
          rw [zpow_add₀ (by norm_num), zpow_natCast]
          norm_num
      _ ≤ x * 2 ^ e := mul_le_mul_of_nonneg_right htop he.le

/-- Core's target is the last place of the number. -/
theorem targetExponent_of_pos {m : ℕ} (hm : 0 < m) {x : ℚ} (hle : m ≤ x) (hlt : x < m + 1) (e : ℤ) :
    Format.binary32.targetExponent (totalExponent m e) = ulpExponent (x * 2 ^ e) := by
  have hm' : (0 : ℚ) < m := by exact_mod_cast hm
  have hq : 0 < x * 2 ^ e := mul_pos (hm'.trans_le hle) (zpow_pos (by norm_num) e)
  rw [targetExponent_eq, totalExponent, ulpExponent, if_neg hq.ne', abs_of_pos hq,
    log_mul_zpow hm hle hlt]
  congr 1
  ring

/-- Even if nothing is left of the mantissa, provided it was cut off at the last place or below. -/
theorem targetExponent_of_le {m : ℕ} {x : ℚ} (hle : m ≤ x) (hlt : x < m + 1) {e : ℤ}
    (hplace : e ≤ ulpExponent (x * 2 ^ e)) :
    Format.binary32.targetExponent (totalExponent m e) = ulpExponent (x * 2 ^ e) := by
  rcases Nat.eq_zero_or_pos m with rfl | hm
  · have he : (0 : ℚ) < 2 ^ e := zpow_pos (by norm_num) e
    have hx : 0 ≤ x := by simpa using hle
    have hsmall : ulpExponent (x * 2 ^ e) ≤ max (e - 24) (-149) := by
      rw [ulpExponent]
      split
      · exact le_max_right ..
      · next hne =>
          have hpos : 0 < x * 2 ^ e := lt_of_le_of_ne (mul_nonneg hx he.le) (Ne.symm hne)
          have hlog : Int.log 2 (x * 2 ^ e) < e := by
            apply (Int.lt_zpow_iff_log_lt (by norm_num) hpos).1
            calc x * 2 ^ e < 1 * 2 ^ e := mul_lt_mul_of_pos_right (by simpa using hlt) he
              _ = ((2 : ℕ) : ℚ) ^ e := by norm_num
          rw [abs_of_pos hpos]
          omega
    have hlast := neg_149_le_ulpExponent (x * 2 ^ e)
    have hzero : Nat.log2 0 = 0 := by decide
    rw [targetExponent_eq, totalExponent, hzero]
    omega
  · exact targetExponent_of_pos hm hle hlt e

/-! ## Rounding to the last place -/

section LastPlace

variable {q : ℚ} {em : ExtendedMantissa} {y : ℚ}

/-- A mantissa that counts last places is rounded to a whole number of them. -/
theorem Represents.isRounded (h : Represents em y) (hy : y * ulp q = q) :
    IsRounded q (em.roundedMantissa * ulp q) := by
  have hulp := ulp_pos q
  have hdistance : |q - em.roundedMantissa * ulp q| = |y - em.roundedMantissa| * ulp q := by
    calc |q - em.roundedMantissa * ulp q| = |y * ulp q - em.roundedMantissa * ulp q| := by rw [hy]
      _ = |y - em.roundedMantissa| * ulp q := by rw [← sub_mul, abs_mul, abs_of_pos hulp]
  obtain ⟨hhalf, heven⟩ := h.roundedMantissa
  refine ⟨em.roundedMantissa, by push_cast; rfl, ?_, ?_⟩
  · rw [hdistance]
    calc |y - em.roundedMantissa| * ulp q ≤ 1 / 2 * ulp q :=
          mul_le_mul_of_nonneg_right hhalf hulp.le
      _ = ulp q / 2 := by ring
  · rw [hdistance]
    intro htie
    have hexact : |y - em.roundedMantissa| = 1 / 2 :=
      mul_right_cancel₀ hulp.ne' (by linarith)
    exact_mod_cast heven hexact

theorem Represents.roundedMantissa_le (h : Represents em y) (hy : y * ulp q = q) :
    em.roundedMantissa ≤ 2 ^ 24 := by
  have hulp := ulp_pos q
  have hq : q ≤ ((2 ^ 24 : ℤ) : ℚ) * ulp q := by
    push_cast
    exact (le_abs_self q).trans (abs_lt_mul_ulp q).le
  have hle := (h.isRounded hy).ge_of_multiple hq
  exact_mod_cast le_of_mul_le_mul_right hle hulp

theorem Represents.le_roundedMantissa (h : Represents em y) (hy : y * ulp q = q) :
    2 ^ 23 ≤ em.roundedMantissa ∨ ulpExponent q = -149 := by
  have hulp := ulp_pos q
  have hpos : 0 ≤ q := by
    rw [← hy]
    exact mul_nonneg ((Nat.cast_nonneg _).trans h.le) hulp.le
  rcases ulpExponent_eq_or_mul_ulp_le q with hlast | hlong
  · exact .inr hlast
  · left
    rw [abs_of_nonneg hpos] at hlong
    have hle := (h.isRounded hy).le_of_multiple (k := 2 ^ 23) (by exact_mod_cast hlong)
    exact_mod_cast le_of_mul_le_mul_right hle hulp

end LastPlace

/-- A mantissa that overflowed by rounding is shifted once more, and nothing is lost. -/
theorem shiftToTargetExponent_rounded {n : ℕ} (hn : n ≤ 2 ^ 24) {u : ℤ} (hu : -149 ≤ u)
    (hlong : 2 ^ 23 ≤ n ∨ u = -149) :
    ∃ (m : ℕ) (e : ℤ), shiftToTargetExponent .binary32 n u .exact = (⟨m, false, false⟩, e) ∧
      (m : ℚ) * 2 ^ e = n * 2 ^ u ∧ m < 2 ^ 24 ∧ -149 ≤ e ∧ (2 ^ 23 ≤ m ∨ e = -149) := by
  rcases hn.eq_or_lt with rfl | hlt
  · have htarget : Format.binary32.targetExponent (totalExponent (2 ^ 24) u) = u + 1 := by
      rw [targetExponent_eq, totalExponent, Nat.log2_two_pow]
      omega
    have hamount : (u + 1 - u).toNat = 1 := by omega
    refine ⟨2 ^ 23, u + 1, ?_, ?_, by norm_num, by omega, .inl le_rfl⟩
    · rw [shiftToTargetExponent, htarget, shiftToExponent, hamount]
      rfl
    · rw [zpow_add_one₀ (by norm_num)]
      push_cast
      ring
  · have htarget : Format.binary32.targetExponent (totalExponent n u) ≤ u := by
      rw [targetExponent_eq, totalExponent, max_le_iff]
      refine ⟨?_, hu⟩
      rcases Nat.eq_zero_or_pos n with rfl | hpos
      · have hzero : Nat.log2 0 = 0 := by decide
        rw [hzero]
        omega
      · have hlog := (Nat.log2_lt hpos.ne').2 hlt
        omega
    have hamount : (Format.binary32.targetExponent (totalExponent n u) - u).toNat = 0 := by omega
    refine ⟨n, u, ?_, rfl, hlt, hu, hlong⟩
    rw [shiftToTargetExponent, shiftToExponent, hamount]
    show (_, u + 0) = _
    rw [add_zero]
    rfl

/-- Core's rounding is rounding, if the mantissa was cut off at the last place or below. -/
theorem isRounding_roundWithAccuracy {m : ℕ} {accuracy : Accuracy} {x : ℚ}
    (hx : Represents (.ofMantissaAndAccuracy m accuracy) x) {e : ℤ}
    (hplace : e ≤ ulpExponent (x * 2 ^ e)) (sign : Sign) :
    IsRounding (signed sign (x * 2 ^ e)) (roundWithAccuracy .binary32 sign m e accuracy) := by
  have hmantissa : (ExtendedMantissa.ofMantissaAndAccuracy m accuracy).mantissa = m := by
    unfold ExtendedMantissa.ofMantissaAndAccuracy
    split <;> rfl
  have htarget := targetExponent_of_le (hmantissa ▸ hx.le) (hmantissa ▸ hx.lt) hplace
  generalize hq : x * 2 ^ e = q at hplace htarget ⊢
  -- the first shift reaches the last place, where the mantissa is rounded
  have hshift := hx.shiftRight (ulpExponent q - e).toNat
  have hscaled : x / 2 ^ (ulpExponent q - e).toNat * ulp q = q := by
    have hulp : ulp q = 2 ^ (ulpExponent q - e).toNat * 2 ^ e := by
      rw [ulp, ← zpow_natCast, ← zpow_add₀ (by norm_num), Int.toNat_of_nonneg (by omega),
        sub_add_cancel]
    rw [hulp, ← mul_assoc, div_mul_cancel₀ _ (by positivity), hq]
  have hfirst : shiftToTargetExponent .binary32 m e accuracy
      = (ExtendedMantissa.ofMantissaAndAccuracy m accuracy >>> (ulpExponent q - e).toNat,
        ulpExponent q) := by
    rw [shiftToTargetExponent, htarget, shiftToExponent, Int.toNat_of_nonneg (by omega),
      add_sub_cancel]
  obtain ⟨m', e', hsecond, hsame, hshort, hlast, hlong⟩ :=
    shiftToTargetExponent_rounded (hshift.roundedMantissa_le hscaled) (neg_149_le_ulpExponent q)
      (hshift.le_roundedMantissa hscaled)
  have hrounded : IsRounded q (m' * 2 ^ e') := by
    rw [hsame]
    exact hshift.isRounded hscaled
  rw [roundWithAccuracy]
  simp only [hfirst, hsecond]
  split
  · next hzero =>
      rw [hzero, Nat.cast_zero, zero_mul] at hrounded
      have hnumber := hrounded.signed sign
      have hnone : signed sign 0 = 0 := by cases sign <;> simp [signed]
      rw [hnone] at hnumber
      exact ⟨rfl, trivial, hnumber⟩
  · exact ⟨rfl, ⟨hshort, hlast, hlong⟩, hrounded.signed sign⟩

/-! ## Arithmetic -/

theorem isRounding_zero (sign : Sign) : IsRounding 0 (.zero sign) :=
  ⟨rfl, trivial, representable_zero.isRounded⟩

/-- A float is its own rounding. -/
theorem isRounding_number {f : UnpackedFloat} (hfinite : f.isFinite = true) (hf : IsCanonical f) :
    IsRounding (number f) f :=
  ⟨hfinite, hf, (representable_number hf).isRounded⟩

theorem natCast_decreaseExponent (m : ℕ) (e target : ℤ) :
    ((decreaseExponent m e target).1 : ℚ) * 2 ^ (decreaseExponent m e target).2 = m * 2 ^ e := by
  have hsplit : (2 : ℚ) ^ e = 2 ^ (e - target).toNat * 2 ^ (e - (e - target).toNat : ℤ) := by
    rw [← zpow_natCast, ← zpow_add₀ (by norm_num), add_sub_cancel]
  rw [decreaseExponent, hsplit]
  simp only [Nat.shiftLeft_eq]
  push_cast
  ring

theorem isRounding_round (sign : Sign) {m : ℕ} (hm : 0 < m) (e : ℤ) :
    IsRounding (signed sign (m * 2 ^ e)) (UnpackedFloat.round .binary32 sign m e) := by
  have htarget := targetExponent_of_pos hm (le_refl (m : ℚ)) (lt_add_one _) e
  have hsame := natCast_decreaseExponent m e (ulpExponent (m * 2 ^ e))
  have hplace : (decreaseExponent m e (ulpExponent (m * 2 ^ e))).2 ≤ ulpExponent (m * 2 ^ e) := by
    show e - ((e - ulpExponent (m * 2 ^ e)).toNat : ℤ) ≤ _
    omega
  have hround := isRounding_roundWithAccuracy
    (represents_exact (decreaseExponent m e (ulpExponent (m * 2 ^ e))).1) (by rwa [hsame]) sign
  rw [hsame] at hround
  rwa [UnpackedFloat.round, htarget]

theorem isRounding_normalize (m e : ℤ) (zeroSign : Sign) :
    IsRounding (m * 2 ^ e) (UnpackedFloat.normalize .binary32 m e zeroSign) := by
  rw [UnpackedFloat.normalize]
  rcases lt_trichotomy m 0 with hneg | rfl | hpos
  · rw [Int.compare_eq_lt.2 hneg]
    have hround := isRounding_round .negative (m := (-m).toNat) (by omega) e
    have habs : (((-m).toNat : ℕ) : ℚ) = -m := by
      exact_mod_cast (show (((-m).toNat : ℕ) : ℤ) = -m by omega)
    rw [habs] at hround
    simpa [signed] using hround
  · rw [Int.compare_eq_eq.2 rfl]
    simpa using isRounding_zero zeroSign
  · rw [Int.compare_eq_gt.2 hpos]
    have hround := isRounding_round .positive (m := m.toNat) (by omega) e
    have habs : ((m.toNat : ℕ) : ℚ) = m := by
      exact_mod_cast (show ((m.toNat : ℕ) : ℤ) = m by omega)
    rwa [habs] at hround

theorem zero_or_finite {f : UnpackedFloat} (hf : f.isFinite = true) :
    (∃ sign, f = .zero sign) ∨ ∃ sign m e hpos, f = .finite sign m e hpos := by
  cases f with
  | infinity sign => contradiction
  | notANumber => contradiction
  | zero sign => exact .inl ⟨sign, rfl⟩
  | finite sign m e hpos => exact .inr ⟨sign, m, e, hpos, rfl⟩

@[simp] theorem number_zero (sign : Sign) : number (.zero sign) = 0 :=
  rfl

/-- The exact product of two floats is cut off below its last place. -/
theorem add_le_ulpExponent_mul {m m' : ℕ} {e e' : ℤ} (hpos : 0 < m) (hpos' : 0 < m')
    (hlong : 2 ^ 23 ≤ m ∨ e = -149) (hlong' : 2 ^ 23 ≤ m' ∨ e' = -149) :
    e + e' ≤ ulpExponent ((m * m' : ℕ) * 2 ^ (e + e')) := by
  apply le_ulpExponent
  have hplace : (0 : ℚ) < 2 ^ (e + e') := zpow_pos (by norm_num) _
  rw [abs_of_pos (by positivity), zpow_add₀ (by norm_num) (e + e') 23, mul_comm]
  rcases hlong with hlong | rfl
  · right
    have hproduct : 2 ^ 23 ≤ m * m' := hlong.trans (Nat.le_mul_of_pos_right m hpos')
    exact mul_le_mul_of_nonneg_right (by exact_mod_cast hproduct) hplace.le
  rcases hlong' with hlong' | rfl
  · right
    have hproduct : 2 ^ 23 ≤ m * m' := hlong'.trans (Nat.le_mul_of_pos_left m' hpos)
    exact mul_le_mul_of_nonneg_right (by exact_mod_cast hproduct) hplace.le
  · left
    omega

theorem isRounding_mul {a b : UnpackedFloat} (ha : a.isFinite = true) (hb : b.isFinite = true)
    (hcanonical : IsCanonical a) (hcanonical' : IsCanonical b) :
    IsRounding (number a * number b) (UnpackedFloat.mul .binary32 a b) := by
  rcases zero_or_finite ha with ⟨sign, rfl⟩ | ⟨sign, m, e, hpos, rfl⟩
  · rw [number_zero, zero_mul]
    rcases zero_or_finite hb with ⟨sign', rfl⟩ | ⟨sign', m', e', hpos', rfl⟩
    · exact isRounding_zero (sign * sign')
    · exact isRounding_zero (sign * sign')
  · rcases zero_or_finite hb with ⟨sign', rfl⟩ | ⟨sign', m', e', hpos', rfl⟩
    · rw [number_zero, mul_zero]
      exact isRounding_zero (sign * sign')
    · have hproduct : ((m : ℚ) * 2 ^ e) * (m' * 2 ^ e') = (m * m' : ℕ) * 2 ^ (e + e') := by
        rw [zpow_add₀ (by norm_num)]
        push_cast
        ring
      rw [number, number, signed_mul_signed, hproduct]
      exact isRounding_roundWithAccuracy (represents_exact (m * m'))
        (add_le_ulpExponent_mul hpos hpos' hcanonical.2.2 hcanonical'.2.2) (sign * sign')

/-- The quotient of two mantissas, shifted as core shifts it. -/
theorem shifted_div (m m' : ℕ) (e e' target : ℤ) :
    ((m <<< (e - e' - min (e - e') target).toNat : ℕ) : ℚ) / m' * 2 ^ min (e - e') target
      = m * 2 ^ e / (m' * 2 ^ e') := by
  have hsplit : (2 : ℚ) ^ e
      = 2 ^ (e - e' - min (e - e') target).toNat * 2 ^ min (e - e') target * 2 ^ e' := by
    rw [← zpow_natCast, ← zpow_add₀ (by norm_num), ← zpow_add₀ (by norm_num)]
    congr 1
    omega
  rw [hsplit, Nat.shiftLeft_eq]
  push_cast
  field_simp

/-- The quotient is shifted far enough. -/
theorem target_le_ulpExponent_div {m m' : ℕ} (hpos : 0 < m) (hpos' : 0 < m') (e e' : ℤ) :
    Format.binary32.targetExponent (totalExponent m e - totalExponent m' e')
      ≤ ulpExponent (m * 2 ^ e / (m' * 2 ^ e')) := by
  rw [targetExponent_eq, totalExponent, totalExponent]
  refine max_le (le_ulpExponent (.inr ?_)) (neg_149_le_ulpExponent _)
  have hm : (2 : ℚ) ^ m.log2 ≤ m := by exact_mod_cast Nat.log2_self_le hpos.ne'
  have hm' : (m' : ℚ) ≤ 2 ^ (m'.log2 + 1) := by exact_mod_cast (Nat.lt_log2_self (n := m')).le
  have hpos'' : (0 : ℚ) < m' := by exact_mod_cast hpos'
  have he : (0 : ℚ) < 2 ^ e := zpow_pos (by norm_num) e
  have he' : (0 : ℚ) < 2 ^ e' := zpow_pos (by norm_num) e'
  rw [abs_of_pos (by positivity), le_div_iff₀ (by positivity)]
  calc (2 : ℚ) ^ (m.log2 + 1 + e - (m'.log2 + 1 + e') - 24 + 23) * (m' * 2 ^ e')
      ≤ 2 ^ (m.log2 + 1 + e - (m'.log2 + 1 + e') - 24 + 23) * (2 ^ (m'.log2 + 1) * 2 ^ e') := by
        gcongr
    _ = 2 ^ m.log2 * 2 ^ e := by
        rw [← zpow_natCast, ← zpow_natCast, ← zpow_add₀ (by norm_num), ← zpow_add₀ (by norm_num),
          ← zpow_add₀ (by norm_num)]
        congr 1
        push_cast
        ring
    _ ≤ m * 2 ^ e := mul_le_mul_of_nonneg_right hm he.le

theorem isRounding_div {a b : UnpackedFloat} (ha : a.isFinite = true) (hb : b.isFinite = true)
    (hne : number b ≠ 0) : IsRounding (number a / number b) (UnpackedFloat.div .binary32 a b) := by
  rcases zero_or_finite hb with ⟨sign', rfl⟩ | ⟨sign', m', e', hpos', rfl⟩
  · exact (hne (number_zero sign')).elim
  rcases zero_or_finite ha with ⟨sign, rfl⟩ | ⟨sign, m, e, hpos, rfl⟩
  · rw [number_zero, zero_div]
    exact isRounding_zero (sign / sign')
  · have hsame := shifted_div m m' e e'
      (Format.binary32.targetExponent (totalExponent m e - totalExponent m' e'))
    have hplace := (min_le_right (e - e') _).trans (target_le_ulpExponent_div hpos hpos' e e')
    rw [number, number, signed_div_signed, ← hsame]
    rw [← hsame] at hplace
    exact isRounding_roundWithAccuracy (represents_fraction _ hpos') hplace (sign / sign')

theorem natCast_apply (sign : Sign) (m : ℕ) : ((sign.apply m : ℤ) : ℚ) = signed sign m := by
  cases sign <;> simp [Sign.apply, signed]

theorem isRounding_add {a b : UnpackedFloat} (ha : a.isFinite = true) (hb : b.isFinite = true)
    (hcanonical : IsCanonical a) (hcanonical' : IsCanonical b) :
    IsRounding (number a + number b) (UnpackedFloat.add .binary32 a b) := by
  rcases zero_or_finite ha with ⟨sign, rfl⟩ | ⟨sign, m, e, hpos, rfl⟩
  · rw [number_zero, zero_add]
    rcases zero_or_finite hb with ⟨sign', rfl⟩ | ⟨sign', m', e', hpos', rfl⟩
    · rw [number_zero, UnpackedFloat.add]
      split
      · exact isRounding_zero sign
      · exact isRounding_zero .positive
    · exact isRounding_number hb hcanonical'
  · rcases zero_or_finite hb with ⟨sign', rfl⟩ | ⟨sign', m', e', hpos', rfl⟩
    · rw [number_zero, add_zero]
      exact isRounding_number ha hcanonical
    · have hleft := natCast_decreaseExponent m e (min e e')
      have hright := natCast_decreaseExponent m' e' (min e e')
      have hexp : (decreaseExponent m e (min e e')).2 = min e e' := by
        show e - ((e - min e e').toNat : ℤ) = _
        omega
      have hexp' : (decreaseExponent m' e' (min e e')).2 = min e e' := by
        show e' - ((e' - min e e').toNat : ℤ) = _
        omega
      rw [hexp] at hleft
      rw [hexp'] at hright
      have hsum := isRounding_normalize (sign.apply (decreaseExponent m e (min e e')).1
        + sign'.apply (decreaseExponent m' e' (min e e')).1) (min e e') .positive
      have hnumber : number (.finite sign m e hpos) + number (.finite sign' m' e' hpos')
          = ((sign.apply (decreaseExponent m e (min e e')).1
            + sign'.apply (decreaseExponent m' e' (min e e')).1 : ℤ) : ℚ) * 2 ^ min e e' := by
        rw [number, number, ← hleft, ← hright]
        push_cast
        rw [natCast_apply, natCast_apply]
        cases sign <;> cases sign' <;> simp only [signed] <;> ring
      rw [hnumber]
      exact hsum

/-- Core's difference is the sum with the negative. -/
theorem sub_eq_add (a b : UnpackedFloat) :
    UnpackedFloat.sub .binary32 a b = UnpackedFloat.add .binary32 a b.neg := by
  cases a with
  | notANumber => rfl
  | infinity sign => cases b <;> rfl
  | zero sign => cases b <;> rfl
  | finite sign m e hpos =>
      cases b with
      | notANumber => rfl
      | infinity sign' => rfl
      | zero sign' => rfl
      | finite sign' m' e' hpos' =>
          have hsign (n : ℕ) : (-sign').apply n = -sign'.apply n := by
            cases sign'
            · exact (Int.neg_neg n).symm
            · rfl
          rw [UnpackedFloat.neg, UnpackedFloat.add, UnpackedFloat.sub]
          dsimp only
          rw [hsign, Int.sub_eq_add_neg]

theorem number_neg (a : UnpackedFloat) : number a.neg = -number a := by
  cases a with
  | finite sign m e hpos =>
      cases sign
      · exact (neg_neg _).symm
      · rfl
  | notANumber => exact neg_zero.symm
  | infinity sign => exact neg_zero.symm
  | zero sign => exact neg_zero.symm

theorem isRounding_sub {a b : UnpackedFloat} (ha : a.isFinite = true) (hb : b.isFinite = true)
    (hcanonical : IsCanonical a) (hcanonical' : IsCanonical b) :
    IsRounding (number a - number b) (UnpackedFloat.sub .binary32 a b) := by
  have hfinite : b.neg.isFinite = true := by rw [← hb]; cases b <;> rfl
  have hneg : IsCanonical b.neg := by cases b <;> exact hcanonical'
  rw [sub_eq_add, sub_eq_add_neg, ← number_neg]
  exact isRounding_add ha hfinite hcanonical hneg

end LightPilot.Single
