import LightPilot.Proofs.Number.Rounding
import LightPilot.Proofs.Number.Truncation

set_option autoImplicit false

/-! # The number that a single stands for

`value` reads a single as a number. A result of arithmetic is the exact result rounded, unless that is too
large (`Rounds`), and comparisons, `floor?` and `roundAway` go by the values. -/

namespace LightPilot.Single

open Float.Model (Format UnpackedFloat)
open Float.Model.UnpackedFloat

/-- The number that a single stands for; zero for those that stand for none. -/
def value (x : Float32) : ℚ :=
  number x.toModel.unpack

/-- The greatest number that a single stands for. -/
def greatest : ℚ :=
  (2 ^ 24 - 1) * 2 ^ 104

variable {q : ℚ} {x y : Float32}

/-! ## Packing -/

theorem toNat_one_append (mantissa : BitVec 23) : (1#1 ++ mantissa).toNat = 2 ^ 23 + mantissa.toNat := by
  have hsum := Nat.two_pow_add_eq_or_of_lt mantissa.isLt 1
  rw [BitVec.toNat_append, Nat.shiftLeft_eq, Nat.mul_comm]
  exact hsum.symm

theorem isCanonical_unpack (bits : BitVec Format.binary32.numBits) :
    IsCanonical (unpack .binary32 bits) := by
  have hmantissa : (unpackMantissa bits).toNat < 2 ^ 23 := (unpackMantissa bits).isLt
  have hbias : ((Format.binary32.exponentBias : ℤ) + (23 : ℕ)) = 150 := rfl
  rw [unpack]
  dsimp only
  rw [hbias]
  split
  · split <;> trivial
  · split
    · next hzero =>
        split
        · trivial
        · have hexponent : (unpackExponent bits).toNat = 0 := congrArg BitVec.toNat hzero
          refine ⟨by omega, by omega, .inr ?_⟩
          rw [hexponent]
          norm_num
    · next hne =>
        have hexponent : 0 < (unpackExponent bits).toNat := by
          rw [Nat.pos_iff_ne_zero]
          intro hzero
          exact hne (BitVec.toNat_inj.1 hzero)
        rw [IsCanonical, toNat_one_append]
        exact ⟨by omega, by omega, .inl (by omega)⟩

theorem unpack_packedInfinity (sign : Sign) :
    unpack .binary32 (packedInfinity .binary32 sign) = .infinity sign := by
  simp [unpack, packedInfinity]

theorem unpack_packComponents_normal {m : ℕ} (hlong : 2 ^ 23 ≤ m) (hshort : m < 2 ^ 24) {e : ℤ}
    (he : -149 ≤ e) (hlarge : e ≤ 104) (sign : Sign) (hpos : 0 < m) :
    unpack .binary32 (packComponents .binary32 sign (.ofNat _ (e + 150).toNat) (.ofNat _ m))
      = .finite sign m e hpos := by
  have hexponent : (BitVec.ofNat 8 (e + 150).toNat).toNat = (e + 150).toNat := by
    rw [BitVec.toNat_ofNat, Nat.mod_eq_of_lt (by omega)]
  have hones : ¬ BitVec.ofNat 8 (e + 150).toNat = -1#8 := by
    intro hones
    have hnat := congrArg BitVec.toNat hones
    rw [hexponent, show (-1#8).toNat = 255 from rfl] at hnat
    omega
  have hzero : ¬ BitVec.ofNat 8 (e + 150).toNat = 0#8 := by
    intro hzero
    have hnat := congrArg BitVec.toNat hzero
    rw [hexponent, show (0#8).toNat = 0 from rfl] at hnat
    omega
  have hmantissa : (1#1 ++ BitVec.ofNat 23 m).toNat = m := by
    rw [toNat_one_append, BitVec.toNat_ofNat]
    omega
  have hbias : Format.binary32.exponentBias = 127 := rfl
  rw [unpack]
  simp only [unpackMantissa_packComponents, unpackExponent_packComponents, unpackSign_packComponents,
    hones, hzero, if_false, Sign.ofBitVec_toBitVec, hexponent, hmantissa, hbias]
  congr 1
  omega

theorem unpack_packComponents_subnormal {m : ℕ} (hpos : 0 < m) (hshort : m < 2 ^ 23) (sign : Sign) :
    unpack .binary32 (packComponents .binary32 sign 0#_ (.ofNat _ m)) = .finite sign m (-149) hpos := by
  have hmantissa : (BitVec.ofNat 23 m).toNat = m := by
    rw [BitVec.toNat_ofNat, Nat.mod_eq_of_lt hshort]
  have hzero : ¬ BitVec.ofNat 23 m = 0#23 := by
    intro hzero
    have hnat := congrArg BitVec.toNat hzero
    rw [hmantissa, show (0#23).toNat = 0 from rfl] at hnat
    omega
  have hones : ¬ (0#8 = -1#8) := by decide
  rw [unpack]
  simp only [unpackMantissa_packComponents, unpackExponent_packComponents, unpackSign_packComponents,
    hones, hzero, if_true, if_false, Sign.ofBitVec_toBitVec, hmantissa]
  rfl

theorem biasedExponent_eq (e : ℤ) :
    e + Format.binary32.exponentBias + Format.binary32.mantissaBitsWithoutImplicit = e + 150 := by
  show e + (127 : ℕ) + (23 : ℕ) = _
  push_cast
  ring

/-- A canonical float comes back if its exponent can be packed. -/
theorem unpack_pack_finite {sign : Sign} {m : ℕ} {e : ℤ} {hpos : 0 < m}
    (hf : IsCanonical (.finite sign m e hpos)) (hlarge : e ≤ 104) :
    unpack .binary32 (pack .binary32 (.finite sign m e hpos)) = .finite sign m e hpos := by
  obtain ⟨hshort, he, hlong⟩ := hf
  rw [pack]
  dsimp only
  rw [biasedExponent_eq, if_neg (by omega)]
  rcases le_or_gt (2 ^ 23) m with hnormal | hsubnormal
  · have hlog : m.log2 + 1 = Format.binary32.mantissaBits := by
      show m.log2 + 1 = 24
      rw [(Nat.log2_eq_iff hpos.ne').2 ⟨hnormal, hshort⟩]
    rw [if_pos hlog]
    exact unpack_packComponents_normal hnormal hshort he hlarge sign hpos
  · have hlog : m.log2 + 1 ≠ Format.binary32.mantissaBits := by
      show m.log2 + 1 ≠ 24
      have hshorter := (Nat.log2_lt hpos.ne').2 hsubnormal
      omega
    obtain rfl : e = -149 := hlong.resolve_left (Nat.not_le.2 hsubnormal)
    rw [if_neg hlog]
    exact unpack_packComponents_subnormal hpos hsubnormal sign

/-- A greater exponent is packed as infinity. -/
theorem unpack_pack_of_lt (sign : Sign) {m : ℕ} {e : ℤ} (hpos : 0 < m) (hlarge : 104 < e) :
    unpack .binary32 (pack .binary32 (.finite sign m e hpos)) = .infinity sign := by
  rw [pack]
  dsimp only
  rw [biasedExponent_eq, if_pos (by omega)]
  exact unpack_packedInfinity sign

/-! ## Values -/

theorem representable_greatest : Representable greatest :=
  ⟨2 ^ 24 - 1, 104, by norm_num, by norm_num, by norm_num [greatest]⟩

theorem isCanonical_toModel (x : Float32) : IsCanonical x.toModel.unpack :=
  isCanonical_unpack _

theorem representable_value (x : Float32) : Representable (value x) :=
  representable_number (isCanonical_toModel x)

theorem abs_number_finite (sign : Sign) {m : ℕ} (e : ℤ) (hpos : 0 < m) :
    |number (.finite sign m e hpos)| = m * 2 ^ e := by
  rw [number, abs_signed, abs_of_nonneg (by positivity)]

theorem exponent_le {x : Float32} {sign : Sign} {m : ℕ} {e : ℤ} {hpos : 0 < m}
    (hx : x.toModel.unpack = .finite sign m e hpos) : e ≤ 104 := by
  by_contra hlarge
  have hbits := pack_unpack_of_valid x.toModel.valid
  have hunpack : unpack .binary32 (pack .binary32 x.toModel.unpack) = x.toModel.unpack :=
    congrArg (unpack .binary32) hbits
  rw [hx, unpack_pack_of_lt sign hpos (by omega)] at hunpack
  contradiction

theorem abs_value_le (x : Float32) : |value x| ≤ greatest := by
  have hcanonical := isCanonical_toModel x
  rw [value]
  cases hx : x.toModel.unpack with
  | finite sign m e hpos =>
      rw [hx] at hcanonical
      rw [abs_number_finite, greatest]
      have hm : (m : ℚ) ≤ 2 ^ 24 - 1 := by
        rw [le_sub_iff_add_le]
        exact_mod_cast hcanonical.1
      have he : (2 : ℚ) ^ e ≤ 2 ^ (104 : ℤ) := zpow_le_zpow_right₀ (by norm_num) (exponent_le hx)
      exact mul_le_mul hm (by exact_mod_cast he) (zpow_pos (by norm_num) e).le (by norm_num)
  | infinity sign => norm_num [number, greatest]
  | notANumber => norm_num [number, greatest]
  | zero sign => norm_num [number, greatest]

theorem le_greatest_of_le (hpos : 0 ≤ q) (hq : q ≤ 2 ^ 32) : |q| ≤ greatest := by
  rw [abs_of_nonneg hpos]
  exact hq.trans (by norm_num [greatest])

/-! ## Results of arithmetic -/

/-- A single is a number rounded, unless the number is too large. -/
structure Rounds (q : ℚ) (x : Float32) : Prop where
  rounded : isFinite x = true → IsRounded q (value x)
  finite : |q| ≤ greatest → isFinite x = true

theorem Rounds.isRounded (h : Rounds q x) (hq : |q| ≤ greatest) : IsRounded q (value x) :=
  h.rounded (h.finite hq)

theorem Rounds.of_le (h : Rounds q x) (hpos : 0 ≤ q) (hq : q ≤ 2 ^ 32) :
    isFinite x = true ∧ IsRounded q (value x) :=
  ⟨h.finite (le_greatest_of_le hpos hq), h.isRounded (le_greatest_of_le hpos hq)⟩

theorem IsRounded.abs_le_greatest {r : ℚ} (h : IsRounded q r) (hq : |q| ≤ greatest) :
    |r| ≤ greatest := by
  obtain ⟨hlower, hupper⟩ := abs_le.1 hq
  exact abs_le.2 ⟨h.le_of_le representable_greatest.neg hlower,
    h.ge_of_ge representable_greatest hupper⟩

theorem rounds_of_unpack {f : UnpackedFloat} (hunpack : x.toModel.unpack = f)
    (hf : IsRounding q f) : Rounds q x := by
  constructor
  case rounded =>
    intro _
    rw [value, hunpack]
    exact hf.rounded
  case finite =>
    intro _
    show x.toModel.unpack.isFinite = true
    rw [hunpack]
    exact hf.finite

/-- What is packed as infinite was too large. -/
theorem greatest_lt_abs {sign : Sign} {m : ℕ} {e : ℤ} {hpos : 0 < m}
    (hf : IsRounding q (.finite sign m e hpos)) (hlarge : 104 < e) : greatest < |q| := by
  by_contra hq
  have hsmall := hf.rounded.abs_le_greatest (not_lt.1 hq)
  have hlong : 2 ^ 23 ≤ m := hf.canonical.2.2.resolve_right (by omega)
  have hm : (2 : ℚ) ^ 23 ≤ m := by exact_mod_cast hlong
  have he : (2 : ℚ) ^ (105 : ℤ) ≤ 2 ^ e := zpow_le_zpow_right₀ (by norm_num) (by omega)
  have hproduct : (2 : ℚ) ^ 23 * 2 ^ (105 : ℤ) ≤ m * 2 ^ e :=
    mul_le_mul hm he (by positivity) (by positivity)
  rw [abs_number_finite] at hsmall
  have hcontra := hproduct.trans hsmall
  norm_num [greatest] at hcontra

theorem rounds_of_pack {f : UnpackedFloat} (hx : x.toModel = .pack f) (hf : IsRounding q f) :
    Rounds q x := by
  have hunpack : x.toModel.unpack = unpack .binary32 (pack .binary32 f) := by
    rw [hx]
    rfl
  rcases zero_or_finite hf.finite with ⟨sign, rfl⟩ | ⟨sign, m, e, hpos, rfl⟩
  · exact rounds_of_unpack (hunpack.trans unpack_packedZero) hf
  rcases le_or_gt e 104 with hsmall | hlarge
  · exact rounds_of_unpack (hunpack.trans (unpack_pack_finite hf.canonical hsmall)) hf
  · have hinfinite := hunpack.trans (unpack_pack_of_lt sign hpos hlarge)
    constructor
    case rounded =>
      intro hfinite
      have hnone : x.toModel.unpack.isFinite = true := hfinite
      rw [hinfinite] at hnone
      contradiction
    case finite => exact fun hq => absurd hq (not_le.2 (greatest_lt_abs hf hlarge))

theorem rounds_mul (hx : isFinite x = true) (hy : isFinite y = true) :
    Rounds (value x * value y) (x * y) :=
  rounds_of_pack rfl (isRounding_mul hx hy (isCanonical_toModel x) (isCanonical_toModel y))

theorem rounds_div (hx : isFinite x = true) (hy : isFinite y = true) (hne : value y ≠ 0) :
    Rounds (value x / value y) (x / y) :=
  rounds_of_pack rfl (isRounding_div hx hy hne)

theorem rounds_add (hx : isFinite x = true) (hy : isFinite y = true) :
    Rounds (value x + value y) (x + y) :=
  rounds_of_pack rfl (isRounding_add hx hy (isCanonical_toModel x) (isCanonical_toModel y))

theorem rounds_sub (hx : isFinite x = true) (hy : isFinite y = true) :
    Rounds (value x - value y) (x - y) :=
  rounds_of_pack rfl (isRounding_sub hx hy (isCanonical_toModel x) (isCanonical_toModel y))

/-- A finite product has a finite factor. -/
theorem isFinite_of_mul (h : isFinite (x * y) = true) : isFinite y = true := by
  have hproduct : (x * y).toModel.unpack
      = unpack .binary32 (pack .binary32 (UnpackedFloat.mul .binary32 x.toModel.unpack y.toModel.unpack)) :=
    rfl
  have hfinite : (x * y).toModel.unpack.isFinite = true := h
  show y.toModel.unpack.isFinite = true
  rw [hproduct] at hfinite
  cases hy : y.toModel.unpack with
  | finite sign m e hpos => rfl
  | zero sign => rfl
  | notANumber =>
      have hnone : UnpackedFloat.mul .binary32 x.toModel.unpack .notANumber = .notANumber := by
        cases x.toModel.unpack <;> rfl
      rw [hy, hnone, pack, unpack_packedNaN] at hfinite
      contradiction
  | infinity sign =>
      rw [hy] at hfinite
      cases hx : x.toModel.unpack with
      | notANumber =>
          rw [hx, UnpackedFloat.mul, pack, unpack_packedNaN] at hfinite
          contradiction
      | zero sign' =>
          rw [hx, UnpackedFloat.mul, pack, unpack_packedNaN] at hfinite
          contradiction
      | infinity sign' =>
          rw [hx, UnpackedFloat.mul, pack, unpack_packedInfinity] at hfinite
          contradiction
      | finite sign' m e hpos =>
          rw [hx, UnpackedFloat.mul, pack, unpack_packedInfinity] at hfinite
          contradiction

/-- A result that needs no rounding is exact. -/
theorem Rounds.value_eq (h : Rounds q x) (hexact : Representable q) (hq : |q| ≤ greatest) :
    isFinite x = true ∧ value x = q :=
  ⟨h.finite hq, (h.isRounded hq).eq_of_representable hexact⟩

/-- Taking nothing away changes nothing. -/
theorem value_sub_zero (hx : isFinite x = true) :
    isFinite (x - 0) = true ∧ value (x - 0) = value x := by
  have hzero : value 0 = 0 := rfl
  have hsub := rounds_sub hx (show isFinite 0 = true from rfl)
  rw [hzero, sub_zero] at hsub
  exact hsub.value_eq (representable_value x) (abs_value_le x)

/-! ## Literals and words -/

theorem abs_natCast_le_greatest {n : ℕ} (hn : n < 2 ^ 24) : |(n : ℚ)| ≤ greatest := by
  have hn' : (n : ℚ) ≤ 2 ^ 24 := by exact_mod_cast hn.le
  exact le_greatest_of_le (Nat.cast_nonneg n) (hn'.trans (by norm_num))

theorem rounds_ofNat {n : ℕ} (hx : x.toModel = .pack (ofNat .binary32 n)) : Rounds n x := by
  refine rounds_of_pack hx ?_
  have hnormalize := isRounding_normalize n 0 .positive
  rwa [zpow_zero, mul_one, Int.cast_natCast] at hnormalize

/-- Core makes a small literal by a product with one. -/
theorem value_natCast {n : ℕ} (hn : n < 2 ^ 23) :
    isFinite (Float32.ofNat n) = true ∧ value (Float32.ofNat n) = n := by
  have hproduct : Float32.ofNat n
      = n.toUInt64.toFloat32 * Float32.exactlyRepresentablePowersOfTen[0] := by
    show Float32.ofScientific n false 0 = _
    rw [Float32.ofScientific, dif_pos ⟨hn, by decide⟩]
    rfl
  have hsmall := abs_natCast_le_greatest (n := n) (by omega)
  have hexact : Representable n := representable_natCast (by omega)
  have hword : n.toUInt64.toNat = n := UInt64.toNat_ofNat_of_lt' (by
    show n < 2 ^ 64
    omega)
  have hmodel : n.toUInt64.toFloat32.toModel = .pack (ofNat .binary32 n) := by
    show Float32.Model.pack (ofNat .binary32 n.toUInt64.toNat) = _
    rw [hword]
  obtain ⟨hfinite, hvalue⟩ := (rounds_ofNat hmodel).value_eq hexact hsmall
  have hone : value Float32.exactlyRepresentablePowersOfTen[0] = 1 := by
    show signed .positive ((2 ^ 23 : ℕ) * 2 ^ (-23 : ℤ)) = 1
    norm_num [signed]
  have hmul := rounds_mul hfinite (show isFinite Float32.exactlyRepresentablePowersOfTen[0] = true from rfl)
  rw [hvalue, hone, mul_one, ← hproduct] at hmul
  exact hmul.value_eq hexact hsmall

theorem value_half : isFinite (0.5 : Float32) = true ∧ value 0.5 = 1 / 2 := by
  refine ⟨rfl, ?_⟩
  show signed .positive ((2 ^ 23 : ℕ) * 2 ^ (-24 : ℤ)) = 1 / 2
  norm_num [signed]

theorem rounds_toFloat32 (word : UInt32) : Rounds word.toNat word.toFloat32 :=
  rounds_ofNat rfl

/-! ## Comparisons -/

theorem lt_of_exponent_lt {m m' : ℕ} {e e' : ℤ} (hpos : 0 < m) (hpos' : 0 < m')
    (hf : IsCanonical (.finite .positive m e hpos)) (hf' : IsCanonical (.finite .positive m' e' hpos'))
    (hlt : e < e') : (m : ℚ) * 2 ^ e < m' * 2 ^ e' := by
  have hlong : 2 ^ 23 ≤ m' := hf'.2.2.resolve_right (by have := hf.2.1; omega)
  have hplace : (0 : ℚ) < 2 ^ e := zpow_pos (by norm_num) e
  calc (m : ℚ) * 2 ^ e < 2 ^ 24 * 2 ^ e := by
        apply mul_lt_mul_of_pos_right _ hplace
        exact_mod_cast hf.1
    _ = 2 ^ 23 * 2 ^ (e + 1) := by
        rw [zpow_add_one₀ (by norm_num)]
        ring
    _ ≤ m' * 2 ^ e' := by
        apply mul_le_mul (by exact_mod_cast hlong) _ (by positivity) (by positivity)
        exact zpow_le_zpow_right₀ (by norm_num) hlt

/-- Among canonical floats the exponent decides first. -/
theorem compare_then_compare {m m' : ℕ} {e e' : ℤ} (hpos : 0 < m) (hpos' : 0 < m')
    (hf : IsCanonical (.finite .positive m e hpos)) (hf' : IsCanonical (.finite .positive m' e' hpos')) :
    (compare e e').then (compare m m') = compare ((m : ℚ) * 2 ^ e) (m' * 2 ^ e') := by
  rcases lt_trichotomy e e' with hlt | rfl | hgt
  · rw [compare_lt_iff_lt.2 hlt, compare_lt_iff_lt.2 (lt_of_exponent_lt hpos hpos' hf hf' hlt)]
    rfl
  · have hplace : (0 : ℚ) < 2 ^ e := zpow_pos (by norm_num) e
    rw [compare_eq_iff_eq.2 rfl]
    rcases lt_trichotomy m m' with hlt | rfl | hgt
    · have hvalue : (m : ℚ) * 2 ^ e < m' * 2 ^ e :=
        mul_lt_mul_of_pos_right (by exact_mod_cast hlt) hplace
      rw [compare_lt_iff_lt.2 hlt, compare_lt_iff_lt.2 hvalue]
      rfl
    · rw [compare_eq_iff_eq.2 rfl, compare_eq_iff_eq.2 rfl]
      rfl
    · have hvalue : (m' : ℚ) * 2 ^ e < m * 2 ^ e :=
        mul_lt_mul_of_pos_right (by exact_mod_cast hgt) hplace
      rw [compare_gt_iff_gt.2 hgt, compare_gt_iff_gt.2 hvalue]
      rfl
  · rw [compare_gt_iff_gt.2 hgt, compare_gt_iff_gt.2 (lt_of_exponent_lt hpos' hpos hf' hf hgt)]
    rfl

theorem compare_neg_neg (p r : ℚ) : compare (-p) (-r) = (compare p r).swap := by
  rcases lt_trichotomy p r with hlt | rfl | hgt
  · rw [compare_lt_iff_lt.2 hlt, compare_gt_iff_gt.2 (neg_lt_neg hlt)]
    rfl
  · rw [compare_eq_iff_eq.2 rfl, compare_eq_iff_eq.2 rfl]
    rfl
  · rw [compare_gt_iff_gt.2 hgt, compare_lt_iff_lt.2 (neg_lt_neg hgt)]
    rfl

/-- Finite floats compare as their numbers do. -/
theorem compare_eq {a b : UnpackedFloat} (ha : a.isFinite = true) (hb : b.isFinite = true)
    (hcanonical : IsCanonical a) (hcanonical' : IsCanonical b) :
    a.compare b = some (compare (number a) (number b)) := by
  rcases zero_or_finite ha with ⟨sign, rfl⟩ | ⟨sign, m, e, hpos, rfl⟩
  · rcases zero_or_finite hb with ⟨sign', rfl⟩ | ⟨sign', m', e', hpos', rfl⟩
    · rfl
    · have hvalue : (0 : ℚ) < m' * 2 ^ e' := by positivity
      cases sign'
      · rw [number_zero, number, signed, compare_gt_iff_gt.2 (neg_lt_zero.2 hvalue)]
        rfl
      · rw [number_zero, number, signed, compare_lt_iff_lt.2 hvalue]
        rfl
  · have hvalue : (0 : ℚ) < m * 2 ^ e := by positivity
    rcases zero_or_finite hb with ⟨sign', rfl⟩ | ⟨sign', m', e', hpos', rfl⟩
    · cases sign
      · rw [number_zero, number, signed, compare_lt_iff_lt.2 (neg_lt_zero.2 hvalue)]
        rfl
      · rw [number_zero, number, signed, compare_gt_iff_gt.2 hvalue]
        rfl
    · have hvalue' : (0 : ℚ) < m' * 2 ^ e' := by positivity
      have hsame := compare_then_compare hpos hpos' hcanonical hcanonical'
      cases sign <;> cases sign'
      · rw [number, number, signed, signed, compare_neg_neg, ← hsame]
        rfl
      · rw [number, number, signed, signed, compare_lt_iff_lt.2 (by linarith)]
        rfl
      · rw [number, number, signed, signed, compare_gt_iff_gt.2 (by linarith)]
        rfl
      · rw [number, number, signed, signed, ← hsame]
        rfl

theorem lt_iff (hx : isFinite x = true) (hy : isFinite y = true) : x < y ↔ value x < value y := by
  have hcompare := compare_eq hx hy (isCanonical_toModel x) (isCanonical_toModel y)
  show Float32.lt x y = true ↔ _
  rw [Float32.lt, decide_eq_true_iff]
  show UnpackedFloat.lt x.toModel.unpack y.toModel.unpack = true ↔ _
  rw [UnpackedFloat.lt, beq_iff_eq, hcompare, Option.some_inj, compare_lt_iff_lt]
  rfl

theorem le_iff (hx : isFinite x = true) (hy : isFinite y = true) : x ≤ y ↔ value x ≤ value y := by
  have hcompare := compare_eq hx hy (isCanonical_toModel x) (isCanonical_toModel y)
  show Float32.le x y = true ↔ _
  rw [Float32.le, decide_eq_true_iff]
  show UnpackedFloat.le x.toModel.unpack y.toModel.unpack = true ↔ _
  rw [UnpackedFloat.le, hcompare, Option.any_some, Ordering.isLE_iff_ne_gt, compare_gt_iff_gt, not_lt]
  rfl

/-! ## Rounding down -/

theorem floor?_eq (hx : isFinite x = true) : floor? x = some ⌊value x⌋ := by
  rw [floor?, value]
  rcases zero_or_finite hx with ⟨sign, hunpack⟩ | ⟨sign, m, e, hpos, hunpack⟩
  · rw [hunpack, number_zero, Int.floor_zero]
  · have hsigned : ((sign.apply m : ℤ) : ℚ) * 2 ^ e = number (.finite sign m e hpos) := by
      rw [natCast_apply, number]
      cases sign <;> simp [signed]
    rw [hunpack, ← hsigned, ← floorScaled_eq]

/-! ## Rounding to the nearest whole number -/

theorem nearestScaled_eq (significand : ℕ) (exponent : ℤ) :
    (nearestScaled significand exponent : ℤ) = ⌊(significand : ℚ) * 2 ^ exponent + 1 / 2⌋ := by
  have hdouble := floor_scaled (2 * significand) exponent
  rw [nearestScaled, Nat.pow_eq, Nat.pow_eq]
  generalize 2 * significand * 2 ^ exponent.toNat / 2 ^ (-exponent).toNat = halves at hdouble ⊢
  obtain ⟨hle, hlt⟩ := Int.floor_eq_iff.1 hdouble
  have hlower : 2 * (((halves + 1) / 2 : ℕ) : ℚ) ≤ halves + 1 := by
    exact_mod_cast (show 2 * ((halves + 1) / 2) ≤ halves + 1 by omega)
  have hupper : (halves : ℚ) + 1 ≤ 2 * ((halves + 1) / 2 : ℕ) + 1 := by
    exact_mod_cast (show halves + 1 ≤ 2 * ((halves + 1) / 2) + 1 by omega)
  push_cast at hle hlt
  symm
  rw [Int.floor_eq_iff, Int.cast_natCast]
  constructor <;> linarith

theorem value_roundAway (hx : isFinite x = true) (hpos : 0 ≤ value x) (hsmall : value x < 2 ^ 23) :
    isFinite (roundAway x) = true ∧ value (roundAway x) = ⌊value x + 1 / 2⌋ := by
  rcases zero_or_finite hx with ⟨sign, hunpack⟩ | ⟨sign, m, e, hm, hunpack⟩
  · have hsame : roundAway x = x := by
      rw [roundAway, hunpack]
    have hzero : value x = 0 := by rw [value, hunpack, number_zero]
    rw [hsame, hzero]
    exact ⟨hx, by norm_num⟩
  · have hvalue : value x = signed sign (m * 2 ^ e) := by rw [value, hunpack, number]
    have hround : (roundAway x).toModel
        = .pack (UnpackedFloat.round .binary32 sign (nearestScaled m e) 0) := by
      rw [roundAway, hunpack]
    cases sign with
    | negative =>
        have hnumber : (0 : ℚ) < m * 2 ^ e := by positivity
        rw [hvalue, signed] at hpos
        linarith
    | positive =>
        rw [signed] at hvalue
        have hwhole : (nearestScaled m e : ℤ) = ⌊value x + 1 / 2⌋ := by
          rw [hvalue, nearestScaled_eq]
        have hcast : ((nearestScaled m e : ℕ) : ℚ) = ⌊value x + 1 / 2⌋ := by
          rw [← hwhole, Int.cast_natCast]
        have hlt : nearestScaled m e < 2 ^ 24 := by
          have hfloor := Int.floor_le (value x + 1 / 2)
          rw [← hcast] at hfloor
          exact_mod_cast (show ((nearestScaled m e : ℕ) : ℚ) < 2 ^ 24 by linarith)
        rw [← hcast]
        refine Rounds.value_eq (rounds_of_pack hround ?_) (representable_natCast hlt)
          (abs_natCast_le_greatest hlt)
        rcases Nat.eq_zero_or_pos (nearestScaled m e) with hzero | hnearest
        · rw [hzero]
          exact isRounding_zero .positive
        · have hrounding := isRounding_round .positive hnearest 0
          rwa [signed, zpow_zero, mul_one] at hrounding

end LightPilot.Single
