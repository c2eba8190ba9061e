import LightPilot.Proofs.Number.Value

set_option autoImplicit false

/-! # Zeros

Zero has two signs, and IEEE equality does not tell them apart. Sums of zeros and products of a zero with a
finite number are zeros (`IsZero.add`, `IsZero.mul`), and adding a zero changes no number, be it infinite
(`sameNumber_add`); the bits may change, because a negative zero plus a positive one is positive. -/

namespace LightPilot.Single

open Float.Model (UnpackedFloat)
open Float.Model.UnpackedFloat

variable {x y z : Float32}

/-! ## Equality -/

/-- A zero of either sign. -/
def IsZero (x : Float32) : Prop :=
  (x == 0) = true

/-- The same number, or no number twice. -/
def SameNumber (x y : Float32) : Prop :=
  (x == y) = true ∨ x.isNaN = true ∧ y.isNaN = true

theorem beq_iff (hx : isFinite x = true) (hy : isFinite y = true) :
    (x == y) = true ↔ value x = value y := by
  have hcompare := compare_eq hx hy (isCanonical_toModel x) (isCanonical_toModel y)
  show UnpackedFloat.beq x.toModel.unpack y.toModel.unpack = true ↔ _
  rw [UnpackedFloat.beq, beq_iff_eq, hcompare, Option.some_inj, compare_eq_iff_eq]
  rfl

/-- What lies between finite numbers is finite. -/
theorem isFinite_of_lt_of_le (hx : isFinite x = true) (hz : isFinite z = true) (hlt : x < y)
    (hle : y ≤ z) : isFinite y = true := by
  have hx' : x.toModel.unpack.isFinite = true := hx
  have hz' : z.toModel.unpack.isFinite = true := hz
  have hlt' : UnpackedFloat.lt x.toModel.unpack y.toModel.unpack = true := of_decide_eq_true hlt
  have hle' : UnpackedFloat.le y.toModel.unpack z.toModel.unpack = true := of_decide_eq_true hle
  show y.toModel.unpack.isFinite = true
  cases hy : y.toModel.unpack with
  | finite => rfl
  | zero => rfl
  | notANumber =>
      rw [hy] at hle'
      contradiction
  | infinity sign =>
      rw [hy] at hlt' hle'
      cases sign with
      | negative =>
          rcases zero_or_finite hx' with ⟨sign, hx⟩ | ⟨sign, m, e, hpos, hx⟩
          · rw [hx] at hlt'
            contradiction
          · rw [hx] at hlt'
            contradiction
      | positive =>
          rcases zero_or_finite hz' with ⟨sign, hz⟩ | ⟨sign, m, e, hpos, hz⟩
          · rw [hz] at hle'
            contradiction
          · rw [hz] at hle'
            contradiction

/-! ## Arithmetic with zeros -/

theorem isFinite_of_isZero (h : IsZero x) : isFinite x = true := by
  have hequal : UnpackedFloat.beq x.toModel.unpack (.zero .positive) = true := h
  show x.toModel.unpack.isFinite = true
  cases hx : x.toModel.unpack with
  | finite => rfl
  | zero => rfl
  | notANumber =>
      rw [hx] at hequal
      contradiction
  | infinity sign =>
      rw [hx] at hequal
      cases sign <;> contradiction

theorem isZero_iff : IsZero x ↔ isFinite x = true ∧ value x = 0 := by
  constructor
  · intro h
    have hx := isFinite_of_isZero h
    exact ⟨hx, (beq_iff hx rfl).1 h⟩
  · rintro ⟨hx, hvalue⟩
    exact (beq_iff hx rfl).2 hvalue

theorem isZero_zero : IsZero 0 :=
  isZero_iff.2 ⟨rfl, rfl⟩

theorem Rounds.isZero (h : Rounds 0 x) : IsZero x := by
  have hsmall : |(0 : ℚ)| ≤ greatest := by norm_num [greatest]
  exact isZero_iff.2 (h.value_eq representable_zero hsmall)

theorem IsZero.add (hx : IsZero x) (hy : IsZero y) : IsZero (x + y) := by
  rw [isZero_iff] at hx hy
  have hsum := rounds_add hx.1 hy.1
  rw [hx.2, hy.2, add_zero] at hsum
  exact hsum.isZero

/-- A zero times a finite number. -/
theorem IsZero.mul (hx : IsZero x) (hy : isFinite y = true) : IsZero (x * y) := by
  rw [isZero_iff] at hx
  have hproduct := rounds_mul hx.1 hy
  rw [hx.2, zero_mul] at hproduct
  exact hproduct.isZero

theorem pack_unpack (bits : Float32.Model) : Float32.Model.pack bits.unpack = bits := by
  rcases bits with ⟨bits, hvalid⟩
  rw [Float32.Model.pack, Float32.Model.unpack, Float32.Model.mk.injEq]
  exact congrArg UInt32.ofBitVec (pack_unpack_of_valid hvalid)

/-- An infinity and a NaN absorb what is added. -/
theorem add_eq_self (hx : isFinite x = false) (hz : isFinite z = true) : x + z = x := by
  have hx' : x.toModel.unpack.isFinite = false := hx
  have hz' : z.toModel.unpack.isFinite = true := hz
  have habsorb : UnpackedFloat.add .binary32 x.toModel.unpack z.toModel.unpack = x.toModel.unpack := by
    cases hunpack : x.toModel.unpack with
    | notANumber => rfl
    | infinity sign => rcases zero_or_finite hz' with ⟨_, hz⟩ | ⟨_, _, _, _, hz⟩ <;> rw [hz] <;> rfl
    | zero =>
        rw [hunpack] at hx'
        contradiction
    | finite =>
        rw [hunpack] at hx'
        contradiction
  have hmodel : (x + z).toModel = x.toModel := by
    show Float32.Model.pack (UnpackedFloat.add .binary32 x.toModel.unpack z.toModel.unpack) = _
    rw [habsorb, pack_unpack]
  exact congrArg Float32.ofModel hmodel

theorem sameNumber_self (x : Float32) : SameNumber x x := by
  by_cases hx : isFinite x = true
  · exact .inl ((beq_iff hx hx).2 rfl)
  · have hx' : ¬ x.toModel.unpack.isFinite = true := hx
    cases hunpack : x.toModel.unpack with
    | notANumber =>
        have hnone : x.isNaN = true := by
          show x.toModel.unpack.isNaN = true
          rw [hunpack]
          rfl
        exact .inr ⟨hnone, hnone⟩
    | infinity sign =>
        left
        show UnpackedFloat.beq x.toModel.unpack x.toModel.unpack = true
        rw [hunpack]
        cases sign <;> rfl
    | zero =>
        rw [hunpack] at hx'
        exact absurd rfl hx'
    | finite =>
        rw [hunpack] at hx'
        exact absurd rfl hx'

/-- Adding a zero keeps a number as it is, and a NaN a NaN. -/
theorem sameNumber_add (hz : IsZero z) : SameNumber x (x + z) := by
  rw [isZero_iff] at hz
  cases hx : isFinite x with
  | false =>
      rw [add_eq_self hx hz.1]
      exact sameNumber_self x
  | true =>
      have hsum := rounds_add hx hz.1
      rw [hz.2, add_zero] at hsum
      obtain ⟨hfinite, hvalue⟩ := hsum.value_eq (representable_value x) (abs_value_le x)
      exact .inl ((beq_iff hx hfinite).2 hvalue.symm)

/-! ## Finite factors -/

theorem isFinite_one_sub (hpos : x > 0) (hle : x ≤ 1) : isFinite (1 - x) = true := by
  have hone : value 1 = 1 := (value_natCast (n := 1) (by norm_num)).2.trans Nat.cast_one
  have hx := isFinite_of_lt_of_le (x := 0) (z := 1) rfl rfl hpos hle
  have hpos' : value 0 < value x := (lt_iff rfl hx).1 hpos
  have hle' : value x ≤ value 1 := (le_iff hx rfl).1 hle
  have hzero : value 0 = 0 := rfl
  rw [hzero] at hpos'
  rw [hone] at hle'
  have hsub := rounds_sub (x := 1) rfl hx
  rw [hone] at hsub
  exact (hsub.of_le (by linarith) (by linarith)).1

theorem isFinite_half_mul (hx : isFinite x = true) : isFinite (0.5 * x) = true := by
  refine (rounds_mul value_half.1 hx).finite ?_
  rw [value_half.2, abs_mul]
  have hle := abs_value_le x
  have hpos := abs_nonneg (value x)
  norm_num
  linarith

end LightPilot.Single
