import LightPilot.Proofs.Number.Value

set_option autoImplicit false

/-! # The order of singles, infinities among them

A NaN is neither below nor above anything. All other singles are ordered by their `level`, the number that they
stand for or one of two ends (`lt_iff_level`), so that among them less-than is the strict part of a linear
order: what does not surpass a number is below all that does (`lt_of_not_lt_of_lt`). -/

namespace LightPilot.Single

open Float.Model (UnpackedFloat)
open Float.Model.UnpackedFloat

variable {x y z : Float32}

/-- The place of a single in the order; that of a NaN means nothing. -/
def level (x : Float32) : WithBot (WithTop ℚ) :=
  match x.toModel.unpack with
  | .infinity .negative => ⊥
  | .infinity .positive => ((⊤ : WithTop ℚ) : WithBot (WithTop ℚ))
  | _ => ((value x : WithTop ℚ) : WithBot (WithTop ℚ))

/-- The kinds of numbers. -/
inductive Kind (x : Float32) : Prop
  | least (hunpack : x.toModel.unpack = .infinity .negative)
  | greatest (hunpack : x.toModel.unpack = .infinity .positive)
  | finite (hfinite : isFinite x = true)

theorem kind_of_isNaN (hnumber : x.isNaN = false) : Kind x := by
  have hcore : x.toModel.unpack.isNaN = false := hnumber
  cases hunpack : x.toModel.unpack with
  | notANumber =>
      rw [hunpack] at hcore
      contradiction
  | infinity sign =>
      cases sign with
      | negative => exact .least hunpack
      | positive => exact .greatest hunpack
  | zero sign | finite sign m e hpos =>
      refine .finite ?_
      show x.toModel.unpack.isFinite = true
      rw [hunpack]
      rfl

theorem level_of_least (hx : x.toModel.unpack = .infinity .negative) : level x = ⊥ := by
  rw [level, hx]

theorem level_of_greatest (hx : x.toModel.unpack = .infinity .positive) :
    level x = ((⊤ : WithTop ℚ) : WithBot (WithTop ℚ)) := by
  rw [level, hx]

theorem level_of_isFinite (hx : isFinite x = true) :
    level x = ((value x : WithTop ℚ) : WithBot (WithTop ℚ)) := by
  rcases zero_or_finite hx with ⟨sign, hunpack⟩ | ⟨sign, m, e, hpos, hunpack⟩
  · rw [level, hunpack]
  · rw [level, hunpack]

/-! ## Less-than -/

theorem lt_iff_unpack {a b : UnpackedFloat} (hx : x.toModel.unpack = a) (hy : y.toModel.unpack = b) :
    x < y ↔ a.lt b = true := by
  show Float32.lt x y = true ↔ _
  rw [Float32.lt, decide_eq_true_iff, ← hx, ← hy]
  rfl

/-- Only numbers are compared. -/
theorem isNaN_of_lt (h : x < y) : x.isNaN = false ∧ y.isNaN = false := by
  show x.toModel.unpack.isNaN = false ∧ y.toModel.unpack.isNaN = false
  cases hx : x.toModel.unpack with
  | notANumber =>
      have hlt := (lt_iff_unpack hx rfl).1 h
      cases hy : y.toModel.unpack <;> rw [hy] at hlt <;> contradiction
  | zero | finite | infinity =>
      cases hy : y.toModel.unpack with
      | notANumber =>
          have hlt := (lt_iff_unpack hx hy).1 h
          contradiction
      | zero | finite | infinity => exact ⟨rfl, rfl⟩

theorem not_lt_of_least (hx : x.isNaN = false) (hy : y.toModel.unpack = .infinity .negative) :
    ¬ x < y := by
  intro h
  cases kind_of_isNaN hx with
  | least hx | greatest hx => exact absurd ((lt_iff_unpack hx hy).1 h) (by decide)
  | finite hx =>
      rcases zero_or_finite hx with ⟨_, hx⟩ | ⟨_, _, _, _, hx⟩
      · exact absurd ((lt_iff_unpack hx hy).1 h) Bool.false_ne_true
      · exact absurd ((lt_iff_unpack hx hy).1 h) Bool.false_ne_true

theorem not_lt_of_greatest (hx : x.toModel.unpack = .infinity .positive) (hy : y.isNaN = false) :
    ¬ x < y := by
  intro h
  cases kind_of_isNaN hy with
  | least hy | greatest hy => exact absurd ((lt_iff_unpack hx hy).1 h) (by decide)
  | finite hy =>
      rcases zero_or_finite hy with ⟨_, hy⟩ | ⟨_, _, _, _, hy⟩
      · exact absurd ((lt_iff_unpack hx hy).1 h) Bool.false_ne_true
      · exact absurd ((lt_iff_unpack hx hy).1 h) Bool.false_ne_true

theorem lt_of_least_of_isFinite (hx : x.toModel.unpack = .infinity .negative) (hy : isFinite y = true) :
    x < y := by
  rcases zero_or_finite hy with ⟨_, hy⟩ | ⟨_, _, _, _, hy⟩
  · exact (lt_iff_unpack hx hy).2 rfl
  · exact (lt_iff_unpack hx hy).2 rfl

theorem lt_of_isFinite_of_greatest (hx : isFinite x = true) (hy : y.toModel.unpack = .infinity .positive) :
    x < y := by
  rcases zero_or_finite hx with ⟨_, hx⟩ | ⟨_, _, _, _, hx⟩
  · exact (lt_iff_unpack hx hy).2 rfl
  · exact (lt_iff_unpack hx hy).2 rfl

/-- Numbers are ordered by their levels. -/
theorem lt_iff_level (hx : x.isNaN = false) (hy : y.isNaN = false) : x < y ↔ level x < level y := by
  cases kind_of_isNaN hx with
  | greatest hx' =>
      rw [level_of_greatest hx']
      exact iff_of_false (not_lt_of_greatest hx' hy) not_top_lt
  | least hx' =>
      rw [level_of_least hx']
      cases kind_of_isNaN hy with
      | least hy' =>
          rw [level_of_least hy']
          exact iff_of_false (not_lt_of_least hx hy') (lt_irrefl ⊥)
      | greatest hy' =>
          rw [level_of_greatest hy']
          exact iff_of_true ((lt_iff_unpack hx' hy').2 rfl) (WithBot.bot_lt_coe _)
      | finite hy' =>
          rw [level_of_isFinite hy']
          exact iff_of_true (lt_of_least_of_isFinite hx' hy') (WithBot.bot_lt_coe _)
  | finite hx' =>
      rw [level_of_isFinite hx']
      cases kind_of_isNaN hy with
      | least hy' =>
          rw [level_of_least hy']
          exact iff_of_false (not_lt_of_least hx hy') not_lt_bot
      | greatest hy' =>
          rw [level_of_greatest hy']
          exact iff_of_true (lt_of_isFinite_of_greatest hx' hy')
            (WithBot.coe_lt_coe.2 (WithTop.coe_lt_top _))
      | finite hy' =>
          rw [lt_iff hx' hy', level_of_isFinite hy', WithBot.coe_lt_coe, WithTop.coe_lt_coe]

theorem irrefl_lt (x : Float32) : ¬ x < x := by
  intro h
  obtain ⟨hx, -⟩ := isNaN_of_lt h
  exact lt_irrefl _ ((lt_iff_level hx hx).1 h)

theorem trans_lt (hxy : x < y) (hyz : y < z) : x < z := by
  obtain ⟨hx, hy⟩ := isNaN_of_lt hxy
  obtain ⟨-, hz⟩ := isNaN_of_lt hyz
  rw [lt_iff_level hx hy] at hxy
  rw [lt_iff_level hy hz] at hyz
  exact (lt_iff_level hx hz).2 (hxy.trans hyz)

/-- A number that does not surpass `x` is below all that do. -/
theorem lt_of_not_lt_of_lt (hz : z.isNaN = false) (hxz : ¬ x < z) (hxy : x < y) : z < y := by
  obtain ⟨hx, hy⟩ := isNaN_of_lt hxy
  rw [lt_iff_level hx hz, not_lt] at hxz
  rw [lt_iff_level hx hy] at hxy
  exact (lt_iff_level hz hy).2 (hxz.trans_lt hxy)

end LightPilot.Single
