import LightPilot.Proofs.Number.Value
import LightPilot.Random.Generator

set_option autoImplicit false

/-! # Uniform draws in single precision

A word is scaled to a number from 0 to 1, both included, and that to a number of an interval. A number that
comes out at the open end, drawn or rounded, is replaced by the other end. -/

namespace LightPilot.Generator

open Single

/-- Each of the results is one draw, from some state that the generator goes through. -/
theorem exists_get_draws {α : Type} (draw : Generator → α × Generator) (count : ℕ) (g : Generator)
    (i : Fin count) : ∃ before, (draws draw count g).1.get i = (draw before).1 := by
  induction count with
  | zero => exact i.elim0
  | succ count ih =>
      have hpush : (draws draw (count + 1) g).1
          = (draws draw count g).1.push (draw (draws draw count g).2).1 := rfl
      rw [hpush, Vector.get_eq_getElem, Vector.getElem_push]
      split
      · next hlt => exact ih ⟨i, hlt⟩
      · exact ⟨_, rfl⟩

theorem value_words : isFinite (4294967296 : Float32) = true ∧ value 4294967296 = 2 ^ 32 := by
  refine ⟨rfl, ?_⟩
  show signed .positive ((2 ^ 23 : ℕ) * 2 ^ (9 : ℤ)) = 2 ^ 32
  norm_num [signed]

theorem value_zero : isFinite (0 : Float32) = true ∧ value 0 = 0 :=
  ⟨rfl, rfl⟩

/-- A number of words, or one word more. -/
theorem value_word (word : UInt32) :
    isFinite word.toFloat32 = true ∧ 0 ≤ value word.toFloat32 ∧ value word.toFloat32 ≤ 2 ^ 32 := by
  have hlt : (word.toNat : ℚ) ≤ 2 ^ 32 := by exact_mod_cast word.toNat_lt.le
  obtain ⟨hfinite, hrounded⟩ := (rounds_toFloat32 word).of_le (by positivity) hlt
  have hend : Representable (2 ^ 32) := ⟨1, 32, by norm_num, by norm_num, by norm_num⟩
  exact ⟨hfinite, hrounded.le_of_le representable_zero (by positivity), hrounded.ge_of_ge hend hlt⟩

theorem value_unit (g : Generator) :
    isFinite g.unit.1 = true ∧ 0 ≤ value g.unit.1 ∧ value g.unit.1 ≤ 1 := by
  obtain ⟨hfinite, hlow, hhigh⟩ := value_word g.word.1
  obtain ⟨hwords, hvalue⟩ := value_words
  have hrounds := rounds_div hfinite hwords (by rw [hvalue]; norm_num)
  rw [hvalue] at hrounds
  have hpos : 0 ≤ value g.word.1.toFloat32 / 2 ^ 32 := by positivity
  have hle : value g.word.1.toFloat32 / 2 ^ 32 ≤ 1 := by
    rw [div_le_one (by norm_num)]
    exact hhigh
  obtain ⟨hfiniteUnit, hrounded⟩ := hrounds.of_le hpos (hle.trans (by norm_num))
  have hone : Representable 1 := ⟨1, 0, by norm_num, by norm_num, by norm_num⟩
  exact ⟨hfiniteUnit, hrounded.le_of_le representable_zero hpos, hrounded.ge_of_ge hone hle⟩

/-- A draw from zero up to a positive end is not below zero and stays below the end. -/
theorem value_within {high : Float32} (hfinite : isFinite high = true) (hpos : 0 < value high)
    (g : Generator) :
    isFinite (within 0 high g).1 = true ∧ 0 ≤ value (within 0 high g).1 ∧
      value (within 0 high g).1 < value high := by
  obtain ⟨hunit, hlow, hhigh⟩ := value_unit g
  obtain ⟨hzero, hvalueZero⟩ := value_zero
  obtain ⟨hwidth, hvalueWidth⟩ := value_sub_zero hfinite
  have hproduct := rounds_mul hunit hwidth
  rw [hvalueWidth] at hproduct
  have hscaled : value g.unit.1 * value high ≤ value high := mul_le_of_le_one_left hpos.le hhigh
  have hnonneg : 0 ≤ value g.unit.1 * value high := mul_nonneg hlow hpos.le
  have hsmall : |value g.unit.1 * value high| ≤ greatest := by
    rw [abs_of_nonneg hnonneg]
    exact hscaled.trans ((le_abs_self _).trans (abs_value_le high))
  have hplace := hproduct.finite hsmall
  have hplaceLow := (hproduct.isRounded hsmall).le_of_le representable_zero hnonneg
  have hsum := rounds_add hzero hplace
  rw [hvalueZero, zero_add] at hsum
  obtain ⟨hdrawn, hvalueDrawn⟩ := hsum.value_eq (representable_value _) (abs_value_le _)
  have hwithin : (within 0 high g).1
      = if 0 + g.unit.1 * (high - 0) ≥ high then 0 else 0 + g.unit.1 * (high - 0) := rfl
  rw [hwithin]
  split
  · exact ⟨hzero, hvalueZero.ge, by rwa [hvalueZero]⟩
  · next hbelow =>
      rw [ge_iff_le, le_iff hfinite hdrawn, not_le] at hbelow
      exact ⟨hdrawn, by rwa [hvalueDrawn], hbelow⟩

end LightPilot.Generator
