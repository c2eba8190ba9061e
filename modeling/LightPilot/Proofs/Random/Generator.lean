import LightPilot.Random.Generator
import Mathlib

set_option autoImplicit false

/-! # Uniform draws stay in range

A draw takes the upper half of a product of one word and the bound, and may repeat it. Each product is
below the bound times the number of words, whatever the state, so the number drawn lies between 1 and
the bound (`Generator.upTo_mem`). -/

namespace LightPilot.Generator

theorem scaledWord_lt (bound : Nat) (g : Generator) (hbound : 0 < bound) :
    (g.scaledWord bound).1 < bound * 2 ^ 32 := by
  have hword : g.word.1.toNat < 2 ^ 32 := g.word.1.toNat_lt
  rw [scaledWord, Nat.mul_comm]
  exact Nat.mul_lt_mul_of_pos_left hword hbound

theorem redraw_lt (bound threshold attempts : Nat) (draw : Nat × Generator) (hbound : 0 < bound)
    (hdraw : draw.1 < bound * 2 ^ 32) :
    (redraw bound threshold attempts draw).1 < bound * 2 ^ 32 := by
  induction attempts generalizing draw with
  | zero => exact hdraw
  | succ attempts ih =>
      rw [redraw]
      split
      · exact ih _ (scaledWord_lt bound draw.2 hbound)
      · exact hdraw

theorem unbiased_lt (bound : Nat) (draw : Nat × Generator) (hbound : 0 < bound)
    (hdraw : draw.1 < bound * 2 ^ 32) : (unbiased bound draw).1 < bound * 2 ^ 32 := by
  rw [unbiased]
  split
  · exact redraw_lt bound _ _ _ hbound hdraw
  · exact hdraw

/-- The number drawn is between 1 and the bound. -/
theorem upTo_mem (bound : Nat) (g : Generator) (hbound : 0 < bound) :
    0 < (g.upTo bound).1 ∧ (g.upTo bound).1 ≤ bound := by
  have hlt := unbiased_lt bound (g.scaledWord bound) hbound (scaledWord_lt bound g hbound)
  rw [upTo]
  refine ⟨Nat.succ_pos _, Nat.succ_le_of_lt (Nat.div_lt_of_lt_mul ?_)⟩
  rwa [Nat.mul_comm]

end LightPilot.Generator
