import LightPilot.Link.Config
import LightPilot.Proofs.Check
import Mathlib

set_option autoImplicit false

/-! # The settings that a link accepts -/

namespace LightPilot

theorem checkWindowSize_eq_ok_iff (size : Nat) :
    checkWindowSize size = .ok () ↔ isWindowSize size = true := by
  rw [checkWindowSize]
  split <;> simp_all

namespace LinkConfig

theorem validate_eq_ok_iff (config : LinkConfig) (size : Nat) :
    config.validate size = .ok () ↔
      isWindowSize size = true ∧
      (config.sampleRate ≠ 0 ∧ config.sampleRate.toNat / 2 ≤ 65535) ∧
      (config.addressBits ≤ 6 ∧ config.unitId.toNat < 2 ^ config.addressBits.toNat) ∧
      config.isReachable size config.tone0 = true ∧ config.isReachable size config.tone1 = true ∧
      config.tone0 ≠ config.tone1 := by
  rw [validate, Check.bind_eq_ok_iff, checkWindowSize_eq_ok_iff, Check.before_eq_ok_iff,
    Check.before_eq_ok_iff, Check.before_eq_ok_iff, Check.before_eq_ok_iff, Check.last_eq_ok_iff]
  simp

end LinkConfig

end LightPilot
