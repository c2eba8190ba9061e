import LightPilot.Link.Frame
import Mathlib

set_option autoImplicit false

/-! # The fields of a frame come back

The upper seven bits of a frame hold the two fields side by side, and its lowest bit makes the number of
ones even. So checking and reading a frame that was encoded gives the fields back, as far as they fit
(`Frame.validate_encode`). -/

namespace LightPilot.Frame

/-! ## The parity bit -/

/-- The parity bit of a byte says nothing of its lowest bit. -/
theorem parity_of_even (half : Fin 128) :
    let byte := UInt8.ofNat (2 * half)
    parityBit (byte ||| parityBit byte) = parityBit byte ∧
      (byte ||| parityBit byte) &&& 1 = parityBit byte ∧
      (byte ||| parityBit byte).toNat / 2 = half := by
  revert half
  decide +kernel

/-! ## The fields -/

/-- The upper seven bits of a frame. -/
def payload (address command addressBits : UInt8) : Nat :=
  let width := addressWidth addressBits
  address.toNat % 2 ^ width * 2 ^ (7 - width) + command.toNat % 2 ^ (7 - width)

variable (address command addressBits : UInt8)

theorem addressWidth_le : addressWidth addressBits ≤ 7 :=
  Nat.min_le_right ..

/-- The place of the address is twice that of the same field in the upper seven bits. -/
theorem two_pow_place :
    2 ^ (8 - addressWidth addressBits) = 2 * 2 ^ (7 - addressWidth addressBits) := by
  rw [← Nat.pow_succ', Nat.succ_sub (addressWidth_le addressBits)]

/-- The two parts of a byte at the edge of the address field. -/
theorem two_pow_split :
    2 ^ (8 - addressWidth addressBits) * 2 ^ addressWidth addressBits = 2 ^ 8 := by
  have hwidth := addressWidth_le addressBits
  rw [← Nat.pow_add, Nat.sub_add_cancel (by omega)]

theorem payload_lt : payload address command addressBits < 128 := by
  have hwidth := addressWidth_le addressBits
  have haddress := Nat.mod_lt address.toNat (Nat.two_pow_pos (addressWidth addressBits))
  have hcommand := Nat.mod_lt command.toNat (Nat.two_pow_pos (7 - addressWidth addressBits))
  have hsplit : 2 ^ addressWidth addressBits * 2 ^ (7 - addressWidth addressBits) = 128 := by
    rw [← Nat.pow_add, Nat.add_sub_cancel' hwidth]
  have hfields := Nat.mul_le_mul_right (2 ^ (7 - addressWidth addressBits)) (Nat.succ_le_of_lt haddress)
  rw [Nat.succ_mul, hsplit] at hfields
  rw [payload]
  omega

theorem encode_eq :
    encode address command addressBits
      = UInt8.ofNat (2 * payload address command addressBits)
        ||| parityBit (UInt8.ofNat (2 * payload address command addressBits)) := by
  have hpayload : address.toNat % 2 ^ addressWidth addressBits * 2 ^ (8 - addressWidth addressBits)
      + command.toNat % 2 ^ (7 - addressWidth addressBits) * 2
        = 2 * payload address command addressBits := by
    rw [payload, two_pow_place]
    ring
  rw [encode]
  dsimp only [Nat.pow_eq]
  rw [hpayload]

/-- A frame that was encoded has its own parity bit. -/
theorem checkParity_encode : checkParity (encode address command addressBits) = true := by
  obtain ⟨hparity, hlowest, -⟩ := parity_of_even ⟨_, payload_lt address command addressBits⟩
  rw [checkParity, encode_eq, beq_iff_eq, hparity, hlowest]

theorem toNat_encode_div_two :
    (encode address command addressBits).toNat / 2 = payload address command addressBits := by
  rw [encode_eq]
  exact (parity_of_even ⟨_, payload_lt address command addressBits⟩).2.2

theorem toNat_address (byte : UInt8) :
    (Frame.address byte addressBits).toNat = byte.toNat / 2 ^ (8 - addressWidth addressBits) := by
  rw [Frame.address, Nat.pow_eq, UInt8.toNat_ofNat_of_lt']
  exact Nat.lt_of_le_of_lt (Nat.div_le_self ..) byte.toNat_lt

theorem toNat_command (byte : UInt8) :
    (Frame.command byte addressBits).toNat
      = byte.toNat % 2 ^ (8 - addressWidth addressBits) / 2 := by
  rw [Frame.command, Nat.pow_eq, UInt8.toNat_ofNat_of_lt']
  exact Nat.lt_of_le_of_lt ((Nat.div_le_self ..).trans (Nat.mod_le ..)) byte.toNat_lt

/-- The address that comes back, as far as it fits. -/
theorem address_encode :
    (Frame.address (encode address command addressBits) addressBits).toNat
      = address.toNat % 2 ^ addressWidth addressBits := by
  have hcommand := Nat.mod_lt command.toNat (Nat.two_pow_pos (7 - addressWidth addressBits))
  rw [toNat_address, two_pow_place, ← Nat.div_div_eq_div_mul, toNat_encode_div_two, payload,
    Nat.mul_comm, Nat.mul_add_div (Nat.two_pow_pos _), Nat.div_eq_of_lt hcommand, Nat.add_zero]

/-- The command that comes back, as far as it fits. -/
theorem command_encode :
    (Frame.command (encode address command addressBits) addressBits).toNat
      = command.toNat % 2 ^ (7 - addressWidth addressBits) := by
  rw [toNat_command, two_pow_place, Nat.mod_mul_right_div_self, toNat_encode_div_two, payload,
    Nat.mul_add_mod_self_right, Nat.mod_mod]

/-- A frame for this unit is accepted, and gives the command back as far as it fits. -/
theorem validate_encode {address : UInt8} (haddress : address.toNat < 2 ^ addressWidth addressBits) :
    validate (encode address command addressBits) address addressBits
      = .ok (UInt8.ofNat (command.toNat % 2 ^ (7 - addressWidth addressBits))) := by
  have hsame : Frame.address (encode address command addressBits) addressBits = address := by
    apply UInt8.toNat_inj.1
    rw [address_encode, Nat.mod_eq_of_lt haddress]
  rw [validate, checkParity_encode, hsame, if_neg (by simp), if_neg (by simp), ← command_encode,
    UInt8.ofNat_toNat]

end LightPilot.Frame
