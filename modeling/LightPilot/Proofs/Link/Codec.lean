import LightPilot.Proofs.Link.Assembly
import LightPilot.Proofs.Link.Frame

set_option autoImplicit false

/-! # Frames and their fields determine each other

Encoding two fields and reading the frame gives the fields back, as far as they fit, and a byte with its own
parity bit is the frame of the fields it is read as. In machine words the fields are cut out by shifts and
masks (`Frame.Words`), which drop bits without a word and have no result when they are as wide as a byte; for
every width of the address field they come to the same. A byte without its own parity bit is what an odd
number of flipped bits makes of a frame, so it is refused (`isCodec`). -/

namespace LightPilot.Frame

/-! ## Frames in machine words -/

namespace Words

/-- A byte shifted down, unless the shift is as wide as the byte. -/
def shiftDown? (byte : UInt8) (places : Nat) : Option UInt8 :=
  if places < 8 then some (byte >>> UInt8.ofNat places) else none

/-- A byte shifted up, unless the shift is as wide as the byte. -/
def shiftUp? (byte : UInt8) (places : Nat) : Option UInt8 :=
  if places < 8 then some (byte <<< UInt8.ofNat places) else none

/-- The address field of a frame. -/
def address (byte addressBits : UInt8) : UInt8 :=
  (shiftDown? byte (8 - addressWidth addressBits)).getD 0

/-- The command field of a frame; the first shift drops the address. -/
def command (byte addressBits : UInt8) : UInt8 :=
  (shiftDown? (byte <<< UInt8.ofNat (addressWidth addressBits)) (addressWidth addressBits + 1)).getD 0

/-- The frame that carries a command to an address. -/
def encode (address command addressBits : UInt8) : UInt8 :=
  let width := addressWidth addressBits
  -- up to eight places of a byte, so the mask is made in a wider word
  let commandMask := ((1 : UInt16) <<< UInt16.ofNat (7 - width) - 1).toUInt8
  let addressField := (shiftUp? address (8 - width)).getD 0
  let byte := addressField ||| (command &&& commandMask) <<< 1
  byte ||| parityBit byte

theorem toNat_ofNat_mod_eight {places : Nat} (h : places < 8) :
    (UInt8.ofNat places).toNat % 8 = places := by
  rw [UInt8.toNat_ofNat_of_lt' (Nat.lt_trans h (by decide)), Nat.mod_eq_of_lt h]

theorem toNat_shiftDown? (byte : UInt8) (places : Nat) :
    ((shiftDown? byte places).getD 0).toNat = byte.toNat / 2 ^ places := by
  rw [shiftDown?]
  by_cases h : places < 8
  case pos =>
    rw [if_pos h, Option.getD_some, UInt8.toNat_shiftRight, toNat_ofNat_mod_eight h,
      Nat.shiftRight_eq_div_pow]
  case neg =>
    have hwide : 2 ^ 8 ≤ 2 ^ places := Nat.pow_le_pow_right (by decide) (Nat.not_lt.1 h)
    rw [if_neg h, Nat.div_eq_of_lt (Nat.lt_of_lt_of_le byte.toNat_lt hwide)]
    rfl

theorem toNat_shiftUp? (byte : UInt8) (places : Nat) :
    ((shiftUp? byte places).getD 0).toNat = byte.toNat * 2 ^ places % 2 ^ 8 := by
  rw [shiftUp?]
  by_cases h : places < 8
  case pos =>
    rw [if_pos h, Option.getD_some, UInt8.toNat_shiftLeft, toNat_ofNat_mod_eight h,
      Nat.shiftLeft_eq]
  case neg =>
    have hwide : 2 ^ 8 ∣ byte.toNat * 2 ^ places :=
      Nat.dvd_mul_left_of_dvd (Nat.pow_dvd_pow 2 (Nat.not_lt.1 h)) byte.toNat
    rw [if_neg h, Nat.mod_eq_zero_of_dvd hwide]
    rfl

variable (address command addressBits byte : UInt8)

theorem address_eq : Words.address byte addressBits = Frame.address byte addressBits := by
  apply UInt8.toNat_inj.1
  rw [Words.address, toNat_shiftDown?, toNat_address]

theorem command_eq : Words.command byte addressBits = Frame.command byte addressBits := by
  have hwidth := addressWidth_le addressBits
  have hshifted : (byte <<< UInt8.ofNat (addressWidth addressBits)).toNat
      = byte.toNat % 2 ^ (8 - addressWidth addressBits) * 2 ^ addressWidth addressBits := by
    rw [UInt8.toNat_shiftLeft, toNat_ofNat_mod_eight (by omega), Nat.shiftLeft_eq,
      ← two_pow_split addressBits, Nat.mul_mod_mul_right]
  apply UInt8.toNat_inj.1
  rw [Words.command, toNat_shiftDown?, hshifted, Nat.pow_succ',
    Nat.mul_div_mul_right _ _ (Nat.two_pow_pos _), toNat_command]

theorem toNat_commandMask :
    (((1 : UInt16) <<< UInt16.ofNat (7 - addressWidth addressBits) - 1).toUInt8).toNat
      = 2 ^ (7 - addressWidth addressBits) - 1 := by
  have hall : ∀ width : Fin 8,
      (((1 : UInt16) <<< UInt16.ofNat (7 - width) - 1).toUInt8).toNat = 2 ^ (7 - width.val) - 1 := by
    decide
  exact hall ⟨addressWidth addressBits, Nat.lt_succ_of_le (addressWidth_le addressBits)⟩

/-- The command field, and the room that the address field leaves for it and the parity bit. -/
theorem toNat_commandField :
    let commandMask := ((1 : UInt16) <<< UInt16.ofNat (7 - addressWidth addressBits) - 1).toUInt8
    ((command &&& commandMask) <<< 1).toNat = command.toNat % 2 ^ (7 - addressWidth addressBits) * 2 ∧
      command.toNat % 2 ^ (7 - addressWidth addressBits) * 2 < 2 ^ (8 - addressWidth addressBits) := by
  have hwidth := addressWidth_le addressBits
  have hfits : command.toNat % 2 ^ (7 - addressWidth addressBits) * 2
      < 2 ^ (8 - addressWidth addressBits) := by
    have hlt := Nat.mod_lt command.toNat (Nat.two_pow_pos (7 - addressWidth addressBits))
    rw [Nat.succ_sub hwidth, Nat.pow_succ]
    omega
  refine ⟨?_, hfits⟩
  have hbyte : 2 ^ (8 - addressWidth addressBits) ≤ 2 ^ 8 :=
    Nat.pow_le_pow_right (by decide) (Nat.sub_le ..)
  rw [UInt8.toNat_shiftLeft, UInt8.toNat_and, toNat_commandMask, Nat.and_two_pow_sub_one_eq_mod,
    Nat.shiftLeft_eq]
  exact Nat.mod_eq_of_lt (Nat.lt_of_lt_of_le hfits hbyte)

theorem encode_eq : Words.encode address command addressBits
    = Frame.encode address command addressBits := by
  obtain ⟨hcommand, hfits⟩ := toNat_commandField command addressBits
  have haddress : ((shiftUp? address (8 - addressWidth addressBits)).getD 0).toNat
      = address.toNat % 2 ^ addressWidth addressBits * 2 ^ (8 - addressWidth addressBits) := by
    rw [toNat_shiftUp?, ← two_pow_split addressBits, Nat.mul_comm (2 ^ (8 - _)),
      Nat.mul_mod_mul_right]
  -- the two fields share no place, so putting them together adds them up
  have hfields := Nat.two_pow_add_eq_or_of_lt hfits
    (address.toNat % 2 ^ addressWidth addressBits)
  rw [Nat.mul_comm] at hfields
  have hbyte : (shiftUp? address (8 - addressWidth addressBits)).getD 0
        ||| (command &&& ((1 : UInt16) <<< UInt16.ofNat (7 - addressWidth addressBits) - 1).toUInt8) <<< 1
      = UInt8.ofNat (address.toNat % 2 ^ addressWidth addressBits * 2 ^ (8 - addressWidth addressBits)
          + command.toNat % 2 ^ (7 - addressWidth addressBits) * 2) := by
    rw [hfields, ← haddress, ← hcommand, ← UInt8.toNat_or, UInt8.ofNat_toNat]
  rw [Words.encode, Frame.encode]
  dsimp only [Nat.pow_eq]
  rw [hbyte]

end Words

/-! ## Parity -/

/-- The upper seven bits of a byte. -/
theorem tail_bits (byte : UInt8) :
    (Binary.bits byte).tail = (List.range 7).map (byte.toNat / 2).testBit := by
  rw [Binary.bits, List.range_succ_eq_map, List.map_cons, List.tail_cons, List.map_map]
  exact List.map_congr_left fun i _ => Nat.testBit_succ ..

theorem bits_eq_cons (byte : UInt8) :
    Binary.bits byte = byte.toNat.testBit 0 :: (Binary.bits byte).tail := by
  rw [Binary.bits, List.range_succ_eq_map, List.map_cons, List.tail_cons]

/-- A byte has its own parity bit if the number of its ones is even. -/
theorem checkParity_iff (byte : UInt8) :
    checkParity byte = true ↔ Even ((Binary.bits byte).count true) := by
  have hlowest : (byte &&& 1).toNat = byte.toNat % 2 := by
    rw [UInt8.toNat_and]
    exact Nat.and_one_is_mod _
  have hparity : (parityBit byte).toNat = (Binary.bits byte).tail.count true % 2 := by
    rw [parityBit, UInt8.toNat_ofNat_of_lt']
    exact Nat.lt_trans (Nat.mod_lt _ (by decide)) (by decide)
  rw [checkParity, beq_iff_eq, ← UInt8.toNat_inj, hlowest, hparity, bits_eq_cons,
    List.count_cons, List.tail_cons, Nat.even_iff, Nat.testBit_zero]
  by_cases hodd : byte.toNat % 2 = 1
  case pos =>
    simp only [hodd, decide_true, beq_self_eq_true, if_true]
    omega
  case neg =>
    simp only [hodd, decide_false, beq_iff_eq, Bool.false_eq_true, if_false]
    omega

/-- The number of places where exactly one of two lists is true. -/
theorem count_xor {α : Type} (f g : α → Bool) (places : List α) :
    (places.map fun i => f i ^^ g i).count true % 2
      = ((places.map f).count true + (places.map g).count true) % 2 := by
  induction places with
  | nil => rfl
  | cons i places ih =>
      simp only [List.map_cons, List.count_cons]
      cases f i <;> cases g i <;> simp <;> omega

/-- Flipping an odd number of bits of a byte changes its parity. -/
theorem checkParity_xor {byte mask : UInt8} (hbyte : checkParity byte = true)
    (hmask : Odd ((Binary.bits mask).count true)) : checkParity (byte ^^^ mask) = false := by
  have hflipped := count_xor byte.toNat.testBit mask.toNat.testBit (List.range 8)
  have hbits : Binary.bits (byte ^^^ mask)
      = (List.range 8).map fun i => byte.toNat.testBit i ^^ mask.toNat.testBit i := by
    rw [Binary.bits, UInt8.toNat_xor]
    exact List.map_congr_left fun i _ => Nat.testBit_xor ..
  rw [checkParity_iff, Nat.even_iff, Binary.bits] at hbyte
  rw [Nat.odd_iff, Binary.bits] at hmask
  rw [← Bool.not_eq_true, checkParity_iff, hbits, Nat.even_iff, hflipped]
  omega

/-- The lowest bit of a frame follows from the others. -/
theorem eq_of_checkParity {byte other : UInt8} (hbyte : checkParity byte = true)
    (hother : checkParity other = true) (hupper : byte.toNat / 2 = other.toNat / 2) :
    byte = other := by
  have hparity : parityBit byte = parityBit other := by
    rw [parityBit, parityBit, tail_bits, tail_bits, hupper]
  rw [checkParity, beq_iff_eq, hparity] at hbyte
  rw [checkParity, beq_iff_eq, hbyte, ← UInt8.toNat_inj, UInt8.toNat_and, UInt8.toNat_and] at hother
  have hlowest : byte.toNat % 2 = other.toNat % 2 := by
    rw [← Nat.and_one_is_mod, ← Nat.and_one_is_mod]
    exact hother
  apply UInt8.toNat_inj.1
  omega

/-! ## Reading and encoding -/

variable (addressBits byte : UInt8)

/-- The fields that a byte is read as hold its upper seven bits. -/
theorem payload_fields :
    payload (Frame.address byte addressBits) (command byte addressBits) addressBits
      = byte.toNat / 2 := by
  have haddress : byte.toNat / 2 ^ (8 - addressWidth addressBits) < 2 ^ addressWidth addressBits := by
    rw [Nat.div_lt_iff_lt_mul (Nat.two_pow_pos _), Nat.mul_comm, two_pow_split]
    exact byte.toNat_lt
  have hcommand : byte.toNat % 2 ^ (8 - addressWidth addressBits) / 2
      = byte.toNat / 2 % 2 ^ (7 - addressWidth addressBits) := by
    rw [two_pow_place, Nat.mod_mul_right_div_self]
  rw [payload, toNat_address, toNat_command, Nat.mod_eq_of_lt haddress, hcommand, Nat.mod_mod,
    two_pow_place, ← Nat.div_div_eq_div_mul, Nat.mul_comm, Nat.div_add_mod]

/-- A byte with its own parity bit is the frame of its fields. -/
theorem encode_fields {byte : UInt8} (h : checkParity byte = true) :
    encode (address byte addressBits) (command byte addressBits) addressBits = byte := by
  refine eq_of_checkParity (checkParity_encode ..) h ?_
  rw [toNat_encode_div_two, payload_fields]

theorem validate_of_not_checkParity {byte : UInt8} (h : checkParity byte = false)
    (unitId : UInt8) : validate byte unitId addressBits = .error (.parityMismatch byte) := by
  rw [validate, h]
  rfl

/-- What frames with an address field of this width have to do. -/
structure IsCodec (addressBits : UInt8) : Prop where
  /-- In machine words, frames are read and encoded alike. -/
  words : (∀ byte, Words.address byte addressBits = Frame.address byte addressBits) ∧
    (∀ byte, Words.command byte addressBits = command byte addressBits) ∧
    ∀ address command,
      Words.encode address command addressBits = encode address command addressBits
  checked : ∀ address command, checkParity (encode address command addressBits) = true
  address : ∀ address command,
    (Frame.address (encode address command addressBits) addressBits).toNat
      = address.toNat % 2 ^ addressWidth addressBits
  command : ∀ address command,
    (Frame.command (encode address command addressBits) addressBits).toNat
      = command.toNat % 2 ^ (7 - addressWidth addressBits)
  /-- A byte with its own parity bit is the frame of its fields. -/
  restored : ∀ byte, checkParity byte = true →
    encode (Frame.address byte addressBits) (Frame.command byte addressBits) addressBits = byte
  /-- The bits of a byte, lowest first, are its binary digits. -/
  rebuilt : ∀ byte, Decoder.value (bits byte) = byte.toNat
  /-- A frame with an odd number of flipped bits is refused by every unit. -/
  detected : ∀ address command mask unitId, Odd ((bits mask).count true) →
    validate (encode address command addressBits ^^^ mask) unitId addressBits
      = .error (.parityMismatch (encode address command addressBits ^^^ mask))

/-- **Frames and their fields determine each other**, and an odd number of flipped bits is found out. -/
theorem isCodec : IsCodec addressBits where
  words := ⟨fun byte => Words.address_eq addressBits byte,
    fun byte => Words.command_eq addressBits byte,
    fun address command => Words.encode_eq address command addressBits⟩
  checked address command := checkParity_encode address command addressBits
  address address command := address_encode address command addressBits
  command address command := command_encode address command addressBits
  restored _ h := encode_fields addressBits h
  rebuilt byte := by
    have hvalue := Decoder.toNat_eq_value fun i => (Decoder.getD_bits byte i).symm
    rw [bits, ← hvalue]
  detected address command mask unitId hmask :=
    validate_of_not_checkParity addressBits
      (checkParity_xor (checkParity_encode address command addressBits) hmask) unitId

/-- Two flipped bits of a frame make another frame. -/
example : validate (encode 0 10 2) 0 2 = .ok 10 ∧ validate (encode 0 10 2 ^^^ 0b110) 0 2 = .ok 9 := by
  decide

end LightPilot.Frame
