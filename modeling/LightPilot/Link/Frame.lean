import LightPilot.Number.Binary

set_option autoImplicit false

/-! # Frames of the light link

A frame is one byte, sent lowest bit first. Bit 0 makes the number of ones even, the address stands in
the top bits, and the command in between:

| bits  | 0      | 1 to 7 - a | 8 - a to 7 |
|-------|--------|------------|------------|
| field | parity | command    | address    |

where `a` is the width of the address field, at most 7. -/

namespace LightPilot

/-- Why a complete byte is not a frame for this unit. -/
inductive FrameError
  | parityMismatch (byte : UInt8)
  | addressMismatch (byte address : UInt8)
  deriving DecidableEq

/-- The wording of an error. -/
def FrameError.message : FrameError → String
  | parityMismatch byte => "Parity mismatch in frame " ++ Binary.text byte
  | addressMismatch byte address =>
    "Frame " ++ Binary.text byte ++ " addressed to unit " ++ address.toNat.repr

namespace Frame

/-- The width of an address field; wider than 7 bits counts as 7. -/
def addressWidth (addressBits : UInt8) : Nat :=
  min addressBits.toNat 7

/-- The parity bit that belongs to a byte: the parity of its upper seven bits. -/
def parityBit (byte : UInt8) : UInt8 :=
  UInt8.ofNat (((Binary.bits byte).tail.count true) % 2)

/-- Whether a byte has its own parity bit. -/
def checkParity (byte : UInt8) : Bool :=
  parityBit byte == byte &&& 1

/-- The address field of a frame. -/
def address (byte addressBits : UInt8) : UInt8 :=
  UInt8.ofNat (byte.toNat / Nat.pow 2 (8 - addressWidth addressBits))

/-- The command field of a frame. -/
def command (byte addressBits : UInt8) : UInt8 :=
  UInt8.ofNat (byte.toNat % Nat.pow 2 (8 - addressWidth addressBits) / 2)

/-- The frame that carries a command to an address. Bits that do not fit their field are dropped. -/
def encode (address command addressBits : UInt8) : UInt8 :=
  let width := addressWidth addressBits
  let addressField := address.toNat % Nat.pow 2 width * Nat.pow 2 (8 - width)
  let commandField := command.toNat % Nat.pow 2 (7 - width) * 2
  let byte := UInt8.ofNat (addressField + commandField)
  byte ||| parityBit byte

/-- The bits of a frame in the order they are sent. -/
def bits (byte : UInt8) : List Bool :=
  Binary.bits byte

/-- The command of a frame; refused if the parity is wrong or the frame is for another unit. -/
def validate (byte unitId addressBits : UInt8) : Except FrameError UInt8 :=
  if !checkParity byte then .error (.parityMismatch byte)
  else if address byte addressBits ≠ unitId then
    .error (.addressMismatch byte (address byte addressBits))
  else .ok (command byte addressBits)

end Frame

end LightPilot
