import LightPilot.Link.Config
import LightPilot.Link.Frame

set_option autoImplicit false

/-! # From votes to frames

The decoder writes the bit of each vote into the byte in progress, lowest bit first, and checks the byte
as a frame when it is complete. A vote for neither tone drops the byte in progress, and so does a pause
that is too long. Ticks are on a wrapping clock. -/

namespace LightPilot

/-- What a window or a vote led to. -/
inductive FrameOutcome
  /-- The vote waits for more windows. -/
  | pending
  /-- A bit was written, and `count` bits of the byte are known. -/
  | bitAccepted (count : Nat)
  /-- A frame for this unit was complete. -/
  | command (code : UInt8)
  /-- A byte was complete but is not a frame for this unit. -/
  | discarded (error : FrameError)
  /-- The vote was for neither tone, and the byte in progress was dropped. -/
  | reset
  deriving DecidableEq

/-- The decoder and its byte in progress. -/
structure Decoder where
  tone0 : UInt16
  tone1 : UInt16
  unitId : UInt8
  addressBits : UInt8
  timeoutTicks : UInt32
  byte : UInt8 := 0
  /-- The bits of the byte that are known. -/
  bitCount : Nat := 0
  /-- The tick of the last bit, or of the last time a pause was noticed. -/
  lastBitTick : UInt32 := 0

namespace Decoder

/-- The decoder of a link with windows of `size` samples. -/
def ofConfig (config : LinkConfig) (size : Nat) : Decoder where
  tone0 := config.tone0
  tone1 := config.tone1
  unitId := config.unitId
  addressBits := config.addressBits
  timeoutTicks := config.timeoutTicks size

/-- The bit that a vote stands for. -/
def bit? (d : Decoder) (vote : Option UInt16) : Option Bool :=
  match vote with
  | none => none
  | some frequency =>
    if frequency = d.tone0 then some false
    else if frequency = d.tone1 then some true
    else none

/-- The decoder without a byte in progress. -/
def clear (d : Decoder) : Decoder :=
  { d with byte := 0, bitCount := 0 }

/-- The byte in progress with its next bit written. -/
def withBit (d : Decoder) (bit : Bool) : UInt8 :=
  let place : UInt8 := 1 <<< UInt8.ofNat d.bitCount
  if bit then d.byte ||| place else d.byte &&& ~~~place

/-- Takes one vote. -/
def vote (d : Decoder) (vote : Option UInt16) (now : UInt32) : FrameOutcome × Decoder :=
  match d.bit? vote with
  | none => (.reset, d.clear)
  | some bit =>
    let d := { d with byte := d.withBit bit, bitCount := d.bitCount + 1, lastBitTick := now }
    if d.bitCount < 8 then (.bitAccepted d.bitCount, d)
    else
      match Frame.validate d.byte d.unitId d.addressBits with
      | .ok code => (.command code, d.clear)
      | .error error => (.discarded error, d.clear)

/-- Drops the byte in progress if the last bit is too long ago, and says whether there was one. -/
def checkTimeout (d : Decoder) (now : UInt32) : Bool × Decoder :=
  if now - d.lastBitTick ≤ d.timeoutTicks then (false, d)
  else (decide (d.bitCount > 0), { d.clear with lastBitTick := now })

end Decoder

end LightPilot
