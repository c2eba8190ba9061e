import LightPilot.Flight.Command
import LightPilot.Link.Config
import LightPilot.Link.Frame
import LightPilot.Link.Tone
import LightPilot.Vehicle.Config

set_option autoImplicit false

/-! # The ground projector

The projector puts frames on the light, one tone a bit and lowest bit first. A bit lasts as long as the
receiver's vote, and a frame starts on a multiple of that time, so that votes and bits line up. Between
frames the light is steady. -/

namespace LightPilot

/-- A frame on air. -/
structure Transmission where
  startMs : UInt32
  frame : UInt8

/-- The projector. -/
structure Projector where
  config : LinkConfig
  /-- The frames that wait, oldest first. -/
  queue : List UInt8 := []
  onAir? : Option Transmission := none

namespace Projector

/-- The light level without a tone, in counts. -/
def steadyLevel : Float32 := 2000

/-- The time of a bit in milliseconds. -/
def bitMs (p : Projector) : UInt32 :=
  UInt32.ofNat (windowSize * p.config.window * 1000) / p.config.sampleRate

/-- Whether bits have a time. At so high a rate that a vote takes less than a millisecond they have none, and
the light level says nothing. -/
def isTimed (p : Projector) : Bool :=
  p.bitMs != 0

/-- The frame that carries a command to an address. -/
def frame (p : Projector) (address : UInt8) (command : Command) : UInt8 :=
  Frame.encode address command.code p.config.addressBits

/-- Queues a command for an address. -/
def send (p : Projector) (address : UInt8) (command : Command) : Projector :=
  { p with queue := p.queue ++ [p.frame address command] }

/-- Whether nothing is on air or waiting. -/
def isIdle (p : Projector) : Bool :=
  p.onAir?.isNone && p.queue.isEmpty

/-- The projector with the next frame started, if it is time for one. -/
def start (p : Projector) (now : UInt32) : Projector :=
  match p.onAir?, p.queue with
  | none, frame :: queue =>
    if now % p.bitMs = 0 then { p with queue, onAir? := some ⟨now, frame⟩ } else p
  | _, _ => p

/-- The bit on air, if there is one. A frame past its last bit leaves the air. -/
def bitAt (p : Projector) (now : UInt32) : Option Bool × Projector :=
  let p := p.start now
  match p.onAir? with
  | none => (none, p)
  | some transmission =>
    let index := (now - transmission.startMs) / p.bitMs
    match (Frame.bits transmission.frame)[index.toNat]? with
    | some bit => (some bit, p)
    | none => (none, { p with onAir? := none })

/-- The frequency on air for a bit: the exact center of the bin that the receiver reports as its tone. -/
def toneFrequency (p : Projector) (bit : Bool) : Float32 :=
  let resolution := p.config.sampleRate.toFloat32 / Float32.ofNat windowSize
  Single.roundAway (Float32.ofNat (p.config.tone bit).toNat / resolution) * resolution

/-- The light level, in counts, of a projector whose bits have a time. -/
def intensity (p : Projector) (now : UInt32) : Float32 × Projector :=
  let (bit?, p) := p.bitAt now
  match bit? with
  | none => (steadyLevel, p)
  | some bit =>
    let sample := Tone.sample (p.toneFrequency bit) p.config.sampleRate now 0
    (steadyLevel - 500 + 1000 * sample, p)

end Projector

end LightPilot
