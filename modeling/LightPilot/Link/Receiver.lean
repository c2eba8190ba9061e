import LightPilot.Link.Decoder
import LightPilot.Link.Peak
import LightPilot.Link.Vote

set_option autoImplicit false

/-! # The receiver of the light link

Each window of samples is reduced to its peak frequency. After every `window` windows those frequencies
vote, and the vote goes to the decoder. -/

namespace LightPilot

/-- Counts of what was received. -/
structure LinkStats where
  /-- Windows heard. -/
  windows : UInt32 := 0
  /-- Frames for this unit. -/
  framesDecoded : UInt32 := 0
  /-- Complete bytes that were not. -/
  framesDiscarded : UInt32 := 0
  /-- Votes for neither tone. -/
  resets : UInt32 := 0
  /-- Bytes dropped after a pause. -/
  timeouts : UInt32 := 0
  deriving DecidableEq

/-- The counts after the outcome of a vote. -/
def LinkStats.record (stats : LinkStats) : FrameOutcome → LinkStats
  | .command _ => { stats with framesDecoded := stats.framesDecoded + 1 }
  | .discarded _ => { stats with framesDiscarded := stats.framesDiscarded + 1 }
  | .reset => { stats with resets := stats.resets + 1 }
  | .bitAccepted _ | .pending => stats

/-- A receiver of windows of `size` samples that remembers `capacity` frequencies. -/
structure Receiver (size capacity : Nat) where
  sampleRate : UInt32
  history : FrequencyHistory capacity := {}
  decoder : Decoder
  /-- The windows of one vote. -/
  window : Nat
  /-- The windows heard since the last vote. -/
  windowsSinceVote : Nat := 0
  stats : LinkStats := {}

namespace Receiver

variable {size capacity : Nat}

/-- The receiver of a link. -/
def create (size capacity : Nat) (config : LinkConfig) :
    Except LinkError (Receiver size capacity) := do
  config.validate size
  if config.window = 0 ∨ config.window > capacity then
    throw (.invalidWindow config.window capacity)
  return {
    sampleRate := config.sampleRate
    decoder := Decoder.ofConfig config size
    window := config.window }

/-- The receiver with one more frequency in its history. -/
def record (r : Receiver size capacity) (frequency : UInt16) : Receiver size capacity :=
  { r with
    history := r.history.push frequency
    stats := { r.stats with windows := r.stats.windows + 1 } }

/-- Takes the peak frequency of one window. -/
def hear (r : Receiver size capacity) (frequency : UInt16) (now : UInt32) :
    FrameOutcome × Receiver size capacity :=
  let r := r.record frequency
  let heard := r.windowsSinceVote + 1
  if heard < r.window then (.pending, { r with windowsSinceVote := heard })
  else
    let (outcome, decoder) := r.decoder.vote (r.history.majority? r.window) now
    (outcome, { r with windowsSinceVote := 0, decoder, stats := r.stats.record outcome })

/-- Takes one window. -/
def process (r : Receiver size capacity) (window : Window size) (now : UInt32) :
    FrameOutcome × Receiver size capacity :=
  r.hear (window.peakFrequency r.sampleRate) now

/-- Drops a byte in progress that has waited too long, and says whether there was one. -/
def pollTimeout (r : Receiver size capacity) (now : UInt32) : Bool × Receiver size capacity :=
  let (dropped, decoder) := r.decoder.checkTimeout now
  let timeouts := if dropped then r.stats.timeouts + 1 else r.stats.timeouts
  (dropped, { r with decoder, stats := { r.stats with timeouts } })

/-- The frequency of the latest window. -/
def lastFrequency? (r : Receiver size capacity) : Option UInt16 :=
  r.history.latest?

end Receiver

end LightPilot
