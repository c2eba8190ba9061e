import LightPilot.Number.Single

set_option autoImplicit false

/-! # Tones

A tone is a sine between 0 and 1. Its samples are numbered from the start of time, so a tone
that is cut into pieces goes on where the last piece ended. -/

namespace LightPilot.Tone

/-- Half a turn. -/
def pi : Float := 3.141592653589793

/-- The angle from one sample to the next. -/
def angleStep (frequency : Float32) (sampleRate : UInt32) : Float :=
  2 * pi * Single.widen frequency / sampleRate.toFloat

/-- One sample of a tone, `offset` samples after sample number `start`. -/
def sample (frequency : Float32) (sampleRate start : UInt32) (offset : Nat) : Float32 :=
  let index := start.toFloat + Float.ofNat offset
  Single.narrow (0.5 + 0.5 * (angleStep frequency sampleRate * index).sin)

/-- The first `count` samples of a tone from sample number `start` on. -/
def samples (frequency : Float32) (sampleRate start : UInt32) (count : Nat) : List Float32 :=
  (List.range count).map (sample frequency sampleRate start)

end LightPilot.Tone
