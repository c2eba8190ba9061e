import LightPilot.Link.Config

set_option autoImplicit false

/-! # Conditioning of raw samples

A slow moving average follows the light level. A sample far from it is a spike, such as the flash of
another beacon, and is replaced by the average. A second moving average may then smooth the result. -/

namespace LightPilot

/-- A moving average after one more value; the first value starts it. -/
def movingAverage (value : Float32) (previous? : Option Float32) (alpha : Float32) : Float32 :=
  match previous? with
  | some previous => previous + alpha * (value - previous)
  | none => value

/-- The conditioner of a stream of samples. -/
structure Conditioner where
  spikeAlpha : Float32
  spikeMargin : Float32
  lowPassAlpha : Option Float32
  /-- The slow average of the samples seen. -/
  average? : Option Float32 := none
  /-- The smoothed level. -/
  lowPass? : Option Float32 := none

namespace Conditioner

/-- The conditioner of a link. -/
def ofConfig (config : LinkConfig) : Conditioner where
  spikeAlpha := config.spikeAlpha
  spikeMargin := config.spikeMargin
  lowPassAlpha := config.lowPassAlpha

/-- The value to store for a raw sample. -/
def condition (c : Conditioner) (raw : Float32) : Float32 × Conditioner :=
  let average := movingAverage raw c.average? c.spikeAlpha
  let c := { c with average? := some average }
  let corrected := if (raw - average).abs > c.spikeMargin then average else raw
  match c.lowPassAlpha with
  | some alpha =>
    let smoothed := movingAverage corrected c.lowPass? alpha
    (smoothed, { c with lowPass? := some smoothed })
  | none => (corrected, c)

end Conditioner

end LightPilot
