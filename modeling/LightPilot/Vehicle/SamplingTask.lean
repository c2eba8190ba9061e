import LightPilot.Link.Conditioner
import LightPilot.Vehicle.SharedState

set_option autoImplicit false

/-! # Sampling the light

One reading a tick, conditioned and stored. A reading that is missing still counts as a tick, so that the
link's sense of time goes on. -/

namespace LightPilot

/-- The sampling task. -/
structure SamplingTask where
  conditioner : Conditioner

namespace SamplingTask

/-- The sampling task of a link. -/
def ofConfig (config : LinkConfig) : SamplingTask :=
  ⟨Conditioner.ofConfig config⟩

/-- One tick with what the light sensor gave. -/
def tick (task : SamplingTask) (reading : Option Float32) (shared : SharedState) :
    Option PushOutcome × SamplingTask × SharedState :=
  match reading with
  | some raw =>
    let (value, conditioner) := task.conditioner.condition raw
    let (outcome, samples) := shared.samples.push value
    (some outcome, ⟨conditioner⟩, { shared with samples })
  | none => (none, task, { shared with samples := shared.samples.skip })

end SamplingTask

end LightPilot
