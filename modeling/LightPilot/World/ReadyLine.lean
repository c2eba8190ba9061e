import LightPilot.Vehicle.ColorIntake

set_option autoImplicit false

/-! # The data-ready line of a color channel

The line falls once in every integration period, counted from a phase of its own. -/

namespace LightPilot

/-- A data-ready line. -/
structure ReadyLine where
  integrationMs : UInt32
  phaseMs : UInt32
  /-- The period of the last pulse. -/
  lastPulse? : Option UInt32 := none

/-- The edge since the last poll. -/
def ReadyLine.poll (line : ReadyLine) (now : UInt32) : Option Edge × ReadyLine :=
  if now < line.phaseMs then (none, line)
  else
    let period := (now - line.phaseMs) / line.integrationMs
    if line.lastPulse? = some period then (none, line)
    else (some .falling, { line with lastPulse? := some period })

end LightPilot
