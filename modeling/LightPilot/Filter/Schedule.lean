import LightPilot.Map.ColorMap

set_option autoImplicit false

/-! # When to resample

A color is worth a resample when it is not the one resampled on last, or when that was long enough ago
on the wrapping millisecond clock. The ambient color never is. -/

namespace LightPilot

/-- What is remembered of the last resample. -/
structure ResampleSchedule where
  intervalMs : UInt32
  /-- The color and the time of the last resample. -/
  last? : Option (UInt8 × UInt32)

namespace ResampleSchedule

/-- A schedule without a past. -/
def ofInterval (intervalMs : UInt32) : ResampleSchedule :=
  ⟨intervalMs, none⟩

/-- Whether an observation is to be resampled on. -/
def isDue (schedule : ResampleSchedule) (color : UInt8) (now : UInt32) : Bool :=
  if ambient ≤ color then false
  else
    match schedule.last? with
    | none => true
    | some (lastColor, since) => color != lastColor || decide (now - since ≥ schedule.intervalMs)

/-- Records a resample. -/
def mark (schedule : ResampleSchedule) (color : UInt8) (now : UInt32) : ResampleSchedule :=
  { schedule with last? := some (color, now) }

/-- The color of the last resample; ambient before the first. -/
def lastColor (schedule : ResampleSchedule) : UInt8 :=
  match schedule.last? with
  | none => ambient
  | some (color, _) => color

end ResampleSchedule

end LightPilot
