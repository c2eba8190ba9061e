set_option autoImplicit false

/-! # Waiting for both color channels

Each of the two color sensors signals new data by a falling edge on its line. A color is taken once both
lines have fallen since the last time. -/

namespace LightPilot

/-- An edge seen on a line. -/
inductive Edge
  | rising
  | falling
  deriving DecidableEq

/-- The channels with new data. -/
structure ColorIntake where
  leftReady : Bool := false
  rightReady : Bool := false

namespace ColorIntake

/-- The channels after the edges of one poll. -/
def notice (intake : ColorIntake) (left right : Option Edge) : ColorIntake where
  leftReady := intake.leftReady || left == some .falling
  rightReady := intake.rightReady || right == some .falling

/-- One poll: takes `color` if both channels are ready. -/
def poll (intake : ColorIntake) (left right : Option Edge) (color : UInt8) :
    Option UInt8 × ColorIntake :=
  let intake := intake.notice left right
  if intake.leftReady && intake.rightReady then (some color, {}) else (none, intake)

end ColorIntake

end LightPilot
