import LightPilot.Vec3

set_option autoImplicit false

/-! # Attitude and inertial readings -/

namespace LightPilot

/-- Roll and pitch, in degrees. -/
structure Attitude where
  roll : Float32
  pitch : Float32

namespace Attitude

/-- The attitude of a craft at rest. -/
def level : Attitude := ⟨0, 0⟩

/-- The tilt that goes with moving along an axis: pitch for forward and backward, roll for sideways.
Rising and sinking tilt nothing. -/
def tilt? (attitude : Attitude) : Axis → Option Float32
  | .x => some attitude.pitch
  | .y => some attitude.roll
  | .z => none

end Attitude

/-- One reading of the inertial sensor. -/
structure InertialSample where
  /-- Acceleration in the body frame, gravity included (m/s²). -/
  acceleration : Vec3
  attitude : Attitude
  /-- The craft rests and is ready to fly. -/
  stationary : Bool

/-- What the inertial sensor holds. The acceleration may be missing for a moment; the attitude and the
stationary flag are always known. -/
structure InertialSensor where
  acceleration? : Option Vec3
  attitude : Attitude
  stationary : Bool

namespace InertialSensor

/-- A sensor with a reading to give. -/
def ofSample (sample : InertialSample) : InertialSensor where
  acceleration? := some sample.acceleration
  attitude := sample.attitude
  stationary := sample.stationary

/-- One reading, if the acceleration is there. -/
def read (sensor : InertialSensor) : Option InertialSample :=
  sensor.acceleration?.map fun acceleration =>
    { acceleration, attitude := sensor.attitude, stationary := sensor.stationary }

/-- The sensor's own estimate of the velocity along an axis: it makes none. -/
def velocity? (_sensor : InertialSensor) (_axis : Axis) : Option Float32 :=
  none

end InertialSensor

end LightPilot
