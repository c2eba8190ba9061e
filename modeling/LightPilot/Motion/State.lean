import LightPilot.Flight.Inertia

set_option autoImplicit false

/-! # The state of the motion model

One accumulator for the whole swarm: the calibration of the sensor's bias, the command being flown, and
the velocity and displacement integrated for it. -/

namespace LightPilot

/-- Where the model stands in flying a command. -/
inductive Stage
  /-- No command; the velocity is held at zero. -/
  | idle
  /-- A command moves the craft along `axis`. `tilted` records that the tilt of a lateral command has
  reached the threshold. -/
  | executing (command : Command) (axis : Axis) (startedMs : UInt32) (tilted : Bool)
  /-- A command has just ended and the next one waits. -/
  | cooldown (sinceMs : UInt32)
  deriving DecidableEq

/-- Whether a command is being flown. -/
def Stage.isExecuting : Stage → Bool
  | executing .. => true
  | _ => false

/-- What one step of the model did. -/
inductive MotionEvent
  | calibrating
  /-- The last sample of the calibration was taken. -/
  | calibrationComplete
  /-- The model is switched off. -/
  | inactive
  | idle
  | cooling
  /-- The pause is over. -/
  | cooldownElapsed
  | integrated (axis : Axis)
  | commandFinished (command : Command) (timedOut : Bool)
  deriving DecidableEq

/-- The accumulator. Units are metres and seconds. -/
structure MotionState where
  /-- The last acceleration as read. -/
  rawAcceleration : Vec3 := Vec3.zero
  /-- The acceleration along the commanded axis, less the bias, filtered. -/
  filteredAcceleration : Vec3 := Vec3.zero
  /-- The filtered acceleration that the next step starts from. -/
  previousAcceleration : Vec3 := Vec3.zero
  velocity : Vec3 := Vec3.zero
  /-- The velocity that the next step starts from. -/
  previousVelocity : Vec3 := Vec3.zero
  /-- The displacement since the start. -/
  position : Vec3 := Vec3.zero
  /-- The displacement since the last hand-over. -/
  delta : Vec3 := Vec3.zero
  /-- The integration steps since the last hand-over. -/
  steps : UInt32 := 0
  bias : Vec3 := Vec3.zero
  /-- The stationary samples taken by the calibration. -/
  calibrationCount : UInt32 := 0
  calibrated : Bool := false
  /-- The switch of the model. -/
  active : Bool := false
  stage : Stage := .idle
  /-- The axis of the command being flown. -/
  activeAxis? : Option Axis := none

namespace MotionState

/-- The state with the velocity and all it is integrated from at zero. -/
def halt (s : MotionState) : MotionState :=
  { s with
    velocity := Vec3.zero
    previousVelocity := Vec3.zero
    filteredAcceleration := Vec3.zero
    previousAcceleration := Vec3.zero
    activeAxis? := none }

end MotionState

end LightPilot
