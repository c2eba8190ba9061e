import LightPilot.Vehicle.FilterTask
import LightPilot.Vehicle.LinkTask
import LightPilot.Vehicle.MotionTask
import LightPilot.Vehicle.SamplingTask
import LightPilot.Vehicle.Telemetry

set_option autoImplicit false

/-! # The vehicle: its tasks and what they share

Each task is one step on the vehicle, to be made at the period of the task. What a task reads from the
sensors is given to the step. -/

namespace LightPilot

/-- The tasks, their shared state and the parameters. -/
structure Vehicle where
  shared : SharedState
  params : Parameters := Parameters.initial
  sampling : SamplingTask
  link : LinkTask
  motion : MotionTask
  filter : FilterTask

namespace Vehicle

/-- A vehicle at the start. -/
def create (config : VehicleConfig) : Except VehicleError Vehicle := do
  let shared ← SharedState.create config
  let link ← LinkTask.create config.link
  let motion ← MotionTask.create config.motion config.periods.motionMs
  return {
    shared, link, motion
    sampling := SamplingTask.ofConfig config.link
    filter := FilterTask.ofConfig config.filter }

/-- The sampling task, with what the light sensor gave. -/
def sample (v : Vehicle) (reading : Option Float32) : Option PushOutcome × Vehicle :=
  let (outcome, sampling, shared) := v.sampling.tick reading v.shared
  (outcome, { v with sampling, shared })

/-- The link task with some ear. -/
def decodeAs (classify : Classifier) (v : Vehicle) : LinkReport × Vehicle :=
  let (report, link, shared) := v.link.runAs classify v.shared
  (report, { v with link, shared })

/-- The link task. -/
def decode (v : Vehicle) : LinkReport × Vehicle :=
  v.decodeAs .peak

/-- The motion task, with what the inertial sensor gave. -/
def move (v : Vehicle) (sample? : Option InertialSample) (now : UInt32) : MotionReport × Vehicle :=
  let (report, motion, params, population) := v.motion.run sample? v.params now v.shared.population
  (report, { v with motion, params, shared := { v.shared with population } })

/-- The filter task, with the edges on both lines and the color there is to see. -/
def observe (v : Vehicle) (left right : Option Edge) (color : UInt8) (now : UInt32) :
    Option ResampleOutcome × Vehicle :=
  let (outcome?, filter, population) := v.filter.run left right color now v.shared.population
  (outcome?, { v with filter, shared := { v.shared with population } })

/-- A snapshot. -/
def telemetry (v : Vehicle) : Telemetry :=
  Telemetry.capture v.shared v.motion.model.state v.filter.detectedColor v.link.receiver.stats

end Vehicle

end LightPilot
