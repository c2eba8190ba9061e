import LightPilot.Vehicle.Vehicle
import LightPilot.World.Executor
import LightPilot.World.Projector
import LightPilot.World.ReadyLine

set_option autoImplicit false

/-! # The vehicle in its simulated world

One step is one millisecond: the craft moves, and then every task whose period divides the clock runs,
sampling before decoding, the executor in every step, then motion and the filter. The clock wraps. Like the
link task in it, a step is defined for any `Classifier`, and that of the vehicle is the one for the peak. -/

namespace LightPilot

/-- The vehicle and its world. -/
structure Simulation where
  now : UInt32 := 0
  config : VehicleConfig
  vehicle : Vehicle
  craft : Craft
  projector : Projector
  leftLine : ReadyLine
  rightLine : ReadyLine
  executor : Executor := {}

/-- What one step did. -/
structure StepReport where
  now : UInt32
  /-- The move that the craft ended. -/
  finished? : Option Command
  /-- The number of samples dropped so far, if one was dropped. -/
  overrun? : Option UInt32
  link? : Option LinkReport
  executor : ExecutorReport
  /-- What the motion task did, with the model afterwards. -/
  motion? : Option (MotionReport × MotionModel)
  /-- The color that was resampled on and the result. -/
  resample? : Option (UInt8 × ResampleOutcome)

namespace Simulation

/-- The integration time of the color sensors. -/
def colorIntegrationMs : UInt32 := 100

/-- The time of a lateral move. -/
def lateralMoveMs : UInt32 := 800

/-- The bias of the inertial sensor. -/
def sensorBias : Vec3 := ⟨0.05, -0.03, 0.02⟩

/-- The place where the craft starts: inside a cell near the middle of the map. -/
def startPosition (config : FilterConfig) : Vec3 :=
  ⟨4.5 * config.startingCellSize, 3.5 * config.startingCellSize, config.startingDepth⟩

/-- The simulation of a vehicle. -/
def create (config : VehicleConfig) : Except VehicleError Simulation := do
  let vehicle ← Vehicle.create config
  return {
    config, vehicle
    craft :=
      { position := startPosition config.filter
        lateralMs := lateralMoveMs
        verticalMs := config.motion.verticalDurationMs }
    projector := { config := config.link }
    leftLine := { integrationMs := colorIntegrationMs, phaseMs := 0 }
    rightLine := { integrationMs := colorIntegrationMs, phaseMs := 3 } }

/-- Has the projector send a command to this vehicle. -/
def transmit (s : Simulation) (command : Command) : Simulation :=
  { s with projector := s.projector.send s.config.link.unitId command }

/-! ## The parts of a step -/

/-- Whether a task with this period runs now. -/
def isDue (s : Simulation) (periodMs : UInt32) : Bool :=
  s.now % periodMs == 0

/-- One millisecond of the craft. -/
def moveCraft (s : Simulation) : Option Command × Simulation :=
  let (finished?, craft) := s.craft.step 1
  (finished?, { s with craft })

/-- The sampling task. -/
def runSampling (s : Simulation) : Option PushOutcome × Simulation :=
  if s.isDue s.config.periods.sampleMs then
    let (level, projector) := s.projector.intensity s.now
    let (outcome, vehicle) := s.vehicle.sample (some level)
    (outcome, { s with projector, vehicle })
  else (none, s)

/-- The link task with some ear. -/
def runLinkAs (classify : Classifier) (s : Simulation) : Option LinkReport × Simulation :=
  if s.isDue s.config.periods.linkMs then
    let (report, vehicle) := s.vehicle.decodeAs classify
    (some report, { s with vehicle })
  else (none, s)

/-- The link task. -/
def runLink (s : Simulation) : Option LinkReport × Simulation :=
  s.runLinkAs .peak

/-- The executor. -/
def runExecutor (s : Simulation) : ExecutorReport × Simulation :=
  let (report, executor, shared, params, craft) :=
    s.executor.poll s.vehicle.shared s.vehicle.params s.craft
  (report, { s with executor, craft, vehicle := { s.vehicle with shared, params } })

/-- The motion task. -/
def runMotion (s : Simulation) : Option MotionReport × Simulation :=
  if s.isDue s.config.periods.motionMs then
    let (report, vehicle) := s.vehicle.move (s.craft.inertialSensor sensorBias).read s.now
    (some report, { s with vehicle })
  else (none, s)

/-- The color that the projector throws on the craft. -/
def trueColor (s : Simulation) : UInt8 :=
  ColorModel.expectedColor ⟨s.config.map, s.config.filter.lens⟩ s.craft.position

/-- The filter task. -/
def runFilter (s : Simulation) : Option ResampleOutcome × Simulation :=
  if s.isDue s.config.periods.filterMs then
    let (left, leftLine) := s.leftLine.poll s.now
    let (right, rightLine) := s.rightLine.poll s.now
    let (outcome?, vehicle) := s.vehicle.observe left right s.trueColor s.now
    (outcome?, { s with leftLine, rightLine, vehicle })
  else (none, s)

/-- One step with some ear, with what it did. -/
def stepReportingAs (classify : Classifier) (s : Simulation) : StepReport × Simulation :=
  let (finished?, s) := s.moveCraft
  let (pushed?, s) := s.runSampling
  let overrun? := if pushed? = some .dropped then some s.vehicle.shared.samples.dropped else none
  let (link?, s) := s.runLinkAs classify
  let (executor, s) := s.runExecutor
  let (motion?, s) := s.runMotion
  let (outcome?, s) := s.runFilter
  ({ now := s.now
     finished?, overrun?, link?, executor
     motion? := motion?.map (·, s.vehicle.motion.model)
     resample? := outcome?.map (s.vehicle.filter.detectedColor, ·) },
    { s with now := s.now + 1 })

/-- One step with some ear. -/
def stepAs (classify : Classifier) (s : Simulation) : Simulation :=
  (s.stepReportingAs classify).2

/-- One step, with what it did. -/
def stepReporting (s : Simulation) : StepReport × Simulation :=
  s.stepReportingAs .peak

/-- One step. -/
def step (s : Simulation) : Simulation :=
  s.stepAs .peak

/-- Whether this step reads a light whose bits have no time. -/
def lacksBitTime (s : Simulation) : Bool :=
  s.isDue s.config.periods.sampleMs && !s.projector.isTimed

/-- `count` steps, or none if one of them reads a light whose bits have no time. -/
def steps? : (count : Nat) → Simulation → Option Simulation
  | 0, s => some s
  | count + 1, s => if s.lacksBitTime then none else steps? count s.step

/-- A snapshot of the vehicle. -/
def telemetry (s : Simulation) : Telemetry :=
  s.vehicle.telemetry

end Simulation

end LightPilot
