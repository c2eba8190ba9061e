import LightPilot.Link.Receiver
import LightPilot.Motion.State
import LightPilot.Vehicle.SharedState

set_option autoImplicit false

/-! # Telemetry: a snapshot of the vehicle -/

namespace LightPilot

/-- A snapshot of the vehicle. -/
structure Telemetry where
  /-- The places of the particles in whole map units. -/
  particles : Vector (Int16 × Int16) particleCount
  meanPosition : Vec3
  rawAcceleration : Vec3
  filteredAcceleration : Vec3
  velocity : Vec3
  /-- The displacement not yet handed over, in metres. -/
  delta : Vec3
  detectedColor : UInt8
  calibrated : Bool
  stage : Stage
  droppedSamples : UInt32
  link : LinkStats
  pendingCommands : Nat

/-- The snapshot of the shared state and the states of the tasks. -/
def Telemetry.capture (shared : SharedState) (motion : MotionState) (detectedColor : UInt8)
    (link : LinkStats) : Telemetry where
  particles := shared.population.particles.map Particle.coarse
  meanPosition := shared.population.meanPosition
  rawAcceleration := motion.rawAcceleration
  filteredAcceleration := motion.filteredAcceleration
  velocity := motion.velocity
  delta := motion.delta
  detectedColor := detectedColor
  calibrated := motion.calibrated
  stage := motion.stage
  droppedSamples := shared.samples.dropped
  link := link
  pendingCommands := shared.commands.length

end LightPilot
