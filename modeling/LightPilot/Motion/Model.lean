import LightPilot.Filter.Population
import LightPilot.Motion.Config
import LightPilot.Motion.State

set_option autoImplicit false

/-! # The motion model

Dead reckoning while a command is flown. The model first learns the sensor's bias from samples taken at
rest. A command then opens an integration along its own axis: the acceleration less the bias is low-pass
filtered, and velocity and displacement follow by the trapezoidal rule. A lateral command ends when the
tilt that came with it is gone again, or after a timeout; a vertical one ends after a fixed time. A pause
follows, and then the next command may begin.

The displacement is gathered until enough steps have been made or no command runs, and is then handed
over to the swarm in one piece. Times are on a wrapping millisecond clock. -/

namespace LightPilot

/-- The motion model: its settings and its state. -/
structure MotionModel where
  config : MotionConfig
  state : MotionState

namespace MotionModel

/-- An uncalibrated model at rest. -/
def create (config : MotionConfig) : Except NavigationError MotionModel := do
  config.validate
  return { config, state := {} }

/-! ## Calibration -/

/-- The bias after one more sample: a moving average that the first sample starts. -/
def updateBias (m : MotionModel) (acceleration : Vec3) : MotionModel :=
  let alpha := m.config.biasAlpha
  let bias :=
    if m.state.calibrationCount = 0 then acceleration
    else m.state.bias * (1 - alpha) + acceleration * alpha
  { m with state := { m.state with bias } }

/-- One sample for the calibration. Samples taken in motion do not count, and none does once the
calibration is complete. -/
def calibrate (m : MotionModel) (sample : InertialSample) : MotionModel :=
  if m.state.calibrated ∨ ¬ sample.stationary then m
  else
    let m := m.updateBias sample.acceleration
    let count := m.state.calibrationCount + 1
    { m with
      state :=
        { m.state with
          calibrationCount := count
          calibrated := decide (count ≥ m.config.calibrationSamples) } }

/-! ## Commands -/

/-- Switches the model on or off. Switching off drops the command being flown. -/
def setActive (m : MotionModel) (active : Bool) : MotionModel :=
  if m.state.active = active then m
  else if active then { m with state := { m.state with active := true } }
  else { m with state := { m.state.halt with active := false, stage := .idle } }

/-- Starts a command and says whether it did. A command without an axis does not start, nor does any
while the model is off or busy. -/
def begin (m : MotionModel) (command : Command) (now : UInt32) :
    Except NavigationError (Bool × MotionModel) :=
  if ¬ m.state.calibrated then .error .notCalibrated
  else
    match command.axis? with
    | none => .ok (false, m)
    | some axis =>
      if ¬ m.state.active ∨ m.state.stage ≠ .idle then .ok (false, m)
      else
        .ok (true,
          { m with
            state :=
              { m.state.halt with
                activeAxis? := some axis
                stage := .executing command axis now false } })

/-! ## Stepping -/

/-- One integration step of `dt` seconds along an axis. -/
def integrate (m : MotionModel) (axis : Axis) (dt : Float32) : MotionModel :=
  let s := m.state
  let alpha := m.config.accelerationAlpha
  let corrected := Vec3.single (s.rawAcceleration.along axis - s.bias.along axis) axis
  let filtered := s.previousAcceleration * (1 - alpha) + corrected * alpha
  let velocity := s.previousVelocity + (filtered + s.previousAcceleration) * (0.5 * dt)
  let displacement := (velocity + s.previousVelocity) * (0.5 * dt)
  { m with
    state :=
      { s with
        filteredAcceleration := filtered
        previousAcceleration := filtered
        velocity
        previousVelocity := velocity
        position := s.position + displacement
        delta := s.delta + displacement
        steps := s.steps + 1 } }

/-- How a command being flown goes on. -/
inductive Progress
  | underway (tilted : Bool)
  | finished (timedOut : Bool)
  deriving DecidableEq

/-- The progress of a command, from the tilt of its axis and the time it has taken. A lateral command
that has tilted settles once the tilt is below the threshold again. -/
def progress (config : MotionConfig) (tilt? : Option Float32) (tilted : Bool) (elapsed : UInt32) :
    Progress :=
  match tilt? with
  | some tilt =>
    let tiltedNow := decide (tilt.abs ≥ config.tiltThreshold)
    if tilted && !tiltedNow then .finished false
    else if elapsed ≥ config.lateralTimeoutMs then .finished true
    else .underway (tilted || tiltedNow)
  | none => if elapsed ≥ config.verticalDurationMs then .finished false else .underway tilted

/-- One step of an active, calibrated model, the sample already recorded. -/
def advance (m : MotionModel) (sample : InertialSample) (dt : Float32) (now : UInt32) :
    MotionEvent × MotionModel :=
  match m.state.stage with
  | .idle =>
    let m := { m with state := m.state.halt }
    (.idle,
      if m.config.recalibrateWhenIdle ∧ sample.stationary then m.updateBias sample.acceleration else m)
  | .cooldown since =>
    let m := { m with state := m.state.halt }
    if now - since ≥ m.config.cooldownMs then
      (.cooldownElapsed, { m with state := { m.state with stage := .idle } })
    else (.cooling, m)
  | .executing command axis started tilted =>
    let m := m.integrate axis dt
    match progress m.config (sample.attitude.tilt? axis) tilted (now - started) with
    | .finished timedOut =>
      (.commandFinished command timedOut,
        { m with state := { m.state.halt with stage := .cooldown now } })
    | .underway tilted =>
      (.integrated axis,
        { m with state := { m.state with stage := .executing command axis started tilted } })

/-- One step of `dt` seconds. A time that is not positive and finite is refused and changes nothing. -/
def step (m : MotionModel) (sample : InertialSample) (dt : Float32) (now : UInt32) :
    Except NavigationError (MotionEvent × MotionModel) :=
  if ¬ dt > 0 ∨ ¬ Single.isFinite dt then .error (.invalidTimeStep dt)
  else
    let m := { m with state := { m.state with rawAcceleration := sample.acceleration } }
    if ¬ m.state.calibrated then
      let m := m.calibrate sample
      .ok (if m.state.calibrated then .calibrationComplete else .calibrating, m)
    else if ¬ m.state.active then .ok (.inactive, { m with state := m.state.halt })
    else .ok (m.advance sample dt now)

/-! ## Handing over the displacement -/

/-- Whether the gathered displacement is due: after enough steps, or after any once no command runs. -/
def isFlushDue (m : MotionModel) : Bool :=
  decide (m.state.steps ≥ m.config.flushSteps) || decide (m.state.steps > 0) && !m.state.stage.isExecuting

/-- Takes the displacement, if it is due, in map units and with the depth growing downwards. -/
def takeDelta (m : MotionModel) : Option (Vec3 × MotionModel) :=
  if m.isFlushDue then
    some (m.state.delta.flipZ * m.config.mapUnitsPerMetre,
      { m with state := { m.state with delta := Vec3.zero, steps := 0 } })
  else none

/-- Hands the displacement over to a population, if it is due. -/
def flush {n : Nat} (m : MotionModel) (population : Population n) :
    Option (Vec3 × MotionModel × Population n) :=
  m.takeDelta.map fun (delta, m) => (delta, m, population.displace delta m.config.noiseDeviation)

end MotionModel

end LightPilot
