import LightPilot.Motion.Model
import LightPilot.Vehicle.Config
import LightPilot.Vehicle.Parameters

set_option autoImplicit false

/-! # Integrating motion

A run first follows the parameters: the switch of the model, and the command waiting for it. A command
stays in its parameter until the model begins it; one that the model can never begin is cleared. Then the
inertial sample, if there is one, makes one step, and a displacement that is due goes to the swarm. -/

namespace LightPilot

/-- The motion task. -/
structure MotionTask where
  model : MotionModel
  periodMs : UInt32
  /-- The time of the last run with a sample. -/
  lastMs? : Option UInt32 := none

/-- What became of the command parameter. -/
inductive HandOff
  /-- No command waited. -/
  | nothing
  /-- The value is no command, and was cleared. -/
  | unknown (value : Int32)
  /-- The model began the command, and the parameter was cleared. -/
  | begun (command : Command)
  /-- The command moves nothing, and was cleared. -/
  | motionless (command : Command)
  /-- The model is off or busy, and the command waits. -/
  | busy (command : Command)
  /-- The model refuses commands for now, and the command waits. -/
  | refused (command : Command) (error : NavigationError)

/-- What became of the inertial sample. -/
inductive SampleUse
  /-- There was none. -/
  | missed
  /-- The step was refused. -/
  | refused (error : NavigationError)
  /-- A step was made, and perhaps a displacement handed over. -/
  | stepped (event : MotionEvent) (flushed? : Option Vec3)

/-- What one run did. -/
structure MotionReport where
  /-- Whether the model was switched off. -/
  switchedOff : Bool
  handOff : HandOff
  /-- The stage from which the step was made. -/
  stage : Stage
  sample : SampleUse

/-- The event of a run that made a step. -/
def MotionReport.event? (report : MotionReport) : Option MotionEvent :=
  match report.sample with
  | .stepped event _ => some event
  | _ => none

namespace MotionTask

/-- The motion task of a vehicle. -/
def create (config : MotionConfig) (periodMs : UInt32) : Except VehicleError MotionTask := do
  let model ← (MotionModel.create config).mapError .navigation
  return { model, periodMs }

/-- The parameters without a waiting command. -/
def clearCommand (params : Parameters) : Parameters :=
  (params.set Parameters.lastCommand Command.idle.toParameter).2

/-- Hands the waiting command to the model. -/
def handOver (model : MotionModel) (params : Parameters) (now : UInt32) :
    HandOff × MotionModel × Parameters :=
  match params.get? Parameters.lastCommand with
  | none => (.nothing, model, params)
  | some value =>
    match Command.ofParameter? value with
    | none => (.unknown value, model, clearCommand params)
    | some .idle => (.nothing, model, params)
    | some command =>
      match model.begin command now with
      | .ok (true, model) => (.begun command, model, clearCommand params)
      | .ok (false, model) =>
        if command.axis?.isNone then (.motionless command, model, clearCommand params)
        else (.busy command, model, params)
      | .error error => (.refused command error, model, params)

/-- The time since the last run with a sample; the period at the first. -/
def elapsedMs (task : MotionTask) (now : UInt32) : UInt32 :=
  match task.lastMs? with
  | some last => now - last
  | none => task.periodMs

/-- Steps the model with a sample, and hands over the displacement if it is due. -/
def step {n : Nat} (task : MotionTask) (sample : InertialSample) (now : UInt32)
    (population : Population n) : SampleUse × MotionTask × Population n :=
  let dt := (task.elapsedMs now).toFloat32 / 1000
  let task := { task with lastMs? := some now }
  match task.model.step sample dt now with
  | .error error => (.refused error, task, population)
  | .ok (event, model) =>
    match model.flush population with
    | none => (.stepped event none, { task with model }, population)
    | some (delta, model, population) =>
      (.stepped event (some delta), { task with model }, population)

/-- One run. -/
def run {n : Nat} (task : MotionTask) (sample? : Option InertialSample) (params : Parameters)
    (now : UInt32) (population : Population n) :
    MotionReport × MotionTask × Parameters × Population n :=
  let active := params.flag Parameters.motionActive
  let switchedOff := task.model.state.active && !active
  let (handOff, model, params) := handOver (task.model.setActive active) params now
  let task := { task with model }
  let stage := model.state.stage
  match sample? with
  | none => ({ switchedOff, handOff, stage, sample := .missed }, task, params, population)
  | some sample =>
    let (sample, task, population) := task.step sample now population
    ({ switchedOff, handOff, stage, sample }, task, params, population)

end MotionTask

end LightPilot
