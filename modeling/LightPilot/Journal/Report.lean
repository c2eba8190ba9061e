import LightPilot.Journal.Notice
import LightPilot.Journal.Wording
import LightPilot.Number.Binary
import LightPilot.World.Simulation

set_option autoImplicit false

/-! # What a step tells

The notices of one simulated millisecond, from the report of the step: those of the craft, of sampling, of
the link, of the executor, of motion and of the filter, in this order. -/

namespace LightPilot.Journal

/-! ## Sources -/

/-- The command line. -/
def mission : String := "sitl"

/-- The projector. -/
def projector : String := "sitl::sim::projector"

/-- The simulation. -/
def simulation : String := "sitl::simulation"

/-- The executor. -/
def executor : String := "sitl::executor"

/-- The sample buffers. -/
def buffers : String := "fsk::buffers"

/-- The receiver. -/
def receiver : String := "fsk::demodulator"

/-- The decoder. -/
def decoder : String := "fsk::protocol"

/-- The shared state. -/
def sharedState : String := "autopilot::context"

/-- The link task. -/
def linkTask : String := "autopilot::tasks::link"

/-- The motion task. -/
def motionTask : String := "autopilot::tasks::motion"

/-- The filter task. -/
def filterTask : String := "autopilot::tasks::filter"

/-- The motion model. -/
def motionModel : String := "localization::motion"

/-- The swarm. -/
def population : String := "localization::population"

/-! ## Notices of the parts -/

/-- The notice of a dropped sample. -/
def ofOverrun (dropped : UInt32) : Notice :=
  ⟨.warn, buffers,
    "Sample buffer overrun, " ++ dropped.toNat.repr ++ " samples dropped so far"⟩

/-- The notices of a vote. -/
def ofVote (vote : Option UInt16) (lostBits : Nat) (queued : Bool) : FrameOutcome → List Notice
  | .pending => []
  | .bitAccepted count =>
    [⟨.debug, receiver,
      "Bit " ++ count.repr ++ " accepted from " ++ Wording.frequency? vote ++ " Hz"⟩]
  | .command code =>
    ⟨.info, receiver, "Received command " ++ code.toNat.repr⟩ ::
      if queued then []
      else [⟨.warn, sharedState, "Command queue full, dropping command " ++ code.toNat.repr⟩]
  | .discarded error => [⟨.debug, decoder, error.message⟩]
  | .reset =>
    [⟨.trace, decoder,
      "No bit in vote " ++ Wording.frequency? vote ++ ", dropping " ++ lostBits.repr ++ " bits"⟩]

/-- The notices of a window. -/
def ofWindow (report : WindowReport) : List Notice :=
  let after := report.after
  let frequency := (after.lastFrequency?.getD 0).toNat
  ⟨.trace, receiver,
      "Window " ++ after.stats.windows.toNat.repr ++ " peaks at " ++ frequency.repr ++ " Hz"⟩ ::
    ofVote (after.history.majority? after.window) report.before.decoder.bitCount report.queued
      report.outcome

/-- The notices of the link task. -/
def ofLink (report : LinkReport) : List Notice :=
  let tick := report.endTick.toNat.repr
  report.windows.flatMap ofWindow ++
    if report.timedOut then
      [⟨.debug, receiver, "Partial byte timed out at tick " ++ tick⟩,
        ⟨.trace, linkTask, "Link timeout at tick " ++ tick⟩]
    else []

/-- The notices of the executor. -/
def ofExecutor : ExecutorReport → List Notice
  | .nothing => []
  | .unknown byte =>
    [⟨.warn, executor, "Executor ignores unknown command " ++ byte.toNat.repr⟩]
  | .busy command => [⟨.warn, executor, "Executor busy, dropping " ++ command.name⟩]
  | .executed command =>
    let isSwitch := command = .motionModelEnable ∨ command = .motionModelDisable
    (if isSwitch ∨ command.axis?.isSome then []
      else [⟨.info, executor, "No flight action for " ++ command.name⟩]) ++
      [⟨.info, executor, "Executing " ++ command.name⟩]

/-- The notices of a waiting command. -/
def ofHandOff : HandOff → List Notice
  | .nothing | .motionless _ | .busy _ => []
  | .unknown value =>
    [⟨.warn, motionTask, "Ignoring unknown command " ++ value.toInt.repr⟩]
  | .begun command =>
    let axis := (command.axis?.map Axis.name).getD ""
    [⟨.debug, motionModel, "Integrating " ++ command.name ++ " along " ++ axis⟩]
  | .refused command error =>
    [⟨.trace, motionTask, command.name ++ " waits: " ++ error.message⟩]

/-- The notices of an event, from the stage in which the step began and the model after it. -/
def ofEvent (now : UInt32) (stage : Stage) (model : MotionModel) : MotionEvent → List Notice
  | .calibrationComplete =>
    [⟨.info, motionModel,
      "Motion model calibrated, bias " ++ Wording.vector 0 3 ", " model.state.bias⟩]
  | .commandFinished command true =>
    let elapsed :=
      match stage with
      | .executing _ _ startedMs _ => now - startedMs
      | _ => 0
    [⟨.warn, motionModel,
      command.name ++ " timed out after " ++ elapsed.toNat.repr ++ " ms"⟩]
  | _ => []

/-- The notices of the motion task. -/
def ofMotion (now : UInt32) (report : MotionReport) (model : MotionModel) : List Notice :=
  (if report.switchedOff then [⟨.debug, motionModel, "Motion model disabled"⟩] else []) ++
    ofHandOff report.handOff ++
    match report.sample with
    | .missed => []
    | .refused error => [⟨.warn, motionTask, "Motion step skipped: " ++ error.message⟩]
    | .stepped event flushed? =>
      ofEvent now report.stage model event ++
        (match flushed? with
          | some delta =>
            [⟨.debug, motionModel,
              "Flushed " ++ Wording.vector 0 2 ", " delta ++ " to " ++ particleCount.repr
                ++ " particles"⟩]
          | none => []) ++
        [⟨.debug, simulation, "Motion " ++ Wording.event event⟩]

/-- The notices of an observation. -/
def ofResample (now : UInt32) (color : UInt8) (outcome : ResampleOutcome) : List Notice :=
  let name := color.toNat.repr
  (match outcome with
    | .skipped => []
    | .reset =>
      [⟨.info, population, "No particle expects color " ++ name ++ ", resetting to grid"⟩]
    | .resampled matched =>
      [⟨.debug, population,
        "Resampled on color " ++ name ++ ": " ++ matched.repr ++ " of " ++ particleCount.repr
          ++ " matched"⟩]) ++
    [⟨.debug, filterTask,
      "Color " ++ name ++ " at " ++ now.toNat.repr ++ " ms: " ++ Wording.outcome outcome⟩]

/-- The notice of a queued transmission. -/
def ofTransmission (p : Projector) (address : UInt8) (command : Command) : Notice :=
  ⟨.info, projector,
    "Projector queues " ++ command.name ++ " as " ++ Binary.text (p.frame address command)⟩

/-! ## The whole step -/

/-- The notices of a step. -/
def ofStep (report : StepReport) : List Notice :=
  let now := report.now
  (match report.finished? with
    | some command =>
      [⟨.debug, simulation,
        "Vehicle finished " ++ command.name ++ " at " ++ now.toNat.repr ++ " ms"⟩]
    | none => []) ++
    report.overrun?.toList.map ofOverrun ++
    (report.link?.map ofLink).getD [] ++
    ofExecutor report.executor ++
    (report.motion?.map fun (motion, model) => ofMotion now motion model).getD [] ++
    (report.resample?.map fun (color, outcome) => ofResample now color outcome).getD []

end LightPilot.Journal
