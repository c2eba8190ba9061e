import LightPilot.Proofs.Filter.Resampling
import LightPilot.Proofs.Motion.HandOver
import LightPilot.Proofs.Vehicle.Course

set_option autoImplicit false

/-! # No displacement is left behind

A run of the motion task makes at most one integration step and hands over at its end whatever is due. So
the counter of the steps gathered never gets past the number after which they are handed over, whatever
the earlier phases of a run do: switch the model off, begin a command, miss the sample or refuse the step.
`MotionModel.Gathering` is the bound, which every `MotionTask.Course` of a run keeps. A run without an event
may leave steps of a command that was broken off, but the next run with an event hands them over
(`MotionTask.strandsNothing_run`). -/

namespace LightPilot

namespace MotionModel

/-! ## What a command does not touch -/

/-- A model with the same settings, which has gathered and integrated the same. -/
structure HoldsAs (m next : MotionModel) : Prop where
  config : next.config = m.config
  steps : next.state.steps = m.state.steps
  delta : next.state.delta = m.state.delta
  position : next.state.position = m.state.position

variable {m next last : MotionModel}

theorem HoldsAs.trans (h : HoldsAs m next) (hnext : HoldsAs next last) : HoldsAs m last :=
  ⟨hnext.config.trans h.config, hnext.steps.trans h.steps, hnext.delta.trans h.delta,
    hnext.position.trans h.position⟩

theorem holdsAs_setActive (m : MotionModel) (active : Bool) : HoldsAs m (m.setActive active) := by
  unfold setActive
  split
  · exact ⟨rfl, rfl, rfl, rfl⟩
  · split <;> exact ⟨rfl, rfl, rfl, rfl⟩

theorem holdsAs_of_begin {command : Command} {now : UInt32} {started : Bool}
    (h : m.begin command now = .ok (started, next)) : HoldsAs m next := by
  rcases begin_cases h with ⟨-, -, -, -, axis, -, rfl⟩ | ⟨-, rfl⟩ <;> exact ⟨rfl, rfl, rfl, rfl⟩

theorem Gathers.of_holdsAs {count : Nat} (h : Gathers count m) (hsame : HoldsAs m next) :
    Gathers count next :=
  ⟨hsame.steps.trans h.steps, fun hzero => hsame.delta.trans (h.delta hzero)⟩

theorem gather_le (count : Nat) (event : MotionEvent) :
    Answer.gather count (.stepped (.ok event)) ≤ count + 1 := by
  cases event <;> simp [Answer.gather]

/-! ## The bound on what is gathered -/

/-- The model has gathered this many integration steps, fewer than are handed over at once. -/
structure Gathering (config : MotionConfig) (count : Nat) (m : MotionModel) : Prop where
  settings : m.config = config
  valid : config.validate = .ok ()
  gathers : Gathers count m
  few : count < config.flushSteps.toNat

variable {config : MotionConfig} {count : Nat}

theorem flushSteps_pos (hvalid : config.validate = .ok ()) : 0 < config.flushSteps.toNat := by
  have hflush := UInt32.pos_iff_ne_zero.2 (MotionConfig.flushSteps_ne_zero hvalid)
  exact UInt32.lt_iff_toNat_lt.1 hflush

theorem gathering_create (hcreate : create config = .ok m) : Gathering config 0 m := by
  obtain ⟨hvalid, rfl⟩ := create_eq_ok_iff.1 hcreate
  exact ⟨rfl, hvalid, ⟨rfl, fun _ => rfl⟩, flushSteps_pos hvalid⟩

/-- Nothing is gathered after a hand-over. -/
theorem gathering_emptied (hsettings : m.config = config) (hvalid : config.validate = .ok ()) :
    Gathering config 0 m.emptied :=
  ⟨hsettings, hvalid, ⟨rfl, fun _ => rfl⟩, flushSteps_pos hvalid⟩

theorem Gathering.of_holdsAs (h : Gathering config count m) (hsame : HoldsAs m next) :
    Gathering config count next :=
  ⟨hsame.config.trans h.settings, h.valid, h.gathers.of_holdsAs hsame, h.few⟩

/-- The counter has room for one step more. -/
theorem Gathering.room (h : Gathering config count m) : count + 1 < 2 ^ 32 := by
  have hfew := h.few
  have hflush := config.flushSteps.toNat_lt
  omega

theorem Gathering.toNat_steps (h : Gathering config count m) : m.state.steps.toNat = count := by
  rw [h.gathers.steps]
  exact UInt32.toNat_ofNat_of_lt' (Nat.lt_of_succ_lt h.room)

theorem Gathering.isFlushDue_eq_false_iff (h : Gathering config count m) :
    m.isFlushDue = false ↔ m.state.steps = 0 ∨
      m.state.steps < config.flushSteps ∧ m.state.stage.isExecuting = true :=
  MotionModel.isFlushDue_eq_false_iff h.settings h.valid

/-- What is not due is little, and nothing unless a command is flown. -/
theorem Gathering.settled (h : Gathering config count m) (hdue : m.isFlushDue = false) :
    m.isFlushDue = false ∧ m.state.steps < config.flushSteps ∧
      (m.state.stage.isExecuting = false → m.state.steps = 0 ∧ m.state.delta = Vec3.zero) := by
  have hfew : m.state.steps < config.flushSteps := by
    rw [UInt32.lt_iff_toNat_lt, h.toNat_steps]
    exact h.few
  refine ⟨hdue, hfew, fun hstill => ?_⟩
  have hzero : m.state.steps = 0 := by
    have hnone := h.isFlushDue_eq_false_iff.1 hdue
    rw [hstill] at hnone
    simpa using hnone
  refine ⟨hzero, h.gathers.delta ?_⟩
  rw [← h.toNat_steps, hzero]
  rfl

theorem config_of_step {sample : InertialSample} {dt : Float32} {now : UInt32} {event : MotionEvent}
    (hstep : m.step sample dt now = .ok (event, next)) : next.config = m.config := by
  cases (steps_of_step hstep).2 with
  | calibrating =>
      unfold calibrate
      split <;> rfl
  | _ => rfl

/-- A step gathers at most one more, and what is then not due is few. -/
theorem Gathering.step (h : Gathering config count m) {sample : InertialSample} {dt : Float32}
    {now : UInt32} {event : MotionEvent} (hstep : m.step sample dt now = .ok (event, next))
    (hdue : next.isFlushDue = false) :
    Gathering config (Answer.gather count (.stepped (.ok event))) next := by
  have hsettings : next.config = config := (config_of_step hstep).trans h.settings
  have hgathers := h.gathers.step hstep
  have hsteps : next.state.steps.toNat = Answer.gather count (.stepped (.ok event)) := by
    rw [hgathers.steps]
    exact UInt32.toNat_ofNat_of_lt' (Nat.lt_of_le_of_lt (gather_le count event) h.room)
  refine ⟨hsettings, h.valid, hgathers, ?_⟩
  rw [← hsteps]
  rcases (MotionModel.isFlushDue_eq_false_iff hsettings h.valid).1 hdue with hzero | ⟨hfew, -⟩
  · rw [hzero]
    exact flushSteps_pos h.valid
  · exact UInt32.lt_iff_toNat_lt.1 hfew

end MotionModel

/-- The integration steps since the last hand-over, after one more use of a sample. -/
def SampleUse.gather (count : Nat) : SampleUse → Nat
  | .stepped event none => MotionModel.Answer.gather count (.stepped (.ok event))
  | .stepped _ (some _) => 0
  | _ => count

namespace MotionTask

variable {task : MotionTask}

/-- Until the step, nothing is gathered or handed over. -/
theorem holdsAs_ready (task : MotionTask) (tick : Tick) :
    MotionModel.HoldsAs task.model (task.ready tick) := by
  have hswitched : MotionModel.HoldsAs task.model (task.switched tick) := task.model.holdsAs_setActive _
  rcases task.ready_cases tick with ⟨command, -, hbegin⟩ | ⟨-, hready⟩
  · exact hswitched.trans (MotionModel.holdsAs_of_begin hbegin)
  · rwa [hready]

/-! ## Runs -/

/-- The integration steps since the last hand-over, as the reports of a run tell. -/
def gathered (reports : List MotionReport) : Nat :=
  reports.foldl (fun count report => report.sample.gather count) 0

variable {config : MotionConfig} {count : Nat}

/-- One more run gathers what its report tells, and stays within the bound. -/
theorem gathering_of_course (h : MotionModel.Gathering config count task.model) {tick : Tick}
    {used : SampleUse} {next : MotionModel} {swarm : Population tick.n}
    (hcourse : Course task tick used next swarm) :
    MotionModel.Gathering config (used.gather count) next := by
  have hready := h.of_holdsAs (task.holdsAs_ready tick)
  cases hcourse with
  | missed => exact hready
  | refused => exact hready
  | kept hsample hstep hdue => exact hready.step hstep hdue
  | flushed hsample hstep hdue =>
      have hsettings := (MotionModel.config_of_step hstep).trans hready.settings
      exact MotionModel.gathering_emptied hsettings h.valid

/-- What a run of a task that has gathered `count` steps has to leave. -/
structure StrandsNothing (config : MotionConfig) (count : Nat) (task : MotionTask) (tick : Tick)
    (report : MotionReport) (next : MotionTask) (swarm : Population tick.n) : Prop where
  /-- The counter has never wrapped, and does not wrap in this run. -/
  counted : task.model.state.steps.toNat = count
  room : count + 1 < 2 ^ 32
  /-- A run has an event unless the sample is missing or its time is refused. -/
  eventless : report.event? = none ↔ tick.sample? = none ∨
    ¬ (task.interval tick > 0 ∧ Single.isFinite (task.interval tick) = true)
  /-- After an event nothing is due, and nothing waits unless a command is flown. -/
  settled : report.event? ≠ none →
    next.model.isFlushDue = false ∧ next.model.state.steps < config.flushSteps ∧
      (next.model.state.stage.isExecuting = false →
        next.model.state.steps = 0 ∧ next.model.state.delta = Vec3.zero)
  /-- Without one, everything gathered and integrated stays as it is, and so does the swarm. -/
  kept : report.event? = none →
    next.model.state.steps = task.model.state.steps ∧
      next.model.state.delta = task.model.state.delta ∧
      next.model.state.position = task.model.state.position ∧ swarm = tick.population

theorem strandsNothing_of_course (h : MotionModel.Gathering config count task.model) {tick : Tick}
    {report : MotionReport} {next : MotionTask} {swarm : Population tick.n}
    (hcourse : Course task tick report.sample next.model swarm) :
    StrandsNothing config count task tick report next swarm := by
  have hready := task.holdsAs_ready tick
  have hnext := gathering_of_course h hcourse
  obtain ⟨switchedOff, handOff, stage, used⟩ := report
  obtain ⟨model, periodMs, lastMs?⟩ := next
  cases hcourse with
  | missed hsample =>
      exact ⟨h.toNat_steps, h.room, iff_of_true rfl (.inl hsample), fun hevent => absurd rfl hevent,
        fun _ => ⟨hready.steps, hready.delta, hready.position, rfl⟩⟩
  | refused hsample hstep =>
      exact ⟨h.toNat_steps, h.room, iff_of_true rfl (.inr (MotionModel.not_of_step_error hstep)),
        fun hevent => absurd rfl hevent,
        fun _ => ⟨hready.steps, hready.delta, hready.position, rfl⟩⟩
  | kept hsample hstep hdue =>
      have htime := (MotionModel.steps_of_step hstep).1
      exact ⟨h.toNat_steps, h.room, by simp [MotionReport.event?, hsample, htime],
        fun _ => hnext.settled hdue, fun hnone => by contradiction⟩
  | flushed hsample hstep hdue =>
      have htime := (MotionModel.steps_of_step hstep).1
      have hdone := hnext.isFlushDue_eq_false_iff.2 (.inl rfl)
      exact ⟨h.toNat_steps, h.room, by simp [MotionReport.event?, hsample, htime],
        fun _ => hnext.settled hdone, fun hnone => by contradiction⟩

/-- The model of a new task is new, and its clock has not started. -/
theorem model_create {periodMs : UInt32} {start : MotionTask}
    (hcreate : create config periodMs = .ok start) :
    MotionModel.create config = .ok start.model ∧ start.lastMs? = none := by
  rw [create] at hcreate
  obtain ⟨model, hmodel, hstart⟩ := Check.exists_of_bind_eq_ok hcreate
  cases hstart
  exact ⟨Check.mapError_eq_ok_iff.1 hmodel, rfl⟩

theorem gathering_start {periodMs : UInt32} {start : MotionTask}
    (hcreate : create config periodMs = .ok start) : MotionModel.Gathering config 0 start.model :=
  MotionModel.gathering_create (model_create hcreate).1

theorem gathering_run {periodMs : UInt32} {start : MotionTask}
    (hcreate : create config periodMs = .ok start) (ticks : List Tick) :
    MotionModel.Gathering config (gathered (Run.answers perform start ticks))
      (Run.final perform start ticks).model := by
  refine Run.induction (motive := fun _ reports (task : MotionTask) =>
    MotionModel.Gathering config (gathered reports) task.model) (gathering_start hcreate) ?_ ticks
  intro _ reports task tick h
  rw [gathered, List.foldl_append]
  exact gathering_of_course h (task.course_perform tick)

/-- **No displacement is left behind.** After any runs of a new task, whatever the parameters, samples and
times are, the next run hands over what is due when it has an event, and keeps everything when it has
none. The counter of the steps gathered always has room for one more. -/
theorem strandsNothing_run {periodMs : UInt32} {start : MotionTask}
    (hcreate : create config periodMs = .ok start) (ticks : List Tick) (tick : Tick) :
    let task := Run.final perform start ticks
    StrandsNothing config (gathered (Run.answers perform start ticks)) task tick
      (task.perform tick).1 (task.perform tick).2 (task.swarmAfter tick) :=
  strandsNothing_of_course (gathering_run hcreate ticks) (course_perform _ tick)

/-- Parameters that switch the model on or off, with a command waiting. -/
def orders (switch : Int32) (command : Command) : Parameters :=
  ((Parameters.initial.set Parameters.motionActive switch).2.set Parameters.lastCommand
    command.toParameter).2

/-- A tick with the reading of a craft at rest. -/
def climbTick (switch : Int32) (command : Command) (now : UInt32) : Tick :=
  { sample? := some MotionModel.climbReading, params := orders switch command, now
    population := Population.trio }

/-- A climb is begun, and broken off in a run without a sample. -/
def brokenClimb : List Tick :=
  [climbTick 0 .idle 10, climbTick 1 .up 20, { climbTick 0 .idle 30 with sample? := none }]

/-- A new task whose calibration takes one sample. -/
def climbTask : MotionTask where
  model := { config := MotionModel.climbConfig, state := {} }
  periodMs := 10

theorem create_climbTask : create MotionModel.climbConfig 10 = .ok climbTask := by
  rw [create, MotionModel.create_climbConfig]
  rfl

/-- The one step of a climb that is broken off waits, and the next run with a sample hands it over. -/
theorem strandsNothing_brokenClimb :
    create MotionModel.climbConfig 10 = .ok climbTask ∧
      (Run.final perform climbTask brokenClimb).model.state.steps.toNat = 1 ∧
      ((Run.final perform climbTask brokenClimb).perform
        (climbTick 0 .idle 40)).2.model.state.delta = Vec3.zero := by
  have hone : gathered (Run.answers perform climbTask brokenClimb) = 1 := by decide +kernel
  have hrun := strandsNothing_run create_climbTask brokenClimb (climbTick 0 .idle 40)
  rw [hone] at hrun
  have hsettled := hrun.settled (by decide +kernel)
  exact ⟨create_climbTask, hrun.counted, (hsettled.2.2 (by decide +kernel)).2⟩

end MotionTask

end LightPilot
