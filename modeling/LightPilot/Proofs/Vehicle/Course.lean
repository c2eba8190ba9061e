import LightPilot.Proofs.Motion.HandOver
import LightPilot.Vehicle.MotionTask

set_option autoImplicit false

/-! # One run of the motion task

Before its step a run applies the switch and hands the waiting command to the model: `MotionTask.ready` is
the model that is then stepped, and `MotionTask.ready_cases` says how it came about. `MotionTask.Course`
lists what the run can do with its sample, with the guards, and so which model it leaves
(`MotionTask.course_perform`). -/

namespace LightPilot

/-- The command that a run began. -/
def HandOff.begun? : HandOff → Option Command
  | begun command => some command
  | _ => none

theorem HandOff.begun?_eq_some_iff {handOff : HandOff} {command : Command} :
    handOff.begun? = some command ↔ handOff = .begun command := by
  cases handOff <;> simp [begun?]

namespace MotionModel

variable {m : MotionModel}

theorem flush_of_due {n : Nat} (h : m.isFlushDue = true) (population : Population n) :
    m.flush population
      = some (m.handed, m.emptied, population.displace m.handed m.config.noiseDeviation) := by
  rw [flush, takeDelta_of_due h]
  rfl

theorem flush_of_not_due {n : Nat} (h : m.isFlushDue = false) (population : Population n) :
    m.flush population = none := by
  rw [flush, takeDelta_of_not_due h]
  rfl

theorem calibrated_setActive (m : MotionModel) (active : Bool) :
    (m.setActive active).state.calibrated = m.state.calibrated := by
  unfold MotionModel.setActive
  split
  · rfl
  · split <;> rfl

theorem active_setActive (m : MotionModel) (active : Bool) :
    (m.setActive active).state.active = active := by
  unfold MotionModel.setActive
  split
  · next hsame => exact hsame
  · split
    · next hon => exact hon.symm
    · next hoff => exact (Bool.eq_false_of_not_eq_true hoff).symm

/-- A step goes on with the command that is flown, or ends it. -/
theorem stage_of_step {next : MotionModel} {sample : InertialSample} {dt : Float32} {now started : UInt32}
    {event : MotionEvent} {command : Command} {axis : Axis} {tilted : Bool}
    (hstep : m.step sample dt now = .ok (event, next)) (hcalibrated : m.state.calibrated = true)
    (hactive : m.state.active = true) (hstage : m.state.stage = .executing command axis started tilted) :
    (∃ tilted, next.state.stage = .executing command axis started tilted) ∨
      next.state.stage = .cooldown now ∧ ∃ timedOut, event = .commandFinished command timedOut := by
  cases (steps_of_step hstep).2 with
  | calibrating hfresh => exact absurd (hfresh.symm.trans hcalibrated) Bool.false_ne_true
  | inactive _ hoff => exact absurd (hoff.symm.trans hactive) Bool.false_ne_true
  | resting _ _ hidle => exact absurd (hidle.symm.trans hstage) (by simp)
  | following _ _ hidle => exact absurd (hidle.symm.trans hstage) (by simp)
  | cooling _ _ _ hpause => exact absurd (hpause.symm.trans hstage) (by simp)
  | cooled _ _ _ hpause => exact absurd (hpause.symm.trans hstage) (by simp)
  | finished other _ _ _ timedOut _ _ hother =>
      obtain ⟨rfl, -⟩ := Stage.executing.inj (hother.symm.trans hstage)
      exact .inr ⟨rfl, timedOut, rfl⟩
  | underway other axis _ _ tilted' _ _ hother =>
      obtain ⟨rfl, rfl, rfl, -⟩ := Stage.executing.inj (hother.symm.trans hstage)
      exact .inl ⟨tilted', rfl⟩

end MotionModel

namespace MotionTask

/-! ## The parts of a run -/

/-- What a run meets: the sample, if there is one, the parameters, the time and the swarm. -/
structure Tick where
  sample? : Option InertialSample
  params : Parameters
  now : UInt32
  {n : Nat}
  population : Population n

/-- Makes one run. -/
def perform (task : MotionTask) (tick : Tick) : MotionReport × MotionTask :=
  let ran := task.run tick.sample? tick.params tick.now tick.population
  (ran.1, ran.2.1)

/-- The swarm that a run leaves. -/
def swarmAfter (task : MotionTask) (tick : Tick) : Population tick.n :=
  (task.run tick.sample? tick.params tick.now tick.population).2.2.2

/-- The parameters that a run leaves. -/
def paramsAfter (task : MotionTask) (tick : Tick) : Parameters :=
  (task.run tick.sample? tick.params tick.now tick.population).2.2.1

/-- The model once the switch is applied. -/
def switched (task : MotionTask) (tick : Tick) : MotionModel :=
  task.model.setActive (tick.params.flag Parameters.motionActive)

/-- The model that a run steps: the switch is applied, and a command that can begin has begun. -/
def ready (task : MotionTask) (tick : Tick) : MotionModel :=
  (handOver (task.switched tick) tick.params tick.now).2.1

/-- The time of a step in seconds. -/
def interval (task : MotionTask) (tick : Tick) : Float32 :=
  (task.elapsedMs tick.now).toFloat32 / 1000

/-- The courses that a run can take with its sample: the model and the swarm afterwards. -/
inductive Course (task : MotionTask) (tick : Tick) :
    SampleUse → MotionModel → Population tick.n → Prop
  | missed (hsample : tick.sample? = none) :
      Course task tick .missed (task.ready tick) tick.population
  | refused {sample : InertialSample} {error : NavigationError} (hsample : tick.sample? = some sample)
      (hstep : (task.ready tick).step sample (task.interval tick) tick.now = .error error) :
      Course task tick (.refused error) (task.ready tick) tick.population
  /-- The step is made, and nothing is due. -/
  | kept {sample : InertialSample} {event : MotionEvent} {model : MotionModel}
      (hsample : tick.sample? = some sample)
      (hstep : (task.ready tick).step sample (task.interval tick) tick.now = .ok (event, model))
      (hdue : model.isFlushDue = false) :
      Course task tick (.stepped event none) model tick.population
  | flushed {sample : InertialSample} {event : MotionEvent} {model : MotionModel}
      (hsample : tick.sample? = some sample)
      (hstep : (task.ready tick).step sample (task.interval tick) tick.now = .ok (event, model))
      (hdue : model.isFlushDue = true) :
      Course task tick (.stepped event (some model.handed)) model.emptied
        (tick.population.displace model.handed model.config.noiseDeviation)

/-! ## One run -/

variable {task : MotionTask} {tick : Tick}

/-- A run with a sample steps the model that is ready. -/
theorem perform_of_sample {sample : InertialSample} (hsample : tick.sample? = some sample) :
    ((task.perform tick).1.sample, (task.perform tick).2, task.swarmAfter tick)
      = step { task with model := task.ready tick } sample tick.now tick.population := by
  obtain ⟨sample?, params, now, population⟩ := tick
  subst hsample
  rfl

theorem course_perform (task : MotionTask) (tick : Tick) :
    Course task tick (task.perform tick).1.sample (task.perform tick).2.model
      (task.swarmAfter tick) := by
  cases hsample : tick.sample? with
  | none =>
      obtain ⟨sample?, params, now, population⟩ := tick
      subst hsample
      exact .missed rfl
  | some sample =>
      have hran := task.perform_of_sample hsample
      have hdt : (({ task with model := task.ready tick } : MotionTask).elapsedMs
          tick.now).toFloat32 / 1000 = task.interval tick := rfl
      generalize (task.perform tick).1.sample = used at hran ⊢
      generalize (task.perform tick).2 = next at hran ⊢
      generalize task.swarmAfter tick = swarm at hran ⊢
      unfold step at hran
      rw [hdt] at hran
      dsimp only at hran
      cases hstep : (task.ready tick).step sample (task.interval tick) tick.now with
      | error error =>
          rw [hstep] at hran
          cases hran
          exact .refused hsample hstep
      | ok result =>
          obtain ⟨event, model⟩ := result
          rw [hstep] at hran
          dsimp only at hran
          cases hdue : model.isFlushDue with
          | false =>
              rw [MotionModel.flush_of_not_due hdue] at hran
              cases hran
              exact .kept hsample hstep hdue
          | true =>
              rw [MotionModel.flush_of_due hdue] at hran
              cases hran
              exact .flushed hsample hstep hdue

/-- What becomes of the command, and the parameters afterwards, are those of the hand-over. -/
theorem report_perform (task : MotionTask) (tick : Tick) :
    (task.perform tick).1.handOff = (handOver (task.switched tick) tick.params tick.now).1 ∧
      (task.perform tick).1.stage = (task.ready tick).state.stage ∧
      task.paramsAfter tick = (handOver (task.switched tick) tick.params tick.now).2.2 := by
  obtain ⟨sample?, params, now, population⟩ := tick
  cases sample? <;> exact ⟨rfl, rfl, rfl⟩

/-- Before its step a run begins a command, or leaves the model as the switch does. -/
theorem ready_cases (task : MotionTask) (tick : Tick) :
    (∃ command, (task.perform tick).1.handOff = .begun command ∧
      (task.switched tick).begin command tick.now = .ok (true, task.ready tick)) ∨
    ((task.perform tick).1.handOff.begun? = none ∧ task.ready tick = task.switched tick) := by
  rw [(task.report_perform tick).1, ready]
  unfold handOver
  split
  · exact .inr ⟨rfl, rfl⟩
  · split
    · exact .inr ⟨rfl, rfl⟩
    · exact .inr ⟨rfl, rfl⟩
    · next command _ _ =>
        split
        · next hbegin => exact .inl ⟨command, rfl, hbegin⟩
        · next hbegin =>
            rcases MotionModel.begin_cases hbegin with ⟨hnot, -⟩ | ⟨-, rfl⟩
            · contradiction
            · split <;> exact .inr ⟨rfl, rfl⟩
        · exact .inr ⟨rfl, rfl⟩

theorem calibrated_ready (task : MotionTask) (tick : Tick) :
    (task.ready tick).state.calibrated = task.model.state.calibrated := by
  have hswitched : (task.switched tick).state.calibrated = task.model.state.calibrated :=
    task.model.calibrated_setActive _
  rw [← hswitched]
  rcases task.ready_cases tick with ⟨command, -, hbegin⟩ | ⟨-, hready⟩
  · rcases MotionModel.begin_cases hbegin with ⟨-, -, -, -, axis, -, hready⟩ | ⟨-, hready⟩
    · rw [hready]
      rfl
    · rw [hready]
  · rw [hready]

theorem clock_perform (task : MotionTask) (tick : Tick) :
    (task.perform tick).2.periodMs = task.periodMs ∧
      (task.perform tick).2.lastMs? = if tick.sample?.isSome then some tick.now else task.lastMs? := by
  obtain ⟨sample?, params, now, population⟩ := tick
  cases sample? with
  | none => exact ⟨rfl, rfl⟩
  | some sample =>
      show (step { task with model := _ } sample now population).2.1.periodMs = task.periodMs ∧
        (step { task with model := _ } sample now population).2.1.lastMs? = some now
      unfold step
      dsimp only
      split
      · exact ⟨rfl, rfl⟩
      · split <;> exact ⟨rfl, rfl⟩

/-! ## A command that begins -/

theorem begin_of_begun {command : Command} (h : (task.perform tick).1.handOff = .begun command) :
    (task.switched tick).begin command tick.now = .ok (true, task.ready tick) := by
  rcases task.ready_cases tick with ⟨other, hother, hbegin⟩ | ⟨hnone, -⟩
  · rwa [HandOff.begun.inj (h.symm.trans hother)]
  · rw [h] at hnone
    contradiction

theorem ready_of_begun?_eq_none (h : (task.perform tick).1.handOff.begun? = none) :
    task.ready tick = task.switched tick := by
  rcases task.ready_cases tick with ⟨command, hbegun, -⟩ | ⟨-, hready⟩
  · rw [hbegun] at h
    contradiction
  · exact hready

/-- A command that has begun is flown after the run, unless the step of the run ends it. -/
theorem flown_of_course {command : Command} {used : SampleUse} {next : MotionModel}
    {swarm : Population tick.n}
    (hbegin : (task.switched tick).begin command tick.now = .ok (true, task.ready tick))
    (hcourse : Course task tick used next swarm) :
    (∃ axis tilted, command.axis? = some axis ∧
        next.state.stage = .executing command axis tick.now tilted) ∨
      next.state.stage = .cooldown tick.now ∧
        ∃ timedOut flushed?, used = .stepped (.commandFinished command timedOut) flushed? := by
  rcases MotionModel.begin_cases hbegin with
    ⟨-, hcalibrated, hactive, -, axis, haxis, hready⟩ | ⟨hnot, -⟩
  swap
  · contradiction
  have hflown : (task.ready tick).state.calibrated = true ∧ (task.ready tick).state.active = true ∧
      (task.ready tick).state.stage = .executing command axis tick.now false := by
    rw [hready]
    exact ⟨hcalibrated, hactive, rfl⟩
  obtain ⟨hcalibrated, hactive, hstage⟩ := hflown
  cases hcourse with
  | missed => exact .inl ⟨axis, false, haxis, hstage⟩
  | refused => exact .inl ⟨axis, false, haxis, hstage⟩
  | kept _ hstep =>
      rcases MotionModel.stage_of_step hstep hcalibrated hactive hstage with
        ⟨tilted, hnext⟩ | ⟨hnext, timedOut, rfl⟩
      · exact .inl ⟨axis, tilted, haxis, hnext⟩
      · exact .inr ⟨hnext, timedOut, none, rfl⟩
  | @flushed _ _ model _ hstep =>
      rcases MotionModel.stage_of_step hstep hcalibrated hactive hstage with
        ⟨tilted, hnext⟩ | ⟨hnext, timedOut, rfl⟩
      · exact .inl ⟨axis, tilted, haxis, hnext⟩
      · exact .inr ⟨hnext, timedOut, some model.handed, rfl⟩

end MotionTask

end LightPilot
