import LightPilot.Proofs.Vehicle.Course

set_option autoImplicit false

/-! # A model that is calibrated stays so

Nothing in a run of the motion task undoes the calibration (`MotionTask.calibrated_of_course`), and the last
sample that it asks for completes it (`MotionTask.calibrated_of_last`). -/

namespace LightPilot

namespace MotionModel

variable {m next : MotionModel} {sample : InertialSample} {dt : Float32} {now : UInt32}
  {event : MotionEvent}

theorem calibrated_of_step (h : m.step sample dt now = .ok (event, next))
    (hcalibrated : m.state.calibrated = true) : next.state.calibrated = true := by
  obtain ⟨-, hsteps⟩ := steps_of_step h
  cases hsteps with
  | calibrating hfresh =>
      rw [hcalibrated] at hfresh
      contradiction
  | _ => exact hcalibrated

/-- One sample more at rest completes the calibration. -/
def LacksOne (m : MotionModel) : Prop :=
  m.state.calibrationCount + 1 ≥ m.config.calibrationSamples

/-- The last sample completes the calibration. -/
theorem LacksOne.step (h : m.LacksOne) (hstill : sample.stationary = true)
    (hstep : m.step sample dt now = .ok (event, next)) : next.state.calibrated = true := by
  cases hcalibrated : m.state.calibrated with
  | true => exact calibrated_of_step hstep hcalibrated
  | false =>
      obtain ⟨-, hsteps⟩ := steps_of_step hstep
      cases hsteps with
      | calibrating =>
          have hcounts : ¬ ((m.read sample).state.calibrated = true ∨ ¬ sample.stationary = true) := by
            rw [hstill, read, hcalibrated]
            decide
          rw [calibrate, if_neg hcounts]
          exact decide_eq_true h
      | _ => simp_all

theorem LacksOne.setActive (h : m.LacksOne) (active : Bool) : (m.setActive active).LacksOne := by
  unfold MotionModel.setActive
  split
  · exact h
  · split <;> exact h

theorem LacksOne.begin (h : m.LacksOne) {command : Command} {started : Bool}
    (hbegin : m.begin command now = .ok (started, next)) : next.LacksOne := by
  rcases begin_cases hbegin with ⟨-, -, -, -, axis, -, rfl⟩ | ⟨-, rfl⟩ <;> exact h

end MotionModel

namespace MotionTask

variable {task : MotionTask} {tick : Tick} {used : SampleUse} {next : MotionModel}
  {swarm : Population tick.n}

/-- A calibration is for good. -/
theorem calibrated_of_course (hcourse : Course task tick used next swarm)
    (hcalibrated : task.model.state.calibrated = true) : next.state.calibrated = true := by
  have hready := (task.calibrated_ready tick).trans hcalibrated
  cases hcourse with
  | missed => exact hready
  | refused => exact hready
  | kept _ hstep => exact MotionModel.calibrated_of_step hstep hready
  | @flushed _ _ model _ hstep =>
      show model.state.calibrated = true
      exact MotionModel.calibrated_of_step hstep hready

theorem lacksOne_ready (h : task.model.LacksOne) (tick : Tick) : (task.ready tick).LacksOne := by
  have hswitched : (task.switched tick).LacksOne := h.setActive _
  rcases task.ready_cases tick with ⟨command, -, hbegin⟩ | ⟨-, hready⟩
  · exact hswitched.begin hbegin
  · rwa [hready]

/-- A run takes the last sample of the calibration. -/
theorem calibrated_of_last (hcourse : Course task tick used next swarm) (h : task.model.LacksOne)
    {sample : InertialSample} (hsample : tick.sample? = some sample) (hstill : sample.stationary = true)
    (htime : task.interval tick > 0 ∧ Single.isFinite (task.interval tick) = true) :
    next.state.calibrated = true := by
  have hready := lacksOne_ready h tick
  cases hcourse with
  | missed hnone => exact absurd (hsample.symm.trans hnone) (by simp)
  | refused _ hstep => exact absurd htime (MotionModel.not_of_step_error hstep)
  | kept hsome hstep =>
      rw [Option.some.inj (hsome.symm.trans hsample)] at hstep
      exact hready.step hstill hstep
  | @flushed _ _ model hsome hstep =>
      rw [Option.some.inj (hsome.symm.trans hsample)] at hstep
      show model.state.calibrated = true
      exact hready.step hstill hstep

end MotionTask

end LightPilot
