import LightPilot.Proofs.World.Overrun

set_option autoImplicit false

/-! # A step with any ear

The receiver reduces each window of samples to a frequency, and nothing else in the vehicle looks into the
windows. What holds of a step whatever `Classifier` hears them holds of the vehicle, whose ear is the peak of
the spectrum, and what holds with those that know the tones holds of it as far as the spectrum tells them. So
the parts of a step are looked at for any classifier: what each of them leaves as it is. -/

namespace LightPilot.Simulation

/-- What one step did. -/
def reportAs (classify : Classifier) (s : Simulation) : StepReport :=
  (s.stepReportingAs classify).1

theorem performAs_step (classify : Classifier) (s : Simulation) :
    s.performAs classify .step = (some (s.reportAs classify), s.stepAs classify) := by
  rw [performAs, reportAs]

variable {s : Simulation} {classify : Classifier}

/-- What the parts of a step report. -/
theorem reportAs_eq (classify : Classifier) (s : Simulation) :
    s.reportAs classify =
      { now := (s.runTasksAs classify).now
        finished? := s.moveCraft.1
        overrun? := if s.moveCraft.2.runSampling.1 = some .dropped then
          some s.beforeLink.vehicle.shared.samples.dropped else none
        link? := (s.beforeLink.runLinkAs classify).1
        executor := (s.beforeExecutor classify).runExecutor.1
        motion? := (s.beforeMotion classify).runMotion.1.map
          (·, (s.runTasksAs classify).vehicle.motion.model)
        resample? := (s.beforeMotion classify).runMotion.2.runFilter.1.map
          ((s.runTasksAs classify).vehicle.filter.detectedColor, ·) } := by
  rw [reportAs, stepReportingAs, runTasksAs, beforeMotion, beforeExecutor, beforeLink]

theorem link?_reportAs (classify : Classifier) (s : Simulation) :
    (s.reportAs classify).link? = (s.beforeLink.runLinkAs classify).1 := by
  rw [reportAs_eq]

theorem executor_reportAs (classify : Classifier) (s : Simulation) :
    (s.reportAs classify).executor = (s.beforeExecutor classify).runExecutor.1 := by
  rw [reportAs_eq]

theorem motion?_reportAs (classify : Classifier) (s : Simulation) :
    (s.reportAs classify).motion? = (s.beforeMotion classify).runMotion.1.map
      (·, (s.runTasksAs classify).vehicle.motion.model) := by
  rw [reportAs_eq]

theorem vehicle_stepAs (classify : Classifier) (s : Simulation) :
    (s.stepAs classify).vehicle = (s.runTasksAs classify).vehicle := by
  rw [stepAs_eq]

/-! ## The parts of a step that do not listen -/

/-- A part of a step that has nothing to do with light, link and executor. -/
structure Aside (before after : Simulation) : Prop where
  now : after.now = before.now
  config : after.config = before.config
  projector : after.projector = before.projector
  executor : after.executor = before.executor
  sampling : after.vehicle.sampling = before.vehicle.sampling
  link : after.vehicle.link = before.vehicle.link
  samples : after.samples = before.samples
  commands : after.vehicle.shared.commands = before.vehicle.shared.commands

theorem aside_runMotion (s : Simulation) : Aside s s.runMotion.2 := by
  unfold runMotion
  split <;> exact ⟨rfl, rfl, rfl, rfl, rfl, rfl, rfl, rfl⟩

theorem aside_runFilter (s : Simulation) : Aside s s.runFilter.2 := by
  unfold runFilter
  split <;> exact ⟨rfl, rfl, rfl, rfl, rfl, rfl, rfl, rfl⟩

theorem Aside.trans {first second third : Simulation} (h : Aside first second)
    (hnext : Aside second third) : Aside first third where
  now := hnext.now.trans h.now
  config := hnext.config.trans h.config
  projector := hnext.projector.trans h.projector
  executor := hnext.executor.trans h.executor
  sampling := hnext.sampling.trans h.sampling
  link := hnext.link.trans h.link
  samples := hnext.samples.trans h.samples
  commands := hnext.commands.trans h.commands

/-- The clock does not move before the end of a step. -/
theorem clock_beforeMotion (classify : Classifier) (s : Simulation) :
    (s.beforeMotion classify).now = s.now ∧ (s.beforeMotion classify).config = s.config := by
  have hsampled : s.beforeLink.now = s.now ∧ s.beforeLink.config = s.config := by
    rw [beforeLink, runSampling]
    split <;> exact ⟨rfl, rfl⟩
  rw [← hsampled.1, ← hsampled.2]
  change (s.beforeExecutor classify).now = _ ∧ (s.beforeExecutor classify).config = _
  rw [beforeExecutor, runLinkAs]
  split <;> exact ⟨rfl, rfl⟩

/-- The motion task and the filter task come last in a step. -/
theorem aside_runTasksAs (classify : Classifier) (s : Simulation) :
    Aside (s.beforeMotion classify) (s.runTasksAs classify) :=
  (aside_runMotion _).trans (aside_runFilter _)

end LightPilot.Simulation
