import LightPilot.Proofs.Motion.Step
import LightPilot.Proofs.Run

set_option autoImplicit false

/-! # The state of the motion model stays coherent

The model's fields depend on each other: nothing moves unless a command is flown, a command is flown only
by a calibrated model that is switched on, and the integrator starts each step where it ended the last
one. `MotionModel.Coherent` says all of this of one state. Every call keeps it, whatever its arguments
are, because each call is made of a few moves that keep it: recording a reading, halting at a stage that
flies nothing, and integrating along the axis of the command being flown.

The displacement gathered since the last hand-over is counted by a wrapping counter, so what the counter
says of it depends on the run: `MotionModel.Gathers` ties it to the integration steps that the answers
tell of. -/

namespace LightPilot.MotionModel

/-! ## Coherence -/

/-- How the fields of a model with these settings fit together. -/
structure Coherent (config : MotionConfig) (m : MotionModel) : Prop where
  settings : m.config = config
  /-- The active axis is the one of the command being flown. -/
  axis : ∀ axis, m.state.activeAxis? = some axis ↔
    ∃ command started tilted, m.state.stage = .executing command axis started tilted
  command : ∀ command axis started tilted,
    m.state.stage = .executing command axis started tilted → command.axis? = some axis
  /-- Nothing moves unless a command is flown. -/
  rest : m.state.stage.isExecuting = false →
    m.state.velocity = Vec3.zero ∧ m.state.previousVelocity = Vec3.zero ∧
    m.state.filteredAcceleration = Vec3.zero ∧ m.state.previousAcceleration = Vec3.zero
  /-- The next step starts where the last one ended. -/
  velocity : m.state.velocity = m.state.previousVelocity
  acceleration : m.state.filteredAcceleration = m.state.previousAcceleration
  enabled : m.state.stage ≠ .idle → m.state.calibrated = true ∧ m.state.active = true
  calibrated : m.state.calibrated = true ↔ m.state.calibrationCount ≥ config.calibrationSamples
  /-- Before the calibration is complete nothing is flown or gathered. -/
  fresh : m.state.calibrated = false → m.state.stage = .idle ∧
    m.state.position = Vec3.zero ∧ m.state.delta = Vec3.zero ∧ m.state.steps = 0
  /-- Only a lateral command is known by its tilt. -/
  lateral : ∀ command axis started,
    m.state.stage = .executing command axis started true → axis.isLateral = true

variable {config : MotionConfig} {m : MotionModel}

theorem coherent_create (h : create config = .ok m) : Coherent config m := by
  obtain ⟨hvalid, rfl⟩ := create_eq_ok_iff.1 h
  have hsamples := MotionConfig.calibrationSamples_ne_zero hvalid
  refine ⟨rfl, ?_, ?_, fun _ => ⟨rfl, rfl, rfl, rfl⟩, rfl, rfl, ?_, ?_,
    fun _ => ⟨rfl, rfl, rfl, rfl⟩, ?_⟩
  · intro axis
    simp
  · intro command axis started tilted heq
    contradiction
  · intro hbusy
    contradiction
  · simp only [Bool.false_eq_true, ge_iff_le, false_iff]
    intro hle
    exact hsamples (UInt32.le_zero_iff.1 hle)
  · intro command axis started heq
    contradiction

/-! ## Moves -/

theorem Coherent.read (h : Coherent config m) (sample : InertialSample) :
    Coherent config (m.read sample) :=
  ⟨h.settings, h.axis, h.command, h.rest, h.velocity, h.acceleration, h.enabled, h.calibrated, h.fresh,
    h.lateral⟩

theorem Coherent.updateBias (h : Coherent config m) (acceleration : Vec3) :
    Coherent config (m.updateBias acceleration) :=
  ⟨h.settings, h.axis, h.command, h.rest, h.velocity, h.acceleration, h.enabled, h.calibrated, h.fresh,
    h.lateral⟩

/-- A model may halt and go to any stage that flies nothing. -/
theorem Coherent.haltedAt (h : Coherent config m) {stage : Stage}
    (hstage : stage.isExecuting = false)
    (hon : stage ≠ .idle → m.state.calibrated = true ∧ m.state.active = true) :
    Coherent config (m.halted.atStage stage) := by
  have hnone : ∀ command axis started tilted, stage ≠ .executing command axis started tilted := by
    intro command axis started tilted heq
    rw [heq] at hstage
    contradiction
  refine ⟨h.settings, ?_, ?_, fun _ => ⟨rfl, rfl, rfl, rfl⟩, rfl, rfl, hon, h.calibrated, ?_, ?_⟩
  · intro axis
    refine iff_of_false (by simp [halted, atStage, MotionState.halt]) ?_
    rintro ⟨command, started, tilted, heq⟩
    exact hnone command axis started tilted heq
  · intro command axis started tilted heq
    exact absurd heq (hnone command axis started tilted)
  · intro hfresh
    refine ⟨?_, (h.fresh hfresh).2⟩
    refine Decidable.byContradiction fun hbusy => ?_
    have hcalibrated : m.state.calibrated = true := (hon hbusy).1
    have hcontrary : m.state.calibrated = false := hfresh
    rw [hcalibrated] at hcontrary
    contradiction
  · intro command axis started heq
    exact absurd heq (hnone command axis started true)

/-- A model that flies nothing may halt where it is. -/
theorem Coherent.halted (h : Coherent config m) (hstage : m.state.stage.isExecuting = false) :
    Coherent config m.halted :=
  h.haltedAt hstage h.enabled

theorem axis_executing (command : Command) (axis other : Axis) (started : UInt32) (tilted : Bool) :
    some axis = some other ↔ ∃ command' started' tilted',
      Stage.executing command axis started tilted = .executing command' other started' tilted' := by
  constructor
  · intro heq
    rw [← Option.some.inj heq]
    exact ⟨command, started, tilted, rfl⟩
  · rintro ⟨_, _, _, heq⟩
    injection heq with _ haxis
    rw [haxis]

/-- An integration step along the axis of the command being flown. -/
theorem Coherent.integrate (h : Coherent config m) {command : Command} {axis : Axis}
    {started : UInt32} {tilted tilted' : Bool}
    (hstage : m.state.stage = .executing command axis started tilted)
    (htilted : tilted' = true → axis.isLateral = true) (dt : Float32) :
    Coherent config ((m.integrate axis dt).atStage (.executing command axis started tilted')) := by
  have hon := h.enabled (by rw [hstage]; simp)
  have hactive : m.state.activeAxis? = some axis :=
    (h.axis axis).2 ⟨command, started, tilted, hstage⟩
  refine ⟨h.settings, ?_, ?_, ?_, rfl, rfl, fun _ => hon, h.calibrated, ?_, ?_⟩
  · intro other
    have hkept : ((m.integrate axis dt).atStage
        (.executing command axis started tilted')).state.activeAxis? = some axis := hactive
    rw [hkept]
    exact axis_executing ..
  · intro command' axis' started' tilted'' heq
    injection heq with hcommand haxis
    rw [← hcommand, ← haxis]
    exact h.command command axis started tilted hstage
  · intro hrest
    contradiction
  · intro hfresh
    have hcontrary : m.state.calibrated = false := hfresh
    rw [hon.1] at hcontrary
    contradiction
  · intro command' axis' started' heq
    injection heq with _ haxis _ htilt
    rw [← haxis]
    exact htilted htilt

/-- A tilt is recorded of a lateral command only. -/
theorem lateral_of_progress {attitude : Attitude} {axis : Axis} {tilted tilted' : Bool}
    {elapsed : UInt32}
    (h : progress config (attitude.tilt? axis) tilted elapsed = .underway tilted')
    (htilted : tilted' = true) : tilted = true ∨ axis.isLateral = true := by
  cases axis with
  | x => exact .inr rfl
  | y => exact .inr rfl
  | z =>
      left
      unfold progress at h
      dsimp only [Attitude.tilt?] at h
      split at h
      · contradiction
      · injection h with hkept
        rw [hkept, htilted]

/-! ## Every call keeps the coherence -/

theorem Coherent.calibrate (h : Coherent config m) (sample : InertialSample) :
    Coherent config (m.calibrate sample) := by
  unfold MotionModel.calibrate
  split
  · exact h
  · next hcounts =>
      rw [not_or] at hcounts
      have hfresh : m.state.calibrated = false := Bool.not_eq_true _ ▸ hcounts.1
      obtain ⟨hidle, hstill⟩ := h.fresh hfresh
      refine ⟨h.settings, h.axis, h.command, h.rest, h.velocity, h.acceleration, ?_, ?_,
        fun _ => ⟨hidle, hstill⟩, h.lateral⟩
      · intro hbusy
        exact absurd hidle hbusy
      · rw [← h.settings]
        exact decide_eq_true_iff

theorem Coherent.setActive (h : Coherent config m) (active : Bool) :
    Coherent config (m.setActive active) := by
  unfold MotionModel.setActive
  split
  · exact h
  · split
    · -- switching on starts nothing
      exact ⟨h.settings, h.axis, h.command, h.rest, h.velocity, h.acceleration,
        fun hbusy => ⟨(h.enabled hbusy).1, rfl⟩, h.calibrated, h.fresh, h.lateral⟩
    · have hidle : Coherent config (m.halted.atStage .idle) :=
        h.haltedAt rfl fun hbusy => absurd rfl hbusy
      exact ⟨hidle.settings, hidle.axis, hidle.command, hidle.rest, hidle.velocity,
        hidle.acceleration, fun hbusy => absurd rfl hbusy, hidle.calibrated, hidle.fresh,
        hidle.lateral⟩

theorem Coherent.begin (h : Coherent config m) {command : Command} {now : UInt32} {started : Bool}
    {next : MotionModel} (hbegin : m.begin command now = .ok (started, next)) :
    Coherent config next := by
  rcases begin_cases hbegin with ⟨-, hcalibrated, hactive, -, axis, haxis, rfl⟩ | ⟨-, rfl⟩
  · refine ⟨h.settings, fun other => axis_executing .., ?_, fun hrest => ?_, rfl, rfl,
      fun _ => ⟨hcalibrated, hactive⟩, h.calibrated, fun hfresh => ?_, ?_⟩
    · intro command' axis' started' tilted' heq
      injection heq with hcommand haxis'
      rw [← hcommand, ← haxis']
      exact haxis
    · contradiction
    · exact absurd hcalibrated (Bool.eq_false_iff.1 hfresh)
    · intro command' axis' started' heq
      injection heq with _ _ _ htilted
      contradiction
  · exact h

theorem Coherent.step (h : Coherent config m) {sample : InertialSample} {dt : Float32}
    {now : UInt32} {event : MotionEvent} {next : MotionModel}
    (hstep : m.step sample dt now = .ok (event, next)) : Coherent config next := by
  obtain ⟨-, hsteps⟩ := steps_of_step hstep
  have hread := h.read sample
  cases hsteps with
  | calibrating => exact hread.calibrate sample
  | inactive hcalibrated hactive =>
      -- a model that is switched off flies nothing
      refine hread.halted (Decidable.byContradiction fun hbusy => ?_)
      have hon := h.enabled fun hidle => hbusy (by rw [MotionModel.read, hidle]; rfl)
      rw [hactive] at hon
      exact absurd hon.2 Bool.false_ne_true
  | resting hcalibrated hactive hstage =>
      exact hread.halted (by rw [MotionModel.read, hstage]; rfl)
  | following hcalibrated hactive hstage =>
      exact (hread.halted (by rw [MotionModel.read, hstage]; rfl)).updateBias _
  | cooling since hcalibrated hactive hstage =>
      exact hread.halted (by rw [MotionModel.read, hstage]; rfl)
  | cooled since hcalibrated hactive hstage =>
      exact hread.haltedAt rfl fun hbusy => absurd rfl hbusy
  | finished command axis started tilted timedOut hcalibrated hactive hstage hprogress =>
      have hlateral : tilted = true → axis.isLateral = true := by
        rintro rfl
        exact h.lateral command axis started hstage
      exact (hread.integrate hstage hlateral dt).haltedAt rfl fun _ => ⟨hcalibrated, hactive⟩
  | underway command axis started tilted tilted' hcalibrated hactive hstage hprogress =>
      refine hread.integrate hstage (fun htilted => ?_) dt
      rcases lateral_of_progress hprogress htilted with hbefore | hnow
      · exact h.lateral command axis started (hbefore ▸ hstage)
      · exact hnow

theorem Coherent.takeDelta (h : Coherent config m) {delta : Vec3} {next : MotionModel}
    (htake : m.takeDelta = some (delta, next)) : Coherent config next := by
  unfold MotionModel.takeDelta at htake
  split at htake
  · obtain ⟨rfl, rfl⟩ := Prod.mk.inj (Option.some.inj htake)
    exact ⟨h.settings, h.axis, h.command, h.rest, h.velocity, h.acceleration, h.enabled,
      h.calibrated, fun hfresh => ⟨(h.fresh hfresh).1, (h.fresh hfresh).2.1, rfl, rfl⟩, h.lateral⟩
  · contradiction

/-- One more call keeps the coherence. -/
theorem Coherent.performs (h : Coherent config m) {answer : Answer} {next : MotionModel}
    (hperforms : Performs m answer next) : Coherent config next := by
  cases hperforms with
  | calibrated sample => exact h.calibrate sample
  | switched active => exact h.setActive active
  | begun hbegin => exact h.begin hbegin
  | stepped hstep => exact h.step hstep
  | taken htake => exact h.takeDelta htake
  | notBegun => exact h
  | notStepped => exact h
  | notTaken => exact h

/-! ## What is gathered between two hand-overs -/

/-- The integration steps since the last hand-over, after one more answer. -/
def Answer.gather (count : Nat) : Answer → Nat
  | .stepped (.ok (.integrated _)) => count + 1
  | .stepped (.ok (.commandFinished _ _)) => count + 1
  | .taken (some _) => 0
  | _ => count

/-- The integration steps since the last hand-over, as the answers of a run tell. -/
def gathered (answers : List Answer) : Nat :=
  answers.foldl Answer.gather 0

/-- The model has gathered this many integration steps. -/
structure Gathers (count : Nat) (m : MotionModel) : Prop where
  steps : m.state.steps = UInt32.ofNat count
  delta : count = 0 → m.state.delta = Vec3.zero

theorem Gathers.integrate {count : Nat} (h : Gathers count m) (axis : Axis) (dt : Float32) :
    Gathers (count + 1) (m.integrate axis dt) := by
  refine ⟨?_, fun hzero => by contradiction⟩
  rw [UInt32.ofNat_add, ← h.steps]
  rfl

theorem Gathers.calibrate {count : Nat} (h : Gathers count m) (sample : InertialSample) :
    Gathers count (m.calibrate sample) := by
  unfold MotionModel.calibrate
  split
  · exact h
  · exact ⟨h.steps, h.delta⟩

theorem Gathers.setActive {count : Nat} (h : Gathers count m) (active : Bool) :
    Gathers count (m.setActive active) := by
  unfold MotionModel.setActive
  split
  · exact h
  · split
    · exact ⟨h.steps, h.delta⟩
    · exact ⟨h.steps, h.delta⟩

theorem Gathers.begin {count : Nat} (h : Gathers count m) {command : Command} {now : UInt32}
    {started : Bool} {next : MotionModel} (hbegin : m.begin command now = .ok (started, next)) :
    Gathers count next := by
  rcases begin_cases hbegin with ⟨-, -, -, -, axis, -, rfl⟩ | ⟨-, rfl⟩
  · exact ⟨h.steps, h.delta⟩
  · exact h

theorem Gathers.step {count : Nat} (h : Gathers count m) {sample : InertialSample} {dt : Float32}
    {now : UInt32} {event : MotionEvent} {next : MotionModel}
    (hstep : m.step sample dt now = .ok (event, next)) :
    Gathers (Answer.gather count (.stepped (.ok event))) next := by
  obtain ⟨-, hsteps⟩ := steps_of_step hstep
  have hread : Gathers count (m.read sample) := ⟨h.steps, h.delta⟩
  cases hsteps with
  | calibrating =>
      have hcalibrate := hread.calibrate sample
      split
      · exact hcalibrate
      · exact hcalibrate
  | inactive => exact ⟨h.steps, h.delta⟩
  | resting => exact ⟨h.steps, h.delta⟩
  | following => exact ⟨h.steps, h.delta⟩
  | cooling => exact ⟨h.steps, h.delta⟩
  | cooled => exact ⟨h.steps, h.delta⟩
  | finished command axis =>
      have hintegrate := hread.integrate axis dt
      exact ⟨hintegrate.steps, hintegrate.delta⟩
  | underway command axis =>
      have hintegrate := hread.integrate axis dt
      exact ⟨hintegrate.steps, hintegrate.delta⟩

theorem gathers_takeDelta {delta : Vec3} {next : MotionModel}
    (htake : m.takeDelta = some (delta, next)) : Gathers 0 next := by
  unfold MotionModel.takeDelta at htake
  split at htake
  · obtain ⟨rfl, rfl⟩ := Prod.mk.inj (Option.some.inj htake)
    exact ⟨rfl, fun _ => rfl⟩
  · contradiction

/-- One more call gathers what its answer tells. -/
theorem Gathers.performs {count : Nat} (h : Gathers count m) {answer : Answer}
    {next : MotionModel} (hperforms : Performs m answer next) :
    Gathers (answer.gather count) next := by
  cases hperforms with
  | calibrated sample => exact h.calibrate sample
  | switched active => exact h.setActive active
  | begun hbegin => exact h.begin hbegin
  | stepped hstep => exact h.step hstep
  | taken htake => exact gathers_takeDelta htake
  | notBegun => exact h
  | notStepped => exact h
  | notTaken => exact h

/-- **The state stays coherent.** After any calls on a new model its fields fit together, and a counter
at zero means that nothing is gathered, unless the counter has wrapped since the last hand-over. -/
theorem coherent_run (hcreate : create config = .ok m) (calls : List Call) :
    Coherent config (Run.final perform m calls) ∧
      (gathered (Run.answers perform m calls) < 2 ^ 32 →
        (Run.final perform m calls).state.steps = 0 →
          (Run.final perform m calls).state.delta = Vec3.zero) := by
  have hcoherent : Coherent config (Run.final perform m calls) :=
    Run.invariant (coherent_create hcreate)
      (fun m call h => h.performs (performs_perform m call)) calls
  refine ⟨hcoherent, ?_⟩
  have hgathers : Gathers (gathered (Run.answers perform m calls)) (Run.final perform m calls) := by
    refine Run.induction (motive := fun _ answers m => Gathers (gathered answers) m) ?_ ?_ calls
    · obtain ⟨-, rfl⟩ := create_eq_ok_iff.1 hcreate
      exact ⟨rfl, fun _ => rfl⟩
    · intro _ answers m call h
      have hnext := h.performs (performs_perform m call)
      rw [gathered, List.foldl_append]
      exact hnext
  intro hfew hsteps
  refine hgathers.delta ?_
  have hcount := congrArg UInt32.toNat (hgathers.steps.symm.trans hsteps)
  rw [UInt32.toNat_ofNat_of_lt' hfew] at hcount
  exact hcount

theorem Coherent.run (h : Coherent config m) (calls : List Call) :
    Coherent config (Run.final perform m calls) :=
  Run.invariant h (fun m call h => h.performs (performs_perform m call)) calls

/-- Settings with which one sample completes the calibration. -/
def climbConfig : MotionConfig := { calibrationSamples := 1 }

theorem create_climbConfig :
    create climbConfig = .ok { config := climbConfig, state := {} } := by
  have hfault : climbConfig.fault? = none := by decide +kernel
  exact create_eq_ok_iff.2 ⟨by rw [MotionConfig.validate, hfault], rfl⟩

/-- A reading of a craft at rest. -/
def climbReading : InertialSample :=
  { acceleration := ⟨0.1, 0.2, 9.5⟩, attitude := .level, stationary := true }

/-- A command to rise is flown to its end, and its displacement handed over. -/
def climb : List Call :=
  [.calibrate climbReading, .setActive true, .begin .up 0, .step climbReading 0.5 500,
    .step climbReading 0.5 1000, .takeDelta, .begin .forward 1100]

/-- After the climb the model waits at rest with nothing gathered. -/
theorem coherent_climb :
    create climbConfig = .ok { config := climbConfig, state := {} } ∧
      Coherent climbConfig (Run.final perform { config := climbConfig, state := {} } climb) ∧
      (Run.final perform { config := climbConfig, state := {} } climb).state.stage
        = .cooldown 1000 ∧
      (Run.final perform { config := climbConfig, state := {} } climb).state.delta = Vec3.zero := by
  have hfault : climbConfig.fault? = none := by decide +kernel
  have hvalid : climbConfig.validate = .ok () := by rw [MotionConfig.validate, hfault]
  have hcreate : create climbConfig = .ok { config := climbConfig, state := {} } :=
    create_eq_ok_iff.2 ⟨hvalid, rfl⟩
  have hrun := coherent_run hcreate climb
  exact ⟨hcreate, hrun.1, by decide +kernel, hrun.2 (by decide +kernel) (by decide +kernel)⟩

end LightPilot.MotionModel
