import LightPilot.Proofs.Motion.Coherence
import LightPilot.Proofs.Number.Zero

set_option autoImplicit false

/-! # A command moves the craft along its own axis

The integration is written on whole vectors. Along the axes that are not flown it adds up products of zeros,
because the acceleration is read along the flown axis only and the values that a step starts from are zero
along the others: they have been since the model halted for the command. `MotionModel.Still` is that
invariant. It needs finite factors, which the checks of the settings and of the time step provide, and asks
nothing of the samples. -/

namespace LightPilot

open Single

/-! ## Components -/

namespace Vec3

variable {axis other : Axis}

@[simp] theorem along_add (a b : Vec3) (axis : Axis) : (a + b).along axis = a.along axis + b.along axis := by
  cases axis <;> rfl

@[simp] theorem along_scale (a : Vec3) (k : Float32) (axis : Axis) : (a * k).along axis = a.along axis * k := by
  cases axis <;> rfl

theorem isZero_along_zero (axis : Axis) : IsZero (zero.along axis) := by
  cases axis <;> exact isZero_zero

theorem isZero_along_single (value : Float32) (hother : other ≠ axis) :
    IsZero ((single value axis).along other) := by
  cases axis <;> cases other <;> first | exact isZero_zero | exact absurd rfl hother

end Vec3

namespace MotionModel

/-- Nothing moves along this axis. -/
structure AtRest (axis : Axis) (s : MotionState) : Prop where
  velocity : IsZero (s.velocity.along axis)
  previousVelocity : IsZero (s.previousVelocity.along axis)
  filteredAcceleration : IsZero (s.filteredAcceleration.along axis)
  previousAcceleration : IsZero (s.previousAcceleration.along axis)

/-- Nothing moves but along the axis of the command being flown. -/
def Still (m : MotionModel) : Prop :=
  ∀ axis, m.state.activeAxis? ≠ some axis → AtRest axis m.state

/-- What a step along an axis does to the other axes, and to the calibration and the switch: nothing. -/
structure MovesAlong (axis : Axis) (before after : MotionState) : Prop where
  position : ∀ other, other ≠ axis →
    SameNumber (before.position.along other) (after.position.along other)
  delta : ∀ other, other ≠ axis → SameNumber (before.delta.along other) (after.delta.along other)
  rest : ∀ other, other ≠ axis → AtRest other after
  bias : after.bias = before.bias
  calibrationCount : after.calibrationCount = before.calibrationCount
  calibrated : after.calibrated = before.calibrated
  active : after.active = before.active

variable {config : MotionConfig} {m next : MotionModel} {axis other : Axis} {sample : InertialSample}
  {dt : Float32} {now : UInt32}

/-! ## Integration -/

theorem isWeight_accelerationAlpha (hvalid : config.validate = .ok ()) :
    config.accelerationAlpha > 0 ∧ config.accelerationAlpha ≤ 1 := by
  rw [MotionConfig.validate] at hvalid
  cases hfault : config.fault? with
  | some fault =>
      rw [hfault] at hvalid
      contradiction
  | none =>
      simp only [MotionConfig.fault?, MotionConfig.isWeight] at hfault
      grind

theorem atRest_halt (axis : Axis) (s : MotionState) : AtRest axis s.halt :=
  ⟨Vec3.isZero_along_zero axis, Vec3.isZero_along_zero axis, Vec3.isZero_along_zero axis,
    Vec3.isZero_along_zero axis⟩

/-- What else is in the state does not matter. -/
theorem AtRest.of_eq {s s' : MotionState} (h : AtRest axis s) (hvelocity : s'.velocity = s.velocity)
    (hpreviousVelocity : s'.previousVelocity = s.previousVelocity)
    (hfiltered : s'.filteredAcceleration = s.filteredAcceleration)
    (hpreviousAcceleration : s'.previousAcceleration = s.previousAcceleration) : AtRest axis s' :=
  ⟨hvelocity ▸ h.velocity, hpreviousVelocity ▸ h.previousVelocity,
    hfiltered ▸ h.filteredAcceleration, hpreviousAcceleration ▸ h.previousAcceleration⟩

/-- The filter and the trapezoidal rule add up zeros along the other axes. -/
theorem AtRest.integrate (h : AtRest other m.state) (hother : other ≠ axis)
    (hpos : m.config.accelerationAlpha > 0) (hle : m.config.accelerationAlpha ≤ 1)
    (hdt : isFinite dt = true) :
    AtRest other (m.integrate axis dt).state ∧
      SameNumber (m.state.position.along other) ((m.integrate axis dt).state.position.along other) ∧
      SameNumber (m.state.delta.along other) ((m.integrate axis dt).state.delta.along other) := by
  have hweight := isFinite_of_lt_of_le (x := 0) (z := 1) rfl rfl hpos hle
  have hkept := isFinite_one_sub hpos hle
  have hhalf := isFinite_half_mul hdt
  have hfiltered : IsZero ((m.integrate axis dt).state.filteredAcceleration.along other) := by
    simp only [MotionModel.integrate, Vec3.along_add, Vec3.along_scale]
    exact (h.previousAcceleration.mul hkept).add ((Vec3.isZero_along_single _ hother).mul hweight)
  have hvelocity : IsZero ((m.integrate axis dt).state.velocity.along other) := by
    have hsum := hfiltered.add h.previousAcceleration
    simp only [MotionModel.integrate, Vec3.along_add, Vec3.along_scale] at hsum ⊢
    exact h.previousVelocity.add (hsum.mul hhalf)
  have hdisplacement : IsZero
      (((m.integrate axis dt).state.velocity.along other + m.state.previousVelocity.along other)
        * (0.5 * dt)) :=
    (hvelocity.add h.previousVelocity).mul hhalf
  have hposition : (m.integrate axis dt).state.position.along other
      = m.state.position.along other
        + ((m.integrate axis dt).state.velocity.along other + m.state.previousVelocity.along other)
          * (0.5 * dt) := by
    simp only [MotionModel.integrate, Vec3.along_add, Vec3.along_scale]
  have hdelta : (m.integrate axis dt).state.delta.along other
      = m.state.delta.along other
        + ((m.integrate axis dt).state.velocity.along other + m.state.previousVelocity.along other)
          * (0.5 * dt) := by
    simp only [MotionModel.integrate, Vec3.along_add, Vec3.along_scale]
  refine ⟨⟨hvelocity, hvelocity, hfiltered, hfiltered⟩, ?_, ?_⟩
  · rw [hposition]
    exact sameNumber_add hdisplacement
  · rw [hdelta]
    exact sameNumber_add hdisplacement

/-! ## Every call keeps the other axes at rest -/

theorem Still.read (h : Still m) (sample : InertialSample) : Still (m.read sample) :=
  fun axis haxis => (h axis haxis).of_eq rfl rfl rfl rfl

theorem still_halted (m : MotionModel) : Still m.halted :=
  fun axis _ => atRest_halt axis m.state

theorem Still.calibrate (h : Still m) (sample : InertialSample) : Still (m.calibrate sample) := by
  unfold MotionModel.calibrate
  split
  · exact h
  · exact fun axis haxis => (h axis haxis).of_eq rfl rfl rfl rfl

theorem Still.setActive (h : Still m) (active : Bool) : Still (m.setActive active) := by
  unfold MotionModel.setActive
  split
  · exact h
  · split
    · exact fun axis haxis => (h axis haxis).of_eq rfl rfl rfl rfl
    · exact fun axis _ => (atRest_halt axis m.state).of_eq rfl rfl rfl rfl

theorem Still.begin (h : Still m) {command : Command} {started : Bool}
    (hbegin : m.begin command now = .ok (started, next)) : Still next := by
  rcases begin_cases hbegin with ⟨-, -, -, -, axis, -, rfl⟩ | ⟨-, rfl⟩
  · exact fun axis _ => (atRest_halt axis m.state).of_eq rfl rfl rfl rfl
  · exact h

theorem Still.takeDelta (h : Still m) {delta : Vec3} (htake : m.takeDelta = some (delta, next)) :
    Still next := by
  unfold MotionModel.takeDelta at htake
  split at htake
  · obtain ⟨rfl, rfl⟩ := Prod.mk.inj (Option.some.inj htake)
    exact fun axis haxis => (h axis haxis).of_eq rfl rfl rfl rfl
  · contradiction

/-- A step while a command is flown moves the craft along its axis, and then goes on or halts. -/
theorem movesAlong_step (hcoherent : Coherent config m) (hvalid : config.validate = .ok ())
    (hstill : Still m) {command : Command} {started : UInt32} {tilted : Bool}
    (hstage : m.state.stage = .executing command axis started tilted) {event : MotionEvent}
    (hstep : m.step sample dt now = .ok (event, next)) :
    MovesAlong axis m.state next.state := by
  obtain ⟨⟨-, hdt⟩, hsteps⟩ := steps_of_step hstep
  obtain ⟨hcalibrated, hactive⟩ := hcoherent.enabled (by rw [hstage]; simp)
  obtain ⟨hpos, hle⟩ := isWeight_accelerationAlpha hvalid
  rw [← hcoherent.settings] at hpos hle
  have haxis : m.state.activeAxis? = some axis := (hcoherent.axis axis).2 ⟨_, _, _, hstage⟩
  have hmoves (other : Axis) (hother : other ≠ axis) := by
    have hrest : AtRest other (m.read sample).state :=
      hstill.read sample other fun heq => hother (Option.some.inj (heq.symm.trans haxis))
    exact hrest.integrate hother hpos hle hdt
  cases hsteps with
  | calibrating hfresh => exact absurd hcalibrated (Bool.eq_false_iff.1 hfresh)
  | inactive _ hoff => exact absurd hactive (Bool.eq_false_iff.1 hoff)
  | resting _ _ hother => exact absurd (hstage.symm.trans hother) (by simp)
  | following _ _ hother => exact absurd (hstage.symm.trans hother) (by simp)
  | cooling _ _ _ hother => exact absurd (hstage.symm.trans hother) (by simp)
  | cooled _ _ _ hother => exact absurd (hstage.symm.trans hother) (by simp)
  | finished command' axis' started' tilted' timedOut _ _ hsame =>
      obtain ⟨-, rfl, -, -⟩ := Stage.executing.inj (hstage.symm.trans hsame)
      exact ⟨fun other hother => (hmoves other hother).2.1, fun other hother => (hmoves other hother).2.2,
        fun other _ => (atRest_halt other m.state).of_eq rfl rfl rfl rfl, rfl, rfl, rfl, rfl⟩
  | underway command' axis' started' tilted' _ _ _ hsame =>
      obtain ⟨-, rfl, -, -⟩ := Stage.executing.inj (hstage.symm.trans hsame)
      exact ⟨fun other hother => (hmoves other hother).2.1, fun other hother => (hmoves other hother).2.2,
        fun other hother => (hmoves other hother).1.of_eq rfl rfl rfl rfl, rfl, rfl, rfl, rfl⟩

theorem Still.step (h : Still m) (hcoherent : Coherent config m) (hvalid : config.validate = .ok ())
    {event : MotionEvent} (hstep : m.step sample dt now = .ok (event, next)) : Still next := by
  obtain ⟨-, hsteps⟩ := steps_of_step hstep
  cases hsteps with
  | calibrating => exact (h.read sample).calibrate sample
  | inactive => exact still_halted _
  | resting => exact still_halted _
  | following => exact fun axis _ => (atRest_halt axis m.state).of_eq rfl rfl rfl rfl
  | cooling => exact still_halted _
  | cooled => exact fun axis _ => (atRest_halt axis m.state).of_eq rfl rfl rfl rfl
  | finished => exact fun axis _ => (atRest_halt axis m.state).of_eq rfl rfl rfl rfl
  | underway command axis started tilted tilted' hcalibrated hactive hstage =>
      have haxis : m.state.activeAxis? = some axis := (hcoherent.axis axis).2 ⟨_, _, _, hstage⟩
      have hmoves := movesAlong_step hcoherent hvalid h hstage hstep
      intro other hother
      refine hmoves.rest other fun heq => hother ?_
      rw [heq]
      exact haxis

/-- One more call keeps the other axes at rest. -/
theorem Still.performs (h : Still m) (hcoherent : Coherent config m) (hvalid : config.validate = .ok ())
    {answer : Answer} (hperforms : Performs m answer next) : Still next := by
  cases hperforms with
  | calibrated sample => exact h.calibrate sample
  | switched active => exact h.setActive active
  | begun hbegin => exact h.begin hbegin
  | stepped hstep => exact h.step hcoherent hvalid hstep
  | taken htake => exact h.takeDelta htake
  | notBegun => exact h
  | notStepped => exact h
  | notTaken => exact h

theorem Still.run (h : Still m) (hcoherent : Coherent config m) (hvalid : config.validate = .ok ())
    (calls : List Call) : Still (Run.final perform m calls) := by
  refine (Run.invariant (P := fun m => Coherent config m ∧ Still m) ⟨hcoherent, h⟩ ?_ calls).2
  rintro m call ⟨hcoherent, hstill⟩
  have hperforms := performs_perform m call
  exact ⟨hcoherent.performs hperforms, hstill.performs hcoherent hvalid hperforms⟩

/-- **Only the commanded axis is integrated.** Whatever was called before, a step of a command being flown
moves the craft along the command's axis and leaves alone the other axes, the bias, the calibration and the
switch, also when the sample or the bias is infinite or a NaN along the other axes. -/
theorem movesAlong_of_executing {start : MotionModel} (hcreate : create config = .ok start)
    (calls : List Call) {command : Command} {started : UInt32} {tilted : Bool}
    (hstage : (Run.final perform start calls).state.stage = .executing command axis started tilted)
    {event : MotionEvent}
    (hstep : (Run.final perform start calls).step sample dt now = .ok (event, next)) :
    MovesAlong axis (Run.final perform start calls).state next.state := by
  obtain ⟨hvalid, rfl⟩ := create_eq_ok_iff.1 hcreate
  have hcoherent := coherent_create hcreate
  have hstart : Still { config, state := {} } := fun axis _ => atRest_halt axis {}
  exact movesAlong_step (hcoherent.run calls) hvalid (hstart.run hcoherent hvalid calls) hstage hstep

/-- A reading that is a NaN along one axis and infinite along another. -/
def blindReading : InertialSample :=
  { acceleration := ⟨0 / 0, 1 / 0, 9.5⟩, attitude := .level, stationary := true }

/-- A command to rise, with a bias that is a NaN along one axis and infinite along another. -/
def blindClimb : List Call :=
  [.calibrate blindReading, .setActive true, .begin .up 0]

/-- The blind axes do not spoil the climb. -/
theorem movesAlong_blindClimb :
    create climbConfig = .ok { config := climbConfig, state := {} } ∧
      (Run.final perform { config := climbConfig, state := {} } blindClimb).state.bias.x.isNaN = true ∧
      ∃ event next,
        (Run.final perform { config := climbConfig, state := {} } blindClimb).step blindReading 0.5 500
          = .ok (event, next) ∧
        MovesAlong .z (Run.final perform { config := climbConfig, state := {} } blindClimb).state
          next.state := by
  refine ⟨create_climbConfig, by decide +kernel, ?_⟩
  have hstage : (Run.final perform { config := climbConfig, state := {} } blindClimb).state.stage
      = .executing .up .z 0 false := by
    decide +kernel
  obtain ⟨event, next, hstep⟩ :=
    (Run.final perform { config := climbConfig, state := {} } blindClimb).exists_step
      (show (0.5 : Float32) > 0 ∧ isFinite 0.5 = true by decide +kernel) blindReading 500
  exact ⟨event, next, hstep, movesAlong_of_executing create_climbConfig blindClimb hstage hstep⟩

end MotionModel

end LightPilot
