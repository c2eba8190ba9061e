import LightPilot.Motion.Model
import LightPilot.Proofs.Check

set_option autoImplicit false

/-! # What one call on the motion model can do

A step that is not refused takes one of eight courses, by the calibration, the switch and the stage of the
model. `MotionModel.Steps` lists them with their guards, and `MotionModel.steps_of_step` reads off the
course that a step took, so that no later proof opens the step function. `MotionModel.Performs` does the
same for all calls: it says which state each answer leaves. -/

namespace LightPilot.MotionModel

/-! ## Steps -/

/-- The model with the acceleration of a sample recorded. -/
def read (m : MotionModel) (sample : InertialSample) : MotionModel :=
  { m with state := { m.state with rawAcceleration := sample.acceleration } }

/-- The model with its velocity at zero. -/
def halted (m : MotionModel) : MotionModel :=
  { m with state := m.state.halt }

/-- The model at another stage. -/
def atStage (m : MotionModel) (stage : Stage) : MotionModel :=
  { m with state := { m.state with stage } }

/-- The courses that a step can take. -/
inductive Steps (m : MotionModel) (sample : InertialSample) (dt : Float32) (now : UInt32) :
    MotionEvent → MotionModel → Prop
  /-- The sample goes to the calibration. -/
  | calibrating (hcalibrated : m.state.calibrated = false) :
      Steps m sample dt now
        (if ((m.read sample).calibrate sample).state.calibrated then .calibrationComplete
          else .calibrating)
        ((m.read sample).calibrate sample)
  | inactive (hcalibrated : m.state.calibrated = true) (hactive : m.state.active = false) :
      Steps m sample dt now .inactive (m.read sample).halted
  | resting (hcalibrated : m.state.calibrated = true) (hactive : m.state.active = true)
      (hstage : m.state.stage = .idle)
      (hkeep : ¬ (m.config.recalibrateWhenIdle ∧ sample.stationary)) :
      Steps m sample dt now .idle (m.read sample).halted
  /-- The bias follows the sensor at rest. -/
  | following (hcalibrated : m.state.calibrated = true) (hactive : m.state.active = true)
      (hstage : m.state.stage = .idle)
      (hfollow : m.config.recalibrateWhenIdle ∧ sample.stationary) :
      Steps m sample dt now .idle ((m.read sample).halted.updateBias sample.acceleration)
  | cooling (since : UInt32) (hcalibrated : m.state.calibrated = true)
      (hactive : m.state.active = true) (hstage : m.state.stage = .cooldown since)
      (hpause : now - since < m.config.cooldownMs) :
      Steps m sample dt now .cooling (m.read sample).halted
  | cooled (since : UInt32) (hcalibrated : m.state.calibrated = true)
      (hactive : m.state.active = true) (hstage : m.state.stage = .cooldown since)
      (hpause : m.config.cooldownMs ≤ now - since) :
      Steps m sample dt now .cooldownElapsed ((m.read sample).halted.atStage .idle)
  | finished (command : Command) (axis : Axis) (started : UInt32) (tilted timedOut : Bool)
      (hcalibrated : m.state.calibrated = true) (hactive : m.state.active = true)
      (hstage : m.state.stage = .executing command axis started tilted)
      (hprogress : progress m.config (sample.attitude.tilt? axis) tilted (now - started)
        = .finished timedOut) :
      Steps m sample dt now (.commandFinished command timedOut)
        (((m.read sample).integrate axis dt).halted.atStage (.cooldown now))
  | underway (command : Command) (axis : Axis) (started : UInt32) (tilted tilted' : Bool)
      (hcalibrated : m.state.calibrated = true) (hactive : m.state.active = true)
      (hstage : m.state.stage = .executing command axis started tilted)
      (hprogress : progress m.config (sample.attitude.tilt? axis) tilted (now - started)
        = .underway tilted') :
      Steps m sample dt now (.integrated axis)
        (((m.read sample).integrate axis dt).atStage (.executing command axis started tilted'))

variable {m next : MotionModel} {sample : InertialSample} {dt : Float32} {now : UInt32}
  {event : MotionEvent}

/-- The course of a step of an active, calibrated model. -/
theorem steps_advance (hcalibrated : m.state.calibrated = true) (hactive : m.state.active = true) :
    Steps m sample dt now ((m.read sample).advance sample dt now).1
      ((m.read sample).advance sample dt now).2 := by
  have hread : (m.read sample).state.stage = m.state.stage := rfl
  cases hstage : m.state.stage with
  | idle =>
      by_cases hfollow : m.config.recalibrateWhenIdle ∧ sample.stationary
      · have hadvance : (m.read sample).advance sample dt now
            = (.idle, (m.read sample).halted.updateBias sample.acceleration) := by
          unfold advance
          rw [hread, hstage]
          exact congrArg (Prod.mk _) (if_pos hfollow)
        rw [hadvance]
        exact .following hcalibrated hactive hstage hfollow
      · have hadvance : (m.read sample).advance sample dt now
            = (.idle, (m.read sample).halted) := by
          unfold advance
          rw [hread, hstage]
          exact congrArg (Prod.mk _) (if_neg hfollow)
        rw [hadvance]
        exact .resting hcalibrated hactive hstage hfollow
  | cooldown since =>
      by_cases hpause : m.config.cooldownMs ≤ now - since
      · have hadvance : (m.read sample).advance sample dt now
            = (.cooldownElapsed, (m.read sample).halted.atStage .idle) := by
          unfold advance
          rw [hread, hstage]
          exact if_pos hpause
        rw [hadvance]
        exact .cooled since hcalibrated hactive hstage hpause
      · have hadvance : (m.read sample).advance sample dt now
            = (.cooling, (m.read sample).halted) := by
          unfold advance
          rw [hread, hstage]
          exact if_neg hpause
        rw [hadvance]
        exact .cooling since hcalibrated hactive hstage (UInt32.not_le.1 hpause)
  | executing command axis started tilted =>
      have hconfig : ((m.read sample).integrate axis dt).config = m.config := rfl
      cases hprogress : progress m.config (sample.attitude.tilt? axis) tilted (now - started) with
      | finished timedOut =>
          have hadvance : (m.read sample).advance sample dt now
              = (.commandFinished command timedOut,
                ((m.read sample).integrate axis dt).halted.atStage (.cooldown now)) := by
            unfold advance
            rw [hread, hstage]
            dsimp only
            rw [hconfig, hprogress]
            rfl
          rw [hadvance]
          exact .finished command axis started tilted timedOut hcalibrated hactive hstage hprogress
      | underway tilted' =>
          have hadvance : (m.read sample).advance sample dt now
              = (.integrated axis, ((m.read sample).integrate axis dt).atStage
                (.executing command axis started tilted')) := by
            unfold advance
            rw [hread, hstage]
            dsimp only
            rw [hconfig, hprogress]
            rfl
          rw [hadvance]
          exact .underway command axis started tilted tilted' hcalibrated hactive hstage hprogress

/-- A step that is not refused takes one of the courses. -/
theorem steps_of_step (h : m.step sample dt now = .ok (event, next)) :
    (dt > 0 ∧ Single.isFinite dt = true) ∧ Steps m sample dt now event next := by
  unfold step at h
  split at h
  · contradiction
  · next htime =>
      rw [not_or, Classical.not_not, Classical.not_not] at htime
      refine ⟨htime, ?_⟩
      cases hcalibrated : m.state.calibrated with
      | false =>
          have hlearn : ¬ (m.read sample).state.calibrated = true := by
            rw [read, hcalibrated]
            exact Bool.false_ne_true
          have hcourse := (if_pos hlearn).symm.trans h
          obtain ⟨rfl, rfl⟩ := Prod.mk.inj (Except.ok.inj hcourse)
          exact .calibrating hcalibrated
      | true =>
          have hdone : ¬ ¬ (m.read sample).state.calibrated = true := not_not_intro hcalibrated
          cases hactive : m.state.active with
          | false =>
              have hoff : ¬ (m.read sample).state.active = true := by
                rw [read, hactive]
                exact Bool.false_ne_true
              have hcourse := ((if_neg hdone).trans (if_pos hoff)).symm.trans h
              obtain ⟨rfl, rfl⟩ := Prod.mk.inj (Except.ok.inj hcourse)
              exact .inactive hcalibrated hactive
          | true =>
              have hon : ¬ ¬ (m.read sample).state.active = true := not_not_intro hactive
              have hcourse := ((if_neg hdone).trans (if_neg hon)).symm.trans h
              have hadvance : (m.read sample).advance sample dt now = (event, next) :=
                Except.ok.inj hcourse
              have hsteps : Steps m sample dt now ((m.read sample).advance sample dt now).1
                  ((m.read sample).advance sample dt now).2 := steps_advance hcalibrated hactive
              rwa [hadvance] at hsteps

/-- A step is refused for its time only. -/
theorem not_of_step_error {error : NavigationError} (hstep : m.step sample dt now = .error error) :
    ¬ (dt > 0 ∧ Single.isFinite dt = true) := by
  intro hdt
  have hok : ¬ (¬ dt > 0 ∨ ¬ Single.isFinite dt = true) := by simpa [not_or] using hdt
  unfold MotionModel.step at hstep
  rw [if_neg hok] at hstep
  dsimp only at hstep
  split at hstep
  · contradiction
  · split at hstep <;> contradiction

theorem exists_step (m : MotionModel) (htime : dt > 0 ∧ Single.isFinite dt = true) (sample : InertialSample)
    (now : UInt32) : ∃ event next, m.step sample dt now = .ok (event, next) := by
  cases hstep : m.step sample dt now with
  | error error => exact absurd htime (not_of_step_error hstep)
  | ok result => exact ⟨result.1, result.2, rfl⟩

/-! ## Beginning a command -/

/-- A command that begins opens a flight along its axis. One that does not leaves the model as it is. -/
theorem begin_cases {command : Command} {started : Bool}
    (hbegin : m.begin command now = .ok (started, next)) :
    (started = true ∧ m.state.calibrated = true ∧ m.state.active = true ∧ m.state.stage = .idle ∧
      ∃ axis, command.axis? = some axis ∧ next = { m with
        state := { m.state.halt with
          activeAxis? := some axis
          stage := .executing command axis now false } }) ∨
    (started = false ∧ next = m) := by
  unfold MotionModel.begin at hbegin
  split at hbegin
  · contradiction
  · next hcalibrated =>
      split at hbegin
      · cases hbegin
        exact .inr ⟨rfl, rfl⟩
      · next axis haxis =>
          split at hbegin
          · cases hbegin
            exact .inr ⟨rfl, rfl⟩
          · next hready =>
              cases hbegin
              rw [not_or, Classical.not_not, Classical.not_not] at hready
              exact .inl ⟨rfl, Classical.not_not.1 hcalibrated, hready.1, hready.2, axis, haxis, rfl⟩

/-! ## Calls -/

/-- A call on the model. -/
inductive Call
  | calibrate (sample : InertialSample)
  | setActive (active : Bool)
  | begin (command : Command) (now : UInt32)
  | step (sample : InertialSample) (dt : Float32) (now : UInt32)
  | takeDelta
  | flush {n : Nat} (population : Population n)

/-- The answer to a call. -/
inductive Answer
  /-- Whether the calibration is complete. -/
  | calibrated (complete : Bool)
  | switched
  | begun (started : Except NavigationError Bool)
  | stepped (event : Except NavigationError MotionEvent)
  /-- The displacement that was handed over, if it was due. -/
  | taken (delta? : Option Vec3)

/-- Makes one call. A call that is refused leaves the model as it is. -/
def perform (m : MotionModel) : Call → Answer × MotionModel
  | .calibrate sample => (.calibrated (m.calibrate sample).state.calibrated, m.calibrate sample)
  | .setActive active => (.switched, m.setActive active)
  | .begin command now =>
    match m.begin command now with
    | .ok (started, m) => (.begun (.ok started), m)
    | .error error => (.begun (.error error), m)
  | .step sample dt now =>
    match m.step sample dt now with
    | .ok (event, m) => (.stepped (.ok event), m)
    | .error error => (.stepped (.error error), m)
  | .takeDelta =>
    match m.takeDelta with
    | some (delta, m) => (.taken (some delta), m)
    | none => (.taken none, m)
  | .flush population =>
    match m.flush population with
    | some (delta, m, _) => (.taken (some delta), m)
    | none => (.taken none, m)

variable {config : MotionConfig}

theorem create_eq_ok_iff :
    create config = .ok m ↔ config.validate = .ok () ∧ m = { config, state := {} } := by
  rw [create, Check.bind_eq_ok_iff]
  constructor
  · rintro ⟨hvalid, hm⟩
    exact ⟨hvalid, (Except.ok.inj hm).symm⟩
  · rintro ⟨hvalid, rfl⟩
    exact ⟨hvalid, rfl⟩

/-- A hand-over to a population takes the displacement. -/
theorem takeDelta_of_flush {n : Nat} {population population' : Population n} {delta : Vec3}
    {next : MotionModel} (hflush : m.flush population = some (delta, next, population')) :
    m.takeDelta = some (delta, next) := by
  unfold flush at hflush
  cases htake : m.takeDelta with
  | none =>
      rw [htake] at hflush
      contradiction
  | some taken =>
      rw [htake] at hflush
      obtain ⟨rfl, hrest⟩ := Prod.mk.inj (Option.some.inj hflush)
      rw [← (Prod.mk.inj hrest).1]

/-- What a call can answer and do. -/
inductive Performs (m : MotionModel) : Answer → MotionModel → Prop
  | calibrated (sample : InertialSample) :
      Performs m (.calibrated (m.calibrate sample).state.calibrated) (m.calibrate sample)
  | switched (active : Bool) : Performs m .switched (m.setActive active)
  | begun {command : Command} {now : UInt32} {started : Bool} {next : MotionModel}
      (hbegin : m.begin command now = .ok (started, next)) :
      Performs m (.begun (.ok started)) next
  | stepped {sample : InertialSample} {dt : Float32} {now : UInt32} {event : MotionEvent}
      {next : MotionModel} (hstep : m.step sample dt now = .ok (event, next)) :
      Performs m (.stepped (.ok event)) next
  | taken {delta : Vec3} {next : MotionModel} (htake : m.takeDelta = some (delta, next)) :
      Performs m (.taken (some delta)) next
  | notBegun (error : NavigationError) : Performs m (.begun (.error error)) m
  | notStepped (error : NavigationError) : Performs m (.stepped (.error error)) m
  | notTaken (htake : m.takeDelta = none) : Performs m (.taken none) m

theorem performs_perform (m : MotionModel) (call : Call) :
    Performs m (m.perform call).1 (m.perform call).2 := by
  unfold perform
  cases call with
  | calibrate sample => exact .calibrated sample
  | setActive active => exact .switched active
  | begin command now =>
      dsimp only
      split
      · next hbegin => exact .begun hbegin
      · exact .notBegun _
  | step sample dt now =>
      dsimp only
      split
      · next hstep => exact .stepped hstep
      · exact .notStepped _
  | takeDelta =>
      dsimp only
      split
      · next htake => exact .taken htake
      · next htake => exact .notTaken htake
  | flush population =>
      dsimp only
      split
      · next hflush => exact .taken (takeDelta_of_flush hflush)
      · next hflush =>
          refine .notTaken ?_
          unfold flush at hflush
          exact Option.map_eq_none_iff.1 hflush

end LightPilot.MotionModel
