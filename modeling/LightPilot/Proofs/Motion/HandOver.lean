import LightPilot.Proofs.Motion.Coherence

set_option autoImplicit false

/-! # Every displacement is handed over exactly once

A run of the motion model is cut into batches by its hand-overs. The displacements integrated since the
last one wait in the accumulator, whatever else is called in between: commands end and begin, the model
is switched off and on, and hand-overs that are not due take nothing. `MotionModel.Pending` says so of
the list of displacements and the state, and one call appends to the list exactly what it integrates. A
hand-over then gives their sum in the order in which they were integrated, and leaves nothing. -/

namespace LightPilot.MotionModel

/-! ## Displacements -/

/-- The displacement of one integration step: the trapezoidal rule over the velocities before and
after it. -/
def displacement (m : MotionModel) (axis : Axis) (dt : Float32) : Vec3 :=
  ((m.integrate axis dt).state.velocity + m.state.previousVelocity) * (0.5 * dt)

/-- The axis along which a step with this event integrated. -/
def eventAxis? : MotionEvent → Option Axis
  | .integrated axis => some axis
  | .commandFinished command _ => command.axis?
  | _ => none

/-- The displacement that a call integrates; none unless it is a step of a command. -/
def displacement? (m : MotionModel) : Call → Option Vec3
  | .step sample dt now =>
    match m.step sample dt now with
    | .ok (event, _) => (eventAxis? event).map fun axis => (m.read sample).displacement axis dt
    | .error _ => none
  | _ => none

/-- The displacements that the calls of a run integrate, in order. -/
def displacements : MotionModel → List Call → List Vec3
  | _, [] => []
  | m, call :: calls => (m.displacement? call).toList ++ displacements (m.perform call).2 calls

/-- The sum of displacements, from zero and in order. -/
def total (displacements : List Vec3) : Vec3 :=
  displacements.foldl (· + ·) Vec3.zero

theorem total_snoc (displacements : List Vec3) (last : Vec3) :
    total (displacements ++ [last]) = total displacements + last :=
  List.foldl_append ..

/-! ## What waits in the accumulator -/

/-- These displacements, and no others, wait for the next hand-over. -/
structure Pending (waiting : List Vec3) (m : MotionModel) : Prop where
  steps : m.state.steps = UInt32.ofNat waiting.length
  delta : m.state.delta = total waiting

variable {config : MotionConfig} {m : MotionModel} {waiting : List Vec3}

/-- The counter and the sum are all that matters. -/
theorem Pending.of_eq {other : MotionModel} (h : Pending waiting m)
    (hsteps : other.state.steps = m.state.steps) (hdelta : other.state.delta = m.state.delta) :
    Pending waiting other :=
  ⟨hsteps.trans h.steps, hdelta.trans h.delta⟩

theorem Pending.read (h : Pending waiting m) (sample : InertialSample) :
    Pending waiting (m.read sample) :=
  h.of_eq rfl rfl

theorem Pending.halted (h : Pending waiting m) : Pending waiting m.halted :=
  h.of_eq rfl rfl

theorem Pending.atStage (h : Pending waiting m) (stage : Stage) :
    Pending waiting (m.atStage stage) :=
  h.of_eq rfl rfl

theorem Pending.updateBias (h : Pending waiting m) (acceleration : Vec3) :
    Pending waiting (m.updateBias acceleration) :=
  h.of_eq rfl rfl

theorem Pending.append_nil (h : Pending waiting m) : Pending (waiting ++ []) m := by
  rwa [List.append_nil]

theorem Pending.integrate (h : Pending waiting m) (axis : Axis) (dt : Float32) :
    Pending (waiting ++ [m.displacement axis dt]) (m.integrate axis dt) := by
  constructor
  · rw [List.length_append, List.length_singleton, UInt32.ofNat_add, ← h.steps]
    rfl
  · rw [total_snoc, ← h.delta]
    rfl

theorem Pending.calibrate (h : Pending waiting m) (sample : InertialSample) :
    Pending waiting (m.calibrate sample) := by
  unfold MotionModel.calibrate
  split
  · exact h
  · exact h.of_eq rfl rfl

theorem Pending.setActive (h : Pending waiting m) (active : Bool) :
    Pending waiting (m.setActive active) := by
  unfold MotionModel.setActive
  split
  · exact h
  · split
    · exact h.of_eq rfl rfl
    · exact h.of_eq rfl rfl

theorem Pending.begin (h : Pending waiting m) {command : Command} {now : UInt32} {started : Bool}
    {next : MotionModel} (hbegin : m.begin command now = .ok (started, next)) :
    Pending waiting next := by
  rcases begin_cases hbegin with ⟨-, -, -, -, axis, -, rfl⟩ | ⟨-, rfl⟩
  · exact h.of_eq rfl rfl
  · exact h

/-- A step that is not refused lets wait what it integrates, and nothing else. -/
theorem Pending.step (h : Pending waiting m) (hcoherent : Coherent config m)
    {sample : InertialSample} {dt : Float32} {now : UInt32} {event : MotionEvent}
    {next : MotionModel} (hstep : m.step sample dt now = .ok (event, next)) :
    Pending (waiting ++ (m.displacement? (.step sample dt now)).toList) next := by
  have hread := h.read sample
  rw [displacement?, hstep]
  cases (steps_of_step hstep).2 with
  | calibrating =>
      have hcalibrate := (hread.calibrate sample).append_nil
      dsimp only
      split
      · exact hcalibrate
      · exact hcalibrate
  | inactive => exact hread.halted.append_nil
  | resting => exact hread.halted.append_nil
  | following => exact (hread.halted.updateBias _).append_nil
  | cooling => exact hread.halted.append_nil
  | cooled => exact (hread.halted.atStage _).append_nil
  | finished command axis started tilted timedOut _ _ hstage =>
      -- the event names the command, and its axis is the one integrated along
      have haxis : command.axis? = some axis :=
        hcoherent.command command axis started tilted hstage
      dsimp only [eventAxis?]
      rw [haxis]
      exact (hread.integrate axis dt).halted.atStage _
  | underway command axis => exact (hread.integrate axis dt).atStage _

/-- Whether an answer hands something over. -/
def Answer.isHandOver : Answer → Bool
  | .taken (some _) => true
  | _ => false

/-- Any call that hands nothing over lets wait what it integrates, and nothing else. -/
theorem Pending.perform (h : Pending waiting m) (hcoherent : Coherent config m) (call : Call)
    (hkept : (m.perform call).1.isHandOver = false) :
    Pending (waiting ++ (m.displacement? call).toList) (m.perform call).2 := by
  cases call with
  | calibrate sample => exact (h.calibrate sample).append_nil
  | setActive active => exact (h.setActive active).append_nil
  | begin command now =>
      unfold MotionModel.perform
      dsimp only
      split
      · next hbegin => exact (h.begin hbegin).append_nil
      · exact h.append_nil
  | step sample dt now =>
      unfold MotionModel.perform
      dsimp only
      split
      · next hstep => exact h.step hcoherent hstep
      · next hstep =>
          rw [displacement?, hstep]
          exact h.append_nil
  | takeDelta =>
      unfold MotionModel.perform at hkept ⊢
      dsimp only at hkept ⊢
      split at hkept
      · contradiction
      · exact h.append_nil
  | flush population =>
      unfold MotionModel.perform at hkept ⊢
      dsimp only at hkept ⊢
      split at hkept
      · contradiction
      · exact h.append_nil

/-! ## Hand-overs -/

/-- The model with nothing gathered. -/
def emptied (m : MotionModel) : MotionModel :=
  { m with state := { m.state with delta := Vec3.zero, steps := 0 } }

/-- The displacement in map units and with the depth growing downwards. -/
def handed (m : MotionModel) : Vec3 :=
  m.state.delta.flipZ * m.config.mapUnitsPerMetre

/-- Hands the displacement over to a population, and leaves both as they are if it is not due. -/
def handOver {n : Nat} (m : MotionModel) (population : Population n) :
    Option Vec3 × MotionModel × Population n :=
  match m.flush population with
  | some (delta, m, population) => (some delta, m, population)
  | none => (none, m, population)

theorem takeDelta_of_due (h : m.isFlushDue = true) : m.takeDelta = some (m.handed, m.emptied) :=
  if_pos h

theorem takeDelta_of_not_due (h : m.isFlushDue = false) : m.takeDelta = none := by
  rw [takeDelta, h]
  rfl

theorem pending_emptied (m : MotionModel) : Pending [] m.emptied :=
  ⟨rfl, rfl⟩

/-- A hand-over leaves nothing. -/
theorem pending_of_isHandOver {call : Call} (htaken : (m.perform call).1.isHandOver = true) :
    Pending [] (m.perform call).2 := by
  have hperforms := performs_perform m call
  generalize m.perform call = result at hperforms htaken ⊢
  obtain ⟨answer, next⟩ := result
  dsimp only at hperforms htaken ⊢
  cases hperforms with
  | taken htake =>
      unfold takeDelta at htake
      split at htake
      · obtain ⟨-, rfl⟩ := Prod.mk.inj (Option.some.inj htake)
        exact pending_emptied m
      · contradiction
  | calibrated => contradiction
  | switched => contradiction
  | begun => contradiction
  | stepped => contradiction
  | notBegun => contradiction
  | notStepped => contradiction
  | notTaken => contradiction

/-- What a hand-over does when these displacements wait. -/
structure HandsOver (config : MotionConfig) (waiting : List Vec3) (m : MotionModel) : Prop where
  counted : m.state.steps.toNat = waiting.length
  /-- Nothing is handed over while nothing waits, or too little during a command. -/
  held : m.state.steps = 0 ∨
      m.state.steps < config.flushSteps ∧ m.state.stage.isExecuting = true →
    m.perform .takeDelta = (.taken none, m) ∧
      ∀ (n : Nat) (population : Population n), m.handOver population = (none, m, population)
  /-- Otherwise the sum of all that waits is handed over, and nothing is left. -/
  released : ¬ (m.state.steps = 0 ∨
      m.state.steps < config.flushSteps ∧ m.state.stage.isExecuting = true) →
    m.perform .takeDelta
        = (.taken (some ((total waiting).flipZ * config.mapUnitsPerMetre)), m.emptied) ∧
      ∀ (n : Nat) (population : Population n), m.handOver population
        = (some ((total waiting).flipZ * config.mapUnitsPerMetre), m.emptied,
          population.displace ((total waiting).flipZ * config.mapUnitsPerMetre)
            config.noiseDeviation)

theorem isFlushDue_eq_false_iff (hsettings : m.config = config) (hvalid : config.validate = .ok ()) :
    m.isFlushDue = false ↔ m.state.steps = 0 ∨
      m.state.steps < config.flushSteps ∧ m.state.stage.isExecuting = true := by
  have hflush : 0 < config.flushSteps :=
    UInt32.pos_iff_ne_zero.2 (MotionConfig.flushSteps_ne_zero hvalid)
  rw [isFlushDue, hsettings]
  grind

theorem handsOver_of_pending (hcoherent : Coherent config m) (hvalid : config.validate = .ok ())
    (hpending : Pending waiting m) (hfew : waiting.length < 2 ^ 32) : HandsOver config waiting m := by
  have hdue := isFlushDue_eq_false_iff hcoherent.settings hvalid
  refine ⟨?_, fun hheld => ?_, fun hreleased => ?_⟩
  · rw [hpending.steps, UInt32.toNat_ofNat_of_lt' hfew]
  · -- held
    have htake := takeDelta_of_not_due (hdue.2 hheld)
    refine ⟨?_, fun n population => ?_⟩
    · unfold perform
      rw [htake]
    · rw [handOver, flush, htake]
      rfl
  · -- released
    have htake := takeDelta_of_due (Bool.eq_true_of_not_eq_false (mt hdue.1 hreleased))
    rw [handed, hpending.delta, hcoherent.settings] at htake
    refine ⟨?_, fun n population => ?_⟩
    · unfold perform
      rw [htake]
    · have hsettings : m.emptied.config = config := hcoherent.settings
      rw [handOver, flush, htake]
      dsimp only [Option.map_some]
      rw [hsettings]

/-! ## Runs -/

/-- Calls that hand nothing over let wait what they integrate. -/
theorem pending_run (h : Pending waiting m) (hcoherent : Coherent config m) (calls : List Call)
    (hkept : ∀ answer ∈ Run.answers perform m calls, answer.isHandOver = false) :
    Pending (waiting ++ displacements m calls) (Run.final perform m calls) := by
  induction calls generalizing m waiting with
  | nil => exact h.append_nil
  | cons call calls ih =>
      rw [Run.answers, List.forall_mem_cons] at hkept
      have hnext := h.perform hcoherent call hkept.1
      rw [displacements, ← List.append_assoc]
      exact ih hnext (hcoherent.performs (performs_perform m call)) hkept.2

/-- Nothing waits before the first call and after each hand-over. -/
theorem pending_of_cut {start : MotionModel} (hcreate : create config = .ok start)
    {before : List Call}
    (hcut : before = [] ∨ (Run.answers perform start before).getLast?.any Answer.isHandOver = true) :
    Pending [] (Run.final perform start before) := by
  rcases hcut with rfl | hlast
  · obtain ⟨-, rfl⟩ := create_eq_ok_iff.1 hcreate
    exact ⟨rfl, rfl⟩
  · cases before using List.reverseRecOn with
    | nil => contradiction
    | append_singleton prior call =>
        -- the last call of the run is the one that handed over
        rw [Run.answers_append, Run.answers, Run.answers, List.getLast?_concat] at hlast
        rw [Run.final_append]
        exact pending_of_isHandOver hlast

/-- **Every displacement is handed over exactly once.** Cut a run of a new model where it starts or
where it has just handed over. Whatever calls follow that hand nothing over, the next hand-over gives
the sum of exactly the displacements that they integrated. -/
theorem handsOver_run {start : MotionModel} (hcreate : create config = .ok start)
    (before between : List Call)
    (hcut : before = [] ∨ (Run.answers perform start before).getLast?.any Answer.isHandOver = true)
    (hkept : ∀ answer ∈ Run.answers perform (Run.final perform start before) between,
      answer.isHandOver = false)
    (hfew : (displacements (Run.final perform start before) between).length < 2 ^ 32) :
    HandsOver config (displacements (Run.final perform start before) between)
      (Run.final perform start (before ++ between)) := by
  have hvalid := (create_eq_ok_iff.1 hcreate).1
  have hbefore := (coherent_create hcreate).run before
  have hpending := pending_run (pending_of_cut hcreate hcut) hbefore between hkept
  rw [List.nil_append, ← Run.final_append] at hpending
  exact handsOver_of_pending ((coherent_create hcreate).run (before ++ between)) hvalid hpending hfew

/-- After a climb, a move that is refused during the pause, and one that is broken off after a step. -/
def brokenOff : List Call :=
  [.begin .forward 1100, .step climbReading 0.5 1600, .begin .forward 1700,
    .step climbReading 0.5 1800, .takeDelta, .setActive false]

/-- The one displacement of the move broken off is handed over by itself. -/
theorem handsOver_brokenOff :
    create climbConfig = .ok { config := climbConfig, state := {} } ∧
      ∃ last, displacements (Run.final perform { config := climbConfig, state := {} } climb.dropLast)
          brokenOff = [last] ∧
        ((Run.final perform { config := climbConfig, state := {} }
            (climb.dropLast ++ brokenOff)).perform .takeDelta).1
          = .taken (some ((Vec3.zero + last).flipZ * climbConfig.mapUnitsPerMetre)) := by
  have hone : (displacements (Run.final perform { config := climbConfig, state := {} }
      climb.dropLast) brokenOff).length = 1 := by
    decide +kernel
  have hrun := handsOver_run create_climbConfig climb.dropLast brokenOff (.inr (by decide +kernel))
    (by decide +kernel) (by rw [hone]; decide)
  obtain ⟨last, hlast⟩ := List.length_eq_one_iff.1 hone
  rw [hlast] at hrun
  exact ⟨create_climbConfig, last, hlast, congrArg Prod.fst (hrun.released (by decide +kernel)).1⟩

end LightPilot.MotionModel
