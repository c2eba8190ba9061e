import LightPilot.Proofs.Motion.LifeCycle
import LightPilot.Proofs.Number.Value
import LightPilot.Proofs.Vehicle.MotionTask

set_option autoImplicit false

/-! # What time a command is charged for

A step lasts from the last run with a sample to its own. That run may lie far back, also before the command
began: a run without a sample leaves the clock of the task as it is, and so does a command that begins. So the
first step of a command integrates the wait before it too, and by any later step the command has been charged
for the time since the last sample before it began (`MotionTask.charges_run`). That is within the command's
own time and one period exactly if this sample came at most a period before the command.

The steps of a command add up to one interval because each starts where the last one ended: a run with a
sample is integrated while the command is flown, unless no time has passed (`MotionTask.elapsed_of_course`).
`MotionTask.Accounts` is the invariant. -/

namespace LightPilot

/-! ## The time of a step -/

namespace Single

/-- A positive time in milliseconds is a time step in seconds. -/
theorem isTimeStep_of_pos {word : UInt32} (hpos : 0 < word.toNat) :
    word.toFloat32 / 1000 > 0 ∧ isFinite (word.toFloat32 / 1000) = true := by
  have hword : (word.toNat : ℚ) ≤ 2 ^ 32 := by exact_mod_cast word.toNat_lt.le
  have hone : (1 : ℚ) ≤ word.toNat := by exact_mod_cast hpos
  obtain ⟨hfinite, hrounded⟩ := (rounds_toFloat32 word).of_le (Nat.cast_nonneg _) hword
  have hlow : 1 ≤ value word.toFloat32 :=
    hrounded.le_of_le ⟨1, 0, by norm_num, by norm_num, by norm_num⟩ hone
  have hhigh : value word.toFloat32 ≤ 2 ^ 32 :=
    hrounded.ge_of_ge ⟨1, 32, by norm_num, by norm_num, by norm_num⟩ hword
  have hthousand : isFinite 1000 = true ∧ value 1000 = (1000 : ℕ) := value_natCast (by norm_num)
  have hquotient := rounds_div hfinite hthousand.1 (by rw [hthousand.2]; norm_num)
  rw [hthousand.2] at hquotient
  push_cast at hquotient
  obtain ⟨hstep, hrounded'⟩ := hquotient.of_le (by positivity) (by linarith)
  have hleast : 1 / 1024 ≤ value (word.toFloat32 / 1000) :=
    hrounded'.le_of_le ⟨1, -10, by norm_num, by norm_num, by norm_num⟩ (by linarith)
  have hzero : value 0 = 0 := rfl
  have hpos' : value 0 < value (word.toFloat32 / 1000) := by
    rw [hzero]
    exact lt_of_lt_of_le (by norm_num) hleast
  exact ⟨(lt_iff (x := 0) rfl hstep).2 hpos', hstep⟩

end Single

/-- Whether a step integrated. -/
def MotionEvent.integrates : MotionEvent → Bool
  | .integrated _ | .commandFinished .. => true
  | _ => false

/-- Whether a sample was integrated. -/
def SampleUse.integrates : SampleUse → Bool
  | .stepped event _ => event.integrates
  | _ => false

namespace MotionModel

variable {config : MotionConfig} {m next : MotionModel} {sample : InertialSample} {dt : Float32}
  {now started : UInt32} {event : MotionEvent} {command : Command} {axis : Axis} {tilted : Bool}

/-- A step integrates exactly if a command is flown. -/
theorem integrates_of_step (h : Coherent config m) (hstep : m.step sample dt now = .ok (event, next)) :
    event.integrates = m.state.stage.isExecuting := by
  have hidle : m.state.calibrated = false ∨ m.state.active = false → m.state.stage = .idle := by
    intro hoff
    refine Decidable.byContradiction fun hbusy => ?_
    simp [h.enabled hbusy] at hoff
  cases (steps_of_step hstep).2 with
  | calibrating hfresh =>
      rw [hidle (.inl hfresh)]
      split <;> rfl
  | inactive _ hoff => rw [hidle (.inr hoff)]; rfl
  | resting _ _ hstage => rw [hstage]; rfl
  | following _ _ hstage => rw [hstage]; rfl
  | cooling _ _ _ hstage => rw [hstage]; rfl
  | cooled _ _ _ hstage => rw [hstage]; rfl
  | finished _ _ _ _ _ _ _ hstage => rw [hstage]; rfl
  | underway _ _ _ _ _ _ _ hstage => rw [hstage]; rfl

/-- A step begins no command. -/
theorem executing_of_step (h : Coherent config m) (hstep : m.step sample dt now = .ok (event, next))
    (hstage : next.state.stage = .executing command axis started tilted) :
    ∃ tilted, m.state.stage = .executing command axis started tilted := by
  have hmove := moves_step h hstep
  rw [hstage] at hmove
  generalize m.state.stage = stage at hmove ⊢
  cases hmove with
  | goesOn => exact ⟨_, rfl⟩
  | stays => exact ⟨_, rfl⟩

theorem executing_of_setActive {active : Bool}
    (hstage : (m.setActive active).state.stage = .executing command axis started tilted) :
    m.state.stage = .executing command axis started tilted := by
  unfold setActive at hstage
  split at hstage
  · exact hstage
  · split at hstage
    · exact hstage
    · contradiction

end MotionModel

namespace MotionTask

/-! ## Runs on an endless clock -/

/-- A run at a time of a clock that never wraps. -/
structure Moment where
  time : ℕ
  sample? : Option InertialSample
  params : Parameters
  {n : ℕ}
  population : Population n

/-- The run as the task gets it, with the low 32 bits of the time. -/
def Moment.tick (moment : Moment) : Tick :=
  { sample? := moment.sample?, params := moment.params, now := UInt32.ofNat moment.time
    population := moment.population }

/-- Makes a run. -/
def performAt (task : MotionTask) (moment : Moment) : MotionReport × MotionTask :=
  task.perform moment.tick

/-- The clock never goes back, and all runs are within one turn of the 32 bits. -/
def OnClock (moments : List Moment) : Prop :=
  moments.Pairwise fun early late => early.time ≤ late.time ∧ late.time - early.time < 2 ^ 32

/-- The time of the last run with a sample. -/
def lastSample? (moments : List Moment) : Option ℕ :=
  (moments.filter fun moment => moment.sample?.isSome).getLast?.map Moment.time

/-- The milliseconds that a run integrates. -/
def charge (task : MotionTask) (moment : Moment) : ℕ :=
  if (task.perform moment.tick).1.sample.integrates then (task.elapsedMs moment.tick.now).toNat else 0

/-- The milliseconds that a list of runs integrates. -/
def charged : MotionTask → List Moment → ℕ
  | _, [] => 0
  | task, moment :: later => task.charge moment + charged (task.performAt moment).2 later

/-- The runs that fly one command: the first of them begins it, and no later one begins another. The last
sample before came at `base`. -/
structure Flies (start : MotionTask) (command : Command) (before : List Moment) (first : Moment)
    (between : List Moment) (base : ℕ) : Prop where
  begun : ((Run.final performAt start before).performAt first).1.handOff = .begun command
  only : ∀ report ∈ Run.answers performAt ((Run.final performAt start before).performAt first).2 between,
    report.handOff.begun? = none
  base : lastSample? before = some base

/-- A command begun at `started` has been charged for the time from the last sample before it to `latest`. -/
def ChargedUntil (start : MotionTask) (command : Command) (started : UInt32) (moments : List Moment)
    (latest : ℕ) : Prop :=
  ∃ before first between base, moments = before ++ first :: between ∧
    Flies start command before first between base ∧ started = UInt32.ofNat first.time ∧ base ≤ latest ∧
    charged (Run.final performAt start before) (first :: between) = latest - base

variable {start task : MotionTask} {moments before between : List Moment} {moment first : Moment}
  {command : Command} {axis : Axis} {started : UInt32} {tilted : Bool} {config : MotionConfig}
  {base latest : ℕ}

theorem lastSample?_snoc (moments : List Moment) (moment : Moment) :
    lastSample? (moments ++ [moment])
      = if moment.sample?.isSome then some moment.time else lastSample? moments := by
  rw [lastSample?, List.filter_append]
  cases hsample : moment.sample?.isSome <;> simp [hsample, lastSample?]

theorem exists_of_lastSample? (h : lastSample? moments = some latest) :
    ∃ moment ∈ moments, moment.time = latest := by
  rw [lastSample?, Option.map_eq_some_iff] at h
  obtain ⟨moment, hlast, htime⟩ := h
  exact ⟨moment, List.mem_of_mem_filter (List.mem_of_getLast? hlast), htime⟩

/-- The last sample is in the past, and less than a turn ago. -/
theorem OnClock.lastSample? (h : OnClock (moments ++ [moment])) (hlast : lastSample? moments = some latest) :
    latest ≤ moment.time ∧ moment.time - latest < 2 ^ 32 := by
  obtain ⟨sampled, hmem, rfl⟩ := exists_of_lastSample? hlast
  exact (List.pairwise_append.1 h).2.2 sampled hmem moment (List.mem_singleton_self moment)

theorem charged_snoc (task : MotionTask) (moments : List Moment) (moment : Moment) :
    charged task (moments ++ [moment])
      = charged task moments + (Run.final performAt task moments).charge moment := by
  induction moments generalizing task with
  | nil => exact (Nat.zero_add _).symm
  | cons first later ih => rw [List.cons_append, charged, ih, charged, Run.final, Nat.add_assoc]

/-- One more run that begins no command. -/
theorem Flies.snoc (h : Flies start command before first between base)
    (hnone : ((Run.final performAt start (before ++ first :: between)).performAt moment).1.handOff.begun?
      = none) : Flies start command before first (between ++ [moment]) base := by
  refine ⟨h.begun, fun report hreport => ?_, h.base⟩
  rw [Run.answers_snoc, List.mem_append, List.mem_singleton] at hreport
  rcases hreport with hbefore | rfl
  · exact h.only report hbefore
  · rwa [Run.final_append] at hnone

/-! ## One run -/

theorem coherent_ready (h : MotionModel.Coherent config task.model) (tick : Tick) :
    MotionModel.Coherent config (task.ready tick) := by
  have hswitched : MotionModel.Coherent config (task.switched tick) := h.setActive _
  rcases task.ready_cases tick with ⟨command, -, hbegin⟩ | ⟨-, hready⟩
  · exact hswitched.begin hbegin
  · rwa [hready]

section Courses

variable {tick : Tick} {used : SampleUse} {next : MotionModel} {swarm : Population tick.n}

theorem coherent_of_course (h : MotionModel.Coherent config task.model)
    (hcourse : Course task tick used next swarm) : MotionModel.Coherent config next := by
  have hready := coherent_ready h tick
  cases hcourse with
  | missed => exact hready
  | refused => exact hready
  | kept _ hstep => exact hready.step hstep
  | flushed _ hstep hdue => exact (hready.step hstep).takeDelta (MotionModel.takeDelta_of_due hdue)

theorem model_of_missed (hcourse : Course task tick used next swarm) (hsample : tick.sample? = none) :
    next = task.ready tick := by
  cases hcourse with
  | missed => rfl
  | refused hsome => exact absurd (hsample.symm.trans hsome) (by simp)
  | kept hsome => exact absurd (hsample.symm.trans hsome) (by simp)
  | flushed hsome => exact absurd (hsample.symm.trans hsome) (by simp)

/-- A run integrates only a sample, and only if a command is flown. -/
theorem executing_of_integrates (h : MotionModel.Coherent config task.model)
    (hcourse : Course task tick used next swarm) (hintegrates : used.integrates = true) :
    tick.sample?.isSome = true ∧ (task.ready tick).state.stage.isExecuting = true := by
  have hready := coherent_ready h tick
  cases hcourse with
  | missed => contradiction
  | refused => contradiction
  | kept hsample hstep =>
      exact ⟨by rw [hsample]; rfl, (MotionModel.integrates_of_step hready hstep).symm.trans hintegrates⟩
  | flushed hsample hstep =>
      exact ⟨by rw [hsample]; rfl, (MotionModel.integrates_of_step hready hstep).symm.trans hintegrates⟩

/-- A run leaves no command flying that was not flown at its step. -/
theorem executing_of_course (h : MotionModel.Coherent config task.model)
    (hcourse : Course task tick used next swarm)
    (hstage : next.state.stage = .executing command axis started tilted) :
    ∃ tilted, (task.ready tick).state.stage = .executing command axis started tilted := by
  have hready := coherent_ready h tick
  cases hcourse with
  | missed => exact ⟨tilted, hstage⟩
  | refused => exact ⟨tilted, hstage⟩
  | kept _ hstep => exact MotionModel.executing_of_step hready hstep hstage
  | flushed _ hstep => exact MotionModel.executing_of_step hready hstep hstage

/-- While a command is flown, a sample that is not integrated comes at the time of the last one. -/
theorem elapsed_of_course (h : MotionModel.Coherent config task.model)
    (hcourse : Course task tick used next swarm)
    (hstage : (task.ready tick).state.stage.isExecuting = true) :
    (if used.integrates then (task.elapsedMs tick.now).toNat else 0)
      = if tick.sample?.isSome then (task.elapsedMs tick.now).toNat else 0 := by
  have hready := coherent_ready h tick
  cases hcourse with
  | missed hsample =>
      rw [hsample]
      rfl
  | refused hsample hstep =>
      have hzero : ¬ 0 < (task.elapsedMs tick.now).toNat := fun hpos =>
        MotionModel.not_of_step_error hstep (Single.isTimeStep_of_pos hpos)
      rw [hsample, Nat.eq_zero_of_not_pos hzero]
      rfl
  | kept hsample hstep =>
      have hintegrates := (MotionModel.integrates_of_step hready hstep).trans hstage
      rw [hsample, SampleUse.integrates, hintegrates]
      rfl
  | flushed hsample hstep =>
      have hintegrates := (MotionModel.integrates_of_step hready hstep).trans hstage
      rw [hsample, SampleUse.integrates, hintegrates]
      rfl

end Courses

/-! ## Runs -/

/-- How the clock of the task and what it has charged fit the runs so far. -/
structure Accounts (config : MotionConfig) (start : MotionTask) (moments : List Moment) : Prop where
  coherent : MotionModel.Coherent config (Run.final performAt start moments).model
  clock : (Run.final performAt start moments).lastMs? = (lastSample? moments).map UInt32.ofNat
  fresh : lastSample? moments = none →
    (Run.final performAt start moments).model.state.calibrated = false
  flown : ∀ command axis started tilted,
    (Run.final performAt start moments).model.state.stage = .executing command axis started tilted →
    ∃ latest, lastSample? moments = some latest ∧ ChargedUntil start command started moments latest

/-- A run that flies a command is charged for the time since the last sample, if it has one itself. -/
theorem Accounts.charge (h : Accounts config start moments) (hclock : OnClock (moments ++ [moment]))
    (hlast : lastSample? moments = some latest)
    (hstage : ((Run.final performAt start moments).ready moment.tick).state.stage.isExecuting = true) :
    ∃ latest', lastSample? (moments ++ [moment]) = some latest' ∧ latest ≤ latest' ∧
      (Run.final performAt start moments).charge moment = latest' - latest := by
  obtain ⟨hpast, hturn⟩ := hclock.lastSample? hlast
  have hsampled : moment.tick.sample? = moment.sample? := rfl
  rw [MotionTask.charge, elapsed_of_course h.coherent (course_perform _ moment.tick) hstage,
    lastSample?_snoc, elapsedMs, h.clock, hlast, hsampled]
  cases moment.sample?.isSome with
  | false => exact ⟨latest, rfl, le_rfl, (Nat.sub_self latest).symm⟩
  | true =>
      refine ⟨moment.time, rfl, hpast, ?_⟩
      show (UInt32.ofNat moment.time - UInt32.ofNat latest).toNat = moment.time - latest
      rw [← UInt32.ofNat_sub hpast, UInt32.toNat_ofNat_of_lt' hturn]

/-- What the command flown in one more run has been charged for by its end. -/
theorem Accounts.chargedUntil (h : Accounts config start moments) (hclock : OnClock (moments ++ [moment]))
    (hstage : ((Run.final performAt start moments).ready moment.tick).state.stage
      = .executing command axis started tilted) :
    ∃ latest, lastSample? (moments ++ [moment]) = some latest ∧
      ChargedUntil start command started (moments ++ [moment]) latest := by
  have hflying : ((Run.final performAt start moments).ready moment.tick).state.stage.isExecuting = true := by
    rw [hstage]
    rfl
  rcases ready_cases (Run.final performAt start moments) moment.tick with
    ⟨command', hbegun, hbegin⟩ | ⟨hnone, hready⟩
  · -- the run begins the command, so its account opens here
    rcases MotionModel.begin_cases hbegin with ⟨-, hcalibrated, -, -, axis', -, hnext⟩ | ⟨hnot, -⟩
    · rw [hnext] at hstage
      obtain ⟨rfl, -, rfl, -⟩ := Stage.executing.inj hstage
      have hdone : (Run.final performAt start moments).model.state.calibrated = true :=
        (MotionModel.calibrated_setActive _ _).symm.trans hcalibrated
      cases hlast : lastSample? moments with
      | none =>
          rw [h.fresh hlast] at hdone
          contradiction
      | some base =>
          obtain ⟨latest, hlatest, hle, hcharge⟩ := h.charge hclock hlast hflying
          refine ⟨latest, hlatest, moments, moment, [], base, rfl, ⟨hbegun, ?_, hlast⟩, rfl, hle, ?_⟩
          · exact fun report hreport => absurd hreport (List.not_mem_nil)
          · rw [charged, charged, hcharge]
            rfl
    · contradiction
  · rw [hready] at hstage
    obtain ⟨latest, hlast, before, first, between, base, rfl, hflies, hstarted, hbase, hcharged⟩ :=
      h.flown _ _ _ _ (MotionModel.executing_of_setActive hstage)
    obtain ⟨latest', hlatest, hle, hcharge⟩ := h.charge hclock hlast hflying
    refine ⟨latest', hlatest, before, first, between ++ [moment], base, ?_, hflies.snoc hnone, hstarted,
      hbase.trans hle, ?_⟩
    · rw [List.append_assoc, List.cons_append]
    · rw [← List.cons_append, charged_snoc, hcharged, ← Run.final_append, hcharge]
      omega

theorem Accounts.snoc (h : Accounts config start moments) (hclock : OnClock (moments ++ [moment])) :
    Accounts config start (moments ++ [moment]) := by
  have hfinal : Run.final performAt start (moments ++ [moment])
      = ((Run.final performAt start moments).perform moment.tick).2 := Run.final_snoc ..
  have hcourse := course_perform (Run.final performAt start moments) moment.tick
  refine ⟨?_, ?_, ?_, ?_⟩
  · rw [hfinal]
    exact coherent_of_course h.coherent hcourse
  · rw [hfinal, (clock_perform _ _).2, lastSample?_snoc, h.clock]
    show (if moment.sample?.isSome then some (UInt32.ofNat moment.time) else _) = _
    split <;> rfl
  · intro hnone
    rw [lastSample?_snoc] at hnone
    cases hsample : moment.sample? with
    | none =>
        rw [hsample] at hnone
        rw [hfinal, model_of_missed hcourse hsample, calibrated_ready]
        exact h.fresh hnone
    | some sample =>
        rw [hsample] at hnone
        contradiction
  · intro command axis started tilted hstage
    rw [hfinal] at hstage
    obtain ⟨tilted, hready⟩ := executing_of_course h.coherent hcourse hstage
    exact h.chargedUntil hclock hready

theorem accounts_run {periodMs : UInt32} (hcreate : create config periodMs = .ok start)
    (hclock : OnClock moments) : Accounts config start moments := by
  induction moments using List.reverseRecOn with
  | nil =>
      obtain ⟨hmodel, hclock⟩ := model_create hcreate
      obtain ⟨-, hfresh⟩ := MotionModel.create_eq_ok_iff.1 hmodel
      have huncalibrated : start.model.state.calibrated = false := by
        rw [hfresh]
      refine ⟨MotionModel.coherent_create hmodel, hclock, fun _ => huncalibrated, ?_⟩
      intro command axis started tilted hstage
      have hidle : start.model.state.stage = .idle := by
        rw [hfresh]
      exact absurd (hidle.symm.trans hstage) (by simp)
  | append_singleton moments moment ih =>
      exact (ih (List.pairwise_append.1 hclock).1).snoc hclock

/-- What the command that the run `last` integrates, begun by the run `first`, has been charged for. -/
structure Charges (start : MotionTask) (periodMs : UInt32) (last : Moment) (report : MotionReport)
    (before : List Moment) (first : Moment) (between : List Moment) (base : ℕ) : Prop where
  flies : ∃ command axis tilted, Flies start command before first between base ∧
    report.stage = .executing command axis (UInt32.ofNat first.time) tilted
  /-- The account opens at the last sample before the command began. -/
  charged : charged (Run.final performAt start before) (first :: between) = last.time - base
  past : base ≤ first.time ∧ first.time ≤ last.time
  /-- So it stays within the command's own time and one period only if that sample is recent. -/
  within : MotionTask.charged (Run.final performAt start before) (first :: between)
      ≤ last.time - first.time + periodMs.toNat ↔ first.time - base ≤ periodMs.toNat

/-- **A command is charged from the last sample before it.** When a run of a new task integrates, the command
that it flies was begun last by some run, this one or an earlier one. Whatever the parameters are and whichever
samples are missed, the time charged for it by then reaches from the last sample before it began to now. -/
theorem charges_run {periodMs : UInt32} (hcreate : create config periodMs = .ok start)
    {runs : List Moment} {last : Moment} (hclock : OnClock (runs ++ [last]))
    (hintegrates : ((Run.final performAt start runs).performAt last).1.sample.integrates = true) :
    ∃ before first between base, runs ++ [last] = before ++ first :: between ∧
      Charges start periodMs last ((Run.final performAt start runs).performAt last).1 before first
        between base := by
  have haccounts := accounts_run hcreate (List.pairwise_append.1 hclock).1
  obtain ⟨hsampled, hflying⟩ := executing_of_integrates haccounts.coherent
    (course_perform _ last.tick) hintegrates
  have hsome : last.sample?.isSome = true := hsampled
  cases hstage : ((Run.final performAt start runs).ready last.tick).state.stage with
  | idle =>
      rw [hstage] at hflying
      contradiction
  | cooldown since =>
      rw [hstage] at hflying
      contradiction
  | executing command axis started tilted =>
      obtain ⟨latest, hlatest, before, first, between, base, hsplit, hflies, rfl, hle, hcharged⟩ :=
        haccounts.chargedUntil hclock hstage
      rw [lastSample?_snoc, if_pos hsome] at hlatest
      obtain rfl := Option.some.inj hlatest
      have hmem : last ∈ first :: between := by
        refine List.mem_of_getLast? ?_
        rw [← List.getLast?_append_of_ne_nil before (List.cons_ne_nil first between), ← hsplit,
          List.getLast?_concat]
      rw [hsplit] at hclock
      obtain ⟨-, hlater, hearlier⟩ := List.pairwise_append.1 hclock
      obtain ⟨sampled, hsampled, hbase⟩ := exists_of_lastSample? hflies.base
      have hpast : base ≤ first.time := by
        rw [← hbase]
        exact (hearlier sampled hsampled first List.mem_cons_self).1
      have hafter : first.time ≤ last.time := by
        rcases List.mem_cons.1 hmem with rfl | hbetween
        · exact le_rfl
        · exact ((List.pairwise_cons.1 hlater).1 last hbetween).1
      refine ⟨before, first, between, base, hsplit, ⟨command, axis, tilted, hflies, ?_⟩, hcharged,
        ⟨hpast, hafter⟩, ?_⟩
      · exact (report_perform _ last.tick).2.1.trans hstage
      · rw [hcharged]
        omega

/-- A run of a model that is switched on, with a command waiting. -/
def climbMoment (time : ℕ) (sample? : Option InertialSample) (command : Command) : Moment :=
  { time, sample?, params := orders 1 command, population := Population.trio }

/-- A sample completes the calibration, and then samples are missed. -/
def blackout : List Moment :=
  [climbMoment 0 (some MotionModel.climbReading) .idle, climbMoment 500 none .idle]

/-- A command to rise is begun without a sample. -/
def liftOff : Moment :=
  climbMoment 1000 none .up

/-- The next sample, 10 milliseconds into the climb. -/
def afterBlackout : Moment :=
  climbMoment 1010 (some MotionModel.climbReading) .idle

theorem onClock_blackout : OnClock ((blackout ++ [liftOff]) ++ [afterBlackout]) := by
  simp [OnClock, blackout, liftOff, afterBlackout, climbMoment]

theorem integrates_afterBlackout : ((Run.final performAt climbTask (blackout ++ [liftOff])).performAt
    afterBlackout).1.sample.integrates = true := by
  decide +kernel

/-- The first step of the climb opens its account before the climb. -/
theorem charges_afterBlackout :
    create MotionModel.climbConfig 10 = .ok climbTask ∧
      OnClock ((blackout ++ [liftOff]) ++ [afterBlackout]) ∧
      ((Run.final performAt climbTask (blackout ++ [liftOff])).performAt
        afterBlackout).1.sample.integrates = true ∧
      ∃ before first between base,
        (blackout ++ [liftOff]) ++ [afterBlackout] = before ++ first :: between ∧
        Charges climbTask 10 afterBlackout ((Run.final performAt climbTask
          (blackout ++ [liftOff])).performAt afterBlackout).1 before first between base :=
  ⟨create_climbTask, onClock_blackout, integrates_afterBlackout,
    charges_run create_climbTask onClock_blackout integrates_afterBlackout⟩

/-- A climb that has lasted for 10 milliseconds is charged for the blackout too, and so for more than its own
time and a period of 10. -/
theorem overcharges_afterBlackout :
    create MotionModel.climbConfig 10 = .ok climbTask ∧
      OnClock ((blackout ++ [liftOff]) ++ [afterBlackout]) ∧
      ((Run.final performAt climbTask blackout).performAt liftOff).1.handOff.begun? = some .up ∧
      ((Run.final performAt climbTask (blackout ++ [liftOff])).performAt
        afterBlackout).1.sample.integrates = true ∧
      charged (Run.final performAt climbTask blackout) [liftOff, afterBlackout] = 1010 ∧
      ¬ charged (Run.final performAt climbTask blackout) [liftOff, afterBlackout]
        ≤ afterBlackout.time - liftOff.time + 10 := by
  have hcharged : charged (Run.final performAt climbTask blackout) [liftOff, afterBlackout] = 1010 := by
    decide +kernel
  refine ⟨create_climbTask, onClock_blackout, by decide +kernel, integrates_afterBlackout, hcharged, ?_⟩
  rw [hcharged]
  decide

end MotionTask

end LightPilot
