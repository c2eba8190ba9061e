import LightPilot.Proofs.Vehicle.Calibration
import LightPilot.Proofs.Vehicle.CommandSlot
import LightPilot.Proofs.World.Delivery

set_option autoImplicit false

/-! # A step as the motion model sees it

The executor tells the motion model of a move, or to be on or off, by writing a parameter, and the motion
task reads both when it runs. A `Turn` is what a step did, with what its motion task found there and left.
What a step makes of the value that waits follows from the moves executed and from the runs of the task
(`Simulation.handles_step`).

If vertical moves end at once and no others are made, the craft is always free, and what is taken is
executed (`Simulation.hopping_run`). -/

namespace LightPilot

/-- A run begins the move that it finds, if it can. -/
theorem CommandSlot.begun?_of_treats {before after : CommandSlot} {tick : MotionTask.Tick}
    {value : Int32} {report : MotionReport} (h : before.Treats tick value report after) :
    report.handOff.begun?
      = if before.canBegin then (Command.ofParameter? value).bind Command.move? else none := by
  refine Option.ext fun command => ?_
  rw [HandOff.begun?_eq_some_iff, h.begun]
  by_cases hready : before.canBegin = true
  · rw [if_pos hready, Option.bind_eq_some_iff]
    constructor
    · rintro ⟨hvalue, hmoves, -⟩
      exact ⟨command, hvalue, if_pos hmoves⟩
    · rintro ⟨other, hvalue, hmove⟩
      have hsame : other = command := by
        unfold Command.move? at hmove
        split at hmove
        · exact Option.some.inj hmove
        · contradiction
      exact ⟨hsame ▸ hvalue, Command.isSome_axis?_of_move? hmove, hready⟩
  · simp [hready]

/-! ## A step as the motion model sees it -/

/-- What a step did: the slot that its motion task found, what a run of the task met there, and the slot
afterwards. -/
structure Turn where
  report : StepReport
  slot : CommandSlot
  tick : MotionTask.Tick
  after : CommandSlot

namespace Turn

/-- The move that was executed. -/
def move? (turn : Turn) : Option Command :=
  turn.report.executor.command?.bind Command.move?

/-- Whether the model is calibrated and switched on. -/
def isReady (turn : Turn) : Bool :=
  turn.slot.params.flag Parameters.motionActive && turn.slot.task.model.state.calibrated

/-- Whether the motion task ran and found the model at rest. -/
def findsRest (turn : Turn) : Bool :=
  turn.report.motion?.isSome && turn.slot.model.state.stage == .idle

/-- The move that the motion task began. -/
def begun? (turn : Turn) : Option Command :=
  turn.report.motion?.bind fun motion => motion.1.handOff.begun?

/-- What a turn leaves of a value in its slot. -/
def leaves (turn : Turn) (value : Int32) : Int32 :=
  if turn.report.motion?.isSome && turn.slot.clears value then 0 else value

/-- What a turn makes of the value that it finds in its slot. -/
structure Handles (turn : Turn) (switch value : Int32) : Prop where
  found : turn.slot.params.Tells switch value
  treated : ∀ report model, turn.report.motion? = some (report, model) →
    turn.after.task.model = model ∧ turn.slot.Treats turn.tick value report turn.after
  untouched : turn.report.motion? = none → turn.after = turn.slot
  left : turn.after.params.Tells switch (turn.leaves value)

variable {turn : Turn} {move : Command} {switch value : Int32}

theorem Handles.begun (h : turn.Handles switch value) :
    turn.begun? = if turn.report.motion?.isSome && turn.slot.canBegin
      then (Command.ofParameter? value).bind Command.move? else none := by
  rw [begun?]
  cases hmotion : turn.report.motion? with
  | none => rfl
  | some motion =>
      rw [Option.bind_some, Option.isSome_some, Bool.true_and]
      exact CommandSlot.begun?_of_treats (h.treated motion.1 motion.2 hmotion).2

/-- A model that is ready can begin a move if it is at rest. -/
theorem canBegin_of_isReady (h : turn.isReady = true) :
    (turn.report.motion?.isSome && turn.slot.canBegin) = turn.findsRest := by
  unfold isReady at h
  rw [CommandSlot.canBegin, h, Bool.true_and, findsRest]

theorem leaves_zero (turn : Turn) : turn.leaves 0 = 0 :=
  ite_self 0

theorem leaves_of_isReady (hmoves : move.move? = some move) (hready : turn.isReady = true) :
    turn.leaves move.toParameter = if turn.findsRest then 0 else move.toParameter := by
  obtain ⟨axis, haxis⟩ := Option.isSome_iff_exists.1 (Command.isSome_axis?_of_move? hmoves)
  rw [leaves, CommandSlot.clears_of_axis move.ofParameter?_toParameter haxis,
    canBegin_of_isReady hready]

end Turn

namespace Simulation

/-- The motion task with its parameters. -/
def slot (s : Simulation) : CommandSlot :=
  ⟨s.vehicle.motion, s.vehicle.params⟩

/-- What a run of the motion task meets. -/
def tick (s : Simulation) : MotionTask.Tick :=
  s.slot.tick (s.craft.inertialSensor sensorBias).read s.now s.vehicle.shared.population

/-- The turn of the next step. -/
def turn (classify : Classifier) (s : Simulation) : Turn where
  report := s.reportAs classify
  slot := (s.beforeMotion classify).slot
  tick := (s.beforeMotion classify).tick
  after := (s.stepAs classify).slot

/-- One call with what is heard in it; a step answers with its turn. -/
def attend (s : Simulation) (call : Classifier × Call) : Option Turn × Simulation :=
  let (report?, after) := s.performAs call.1 call.2
  let found := s.beforeMotion call.1
  (report?.map fun report => ⟨report, found.slot, found.tick, after.slot⟩, after)

variable {s : Simulation} {classify : Classifier} {switch order : Int32}

theorem attend_step (classify : Classifier) (s : Simulation) :
    s.attend (classify, .step) = (some (s.turn classify), s.stepAs classify) := by
  rw [attend, performAs_step, turn]
  rfl

theorem slot_beforeExecutor (classify : Classifier) (s : Simulation) :
    (s.beforeExecutor classify).slot = s.slot := by
  have hsampled : s.beforeLink.slot = s.slot := by
    rw [beforeLink, runSampling]
    split <;> rfl
  rw [← hsampled, beforeExecutor, runLinkAs]
  split <;> rfl

/-- The motion task is as the step before left it. -/
theorem task_beforeMotion (classify : Classifier) (s : Simulation) :
    (s.beforeMotion classify).slot.task = s.slot.task := by
  rw [← slot_beforeExecutor classify s]
  rfl

theorem slot_runFilter (s : Simulation) : s.runFilter.2.slot = s.slot := by
  rw [runFilter]
  split <;> rfl

/-- The move that is executed waits when the motion task runs. -/
theorem tells_beforeMotion (h : s.slot.params.Tells switch order) (classify : Classifier) :
    (s.beforeMotion classify).slot.params.Tells
      (((s.turn classify).report.executor.command?.bind Command.switch?).getD switch)
      (((s.turn classify).move?.map Command.toParameter).getD order) := by
  have hexecutor : (s.turn classify).report.executor = (s.beforeExecutor classify).runExecutor.1 :=
    executor_reportAs classify s
  rw [← slot_beforeExecutor classify] at h
  rw [Turn.move?, hexecutor]
  exact ((s.beforeExecutor classify).executor.polls_poll (s.beforeExecutor classify).vehicle.shared
    (s.beforeExecutor classify).vehicle.params (s.beforeExecutor classify).craft).tells h

/-- What the motion task does with a value in its slot, if it is due. -/
theorem treats_runMotion (h : s.slot.params.Tells switch order) :
    (s.runMotion.1 = none ∧ s.runMotion.2.slot = s.slot) ∨
    ∃ report, s.runMotion.1 = some report ∧ s.slot.Treats s.tick order report s.runMotion.2.slot ∧
      s.runMotion.2.slot.params.Tells switch (if s.slot.clears order then 0 else order) := by
  by_cases hdue : s.isDue s.config.periods.motionMs = true
  · obtain ⟨report, after, hrun, htreats, hleft⟩ := CommandSlot.treats_run h
      (s.craft.inertialSensor sensorBias).read s.now s.vehicle.shared.population
    have hreport : s.runMotion.1 = some report := by
      rw [runMotion, if_pos hdue]
      exact congrArg Prod.fst hrun
    have hafter : s.runMotion.2.slot = after := by
      rw [runMotion, if_pos hdue]
      exact congrArg Prod.snd hrun
    rw [hafter]
    exact .inr ⟨report, hreport, htreats, hleft⟩
  · rw [runMotion, if_neg hdue]
    exact .inl ⟨rfl, rfl⟩

theorem slot_stepAs (classify : Classifier) (s : Simulation) :
    (s.stepAs classify).slot = (s.beforeMotion classify).runMotion.2.slot := by
  rw [slot, vehicle_stepAs]
  exact slot_runFilter (s.beforeMotion classify).runMotion.2

/-- What a step makes of the value in its slot. -/
theorem handles_step (h : s.slot.params.Tells switch order) (classify : Classifier) :
    (s.turn classify).Handles
      (((s.turn classify).report.executor.command?.bind Command.switch?).getD switch)
      (((s.turn classify).move?.map Command.toParameter).getD order) := by
  have hfound := tells_beforeMotion h classify
  have hmotion : (s.turn classify).report.motion? = (s.beforeMotion classify).runMotion.1.map
      (·, (s.runTasksAs classify).vehicle.motion.model) := motion?_reportAs classify s
  have hafter : (s.turn classify).after = (s.beforeMotion classify).runMotion.2.slot :=
    slot_stepAs classify s
  have hmodel : (s.turn classify).after.task.model = (s.runTasksAs classify).vehicle.motion.model :=
    congrArg (·.motion.model) (vehicle_stepAs classify s)
  rcases treats_runMotion hfound with ⟨hnone, hsame⟩ | ⟨report, hreport, htreats, hleft⟩
  · rw [hnone, Option.map_none] at hmotion
    refine ⟨hfound, fun report model hran => ?_, fun _ => hafter.trans hsame, ?_⟩
    · rw [hmotion] at hran
      contradiction
    · rw [hafter, hsame, Turn.leaves, hmotion]
      exact hfound
  · rw [hreport, Option.map_some] at hmotion
    refine ⟨hfound, fun ran model hran => ?_, fun hnone => ?_, ?_⟩
    · obtain ⟨rfl, rfl⟩ := Prod.mk.inj (Option.some.inj (hmotion.symm.trans hran))
      refine ⟨hmodel, ?_⟩
      rw [hafter]
      exact htreats
    · rw [hmotion] at hnone
      contradiction
    · rw [hafter, Turn.leaves, hmotion]
      exact hleft

/-- A new simulation has an idle model, and its parameters hold no command. -/
theorem slot_create {config : VehicleConfig} (h : create config = .ok s) :
    s.slot = ⟨{ model := { config := config.motion, state := {} }, periodMs := config.periods.motionMs },
      Parameters.initial⟩ := by
  obtain ⟨shared, -, hlink⟩ := Check.exists_of_bind_eq_ok (vehicle_create h)
  obtain ⟨link, -, hmotion⟩ := Check.exists_of_bind_eq_ok hlink
  obtain ⟨motion, htask, hbuilt⟩ := Check.exists_of_bind_eq_ok hmotion
  obtain ⟨model, hmodel, hnew⟩ := Check.exists_of_bind_eq_ok htask
  obtain ⟨-, rfl⟩ := MotionModel.create_eq_ok_iff.1 (Check.mapError_eq_ok_iff.1 hmodel)
  rw [slot, ← Except.ok.inj hbuilt, ← Except.ok.inj hnew]

theorem tells_create {config : VehicleConfig} (h : create config = .ok s) :
    s.slot.params.Tells 0 0 := by
  rw [slot_create h]
  exact Parameters.tells_initial

theorem task_runMotion (hdue : s.isDue s.config.periods.motionMs = true) :
    s.runMotion.2.slot.task = (s.slot.task.perform s.tick).2 := by
  rw [runMotion, if_pos hdue]
  rfl

theorem calibrated_stepAs (hcalibrated : s.slot.task.model.state.calibrated = true)
    (classify : Classifier) : (s.stepAs classify).slot.task.model.state.calibrated = true := by
  rw [← task_beforeMotion classify s] at hcalibrated
  rw [slot_stepAs]
  by_cases hdue : (s.beforeMotion classify).isDue (s.beforeMotion classify).config.periods.motionMs = true
  · rw [task_runMotion hdue]
    exact MotionTask.calibrated_of_course (MotionTask.course_perform _ _) hcalibrated
  · rw [runMotion, if_neg hdue]
    exact hcalibrated

/-! ## What is taken is executed -/

variable {reports : List StepReport}

/-- The switch after these commands. -/
def lastSwitch (commands : List Command) : Int32 :=
  (commands.filterMap Command.switch?).getLast?.getD 0

theorem lastSwitch_append (commands : List Command) (command? : Option Command) :
    lastSwitch (commands ++ command?.toList)
      = (command?.bind Command.switch?).getD (lastSwitch commands) := by
  cases command? with
  | none => simp
  | some command => cases hswitch : command.switch? <;> simp [lastSwitch, hswitch]

/-- What the vehicle has done so far: it executed what it took, and the switch is as it was set last. -/
structure Hopping (reports : List StepReport) (s : Simulation) : Prop where
  hops : s.craft.Hops
  executed : executed reports = (taken reports).filterMap Command.ofCode?
  switched : ∃ order, s.slot.params.Tells (lastSwitch (Simulation.executed reports)) order

theorem craft_beforeExecutor (classify : Classifier) (s : Simulation) :
    (s.beforeExecutor classify).craft = (s.craft.step 1).2 := by
  have hsampled : s.beforeLink.craft = (s.craft.step 1).2 := by
    rw [beforeLink, runSampling]
    split <;> rfl
  rw [← hsampled, beforeExecutor, runLinkAs]
  split <;> rfl

theorem craft_stepAs (classify : Classifier) (s : Simulation) :
    (s.stepAs classify).craft = (s.beforeMotion classify).craft := by
  have hfiltered : ∀ s : Simulation, s.runFilter.2.craft = s.craft := by
    intro s
    rw [runFilter]
    split <;> rfl
  rw [stepAs_eq]
  change (s.beforeMotion classify).runMotion.2.runFilter.2.craft = _
  rw [hfiltered, runMotion]
  split <;> rfl

theorem Hopping.step (h : Hopping reports s) (classify : Classifier)
    (hstraight : ∀ command, (s.reportAs classify).executor.byte?.bind Command.ofCode? = some command →
      command.isLateral = false) :
    Hopping (reports ++ [s.reportAs classify]) (s.stepAs classify) := by
  obtain ⟨hhops, hfree⟩ := h.hops.step 1
  rw [← craft_beforeExecutor classify] at hhops hfree
  rw [executor_reportAs] at hstraight
  obtain ⟨hlast, hcommand⟩ := ((s.beforeExecutor classify).executor.polls_poll
    (s.beforeExecutor classify).vehicle.shared (s.beforeExecutor classify).vehicle.params
    (s.beforeExecutor classify).craft).executed_of_hops hhops hfree hstraight
  change (s.beforeExecutor classify).runExecutor.1.command?
    = (s.beforeExecutor classify).runExecutor.1.byte?.bind Command.ofCode? at hcommand
  rw [← executor_reportAs] at hcommand
  refine ⟨?_, ?_, ?_⟩
  · rw [craft_stepAs]
    exact hlast
  · rw [executed_snoc, taken_snoc, List.filterMap_append, h.executed, hcommand]
    cases (s.reportAs classify).executor.byte? with
    | none => rfl
    | some byte => cases hcode : Command.ofCode? byte <;> simp [hcode]
  · obtain ⟨order, htells⟩ := h.switched
    rw [executed_snoc, lastSwitch_append]
    exact ⟨_, (handles_step htells classify).left⟩

/-- A craft that hops is free at the motion task, unless it has just taken a command. -/
theorem Hopping.isBusy_beforeMotion (h : Hopping reports s)
    (hquiet : (s.reportAs classify).executor.command? = none) :
    (s.beforeMotion classify).craft.isBusy = false := by
  have hpolls := (s.beforeExecutor classify).executor.polls_poll
    (s.beforeExecutor classify).vehicle.shared (s.beforeExecutor classify).vehicle.params
    (s.beforeExecutor classify).craft
  rw [executor_reportAs] at hquiet
  have hsame : (s.beforeMotion classify).craft = (s.beforeExecutor classify).craft :=
    hpolls.craft_eq hquiet
  rw [hsame, craft_beforeExecutor]
  exact (h.hops.step 1).2

/-- If no lateral move is taken, what is taken is executed. -/
theorem hopping_run {config : VehicleConfig} {start : Simulation} (hcreate : create config = .ok start)
    (hshort : config.motion.verticalDurationMs / 2 = 0) (classify : Classifier) (calls : List Call)
    (hstraight : ∀ command ∈ (taken (Simulation.reports
        (Run.answers (watch classify) start calls).reduceOption)).filterMap Command.ofCode?,
      command.isLateral = false) :
    Hopping (Simulation.reports (Run.answers (watch classify) start calls).reduceOption)
      (Run.final (watch classify) start calls) := by
  revert hstraight
  refine Run.induction (motive := fun _ answers s =>
      (∀ command ∈ (taken (Simulation.reports answers.reduceOption)).filterMap Command.ofCode?,
        command.isLateral = false) → Hopping (Simulation.reports answers.reduceOption) s)
    (fun _ => ?_) (fun calls answers s call ih hstraight => ?_) calls
  · refine ⟨?_, rfl, 0, tells_create hcreate⟩
    obtain ⟨vehicle, -, hs⟩ := Check.exists_of_bind_eq_ok hcreate
    cases hs
    exact ⟨hshort, fun m hm => by contradiction⟩
  · cases call with
    | transmit command =>
        rw [reduceOption_transmit] at hstraight ⊢
        have hbefore := ih hstraight
        exact ⟨hbefore.hops, hbefore.executed, hbefore.switched⟩
    | step =>
        have hsnoc : Simulation.reports (answers ++ [(s.watch classify .step).1]).reduceOption
            = Simulation.reports answers.reduceOption ++ [s.reportAs classify] := by
          rw [reduceOption_step]
          exact List.map_append
        rw [hsnoc, taken_snoc, List.filterMap_append] at hstraight
        rw [hsnoc]
        refine (ih fun command hcommand => hstraight command (List.mem_append_left _ hcommand)).step
          classify fun command hcommand => hstraight command (List.mem_append_right _ ?_)
        obtain ⟨byte, hbyte, hcode⟩ := Option.bind_eq_some_iff.1 hcommand
        rw [hbyte]
        exact List.mem_filterMap.2 ⟨byte, by simp, hcode⟩

end Simulation

end LightPilot
