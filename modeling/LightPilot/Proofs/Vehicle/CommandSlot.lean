import LightPilot.Proofs.Run
import LightPilot.Proofs.Vehicle.Course
import LightPilot.Proofs.Vehicle.Parameters

set_option autoImplicit false

/-! # A command waits in its parameter until it is begun

The command parameter is a slot for one command. Anyone may write it at any time, and a run of the motion
task may take what it holds. `MotionTask.Takes` lists what a run makes of the value, with the guards, and
`MotionTask.takes_handOver` reads off which it was. So what a run leaves is known (`Treats`). A move is cleared
when the model begins it, other values when they are of no use, and all else waits; the step of the run is
then made with the move just begun, or with the model as it was.

From one write to the next a value therefore meets one `Fate`: it waits, is cleared, or is begun once. And
whatever is begun was written, and not begun before (`delivers_run`). -/

namespace LightPilot

namespace MotionTask

/-! ## Taking a value -/

/-- The model flying a command that has just begun. -/
def flying (model : MotionModel) (command : Command) (axis : Axis) (now : UInt32) : MotionModel :=
  { model with state := { model.state.halt with
      activeAxis? := some axis
      stage := .executing command axis now false } }

/-- What a run can make of the value of the command parameter: what became of it, the model afterwards,
and the value left. -/
inductive Takes (model : MotionModel) (now : UInt32) (value : Int32) :
    HandOff → MotionModel → Int32 → Prop
  | unknown (hvalue : Command.ofParameter? value = none) :
      Takes model now value (.unknown value) model 0
  | nothing (hvalue : Command.ofParameter? value = some .idle) :
      Takes model now value .nothing model value
  | refused {command : Command} (hvalue : Command.ofParameter? value = some command)
      (hmeant : command ≠ .idle) (hcalibrated : model.state.calibrated = false) :
      Takes model now value (.refused command .notCalibrated) model value
  | motionless {command : Command} (hvalue : Command.ofParameter? value = some command)
      (hmeant : command ≠ .idle) (hcalibrated : model.state.calibrated = true)
      (haxis : command.axis? = none) : Takes model now value (.motionless command) model 0
  | busy {command : Command} {axis : Axis} (hvalue : Command.ofParameter? value = some command)
      (hcalibrated : model.state.calibrated = true) (haxis : command.axis? = some axis)
      (hbusy : model.state.active = false ∨ model.state.stage ≠ .idle) :
      Takes model now value (.busy command) model value
  | begun {command : Command} {axis : Axis} (hvalue : Command.ofParameter? value = some command)
      (hcalibrated : model.state.calibrated = true) (haxis : command.axis? = some axis)
      (hactive : model.state.active = true) (hidle : model.state.stage = .idle) :
      Takes model now value (.begun command) (flying model command axis now) 0

variable {model : MotionModel} {now : UInt32} {value switch : Int32}

theorem begin_of_uncalibrated (hcalibrated : model.state.calibrated = false) (command : Command) :
    model.begin command now = .error .notCalibrated := by
  simp [MotionModel.begin, hcalibrated]

theorem begin_of_motionless (hcalibrated : model.state.calibrated = true) {command : Command}
    (haxis : command.axis? = none) : model.begin command now = .ok (false, model) := by
  simp [MotionModel.begin, hcalibrated, haxis]

theorem begin_of_busy (hcalibrated : model.state.calibrated = true) {command : Command} {axis : Axis}
    (haxis : command.axis? = some axis)
    (hbusy : model.state.active = false ∨ model.state.stage ≠ .idle) :
    model.begin command now = .ok (false, model) := by
  have hnot : ¬ model.state.active ∨ model.state.stage ≠ .idle := by simpa using hbusy
  unfold MotionModel.begin
  simp only [hcalibrated, not_true_eq_false, if_false, haxis, if_pos hnot]

theorem begin_of_ready (hcalibrated : model.state.calibrated = true) {command : Command} {axis : Axis}
    (haxis : command.axis? = some axis) (hactive : model.state.active = true)
    (hidle : model.state.stage = .idle) :
    model.begin command now = .ok (true, flying model command axis now) := by
  simp [MotionModel.begin, hcalibrated, haxis, hactive, hidle, flying]

theorem tells_clearCommand {params : Parameters} (h : params.Tells switch value) :
    (clearCommand params).Tells switch 0 :=
  h.setOrder _

theorem handOver_of_command {params : Parameters} (h : params.Tells switch value) {command : Command}
    (hvalue : Command.ofParameter? value = some command) (hmeant : command ≠ .idle) :
    handOver model params now = match model.begin command now with
      | .ok (true, model) => (.begun command, model, clearCommand params)
      | .ok (false, model) =>
        if command.axis?.isNone then (.motionless command, model, clearCommand params)
        else (.busy command, model, params)
      | .error error => (.refused command error, model, params) := by
  unfold handOver
  rw [h.order]
  dsimp only
  rw [hvalue]
  cases command with
  | idle => contradiction
  | _ => rfl

/-- A run takes the value in one of the ways listed. -/
theorem takes_handOver (model : MotionModel) {params : Parameters} (h : params.Tells switch value)
    (now : UInt32) :
    ∃ left, Takes model now value (handOver model params now).1 (handOver model params now).2.1 left ∧
      (handOver model params now).2.2.Tells switch left := by
  cases hvalue : Command.ofParameter? value with
  | none =>
      have hgiven : handOver model params now = (.unknown value, model, clearCommand params) := by
        simp [handOver, h.order, hvalue]
      rw [hgiven]
      exact ⟨0, .unknown hvalue, tells_clearCommand h⟩
  | some command =>
      by_cases hmeant : command = .idle
      · subst hmeant
        have hgiven : handOver model params now = (.nothing, model, params) := by
          simp [handOver, h.order, hvalue]
        rw [hgiven]
        exact ⟨value, .nothing hvalue, h⟩
      · rw [handOver_of_command h hvalue hmeant]
        cases hcalibrated : model.state.calibrated with
        | false =>
            rw [begin_of_uncalibrated hcalibrated]
            exact ⟨value, .refused hvalue hmeant hcalibrated, h⟩
        | true =>
            cases haxis : command.axis? with
            | none =>
                rw [begin_of_motionless hcalibrated haxis]
                exact ⟨0, .motionless hvalue hmeant hcalibrated haxis, tells_clearCommand h⟩
            | some axis =>
                by_cases hready : model.state.active = true ∧ model.state.stage = .idle
                · rw [begin_of_ready hcalibrated haxis hready.1 hready.2]
                  exact ⟨0, .begun hvalue hcalibrated haxis hready.1 hready.2, tells_clearCommand h⟩
                · have hbusy : model.state.active = false ∨ model.state.stage ≠ .idle := by
                    rw [not_and_or] at hready
                    simpa using hready
                  rw [begin_of_busy hcalibrated haxis hbusy]
                  exact ⟨value, .busy hvalue hcalibrated haxis hbusy, h⟩

end MotionTask

/-! ## The slot -/

/-- The motion task with its parameters. -/
structure CommandSlot where
  task : MotionTask
  params : Parameters := Parameters.initial

namespace CommandSlot

/-- What may happen to the slot: someone writes one of the two parameters, or the task runs. -/
inductive Call
  | order (value : Int32)
  | switch (value : Int32)
  | run {n : Nat} (sample? : Option InertialSample) (now : UInt32) (population : Population n)

/-- Makes one call; a run answers with its report. -/
def perform (slot : CommandSlot) : Call → Option MotionReport × CommandSlot
  | .order value => (none, { slot with params := (slot.params.set Parameters.lastCommand value).2 })
  | .switch value => (none, { slot with params := (slot.params.set Parameters.motionActive value).2 })
  | .run sample? now population =>
    let (report, task, params, _) := slot.task.run sample? slot.params now population
    (some report, ⟨task, params⟩)

/-- The value that a call writes into the slot. -/
def Call.order? : Call → Option Int32
  | .order value => some value
  | _ => none

/-- The command that a call began. -/
def begun? (answer : Option MotionReport) : Option Command :=
  answer.bind fun report => report.handOff.begun?

/-- The model at the start of a run, which applies the switch first. -/
def model (slot : CommandSlot) : MotionModel :=
  slot.task.model.setActive (slot.params.flag Parameters.motionActive)

/-- What a run of the task meets. -/
def tick {n : Nat} (slot : CommandSlot) (sample? : Option InertialSample) (now : UInt32)
    (population : Population n) : MotionTask.Tick :=
  { sample?, params := slot.params, now, population }

/-- Whether a run can begin a move: the model is calibrated, switched on and at rest. -/
def canBegin (slot : CommandSlot) : Bool :=
  slot.params.flag Parameters.motionActive && slot.task.model.state.calibrated &&
    slot.model.state.stage == .idle

/-- Whether a run clears a value: no command at once, a command that moves nothing once the model is
calibrated, and a move when it begins. -/
def clears (slot : CommandSlot) (value : Int32) : Bool :=
  match Command.ofParameter? value with
  | none => true
  | some command =>
    if command.axis?.isSome then slot.canBegin
    else command != .idle && slot.task.model.state.calibrated

/-- A run that meets `tick`, finds `value` in the slot and reports `report`. -/
structure Treats (before : CommandSlot) (tick : MotionTask.Tick) (value : Int32) (report : MotionReport)
    (after : CommandSlot) : Prop where
  met : tick.params = before.params
  begun : ∀ command, report.handOff = .begun command ↔
    Command.ofParameter? value = some command ∧ command.axis?.isSome ∧ before.canBegin
  /-- The model has begun what the run reports, and no command otherwise. -/
  starts : ∀ command, report.handOff = .begun command ↔
    Command.ofParameter? value = some command ∧
      before.model.begin command tick.now = .ok (true, before.task.ready tick)
  keeps : report.handOff.begun? = none → before.task.ready tick = before.model
  /-- The step of the run is made at the beginning of the command. -/
  flying : ∀ command, report.handOff = .begun command →
    ∃ axis, command.axis? = some axis ∧ report.stage = .executing command axis tick.now false
  /-- Nothing but a command that begins changes the stage before the step. -/
  waiting : report.handOff.begun? = none → report.stage = before.model.state.stage
  /-- The model left is the one that was ready, after the step and the hand-over that follow. -/
  course : MotionTask.Course before.task tick report.sample after.task.model (before.task.swarmAfter tick)
  /-- So a command that has begun is flown when the run is over, unless the step has ended it. -/
  flown : ∀ command, report.handOff = .begun command →
    (∃ axis tilted, command.axis? = some axis ∧
        after.task.model.state.stage = .executing command axis tick.now tilted) ∨
      after.task.model.state.stage = .cooldown tick.now ∧
        ∃ timedOut flushed?, report.sample = .stepped (.commandFinished command timedOut) flushed?
  clock : after.task.periodMs = before.task.periodMs ∧
    after.task.lastMs? = if tick.sample?.isSome then some tick.now else before.task.lastMs?
  left : after.params.get? Parameters.lastCommand = some (if before.clears value then 0 else value)
  switch : after.params.get? Parameters.motionActive = before.params.get? Parameters.motionActive

variable {slot : CommandSlot} {value switch : Int32}

theorem canBegin_iff : slot.canBegin = true ↔ slot.model.state.active = true ∧
    slot.model.state.calibrated = true ∧ slot.model.state.stage = .idle := by
  simp [canBegin, model, MotionModel.active_setActive, MotionModel.calibrated_setActive, and_assoc]

theorem clears_of_axis {command : Command} {axis : Axis}
    (hvalue : Command.ofParameter? value = some command) (haxis : command.axis? = some axis) :
    slot.clears value = slot.canBegin := by
  simp [clears, hvalue, haxis]

section

variable {handOff : HandOff} {next : MotionModel} {left : Int32} {now : UInt32}

theorem clears_of_takes (h : MotionTask.Takes slot.model now value handOff next left) :
    left = if slot.clears value then 0 else value := by
  have hcalibrated : slot.model.state.calibrated = slot.task.model.state.calibrated :=
    slot.task.model.calibrated_setActive _
  cases h with
  | unknown hvalue => simp [clears, hvalue]
  | nothing hvalue => simp [clears, hvalue, Command.axis?]
  | @refused command hvalue hmeant hfresh =>
      have hbegin : slot.canBegin = false := by
        simp [canBegin, ← hcalibrated, hfresh]
      simp [clears, hvalue, hbegin, ← hcalibrated, hfresh]
  | motionless hvalue hmeant hready haxis =>
      simp [clears, hvalue, haxis, hmeant, ← hcalibrated, hready]
  | busy hvalue hready haxis hbusy =>
      have hbegin : slot.canBegin = false := by
        rw [← Bool.not_eq_true, canBegin_iff]
        rintro ⟨hactive, -, hidle⟩
        simp [hactive, hidle] at hbusy
      simp [clears_of_axis hvalue haxis, hbegin]
  | begun hvalue hready haxis hactive hidle =>
      simp [clears_of_axis hvalue haxis, canBegin_iff.2 ⟨hactive, hready, hidle⟩]

/-- A move begins if it can, and nothing else does. -/
theorem begun_iff_of_takes (h : MotionTask.Takes slot.model now value handOff next left)
    (command : Command) :
    handOff = .begun command ↔ Command.ofParameter? value = some command ∧
      command.axis?.isSome = true ∧ slot.canBegin = true := by
  cases h with
  | unknown hvalue => simp [hvalue]
  | nothing hvalue =>
      simp only [hvalue, reduceCtorEq, false_iff]
      rintro ⟨hidle, haxis, -⟩
      rw [← Option.some.inj hidle] at haxis
      contradiction
  | refused hvalue hmeant hfresh => simp [canBegin_iff, hfresh]
  | motionless hvalue hmeant hready haxis =>
      simp only [hvalue, reduceCtorEq, false_iff]
      rintro ⟨hsame, hmoves, -⟩
      rw [← Option.some.inj hsame, haxis] at hmoves
      contradiction
  | busy hvalue hready haxis hbusy =>
      simp only [canBegin_iff, reduceCtorEq, false_iff]
      rintro ⟨-, -, hactive, -, hidle⟩
      simp [hactive, hidle] at hbusy
  | begun hvalue hready haxis hactive hidle =>
      rw [canBegin_iff, hvalue, Option.some.injEq, HandOff.begun.injEq]
      constructor
      · rintro rfl
        exact ⟨rfl, by simp [haxis], hactive, hready, hidle⟩
      · exact fun hsame => hsame.1

/-- A run begins what the model can begin. -/
theorem canBegin_of_begin {command : Command} (h : slot.model.begin command now = .ok (true, next)) :
    command.axis?.isSome = true ∧ slot.canBegin = true := by
  rcases MotionModel.begin_cases h with ⟨-, hcalibrated, hactive, hidle, axis, haxis, -⟩ | ⟨hnot, -⟩
  · exact ⟨by rw [haxis]; rfl, canBegin_iff.2 ⟨hactive, hcalibrated, hidle⟩⟩
  · contradiction

theorem stage_of_begin {command : Command} (h : slot.model.begin command now = .ok (true, next)) :
    ∃ axis, command.axis? = some axis ∧ next.state.stage = .executing command axis now false := by
  rcases MotionModel.begin_cases h with ⟨-, -, -, -, axis, haxis, rfl⟩ | ⟨hnot, -⟩
  · exact ⟨axis, haxis, rfl⟩
  · contradiction

end

section

variable {tick : MotionTask.Tick}

theorem switched_eq (hmet : tick.params = slot.params) : slot.task.switched tick = slot.model := by
  rw [MotionTask.switched, hmet, model]

/-- A run takes the value that it finds. -/
theorem takes_perform (h : slot.params.Tells switch value) (hmet : tick.params = slot.params) :
    ∃ left, MotionTask.Takes slot.model tick.now value (slot.task.perform tick).1.handOff
        (slot.task.ready tick) left ∧
      (slot.task.paramsAfter tick).Tells switch left := by
  obtain ⟨hhandOff, -, hparams⟩ := slot.task.report_perform tick
  rw [hhandOff, hparams, MotionTask.ready, switched_eq hmet, hmet]
  exact MotionTask.takes_handOver slot.model h tick.now

/-- A run treats the value that it finds, and leaves one. -/
theorem treats_perform (h : slot.params.Tells switch value) (hmet : tick.params = slot.params) :
    slot.Treats tick value (slot.task.perform tick).1
        ⟨(slot.task.perform tick).2, slot.task.paramsAfter tick⟩ ∧
      (slot.task.paramsAfter tick).Tells switch (if slot.clears value then 0 else value) := by
  obtain ⟨left, htakes, htells⟩ := takes_perform h hmet
  rw [clears_of_takes htakes] at htells
  have hbegun := begun_iff_of_takes htakes
  obtain ⟨-, hstage, -⟩ := slot.task.report_perform tick
  have hcourse := slot.task.course_perform tick
  have hbegin : ∀ command, (slot.task.perform tick).1.handOff = .begun command →
      slot.model.begin command tick.now = .ok (true, slot.task.ready tick) := by
    intro command hsame
    rw [← switched_eq hmet]
    exact MotionTask.begin_of_begun hsame
  have hkeeps : (slot.task.perform tick).1.handOff.begun? = none →
      slot.task.ready tick = slot.model := by
    intro hnone
    rw [← switched_eq hmet]
    exact MotionTask.ready_of_begun?_eq_none hnone
  refine ⟨⟨hmet, hbegun, fun command => ⟨fun hsame => ?_, fun hstarts => ?_⟩, hkeeps,
    fun command hsame => ?_, fun hnone => ?_, hcourse, fun command hsame => ?_,
    slot.task.clock_perform tick, htells.order, htells.switch.trans h.switch.symm⟩, htells⟩
  · exact ⟨((hbegun command).1 hsame).1, hbegin command hsame⟩
  · exact (hbegun command).2 ⟨hstarts.1, canBegin_of_begin hstarts.2⟩
  · rw [hstage]
    exact stage_of_begin (hbegin command hsame)
  · rw [hstage, hkeeps hnone]
  · exact MotionTask.flown_of_course (MotionTask.begin_of_begun hsame) hcourse

end

/-- A run finds a value in the slot and leaves one there. -/
theorem treats_run (h : slot.params.Tells switch value) {n : Nat} (sample? : Option InertialSample)
    (now : UInt32) (population : Population n) :
    ∃ report after, slot.perform (.run sample? now population) = (some report, after) ∧
      slot.Treats (slot.tick sample? now population) value report after ∧
      after.params.Tells switch (if slot.clears value then 0 else value) := by
  have hrun : slot.perform (.run sample? now population)
      = (some (slot.task.perform (slot.tick sample? now population)).1,
        ⟨(slot.task.perform (slot.tick sample? now population)).2,
          slot.task.paramsAfter (slot.tick sample? now population)⟩) := rfl
  have hmet : (slot.tick sample? now population).params = slot.params := rfl
  obtain ⟨htreats, hleft⟩ := treats_perform h hmet
  exact ⟨_, _, hrun, htreats, hleft⟩

/-! ## From one write to the next -/

/-- What has become of a value since it was written: the commands begun, and the value now in the slot. -/
inductive Fate (value : Int32) : List Command → Int32 → Prop
  | waiting : Fate value [] value
  /-- Only a value that is no move is cleared unbegun. -/
  | cleared (hmoves : ∀ command, Command.ofParameter? value = some command → command.axis? = none) :
      Fate value [] 0
  | begun {command : Command} (hvalue : Command.ofParameter? value = some command)
      (hmoves : command.axis?.isSome) : Fate value [command] 0

theorem ofParameter?_zero : Command.ofParameter? 0 = some .idle := by
  decide

theorem clears_zero : slot.clears 0 = false := by
  simp [clears, ofParameter?_zero, Command.axis?]

theorem begun?_zero {tick : MotionTask.Tick} {report : MotionReport} {after : CommandSlot}
    (h : slot.Treats tick 0 report after) : begun? (some report) = none := by
  cases hbegun : report.handOff.begun? with
  | none => exact hbegun
  | some command =>
      obtain ⟨hidle, hmoves, -⟩ := (h.begun command).1 (HandOff.begun?_eq_some_iff.1 hbegun)
      rw [ofParameter?_zero, Option.some.injEq] at hidle
      rw [← hidle] at hmoves
      contradiction

/-- A run that finds a value waiting begins it, clears it or lets it wait. -/
theorem fate_of_treats {tick : MotionTask.Tick} {report : MotionReport} {after : CommandSlot}
    (h : slot.Treats tick value report after) :
    Fate value (begun? (some report)).toList (if slot.clears value then 0 else value) := by
  change Fate value report.handOff.begun?.toList _
  cases hbegun : report.handOff.begun? with
  | some command =>
      obtain ⟨hvalue, hmoves, hready⟩ := (h.begun command).1 (HandOff.begun?_eq_some_iff.1 hbegun)
      obtain ⟨axis, haxis⟩ := Option.isSome_iff_exists.1 hmoves
      rw [clears_of_axis hvalue haxis, hready, if_pos rfl]
      exact .begun hvalue hmoves
  | none =>
      by_cases hclears : slot.clears value = true
      · rw [if_pos hclears]
        refine .cleared fun command hvalue => ?_
        -- a move that is cleared would have begun
        by_contra hmoves
        obtain ⟨axis, haxis⟩ := Option.ne_none_iff_exists'.1 hmoves
        rw [clears_of_axis hvalue haxis] at hclears
        have hstarted := (h.begun command).2 ⟨hvalue, by simp [haxis], hclears⟩
        rw [hstarted] at hbegun
        contradiction
      · rw [if_neg hclears]
        exact .waiting

/-- The commands begun by the calls answered, in order. -/
def started (answers : List (Option MotionReport)) : List Command :=
  answers.filterMap begun?

theorem started_append_singleton (answers : List (Option MotionReport))
    (answer : Option MotionReport) :
    started (answers ++ [answer]) = started answers ++ (begun? answer).toList := by
  unfold started
  rw [List.filterMap_append]
  cases h : begun? answer <;> simp [h]

/-- A call that writes no value into the slot leaves a value to its fate. -/
theorem fate_perform {begun : List Command} {left : Int32} (hfate : Fate value begun left)
    (h : slot.params.Tells switch left) {call : Call} (hcall : call.order? = none) :
    ∃ next switch, Fate value (begun ++ (begun? (slot.perform call).1).toList) next ∧
      (slot.perform call).2.params.Tells switch next := by
  cases call with
  | order other => contradiction
  | switch other =>
      refine ⟨left, other, ?_, h.setSwitch other⟩
      simpa [perform, begun?] using hfate
  | run sample? now population =>
      obtain ⟨report, after, hrun, htreats, hnext⟩ := treats_run h sample? now population
      rw [hrun]
      refine ⟨_, switch, ?_, hnext⟩
      cases hfate with
      | waiting => exact fate_of_treats htreats
      | cleared hmoves =>
          rw [begun?_zero htreats, clears_zero]
          exact .cleared hmoves
      | begun hvalue hmoves =>
          rw [begun?_zero htreats, clears_zero]
          exact .begun hvalue hmoves

/-- Until the next write, a value meets one fate. -/
theorem fate_run (h : slot.params.Tells switch value) {calls : List Call}
    (hcalls : ∀ call ∈ calls, call.order? = none) :
    ∃ left switch, Fate value (started (Run.answers perform slot calls)) left ∧
      (Run.final perform slot calls).params.Tells switch left := by
  revert hcalls
  refine Run.induction (motive := fun calls answers (last : CommandSlot) =>
      (∀ call ∈ calls, call.order? = none) →
      ∃ left switch, Fate value (started answers) left ∧ last.params.Tells switch left)
    (fun _ => ⟨value, switch, .waiting, h⟩) (fun calls answers last call ih hcalls => ?_) calls
  obtain ⟨hearlier, hcall⟩ := List.forall_mem_append.1 hcalls
  obtain ⟨left, switch, hfate, htells⟩ := ih hearlier
  rw [started_append_singleton]
  exact fate_perform hfate htells (hcall call List.mem_cons_self)

/-- A command that begins next was the one written, and had not begun. -/
theorem Fate.of_append {begun : List Command} {command : Command} {left : Int32}
    (h : Fate value (begun ++ [command]) left) :
    begun = [] ∧ Command.ofParameter? value = some command ∧ command.axis?.isSome := by
  generalize hlist : begun ++ [command] = list at h
  cases h with
  | waiting => simp at hlist
  | cleared => simp at hlist
  | @begun other hvalue hmoves =>
      obtain ⟨rfl, hsame⟩ := List.append_eq_singleton_iff.1 hlist |>.resolve_right (by simp)
      rw [List.singleton_inj] at hsame
      rw [hsame]
      exact ⟨rfl, hvalue, hmoves⟩

/-- Calls write no value into the slot, or one of them is the last to do so. -/
theorem exists_lastOrder (calls : List Call) :
    (∀ call ∈ calls, call.order? = none) ∨ ∃ earlier value between,
      calls = earlier ++ .order value :: between ∧ ∀ call ∈ between, call.order? = none := by
  induction calls using List.reverseRecOn with
  | nil => exact .inl (by simp)
  | append_singleton calls call ih =>
      cases hcall : call.order? with
      | some value =>
          have hsame : call = .order value := by
            cases call <;> simp_all [Call.order?]
          exact .inr ⟨calls, value, [], by rw [hsame], by simp⟩
      | none =>
          rcases ih with hnone | ⟨earlier, value, between, rfl, hbetween⟩
          · exact .inl (List.forall_mem_append.2 ⟨hnone, by simpa using hcall⟩)
          · exact .inr ⟨earlier, value, between ++ [call], by simp,
              List.forall_mem_append.2 ⟨hbetween, by simpa using hcall⟩⟩

/-! ## Runs -/

/-- The slot of a task and a new store, after some calls. -/
def after (task : MotionTask) (calls : List Call) : CommandSlot :=
  Run.final perform { task } calls

theorem after_append (task : MotionTask) (calls : List Call) (call : Call) (more : List Call) :
    after task (calls ++ call :: more) = Run.final perform (after task (calls ++ [call])) more := by
  rw [after, List.append_cons, Run.final_append, after]

/-- Both parameters stay known. -/
theorem tells_after (task : MotionTask) (calls : List Call) :
    ∃ switch value, (after task calls).params.Tells switch value := by
  refine Run.invariant (P := fun last : CommandSlot => ∃ switch value, last.params.Tells switch value)
    ⟨0, 0, Parameters.tells_initial⟩ (fun last call hlast => ?_) calls
  obtain ⟨switch, value, htells⟩ := hlast
  cases call with
  | order other => exact ⟨switch, other, htells.setOrder other⟩
  | switch other => exact ⟨other, value, htells.setSwitch other⟩
  | run sample? now population =>
      obtain ⟨report, next, hrun, -, hnext⟩ := treats_run htells sample? now population
      rw [hrun]
      exact ⟨switch, _, hnext⟩

theorem tells_after_order (task : MotionTask) (calls : List Call) (value : Int32) :
    ∃ switch, (after task (calls ++ [.order value])).params.Tells switch value := by
  obtain ⟨switch, old, htells⟩ := tells_after task calls
  rw [after, Run.final_append]
  exact ⟨switch, htells.setOrder value⟩

/-- What holds after the calls `calls` on the slot of a new store. -/
structure Delivers (task : MotionTask) (calls : List Call) : Prop where
  /-- The slot holds a value, which the next run treats as it must. -/
  treats : ∃ value, (after task calls).params.get? Parameters.lastCommand = some value ∧
    ∀ (n : Nat) (sample? : Option InertialSample) (now : UInt32) (population : Population n),
      ∃ report next, (after task calls).perform (.run sample? now population) = (some report, next) ∧
        (after task calls).Treats ((after task calls).tick sample? now population) value report next
  /-- A value has met its fate since it was written last. -/
  fate : ∀ earlier value between, calls = earlier ++ .order value :: between →
    (∀ call ∈ between, call.order? = none) →
    ∃ left, (after task calls).params.get? Parameters.lastCommand = some left ∧
      Fate value
        (started (Run.answers perform (after task (earlier ++ [.order value])) between)) left
  /-- What the next call begins is the move that was written last, and it has not begun before. -/
  origin : ∀ call command, begun? ((after task calls).perform call).1 = some command →
    ∃ earlier value between, calls = earlier ++ .order value :: between ∧
      (∀ call ∈ between, call.order? = none) ∧
      Command.ofParameter? value = some command ∧ command.axis?.isSome ∧
      started (Run.answers perform (after task (earlier ++ [.order value])) between) = []

/-- **At most once, and not before its time.** A run begins the move in the slot when the model can, and
clears no move otherwise, whatever is written, switched and sensed in between. So each move written is
begun at most once, and waits until it is begun or written over. -/
theorem delivers_run (task : MotionTask) (calls : List Call) : Delivers task calls where
  treats := by
    obtain ⟨switch, value, htells⟩ := tells_after task calls
    refine ⟨value, htells.order, fun n sample? now population => ?_⟩
    obtain ⟨report, next, hrun, htreats, -⟩ := treats_run htells sample? now population
    exact ⟨report, next, hrun, htreats⟩
  fate := by
    rintro earlier value between rfl hbetween
    obtain ⟨switch, htells⟩ := tells_after_order task earlier value
    obtain ⟨left, switch, hfate, hlast⟩ := fate_run htells hbetween
    refine ⟨left, ?_, hfate⟩
    rw [after_append]
    exact hlast.order
  origin := by
    intro call command hbegun
    have hcall : call.order? = none := by
      cases call with
      | order value => simp [perform, begun?] at hbegun
      | _ => rfl
    rcases exists_lastOrder calls with hnone | ⟨earlier, value, between, rfl, hbetween⟩
    · -- the slot is new and holds no move
      have hstart : ({ task } : CommandSlot).params.Tells 0 0 := Parameters.tells_initial
      obtain ⟨left, switch, hfate, hlast⟩ := fate_run hstart hnone
      obtain ⟨next, -, hnext, -⟩ := fate_perform hfate hlast hcall
      change begun? ((Run.final perform { task } calls).perform call).1 = some command at hbegun
      rw [hbegun] at hnext
      obtain ⟨-, hidle, hmoves⟩ := Fate.of_append hnext
      rw [ofParameter?_zero, Option.some.injEq] at hidle
      rw [← hidle] at hmoves
      contradiction
    · obtain ⟨switch, htells⟩ := tells_after_order task earlier value
      obtain ⟨left, switch, hfate, hlast⟩ := fate_run htells hbetween
      obtain ⟨next, -, hnext, -⟩ := fate_perform hfate hlast hcall
      rw [after_append] at hbegun
      rw [hbegun] at hnext
      obtain ⟨hfresh, hvalue, hmoves⟩ := Fate.of_append hnext
      exact ⟨earlier, value, between, rfl, hbetween, hvalue, hmoves, hfresh⟩

end CommandSlot

end LightPilot
