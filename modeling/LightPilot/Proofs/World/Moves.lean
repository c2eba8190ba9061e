import LightPilot.Proofs.World.Turns

set_option autoImplicit false

/-! # What becomes of an executed move

The executor announces a move in the command parameter, where the next move takes its place. So while the
model is calibrated and switched on, a move is begun by the first run of the motion task that finds the
model at rest, if there is one before the next move is executed (`Simulation.begunInTime_run`). If there is
none the move is lost, as it is if moves are quick and the motion task is slow
(`Simulation.not_noneLost_ladder`). -/

namespace LightPilot

namespace Turn

/-- These turns execute one move, in the first of them, and the model is ready in all. -/
structure Spell (move : Command) (turns : List Turn) : Prop where
  executed : turns.head?.bind move? = some move
  alone : ∀ turn ∈ turns.tail, turn.move? = none
  ready : ∀ turn ∈ turns, turn.isReady = true

/-- The motion task treated the value in its slot if it ran, and left the slot alone otherwise. -/
structure Lawful (turn : Turn) : Prop where
  treated : ∀ report model, turn.report.motion? = some (report, model) →
    turn.after.task.model = model ∧
      ∃ value, turn.slot.params.get? Parameters.lastCommand = some value ∧
        turn.slot.Treats turn.tick value report turn.after
  untouched : turn.report.motion? = none → turn.after = turn.slot

/-- The move is begun in the first of the turns that finds the model at rest, and nothing else is. -/
structure BegunAtRest (move : Command) (turns : List Turn) : Prop where
  once : turns.filterMap begun? = if turns.any findsRest then [move] else []
  first : turns.find? (fun turn => turn.begun?.isSome) = turns.find? findsRest

variable {turn : Turn} {turns : List Turn} {move : Command} {switch value : Int32}

theorem Handles.lawful (h : turn.Handles switch value) : turn.Lawful where
  treated := by
    intro report model hmotion
    obtain ⟨hmodel, htreats⟩ := h.treated report model hmotion
    exact ⟨hmodel, value, h.found.order, htreats⟩
  untouched := h.untouched

theorem Spell.moves (h : Spell move turns) : move.move? = some move := by
  obtain ⟨first, -, hfirst⟩ := Option.bind_eq_some_iff.1 h.executed
  obtain ⟨command, -, hmove⟩ := Option.bind_eq_some_iff.1 hfirst
  exact Command.move?_of_move? hmove

/-- The last turn of a spell executes the move, or goes on with an earlier spell. -/
theorem Spell.of_snoc (h : Spell move (turns ++ [turn])) :
    (turns = [] ∧ turn.move? = some move) ∨ (Spell move turns ∧ turn.move? = none) := by
  cases turns with
  | nil => exact .inl ⟨rfl, h.executed⟩
  | cons first between =>
      refine .inr ⟨⟨h.executed, fun other hother => ?_, fun other hother => ?_⟩, ?_⟩
      · exact h.alone other (List.mem_append_left _ hother)
      · exact h.ready other (List.mem_append_left _ hother)
      · exact h.alone turn (List.mem_append_right _ (List.mem_singleton_self turn))

theorem begunAtRest_nil (move : Command) : BegunAtRest move [] :=
  ⟨rfl, rfl⟩

theorem BegunAtRest.begun_iff (h : BegunAtRest move turns) :
    (∃ turn ∈ turns, turn.begun? = some move) ↔ ∃ turn ∈ turns, turn.findsRest = true := by
  rw [← List.mem_filterMap, h.once, ← List.any_eq_true]
  cases turns.any findsRest <;> simp

/-- A turn after the move has begun finds nothing. -/
theorem BegunAtRest.snoc_of_rest (h : BegunAtRest move turns) (hrested : turns.any findsRest = true)
    (hbegun : turn.begun? = none) : BegunAtRest move (turns ++ [turn]) := by
  obtain ⟨earlier, hearlier⟩ : ∃ earlier, turns.find? findsRest = some earlier := by
    rwa [← Option.isSome_iff_exists, List.find?_isSome, ← List.any_eq_true]
  have honce := h.once
  rw [if_pos hrested] at honce
  refine ⟨?_, ?_⟩
  · simp [honce, hbegun, hrested]
  · rw [List.find?_append, List.find?_append, h.first, hearlier]
    rfl

/-- A turn that finds the move begins it if it finds the model at rest. -/
theorem BegunAtRest.snoc_of_waits (h : BegunAtRest move turns) (hrested : turns.any findsRest = false)
    (hbegun : turn.begun? = if turn.findsRest then some move else none) :
    BegunAtRest move (turns ++ [turn]) := by
  have hnot : turns.find? findsRest = none := by
    rw [List.find?_eq_none]
    simpa using hrested
  have honce := h.once
  rw [hrested, if_neg Bool.false_ne_true] at honce
  refine ⟨?_, ?_⟩
  · rw [Projector.filterMap_snoc, honce, hbegun, List.any_append, hrested]
    cases hrest : turn.findsRest <;> simp [hrest]
  · rw [List.find?_append, List.find?_append, h.first, hnot]
    cases hrest : turn.findsRest <;> simp [hbegun, hrest]

/-- One more turn, which finds the move unless it has begun. -/
theorem BegunAtRest.snoc (h : BegunAtRest move turns) (hmoves : move.move? = some move)
    (hready : turn.isReady = true)
    (hhandles : turn.Handles switch (if turns.any findsRest then 0 else move.toParameter)) :
    BegunAtRest move (turns ++ [turn]) ∧
      turn.leaves (if turns.any findsRest then 0 else move.toParameter)
        = if (turns ++ [turn]).any findsRest then 0 else move.toParameter := by
  have hbegun := hhandles.begun
  rw [canBegin_of_isReady hready] at hbegun
  rw [List.any_append, List.any_cons, List.any_nil, Bool.or_false]
  cases hrested : turns.any findsRest with
  | true =>
      rw [hrested, if_pos rfl, CommandSlot.ofParameter?_zero] at hbegun
      exact ⟨h.snoc_of_rest hrested (hbegun.trans (ite_self none)), leaves_zero turn⟩
  | false =>
      rw [hrested, if_neg Bool.false_ne_true, move.ofParameter?_toParameter, Option.bind_some,
        hmoves] at hbegun
      exact ⟨h.snoc_of_waits hrested hbegun, leaves_of_isReady hmoves hready⟩

end Turn

namespace Simulation

variable {s : Simulation} {classify : Classifier} {turns : List Turn}

/-! ## Runs -/

/-- What is known of the turns of a run and of the slot that they leave. -/
structure Follows (turns : List Turn) (s : Simulation) : Prop where
  waits : ∃ switch order, s.slot.params.Tells switch order ∧
    ∀ move spell, spell <:+ turns → Turn.Spell move spell →
      order = if spell.any Turn.findsRest then 0 else move.toParameter
  begun : ∀ move spell, spell <:+: turns → Turn.Spell move spell → Turn.BegunAtRest move spell
  lawful : ∀ turn ∈ turns, turn.Lawful
  last : ∀ turn ∈ turns.getLast?, s.slot.task = turn.after.task
  chained : turns.IsChain fun turn next => next.slot.task = turn.after.task

theorem Follows.step (h : Follows turns s) (classify : Classifier) :
    Follows (turns ++ [s.turn classify]) (s.stepAs classify) := by
  obtain ⟨switch, order, htells, hwaits⟩ := h.waits
  have hhandles := handles_step htells classify
  -- a spell that lasts until now, and what it leaves
  have hlast : ∀ move spell, spell <:+ turns ++ [s.turn classify] → Turn.Spell move spell →
      Turn.BegunAtRest move spell ∧
        (s.turn classify).leaves (((s.turn classify).move?.map Command.toParameter).getD order)
          = if spell.any Turn.findsRest then 0 else move.toParameter := by
    intro move spell hsuffix hspell
    rcases List.suffix_concat_iff.1 hsuffix with rfl | ⟨earlier, rfl, hearlier⟩
    · exact absurd hspell.executed (by simp)
    · have hready := hspell.ready (s.turn classify) (by simp)
      rcases hspell.of_snoc with ⟨rfl, hmove⟩ | ⟨hbefore, hnone⟩
      · rw [hmove] at hhandles ⊢
        exact (Turn.begunAtRest_nil move).snoc hspell.moves hready hhandles
      · rw [hnone, Option.map_none, Option.getD_none, hwaits move earlier hearlier hbefore] at hhandles ⊢
        exact (h.begun move earlier hearlier.isInfix hbefore).snoc hspell.moves hready hhandles
  refine ⟨⟨_, _, hhandles.left, fun move spell hsuffix hspell => (hlast move spell hsuffix hspell).2⟩,
    fun move spell hinfix hspell => ?_, fun turn hturn => ?_, fun turn hturn => ?_, ?_⟩
  · rcases List.infix_concat_iff.1 hinfix with hsuffix | hearlier
    · exact (hlast move spell hsuffix hspell).1
    · exact h.begun move spell hearlier hspell
  · rcases List.mem_append.1 hturn with hearlier | hnow
    · exact h.lawful turn hearlier
    · rw [List.mem_singleton.1 hnow]
      exact hhandles.lawful
  · rw [List.getLast?_concat] at hturn
    rw [← Option.some.inj hturn]
    rfl
  · -- the motion task of the step finds the task that the turn before it left
    refine List.isChain_append.2 ⟨h.chained, .singleton _, fun turn hturn next hnext => ?_⟩
    rw [← Option.some.inj hnext, ← h.last turn hturn]
    exact task_beforeMotion classify s

/-- A call without a step leaves the task and its parameters alone. -/
theorem Follows.attend {answers : List (Option Turn)} (h : Follows answers.reduceOption s)
    (call : Classifier × Call) :
    Follows (answers ++ [(s.attend call).1]).reduceOption (s.attend call).2 := by
  obtain ⟨classify, call⟩ := call
  cases call with
  | transmit command =>
      have hanswer : s.attend (classify, .transmit command) = (none, s.transmit command) := rfl
      have hsame : Follows answers.reduceOption (s.transmit command) :=
        ⟨h.waits, h.begun, h.lawful, h.last, h.chained⟩
      rw [hanswer, List.reduceOption_append]
      simpa using hsame
  | step =>
      rw [attend_step, List.reduceOption_append]
      exact h.step classify

theorem follows_create {config : VehicleConfig} (h : create config = .ok s) : Follows [] s := by
  have hempty : ∀ {move : Command} {spell : List Turn}, Turn.Spell move spell → spell ≠ [] := by
    rintro move spell hspell rfl
    exact absurd hspell.executed (by simp)
  refine ⟨⟨0, 0, tells_create h, ?_⟩, ?_, fun turn hturn => ?_, fun turn hturn => ?_, .nil⟩
  · exact fun move spell hsuffix hspell => absurd (List.suffix_nil.1 hsuffix) (hempty hspell)
  · exact fun move spell hinfix hspell => absurd (List.infix_nil.1 hinfix) (hempty hspell)
  · exact absurd hturn List.not_mem_nil
  · exact absurd hturn (by simp)

/-! ## Two moves in a hurry -/

section Ladder

/-- Vertical moves end at once, one sample calibrates the model, and its task runs once a second. -/
def hastyConfig : VehicleConfig :=
  { link := { window := 1 }
    motion := { calibrationSamples := 1, verticalDurationMs := 1 }
    periods := { linkMs := 1, motionMs := 1000 } }

theorem exists_create_hastyConfig : ∃ start, create hastyConfig = .ok start := by
  have hlink : hastyConfig.link.validate windowSize = .ok () :=
    (LinkConfig.validate_eq_ok_iff _ _).2 (by decide +kernel)
  have hperiods : hastyConfig.periods.validate = .ok () :=
    (TaskPeriods.validate_eq_ok_iff _).2 (by decide)
  have hfault : hastyConfig.motion.fault? = none := by decide +kernel
  have hmotion : hastyConfig.motion.validate = .ok () := by rw [MotionConfig.validate, hfault]
  obtain ⟨hfilter, -, -, -⟩ := (VehicleConfig.validate_eq_ok_iff _).1 (validate_link hlink)
  have hvalid : hastyConfig.validate = .ok () :=
    (VehicleConfig.validate_eq_ok_iff _).2 ⟨hfilter, hmotion, hlink, hperiods⟩
  exact (exists_create_eq_ok_iff hastyConfig).2 ⟨hvalid, by decide, by decide⟩

/-- The model is to be switched on, and then two moves are to be made. -/
def ladder (count : Nat) : List Call :=
  [.transmit .motionModelEnable, .transmit .up, .transmit .down] ++ List.replicate count .step

/-- The state after the steps of a ladder. -/
def climbed (classify : Classifier) (start : Simulation) (count : Nat) : Simulation :=
  Run.final (watch classify) start (ladder count)

/-- What these steps reported. -/
def climb (classify : Classifier) (start : Simulation) (count : Nat) : List StepReport :=
  Simulation.reports (Run.answers (watch classify) start (ladder count)).reduceOption

variable {start : Simulation} {count more : Nat}

theorem ladder_succ (count : Nat) : ladder (count + 1) = ladder count ++ [.step] := by
  rw [ladder, List.replicate_succ', ← List.append_assoc, ladder]

theorem prefix_ladder (h : count ≤ more) : ladder count <+: ladder more := by
  obtain ⟨rest, rfl⟩ := Nat.exists_eq_add_of_le h
  rw [ladder, ladder, List.replicate_add, ← List.append_assoc]
  exact List.prefix_append ..

theorem count_ladder (count : Nat) : (ladder count).count .step = count := by
  rw [ladder, List.count_append, List.count_replicate_self]
  exact Nat.zero_add count

theorem climbed_succ (classify : Classifier) (start : Simulation) (count : Nat) :
    climbed classify start (count + 1) = (climbed classify start count).stepAs classify := by
  rw [climbed, ladder_succ, Run.final_snoc, watch_step, climbed]

theorem climb_succ (classify : Classifier) (start : Simulation) (count : Nat) :
    climb classify start (count + 1)
      = climb classify start count ++ [(climbed classify start count).reportAs classify] := by
  rw [climb, ladder_succ, Run.answers_snoc, reduceOption_step, Simulation.reports, List.map_append,
    List.map_singleton, climb, Simulation.reports, climbed]

theorem prefix_climb (h : count ≤ more) : climb classify start count <+: climb classify start more :=
  ((Run.answers_prefix _ (prefix_ladder h) start).filterMap id).map _

/-- The turns of a ladder. -/
theorem turns_ladder (classify : Classifier) (start : Simulation) (count : Nat) :
    (Run.answers attend start ((ladder count).map (classify, ·))).reduceOption
      = (List.range count).map fun index => (climbed classify start index).turn classify := by
  have hfinal : ∀ (calls : List Call) (s : Simulation),
      Run.final attend s (calls.map (classify, ·)) = Run.final (watch classify) s calls := by
    intro calls
    induction calls with
    | nil => exact fun s => rfl
    | cons call calls ih => exact fun s => ih _
  induction count with
  | zero => rfl
  | succ count ih =>
      rw [ladder_succ, List.map_append, Run.answers_append, List.reduceOption_append, ih, hfinal,
        List.range_succ, List.map_append]
      rfl

/-- The tones of a ladder are heard. -/
def Hears (classify : Classifier) (start : Simulation) (count : Nat) : Prop :=
  classify.Knows hastyConfig.link
    (lights (Run.answers (watch classify) start (ladder count)).reduceOption)

theorem Hears.of_le (h : Hears classify start more) (hle : count ≤ more) :
    Hears classify start count := by
  obtain ⟨rest, hrest⟩ :=
    ((Run.answers_prefix (watch classify) (prefix_ladder hle) start).filterMap id).map Prod.fst
  have hmore : lights (Run.answers (watch classify) start (ladder more)).reduceOption
      = lights (Run.answers (watch classify) start (ladder count)).reduceOption ++ rest := hrest.symm
  rw [Hears, hmore] at h
  exact h.of_append

theorem exists_hears (hcreate : create hastyConfig = .ok start) :
    ∃ classify, Hears classify start 416 :=
  exists_knows_watch (isOf_create hcreate).1 rfl (by rw [count_ladder]; decide)

theorem taken_climb (hcreate : create hastyConfig = .ok start) (h : Hears classify start count)
    (hshort : count < UInt32.size) (hheard : allowed hastyConfig.periods count < windowSize) :
    taken (climb classify start count)
      = heardIn hastyConfig.link ((shine hastyConfig.link.unitId { config := hastyConfig.link } 0
          (ladder count)).map Projector.Light.shown) (count / windowSize) := by
  have htaken := taken_watch hcreate rfl rfl (by rwa [count_ladder]) h (by rwa [count_ladder])
  rw [count_ladder] at htaken
  exact htaken

theorem hopping_climb (hcreate : create hastyConfig = .ok start) (h : Hears classify start 416)
    (hle : count ≤ 416) : Hopping (climb classify start count) (climbed classify start count) := by
  have htaken : taken (climb classify start 416) = [11, 3, 4] := by
    rw [taken_climb hcreate h (by decide) (by decide)]
    decide +kernel
  refine hopping_run hcreate (by decide) classify (ladder count) fun command hcommand => ?_
  have hsublist : (taken (climb classify start count)).filterMap Command.ofCode?
      <+: (taken (climb classify start 416)).filterMap Command.ofCode? :=
    ((prefix_climb hle).filterMap _).filterMap _
  rw [htaken] at hsublist
  have hall : ∀ command ∈ ([11, 3, 4] : List UInt8).filterMap Command.ofCode?,
      command.isLateral = false := by decide
  exact hall command (hsublist.subset hcommand)

theorem prefix_executed (classify : Classifier) (start : Simulation) (h : count ≤ more) :
    executed (climb classify start count) <+: executed (climb classify start more) :=
  (prefix_climb h).filterMap _

/-- Each command of the ladder is executed once its frame is complete. -/
theorem executed_climb (hcreate : create hastyConfig = .ok start) (h : Hears classify start 416) :
    executed (climb classify start 1) = [] ∧
      executed (climb classify start 271) = [.motionModelEnable] ∧
      executed (climb classify start 272) = [.motionModelEnable, .up] ∧
      executed (climb classify start 415) = [.motionModelEnable, .up] ∧
      executed (climb classify start 416) = [.motionModelEnable, .up, .down] := by
  refine ⟨?_, ?_, ?_, ?_, ?_⟩
  all_goals
    rw [(hopping_climb hcreate h (by decide)).executed,
      taken_climb hcreate (h.of_le (by decide)) (by decide) (by decide)]
    decide +kernel

/-- The next command that is executed. -/
theorem executed_succ (classify : Classifier) (start : Simulation) (count : Nat) :
    executed (climb classify start (count + 1)) = executed (climb classify start count)
      ++ ((climbed classify start count).turn classify).report.executor.command?.toList := by
  rw [climb_succ, executed_snoc]
  rfl

/-- The model is switched on from the first move on. -/
theorem lastSwitch_climb (hcreate : create hastyConfig = .ok start) (h : Hears classify start 416)
    (hge : 271 ≤ count) (hle : count ≤ 416) : lastSwitch (executed (climb classify start count)) = 1 := by
  obtain ⟨-, hfirst, -, -, hlast⟩ := executed_climb hcreate h
  have hsome := prefix_executed classify start hge
  have hall := prefix_executed classify start hle
  rw [hfirst] at hsome
  rw [hlast] at hall
  have hcases : ∀ few : Fin 4, 0 < few.val →
      lastSwitch ([Command.motionModelEnable, .up, .down].take few) = 1 := by decide
  rw [List.prefix_iff_eq_take.1 hall]
  exact hcases ⟨_, Nat.lt_succ_of_le hall.length_le⟩ hsome.length_le

theorem move?_climb {done : List Command} (command? : Option Command)
    (hbefore : executed (climb classify start count) = done)
    (hafter : executed (climb classify start (count + 1)) = done ++ command?.toList) :
    ((climbed classify start count).turn classify).move? = command?.bind Command.move? := by
  rw [executed_succ, hbefore] at hafter
  have hcommand := congrArg List.head? (List.append_cancel_left hafter)
  rw [Option.head?_toList, Option.head?_toList] at hcommand
  rw [Turn.move?, hcommand]

/-- The moves are executed in the steps 271 and 415. -/
theorem moves_climb (hcreate : create hastyConfig = .ok start) (h : Hears classify start 416) :
    ((climbed classify start 271).turn classify).move? = some .up ∧
      (∀ index, 272 ≤ index → index < 415 →
        ((climbed classify start index).turn classify).move? = none) ∧
      ((climbed classify start 415).turn classify).move? = some .down := by
  obtain ⟨-, hbefore, hup, hrest, hdown⟩ := executed_climb hcreate h
  have hbetween : ∀ index, 272 ≤ index → index ≤ 415 →
      executed (climb classify start index) = [.motionModelEnable, .up] := by
    intro index hge hle
    have hsome := prefix_executed classify start hge
    have hall := prefix_executed classify start hle
    rw [hup] at hsome
    rw [hrest] at hall
    exact hall.eq_of_length_le hsome.length_le
  refine ⟨move?_climb (some .up) hbefore hup, fun index hge hlt => ?_,
    move?_climb (some .down) hrest hdown⟩
  exact move?_climb none (hbetween index hge (Nat.le_of_lt hlt))
    (hbetween (index + 1) (Nat.le_succ_of_le hge) hlt)

theorem isOf_climbed (hcreate : create hastyConfig = .ok start) (classify : Classifier)
    (count : Nat) :
    (climbed classify start count).IsOf hastyConfig ∧
      (climbed classify start count).now = UInt32.ofNat count := by
  induction count with
  | zero =>
      obtain ⟨hof, hnow⟩ := isOf_create hcreate
      exact ⟨((hof.transmit .motionModelEnable).transmit .up).transmit .down, hnow⟩
  | succ count ih =>
      obtain ⟨hof, hnow⟩ := ih
      rw [climbed_succ]
      refine ⟨hof.stepAs classify, ?_⟩
      rw [now_stepAs, hnow, UInt32.ofNat_add]
      rfl

theorem isDue_climbed (hcreate : create hastyConfig = .ok start) (classify : Classifier)
    (hshort : count < UInt32.size) :
    ((climbed classify start count).beforeMotion classify).isDue
        ((climbed classify start count).beforeMotion classify).config.periods.motionMs = true
      ↔ 1000 ∣ count := by
  obtain ⟨hof, hnow⟩ := isOf_climbed hcreate classify count
  obtain ⟨hclock, hconfig⟩ := clock_beforeMotion classify (climbed classify start count)
  rw [isDue_iff, hclock, hconfig, hof.settings, hnow, UInt32.toNat_ofNat_of_lt' hshort]
  rfl

/-- The motion task does not run between the two moves. -/
theorem begun?_climb (hcreate : create hastyConfig = .ok start) (hge : 271 ≤ count)
    (hlt : count < 415) : ((climbed classify start count).turn classify).begun? = none := by
  have hshort : count < UInt32.size := hlt.trans (by decide)
  have hnot : ¬ 1000 ∣ count := by omega
  have hnone : ((climbed classify start count).beforeMotion classify).runMotion.1 = none := by
    rw [runMotion, if_neg ((isDue_climbed hcreate classify hshort).not.2 hnot)]
  have hmotion : ((climbed classify start count).turn classify).report.motion? = none := by
    rw [turn, motion?_reportAs, hnone]
    rfl
  rw [Turn.begun?, hmotion]
  rfl

/-- The craft is at rest in the first step, which so calibrates the model. -/
theorem calibrated_first (hcreate : create hastyConfig = .ok start) (h : Hears classify start 416) :
    (climbed classify start 1).slot.task.model.state.calibrated = true := by
  obtain ⟨hnothing, -⟩ := executed_climb hcreate h
  have hquiet : ((climbed classify start 0).reportAs classify).executor.command? = none := by
    rw [executed_succ, List.append_eq_nil_iff, Option.toList_eq_nil_iff] at hnothing
    exact hnothing.2
  have htask : ((climbed classify start 0).beforeMotion classify).slot.task = start.slot.task :=
    task_beforeMotion classify (climbed classify start 0)
  have hrest := (hopping_climb hcreate h (Nat.zero_le 416)).isBusy_beforeMotion hquiet
  rw [climbed_succ, slot_stepAs, task_runMotion ((isDue_climbed hcreate classify (by decide)).2 (by decide))]
  refine MotionTask.calibrated_of_last (MotionTask.course_perform _ _) ?_ rfl ?_ ?_
  · rw [htask, slot_create hcreate]
    show 1 ≤ 1
    decide
  · change (!((climbed classify start 0).beforeMotion classify).craft.isBusy) = true
    rw [hrest]
    rfl
  · rw [MotionTask.interval, htask, slot_create hcreate]
    change (1000 : UInt32).toFloat32 / 1000 > 0 ∧
      Single.isFinite ((1000 : UInt32).toFloat32 / 1000) = true
    decide +kernel

theorem calibrated_climb (hcreate : create hastyConfig = .ok start) (h : Hears classify start 416)
    (hle : count ≤ 416) (hpos : 0 < count) :
    (climbed classify start count).slot.task.model.state.calibrated = true := by
  induction count, hpos using Nat.le_induction with
  | base => exact calibrated_first hcreate h
  | succ count hpos ih =>
      rw [climbed_succ]
      exact calibrated_stepAs (ih (Nat.le_of_succ_le hle)) classify

theorem isReady_climb (hcreate : create hastyConfig = .ok start) (h : Hears classify start 416)
    (hge : 271 ≤ count) (hlt : count < 416) :
    ((climbed classify start count).turn classify).isReady = true := by
  obtain ⟨order, htells⟩ := (hopping_climb hcreate h hlt.le).switched
  have hfound := tells_beforeMotion htells classify
  rw [← lastSwitch_append, ← executed_succ,
    lastSwitch_climb hcreate h (Nat.le_succ_of_le hge) hlt] at hfound
  have hcalibrated := calibrated_climb hcreate h hlt.le (by omega)
  rw [← task_beforeMotion classify] at hcalibrated
  have hslot : ((climbed classify start count).turn classify).slot
      = ((climbed classify start count).beforeMotion classify).slot := rfl
  rw [Turn.isReady, hslot, hfound.flag, Bool.and_eq_true]
  exact ⟨rfl, hcalibrated⟩

/-- The second move takes the place of the first one, which the model has not begun. -/
theorem lost_ladder (hcreate : create hastyConfig = .ok start) (h : Hears classify start 416) :
    ∃ spell next, spell ++ [next]
        <:+: (Run.answers attend start ((ladder 416).map (classify, ·))).reduceOption ∧
      Turn.Spell .up spell ∧ next.move? = some .down ∧ next.isReady = true ∧
      ∀ turn ∈ spell, turn.begun? = none := by
  obtain ⟨hup, hnone, hdown⟩ := moves_climb hcreate h
  have hsteps : List.range' 271 144 ++ [415] <:+: List.range 416 :=
    ⟨List.range 271, [], by decide +kernel⟩
  have hinside : ∀ index ∈ List.range' 271 144, 271 ≤ index ∧ index < 415 :=
    fun index hindex => List.mem_range'_1.1 hindex
  refine ⟨(List.range' 271 144).map fun index => (climbed classify start index).turn classify,
    (climbed classify start 415).turn classify, ?_, ⟨?_, ?_, ?_⟩, hdown, ?_, ?_⟩
  · have hturns := hsteps.map fun index => (climbed classify start index).turn classify
    rw [List.map_append] at hturns
    rw [turns_ladder]
    exact hturns
  · rw [List.range'_succ, List.map_cons, List.head?_cons, Option.bind_some]
    exact hup
  · intro turn hturn
    rw [List.range'_succ, List.map_cons, List.tail_cons] at hturn
    obtain ⟨index, hindex, rfl⟩ := List.mem_map.1 hturn
    obtain ⟨hge, hlt⟩ := List.mem_range'_1.1 hindex
    exact hnone index hge hlt
  · intro turn hturn
    obtain ⟨index, hindex, rfl⟩ := List.mem_map.1 hturn
    obtain ⟨hge, hlt⟩ := hinside index hindex
    exact isReady_climb hcreate h hge (by omega)
  · exact isReady_climb hcreate h (by decide) (by decide)
  · intro turn hturn
    obtain ⟨index, hindex, rfl⟩ := List.mem_map.1 hturn
    obtain ⟨hge, hlt⟩ := hinside index hindex
    exact begun?_climb hcreate hge hlt

end Ladder

/-! ## Moves in time -/

/-- Whenever a move is executed, the one before it has begun. -/
def NoneLost (turns : List Turn) : Prop :=
  ∀ move spell next, spell ++ [next] <:+: turns → Turn.Spell move spell →
    next.move?.isSome = true → next.isReady = true → ∃ turn ∈ spell, turn.begun? = some move

/-- The parameter holds one move only: whoever hears the tones of the ladder loses its first move. -/
theorem not_noneLost_ladder :
    ∃ start, create hastyConfig = .ok start ∧ (∃ classify, Hears classify start 416) ∧
      ∀ classify, Hears classify start 416 →
        ¬ NoneLost (Run.answers attend start ((ladder 416).map (classify, ·))).reduceOption := by
  obtain ⟨start, hcreate⟩ := exists_create_hastyConfig
  refine ⟨start, hcreate, exists_hears hcreate, fun classify hhears hkept => ?_⟩
  obtain ⟨spell, next, hinfix, hspell, hnext, hready, hnone⟩ := lost_ladder hcreate hhears
  obtain ⟨turn, hturn, hbegun⟩ := hkept .up spell next hinfix hspell (by rw [hnext]; rfl) hready
  rw [hnone turn hturn] at hbegun
  contradiction

/-- A move is begun if the model comes to rest before the next move is executed. -/
structure BegunInTime (turns : List Turn) : Prop where
  /-- What a turn begins is begun in the model of the task, which nothing touches until the next turn. -/
  lawful : ∀ turn ∈ turns, turn.Lawful
  chained : turns.IsChain fun turn next => next.slot.task = turn.after.task
  begun : ∀ move spell, spell <:+: turns → Turn.Spell move spell → Turn.BegunAtRest move spell
  /-- So the move before an executed one has begun if the motion task found the model at rest. -/
  replaced : ∀ move spell next, spell ++ [next] <:+: turns → Turn.Spell move spell →
    next.move?.isSome = true → next.isReady = true →
      ((∃ turn ∈ spell, turn.begun? = some move) ↔ ∃ turn ∈ spell, turn.findsRest = true)

/-- **A move is begun if the model comes to rest in time.** While the model is calibrated and switched on,
the first run of the motion task that finds it at rest begins the move that was executed last. A move is
lost if there is no such run before the next one is executed. -/
theorem begunInTime_run {config : VehicleConfig} {start : Simulation}
    (hcreate : create config = .ok start) (calls : List (Classifier × Call)) :
    BegunInTime (Run.answers attend start calls).reduceOption := by
  have hfollows : Follows (Run.answers attend start calls).reduceOption
      (Run.final attend start calls) := Run.induction
    (motive := fun _ answers s => Follows answers.reduceOption s) (follows_create hcreate)
    (fun _ answers s call h => h.attend call) calls
  refine ⟨hfollows.lawful, hfollows.chained, hfollows.begun, fun move spell next hinfix hspell _ _ => ?_⟩
  exact (hfollows.begun move spell ((List.prefix_append spell [next]).isInfix.trans hinfix) hspell).begun_iff

/-- In the ladder the model never comes to rest between the two moves, and the first one never begins. -/
theorem begunInTime_ladder :
    ∃ start classify, create hastyConfig = .ok start ∧ Hears classify start 416 ∧
      (∃ spell next, spell ++ [next]
          <:+: (Run.answers attend start ((ladder 416).map (classify, ·))).reduceOption ∧
        Turn.Spell .up spell ∧ next.move? = some .down ∧ next.isReady = true) ∧
      BegunInTime (Run.answers attend start ((ladder 416).map (classify, ·))).reduceOption := by
  obtain ⟨start, hcreate⟩ := exists_create_hastyConfig
  obtain ⟨classify, hhears⟩ := exists_hears hcreate
  obtain ⟨spell, next, hinfix, hspell, hnext, hready, -⟩ := lost_ladder hcreate hhears
  exact ⟨start, classify, hcreate, hhears, ⟨spell, next, hinfix, hspell, hnext, hready⟩,
    begunInTime_run hcreate _⟩

end Simulation

end LightPilot
