import LightPilot.Proofs.Motion.Coherence

set_option autoImplicit false

/-! # The life of a command

A command begins, is flown to its end, and is followed by a pause; then the next one may begin. Only
switching the model off cuts this short. What a call does to the stage is listed in `MotionModel.Moves`,
with the answer that tells of it, and the history of a run is a path of such moves
(`MotionModel.path_run`). All that the history says about a command is read off these paths: they are cut
at the entry that begins the command or ends it, and followed from there by induction. -/

namespace LightPilot.MotionModel

/-! ## Entries of a history -/

/-- A call with its answer. -/
abbrev Entry : Type := Call × Answer

namespace Entry

/-- The command that a call began, and the time. -/
def begun? : Entry → Option (Command × UInt32)
  | (.begin command now, .begun (.ok true)) => some (command, now)
  | _ => none

/-- The reading, the time and the event of a step that was not refused. -/
def stepped? : Entry → Option (InertialSample × UInt32 × MotionEvent)
  | (.step sample _ now, .stepped (.ok event)) => some (sample, now, event)
  | _ => none

/-- The command whose end a step reported. -/
def finished? (entry : Entry) : Option Command :=
  match entry.stepped? with
  | some (_, _, .commandFinished command _) => some command
  | _ => none

theorem finished?_eq_some_iff {entry : Entry} {command : Command} :
    entry.finished? = some command ↔
      ∃ sample now timedOut, entry.stepped? = some (sample, now, .commandFinished command timedOut) := by
  unfold finished?
  split
  · next sample now ended timedOut hstepped =>
      rw [hstepped]
      constructor
      · intro hended
        exact ⟨sample, now, timedOut, by rw [Option.some.inj hended]⟩
      · rintro ⟨_, _, _, heq⟩
        cases heq
        rfl
  · next hother =>
      refine iff_of_false (by simp) ?_
      rintro ⟨sample, now, timedOut, hstepped⟩
      exact hother sample now command timedOut hstepped

/-- The time of a step that ended a pause. -/
def cooled? (entry : Entry) : Option UInt32 :=
  match entry.stepped? with
  | some (_, now, .cooldownElapsed) => some now
  | _ => none

/-- Whether a call switched the model off. -/
def isSwitchOff : Entry → Bool
  | (.setActive false, _) => true
  | _ => false

end Entry

/-! ## Moves of the stage -/

/-- What a call can do to the stage, with its answer. -/
inductive Moves (config : MotionConfig) : Stage → Entry → Stage → Prop
  | switchedOff (stage : Stage) (answer : Answer) : Moves config stage (.setActive false, answer) .idle
  | begins {command : Command} {axis : Axis} (now : UInt32) (haxis : command.axis? = some axis) :
      Moves config .idle (.begin command now, .begun (.ok true)) (.executing command axis now false)
  | goesOn {command : Command} {axis : Axis} {started : UInt32} {tilted tilted' : Bool}
      {sample : InertialSample} (dt : Float32) {now : UInt32}
      (hprogress : progress config (sample.attitude.tilt? axis) tilted (now - started)
        = .underway tilted') :
      Moves config (.executing command axis started tilted)
        (.step sample dt now, .stepped (.ok (.integrated axis)))
        (.executing command axis started tilted')
  | finishes {command : Command} {axis : Axis} {started : UInt32} {tilted timedOut : Bool}
      {sample : InertialSample} (dt : Float32) {now : UInt32}
      (hprogress : progress config (sample.attitude.tilt? axis) tilted (now - started)
        = .finished timedOut) :
      Moves config (.executing command axis started tilted)
        (.step sample dt now, .stepped (.ok (.commandFinished command timedOut))) (.cooldown now)
  | cools {since : UInt32} (sample : InertialSample) (dt : Float32) {now : UInt32}
      (hpause : config.cooldownMs ≤ now - since) :
      Moves config (.cooldown since) (.step sample dt now, .stepped (.ok .cooldownElapsed)) .idle
  /-- Any other call; no step is made while a command is flown. -/
  | stays {stage : Stage} {entry : Entry} (hoff : entry.isSwitchOff = false)
      (hbegun : entry.begun? = none) (hfinished : entry.finished? = none)
      (hcooled : entry.cooled? = none) (hflown : stage.isExecuting = true → entry.stepped? = none) :
      Moves config stage entry stage

variable {config : MotionConfig} {m next : MotionModel}

/-- An answer without news leaves the stage as it is. -/
theorem Moves.of_eq {entry : Entry} {stage stage' : Stage} (heq : stage' = stage)
    (hoff : entry.isSwitchOff = false) (hbegun : entry.begun? = none)
    (hfinished : entry.finished? = none) (hcooled : entry.cooled? = none)
    (hflown : stage.isExecuting = true → entry.stepped? = none) :
    Moves config stage entry stage' := by
  rw [heq]
  exact .stays hoff hbegun hfinished hcooled hflown

/-- Without a command to fly this covers steps too. -/
theorem Moves.of_grounded {entry : Entry} {stage stage' : Stage} (heq : stage' = stage)
    (hgrounded : stage.isExecuting = false) (hoff : entry.isSwitchOff = false)
    (hbegun : entry.begun? = none) (hfinished : entry.finished? = none)
    (hcooled : entry.cooled? = none) : Moves config stage entry stage' := by
  refine .of_eq heq hoff hbegun hfinished hcooled fun hflown => ?_
  rw [hgrounded] at hflown
  contradiction

theorem stage_calibrate (m : MotionModel) (sample : InertialSample) :
    (m.calibrate sample).state.stage = m.state.stage := by
  unfold calibrate
  split
  · rfl
  · rfl

theorem stage_takeDelta {delta : Vec3} (h : m.takeDelta = some (delta, next)) :
    next.state.stage = m.state.stage := by
  unfold takeDelta at h
  split at h
  · obtain ⟨-, rfl⟩ := Prod.mk.inj (Option.some.inj h)
    rfl
  · contradiction

theorem moves_setActive (h : Coherent config m) (active : Bool) (answer : Answer) :
    Moves config m.state.stage (.setActive active, answer) (m.setActive active).state.stage := by
  cases active with
  | true =>
      refine .of_eq ?_ rfl rfl rfl rfl fun _ => rfl
      unfold setActive
      split
      · rfl
      · rfl
  | false =>
      have hidle : (m.setActive false).state.stage = .idle := by
        unfold setActive
        split
        · next hoff =>
            -- a model that is switched off is idle
            refine Decidable.byContradiction fun hbusy => ?_
            rw [(h.enabled hbusy).2] at hoff
            contradiction
        · rfl
      rw [hidle]
      exact .switchedOff _ _

theorem moves_begin {command : Command} {now : UInt32} {started : Bool}
    (hbegin : m.begin command now = .ok (started, next)) :
    Moves config m.state.stage (.begin command now, .begun (.ok started)) next.state.stage := by
  rcases begin_cases hbegin with ⟨rfl, -, -, hidle, axis, haxis, rfl⟩ | ⟨rfl, rfl⟩
  · rw [hidle]
    exact .begins now haxis
  · exact .stays rfl rfl rfl rfl fun _ => rfl

theorem moves_step (h : Coherent config m) {sample : InertialSample} {dt : Float32} {now : UInt32}
    {event : MotionEvent} (hstep : m.step sample dt now = .ok (event, next)) :
    Moves config m.state.stage (.step sample dt now, .stepped (.ok event)) next.state.stage := by
  have hidle : m.state.calibrated = false ∨ m.state.active = false → m.state.stage = .idle := by
    intro hoff
    refine Decidable.byContradiction fun hbusy => ?_
    simp [h.enabled hbusy] at hoff
  cases (steps_of_step hstep).2 with
  | calibrating hcalibrated =>
      rw [stage_calibrate, read, hidle (.inl hcalibrated)]
      split <;> exact .stays rfl rfl rfl rfl fun hflown => by contradiction
  | inactive _ hactive =>
      exact .of_grounded rfl (by rw [hidle (.inr hactive)]; rfl) rfl rfl rfl rfl
  | resting _ _ hstage =>
      exact .of_grounded rfl (by rw [hstage]; rfl) rfl rfl rfl rfl
  | following _ _ hstage =>
      exact .of_grounded rfl (by rw [hstage]; rfl) rfl rfl rfl rfl
  | cooling since _ _ hstage =>
      exact .of_grounded rfl (by rw [hstage]; rfl) rfl rfl rfl rfl
  | cooled since _ _ hstage hpause =>
      rw [hstage]
      rw [h.settings] at hpause
      exact .cools sample dt hpause
  | finished command axis started tilted timedOut _ _ hstage hprogress =>
      rw [hstage]
      rw [h.settings] at hprogress
      exact .finishes dt hprogress
  | underway command axis started tilted tilted' _ _ hstage hprogress =>
      rw [hstage]
      rw [h.settings] at hprogress
      exact .goesOn dt hprogress

/-- Every call on a coherent model is one of the moves. -/
theorem moves_perform (h : Coherent config m) (call : Call) :
    Moves config m.state.stage (call, (m.perform call).1) (m.perform call).2.state.stage := by
  cases call with
  | calibrate sample => exact .of_eq (stage_calibrate m sample) rfl rfl rfl rfl fun _ => rfl
  | setActive active => exact moves_setActive h active _
  | begin command now =>
      unfold perform
      dsimp only
      split
      · next hbegin => exact moves_begin hbegin
      · exact .stays rfl rfl rfl rfl fun _ => rfl
  | step sample dt now =>
      unfold perform
      dsimp only
      split
      · next hstep => exact moves_step h hstep
      · exact .stays rfl rfl rfl rfl fun _ => rfl
  | takeDelta =>
      unfold perform
      dsimp only
      split
      · next htake => exact .of_eq (stage_takeDelta htake) rfl rfl rfl rfl fun _ => rfl
      · exact .stays rfl rfl rfl rfl fun _ => rfl
  | flush population =>
      unfold perform
      dsimp only
      split
      · next hflush =>
          exact .of_eq (stage_takeDelta (takeDelta_of_flush hflush)) rfl rfl rfl rfl fun _ => rfl
      · exact .stays rfl rfl rfl rfl fun _ => rfl

/-! ## Paths -/

/-- The history leads from one stage to another. -/
inductive Path (config : MotionConfig) : Stage → List Entry → Stage → Prop
  | nil (stage : Stage) : Path config stage [] stage
  | cons {stage stage' last : Stage} {entry : Entry} {history : List Entry}
      (hmove : Moves config stage entry stage') (hpath : Path config stage' history last) :
      Path config stage (entry :: history) last

/-- The history of a run is a path from the first stage to the last. -/
theorem path_run (h : Coherent config m) (calls : List Call) :
    Path config m.state.stage (Run.history perform m calls) (Run.final perform m calls).state.stage := by
  induction calls generalizing m with
  | nil => exact .nil _
  | cons call calls ih =>
      exact .cons (moves_perform h call) (ih (h.performs (performs_perform m call)))

variable {stage last : Stage} {history : List Entry}

theorem path_append_iff {more : List Entry} :
    Path config stage (history ++ more) last ↔
      ∃ between, Path config stage history between ∧ Path config between more last := by
  induction history generalizing stage with
  | nil =>
      constructor
      · exact fun h => ⟨stage, .nil stage, h⟩
      · rintro ⟨_, hnil, hpath⟩
        cases hnil
        exact hpath
  | cons entry history ih =>
      constructor
      · intro h
        cases h with
        | cons hmove hpath =>
            obtain ⟨between, hbefore, hafter⟩ := ih.1 hpath
            exact ⟨between, .cons hmove hbefore, hafter⟩
      · rintro ⟨between, hbefore, hafter⟩
        cases hbefore with
        | cons hmove hpath => exact .cons hmove (ih.2 ⟨between, hpath, hafter⟩)

/-- The stages between two entries of a history. -/
theorem path_between {before between after : List Entry} {first second : Entry}
    (h : Path config stage (before ++ first :: between ++ second :: after) last) :
    ∃ start opened closed next, Moves config start first opened ∧
      Path config opened between closed ∧ Moves config closed second next := by
  obtain ⟨closed, hpath, hrest⟩ := path_append_iff.1 h
  obtain ⟨start, -, hfirst⟩ := path_append_iff.1 hpath
  cases hfirst with
  | cons hopen hbetween =>
      cases hrest with
      | cons hclose => exact ⟨start, _, closed, _, hopen, hbetween, hclose⟩

/-! ### Beginning -/

/-- A command begins at rest only. -/
theorem Moves.of_begun {entry : Entry} {stage' : Stage} (h : Moves config stage entry stage')
    {command : Command} {now : UInt32} (hbegun : entry.begun? = some (command, now)) :
    stage = .idle ∧ ∃ axis, command.axis? = some axis ∧
      stage' = .executing command axis now false := by
  cases h with
  | begins now haxis =>
      obtain ⟨rfl, rfl⟩ := Prod.mk.inj (Option.some.inj hbegun)
      exact ⟨rfl, _, haxis, rfl⟩
  | stays _ hnone =>
      rw [hnone] at hbegun
      contradiction
  | switchedOff => contradiction
  | goesOn => contradiction
  | finishes => contradiction
  | cools => contradiction

/-- Entries that neither begin nor end a command. -/
def Uninterrupted (entries : List Entry) : Prop :=
  ∀ entry ∈ entries, entry.isSwitchOff = false ∧ entry.begun? = none ∧ entry.finished? = none

/-- A command that is being flown was begun, and nothing has cut it short since. -/
theorem exists_begun {command : Command} {axis : Axis} {started : UInt32} {tilted : Bool}
    (h : Path config .idle history (.executing command axis started tilted)) :
    ∃ before entry between, history = before ++ entry :: between ∧
      entry.begun? = some (command, started) ∧ Uninterrupted between := by
  -- from the end: the last entry begins the command or lets it be flown on
  induction history using List.reverseRecOn generalizing tilted with
  | nil => cases h
  | append_singleton history entry ih =>
      obtain ⟨stage, hbefore, hlast⟩ := path_append_iff.1 h
      cases hlast with
      | cons hmove hnil =>
          cases hnil
          have hextend : ∀ {tilted' : Bool}, stage = .executing command axis started tilted' →
              entry.isSwitchOff = false ∧ entry.begun? = none ∧ entry.finished? = none →
              ∃ before first between, history ++ [entry] = before ++ first :: between ∧
                first.begun? = some (command, started) ∧ Uninterrupted between := by
            rintro tilted' rfl hquiet
            obtain ⟨before, first, between, rfl, hbegun, hbetween⟩ := ih hbefore
            refine ⟨before, first, between ++ [entry], by simp, hbegun, fun other hother => ?_⟩
            rcases List.mem_append.1 hother with hother | hother
            · exact hbetween other hother
            · rwa [List.mem_singleton.1 hother]
          cases hmove with
          | begins => exact ⟨history, _, [], rfl, rfl, fun _ hnone => by contradiction⟩
          | goesOn => exact hextend rfl ⟨rfl, rfl, rfl⟩
          | stays hoff hbegun hfinished => exact hextend rfl ⟨hoff, hbegun, hfinished⟩

/-! ### Flying -/

/-- A reading in which the tilt along an axis has reached the threshold. -/
def reaches (config : MotionConfig) (axis : Axis) (sample : InertialSample) : Bool :=
  match sample.attitude.tilt? axis with
  | some tilt => decide (tilt.abs ≥ config.tiltThreshold)
  | none => false

/-- A step with such a reading. -/
def Entry.reaches (config : MotionConfig) (axis : Axis) (entry : Entry) : Bool :=
  match entry.stepped? with
  | some (sample, _, _) => MotionModel.reaches config axis sample
  | none => false

theorem progress_of_lateral {axis : Axis} (haxis : axis.isLateral = true) (sample : InertialSample)
    (tilted : Bool) (elapsed : UInt32) :
    progress config (sample.attitude.tilt? axis) tilted elapsed
      = if tilted = true ∧ reaches config axis sample = false then .finished false
        else if config.lateralTimeoutMs ≤ elapsed then .finished true
        else .underway (tilted || reaches config axis sample) := by
  cases axis with
  | x => simp [progress, reaches, Attitude.tilt?]
  | y => simp [progress, reaches, Attitude.tilt?]
  | z => contradiction

theorem progress_of_vertical {axis : Axis} (haxis : axis.isLateral = false) (sample : InertialSample)
    (tilted : Bool) (elapsed : UInt32) :
    progress config (sample.attitude.tilt? axis) tilted elapsed
      = if config.verticalDurationMs ≤ elapsed then .finished false
        else .underway (tilted || reaches config axis sample) := by
  cases axis with
  | x => contradiction
  | y => contradiction
  | z => simp [progress, reaches, Attitude.tilt?]

/-- A command remembers whether the tilt has reached the threshold since it began. -/
theorem tilted_of_progress {axis : Axis} {sample : InertialSample} {tilted tilted' : Bool}
    {elapsed : UInt32}
    (h : progress config (sample.attitude.tilt? axis) tilted elapsed = .underway tilted') :
    tilted' = (tilted || reaches config axis sample) := by
  cases haxis : axis.isLateral with
  | true =>
      rw [progress_of_lateral haxis] at h
      grind
  | false =>
      rw [progress_of_vertical haxis] at h
      grind

/-- A command that nothing cuts short is flown on. -/
theorem path_uninterrupted {command : Command} {axis : Axis} {started : UInt32} {tilted : Bool}
    (h : Path config (.executing command axis started tilted) history last)
    (hquiet : Uninterrupted history) :
    last = .executing command axis started (tilted || history.any (Entry.reaches config axis)) := by
  induction history generalizing tilted with
  | nil =>
      cases h
      simp
  | cons entry history ih =>
      obtain ⟨hentry, hrest⟩ := List.forall_mem_cons.1 hquiet
      rw [List.any_cons, ← Bool.or_assoc]
      cases h with
      | cons hmove hpath =>
          cases hmove with
          | switchedOff => simp [Entry.isSwitchOff] at hentry
          | goesOn dt hprogress =>
              rw [tilted_of_progress hprogress] at hpath
              exact ih hpath hrest
          | finishes => simp [Entry.finished?, Entry.stepped?] at hentry
          | stays _ _ _ _ hflown =>
              have hnone : entry.reaches config axis = false := by
                rw [Entry.reaches, hflown rfl]
              rw [hnone, Bool.or_false]
              exact ih hpath hrest

/-! ### The end -/

/-- A model that flies nothing, and begins nothing, reports no end. -/
theorem path_of_not_flying (h : Path config stage history last) (hstage : stage.isExecuting = false)
    (hbegun : ∀ entry ∈ history, entry.begun? = none) :
    history.filterMap Entry.finished? = [] := by
  induction history generalizing stage with
  | nil => rfl
  | cons entry history ih =>
      obtain ⟨hentry, hrest⟩ := List.forall_mem_cons.1 hbegun
      cases h with
      | @cons _ next _ _ _ hmove hpath =>
          have hnext : entry.finished? = none ∧ next.isExecuting = false := by
            cases hmove with
            | switchedOff => exact ⟨rfl, rfl⟩
            | begins => contradiction
            | goesOn => contradiction
            | finishes => contradiction
            | cools => exact ⟨rfl, rfl⟩
            | stays _ _ hfinished => exact ⟨hfinished, hstage⟩
          rw [List.filterMap_cons_none hnext.1]
          exact ih hpath hnext.2 hrest

/-- A command that was not switched off and is over has ended once. -/
theorem path_to_idle {command : Command} {axis : Axis} {started : UInt32} {tilted : Bool}
    (h : Path config (.executing command axis started tilted) history .idle)
    (hon : ∀ entry ∈ history, entry.isSwitchOff = false)
    (hbegun : ∀ entry ∈ history, entry.begun? = none) :
    history.filterMap Entry.finished? = [command] := by
  induction history generalizing tilted with
  | nil => cases h
  | cons entry history ih =>
      rw [List.forall_mem_cons] at hon hbegun
      cases h with
      | cons hmove hpath =>
          cases hmove with
          | switchedOff => cases hon.1
          | goesOn =>
              rw [List.filterMap_cons_none rfl]
              exact ih hpath hon.2 hbegun.2
          | finishes =>
              -- nothing is flown any more, so no other end follows
              rw [List.filterMap_cons, path_of_not_flying hpath rfl hbegun.2]
              rfl
          | stays _ _ hfinished =>
              rw [List.filterMap_cons_none hfinished]
              exact ih hpath hon.2 hbegun.2

/-- A pause lasts until a step finds that its time is over. -/
theorem path_of_pause {since : UInt32} (h : Path config (.cooldown since) history last)
    (hlast : last ≠ .cooldown since) (hon : ∀ entry ∈ history, entry.isSwitchOff = false) :
    ∃ entry ∈ history, ∃ now, entry.cooled? = some now ∧ config.cooldownMs ≤ now - since := by
  induction history with
  | nil =>
      cases h
      contradiction
  | cons entry history ih =>
      rw [List.forall_mem_cons] at hon
      cases h with
      | cons hmove hpath =>
          cases hmove with
          | switchedOff => cases hon.1
          | cools _ _ hpause => exact ⟨_, List.mem_cons_self, _, rfl, hpause⟩
          | stays =>
              -- the pause goes on, as no other move leaves it
              obtain ⟨found, hmem, hfound⟩ := ih hpath hon.2
              exact ⟨found, List.mem_cons_of_mem entry hmem, hfound⟩

/-- The end of a command is reported by a step that finds it over, and opens a pause. -/
theorem Moves.of_finished {entry : Entry} {stage' : Stage} (h : Moves config stage entry stage')
    {sample : InertialSample} {now : UInt32} {command : Command} {timedOut : Bool}
    (hstepped : entry.stepped? = some (sample, now, .commandFinished command timedOut)) :
    (∃ axis started tilted, stage = .executing command axis started tilted) ∧
      stage' = .cooldown now := by
  cases h with
  | finishes =>
      cases hstepped
      exact ⟨⟨_, _, _, rfl⟩, rfl⟩
  | stays _ _ hnone =>
      rw [Entry.finished?, hstepped] at hnone
      contradiction
  | switchedOff => contradiction
  | begins => contradiction
  | goesOn => cases hstepped
  | cools => cases hstepped

/-- A step of a command reports its progress. -/
theorem Moves.of_flying {entry : Entry} {stage' : Stage} {command : Command} {axis : Axis}
    {started : UInt32} {tilted : Bool}
    (h : Moves config (.executing command axis started tilted) entry stage')
    {sample : InertialSample} {now : UInt32} {event : MotionEvent}
    (hstepped : entry.stepped? = some (sample, now, event)) :
    event = match progress config (sample.attitude.tilt? axis) tilted (now - started) with
      | .finished timedOut => .commandFinished command timedOut
      | .underway _ => .integrated axis := by
  cases h with
  | goesOn _ hprogress =>
      cases hstepped
      rw [hprogress]
  | finishes _ hprogress =>
      cases hstepped
      rw [hprogress]
  | stays _ _ _ _ hflown =>
      rw [hflown rfl] at hstepped
      contradiction
  | switchedOff => contradiction

/-! ## The law -/

/-- The time after which a command along an axis is over. -/
def timeLimit (config : MotionConfig) (axis : Axis) : UInt32 :=
  if axis.isLateral then config.lateralTimeoutMs else config.verticalDurationMs

/-- The tilt reached the threshold in one of these steps and is below it now. -/
def HasSettled (config : MotionConfig) (axis : Axis) (steps : List Entry) (sample : InertialSample) :
    Prop :=
  (∃ entry ∈ steps, entry.reaches config axis = true) ∧ reaches config axis sample = false

/-- The event of a step of a command along an axis, given the steps before it and the time flown. -/
structure Verdict (config : MotionConfig) (command : Command) (axis : Axis) (steps : List Entry)
    (sample : InertialSample) (elapsed : UInt32) (event : MotionEvent) : Prop where
  /-- A lateral command ends when it has settled, and else after its time. -/
  lateral : axis.isLateral = true →
    (event = .commandFinished command false ↔ HasSettled config axis steps sample) ∧
    (event = .commandFinished command true ↔
      ¬ HasSettled config axis steps sample ∧ config.lateralTimeoutMs ≤ elapsed)
  /-- A vertical command ends after its time, which is no timeout. -/
  vertical : axis.isLateral = false →
    (event = .commandFinished command false ↔ config.verticalDurationMs ≤ elapsed) ∧
    event ≠ .commandFinished command true
  /-- No other command ends. -/
  own : ∀ other timedOut, event = .commandFinished other timedOut → other = command

/-- What a history says of the commands in it. -/
structure LifeCycle (config : MotionConfig) (history : List Entry) : Prop where
  /-- Between two commands that begin one after the other, the first ends once, unless the model was
  switched off. -/
  exclusive : ∀ before first between second after command started,
    history = before ++ first :: between ++ second :: after →
    first.begun? = some (command, started) → second.begun?.isSome = true →
    (∀ entry ∈ between, entry.begun? = none) →
    (∃ entry ∈ between, entry.isSwitchOff = true) ∨ between.filterMap Entry.finished? = [command]
  /-- Between the end of a command and the beginning of another, a step at the end of the pause reports
  it, unless the model was switched off. -/
  pause : ∀ before last between next after sample time command timedOut,
    history = before ++ last :: between ++ next :: after →
    last.stepped? = some (sample, time, .commandFinished command timedOut) →
    next.begun?.isSome = true →
    (∃ entry ∈ between, entry.isSwitchOff = true) ∨
      ∃ entry ∈ between, ∃ now, entry.cooled? = some now ∧ config.cooldownMs ≤ now - time
  /-- A command that has ended has begun, and nothing cut it short. -/
  origin : ∀ before last after command,
    history = before ++ last :: after → last.finished? = some command →
    ∃ prior first between started, before = prior ++ first :: between ∧
      first.begun? = some (command, started) ∧ Uninterrupted between
  /-- Each step of a command goes by its readings and the time. -/
  verdict : ∀ before first between last after command started sample now event,
    history = before ++ first :: between ++ last :: after →
    first.begun? = some (command, started) → Uninterrupted between →
    last.stepped? = some (sample, now, event) →
    ∃ axis, command.axis? = some axis ∧
      Verdict config command axis between sample (now - started) event

theorem verdict_of_progress {command : Command} {axis : Axis} {steps : List Entry}
    {sample : InertialSample} {elapsed : UInt32} {event : MotionEvent}
    (h : event = match progress config (sample.attitude.tilt? axis)
        (steps.any (Entry.reaches config axis)) elapsed with
      | .finished timedOut => .commandFinished command timedOut
      | .underway _ => .integrated axis) :
    Verdict config command axis steps sample elapsed event := by
  have hsettled : HasSettled config axis steps sample ↔
      steps.any (Entry.reaches config axis) = true ∧ reaches config axis sample = false := by
    rw [HasSettled, List.any_eq_true]
  refine ⟨fun haxis => ?_, fun haxis => ?_, fun other timedOut hevent => ?_⟩
  · rw [hsettled, h, progress_of_lateral haxis]
    grind
  · rw [h, progress_of_vertical haxis]
    grind
  · rw [h] at hevent
    split at hevent
    · cases hevent
      rfl
    · contradiction

/-- If no entry switches the model off, each leaves it on. -/
theorem or_forall_isSwitchOff (entries : List Entry) :
    (∃ entry ∈ entries, entry.isSwitchOff = true) ∨ ∀ entry ∈ entries, entry.isSwitchOff = false := by
  by_cases hoff : ∃ entry ∈ entries, entry.isSwitchOff = true
  · exact .inl hoff
  · right
    intro entry hentry
    exact Bool.eq_false_of_not_eq_true fun htrue => hoff ⟨entry, hentry, htrue⟩

/-- Every path from rest obeys the law. -/
theorem lifeCycle_of_path (h : Path config .idle history last) : LifeCycle config history := by
  constructor
  case exclusive =>
    rintro before first between second after command started rfl hfirst hsecond hbegun
    obtain ⟨start, opened, closed, next, hopen, hbetween, hclose⟩ := path_between h
    obtain ⟨⟨again, now⟩, hsecond⟩ := Option.isSome_iff_exists.1 hsecond
    obtain ⟨-, axis, -, rfl⟩ := hopen.of_begun hfirst
    obtain ⟨rfl, -⟩ := hclose.of_begun hsecond
    exact (or_forall_isSwitchOff between).imp_right fun hon => path_to_idle hbetween hon hbegun
  case pause =>
    rintro before last between next after sample time command timedOut rfl hlast hnext
    obtain ⟨start, opened, closed, _, hopen, hbetween, hclose⟩ := path_between h
    obtain ⟨⟨again, now⟩, hnext⟩ := Option.isSome_iff_exists.1 hnext
    obtain ⟨-, rfl⟩ := hopen.of_finished hlast
    obtain ⟨rfl, -⟩ := hclose.of_begun hnext
    exact (or_forall_isSwitchOff between).imp_right fun hon =>
      path_of_pause hbetween (fun hsame => by cases hsame) hon
  case origin =>
    rintro before last after command rfl hlast
    obtain ⟨stage, hbefore, hrest⟩ := path_append_iff.1 h
    obtain ⟨sample, now, timedOut, hstepped⟩ := Entry.finished?_eq_some_iff.1 hlast
    cases hrest with
    | cons hmove =>
        obtain ⟨⟨axis, started, tilted, rfl⟩, -⟩ := hmove.of_finished hstepped
        obtain ⟨prior, first, between, hsplit⟩ := exists_begun hbefore
        exact ⟨prior, first, between, started, hsplit⟩
  case verdict =>
    rintro before first between last after command started sample now event rfl hfirst hquiet hlast
    obtain ⟨start, opened, closed, next, hopen, hbetween, hclose⟩ := path_between h
    obtain ⟨-, axis, haxis, rfl⟩ := hopen.of_begun hfirst
    -- the stage remembers whether one of the steps between reached the threshold
    have hstage := path_uninterrupted hbetween hquiet
    rw [Bool.false_or] at hstage
    rw [hstage] at hclose
    exact ⟨axis, haxis, verdict_of_progress (hclose.of_flying hlast)⟩

/-- A command that is flown on after a step has time left. -/
theorem lt_timeLimit {sample : InertialSample} {dt : Float32} {now : UInt32} {event : MotionEvent}
    {command : Command} {axis : Axis} {started : UInt32} {tilted : Bool}
    (h : Moves config stage (.step sample dt now, .stepped (.ok event))
      (.executing command axis started tilted)) : now - started < timeLimit config axis := by
  cases h with
  | goesOn _ hprogress =>
      cases haxis : axis.isLateral with
      | true =>
          rw [progress_of_lateral haxis] at hprogress
          grind [timeLimit, UInt32.not_le]
      | false =>
          rw [progress_of_vertical haxis] at hprogress
          grind [timeLimit, UInt32.not_le]
  | stays _ _ _ _ hflown => cases hflown rfl

/-- **The life of a command.** In every run of a new model commands follow one another as
`LifeCycle` says, and a step that leaves a command flying leaves it within its time. -/
theorem lifeCycle_run {start : MotionModel} (hcreate : create config = .ok start)
    (calls : List Call) :
    LifeCycle config (Run.history perform start calls) ∧
      ∀ sample dt now event next,
        (Run.final perform start calls).step sample dt now = .ok (event, next) →
        ∀ command axis started tilted, next.state.stage = .executing command axis started tilted →
          now - started < timeLimit config axis := by
  have hcoherent := coherent_create hcreate
  have hidle : start.state.stage = .idle := by
    obtain ⟨-, rfl⟩ := create_eq_ok_iff.1 hcreate
    rfl
  constructor
  · have hpath := path_run hcoherent calls
    rw [hidle] at hpath
    exact lifeCycle_of_path hpath
  · intro sample dt now event next hstep command axis started tilted hstage
    have hmove := moves_step (hcoherent.run calls) hstep
    rw [hstage] at hmove
    exact lt_timeLimit hmove

/-- The climb is one command that lives its life. -/
theorem lifeCycle_climb :
    create climbConfig = .ok { config := climbConfig, state := {} } ∧
      LifeCycle climbConfig (Run.history perform { config := climbConfig, state := {} } climb) ∧
      (Run.history perform { config := climbConfig, state := {} } climb).filterMap Entry.finished?
        = [.up] := by
  have hrun := lifeCycle_run create_climbConfig climb
  exact ⟨create_climbConfig, hrun.1, by decide +kernel⟩

end LightPilot.MotionModel
