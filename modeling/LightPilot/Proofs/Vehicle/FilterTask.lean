import LightPilot.Proofs.Run
import LightPilot.Vehicle.FilterTask

set_option autoImplicit false

/-! # When an observation is made

The filter task keeps two latches, one for each line, and the color and time of its last resample. All of
them are told by the runs so far: a latch says whether its line has fallen since the last color was taken,
and the schedule holds the last run that resampled (`FilterTask.Remembers`). So the history alone decides
what the next run does (`FilterTask.resamplesWhenDue_run`). -/

namespace LightPilot

/-- A color is due unless it is ambient, or was resampled on last and not long enough ago. -/
theorem ResampleSchedule.isDue_iff (schedule : ResampleSchedule) (color : UInt8) (now : UInt32) :
    schedule.isDue color now = true ↔ color < ambient ∧
      ∀ last ∈ schedule.last?, color ≠ last.1 ∨ schedule.intervalMs ≤ now - last.2 := by
  unfold isDue
  by_cases hambient : ambient ≤ color
  · simp [hambient, UInt8.not_lt.2 hambient]
  · rw [if_neg hambient, and_iff_right (UInt8.not_le.1 hambient)]
    cases schedule.last? with
    | none => simp
    | some last => simp

namespace FilterTask

/-! ## One run -/

/-- What a run meets: the edges on both lines, the color there is to see, the time and the swarm. -/
structure Poll where
  left : Option Edge
  right : Option Edge
  color : UInt8
  now : UInt32
  {n : Nat}
  population : Population n

/-- What a run did. -/
structure Report where
  /-- The color taken, if both channels were ready. -/
  taken? : Option UInt8
  /-- What the resample did, if one was made. -/
  outcome? : Option ResampleOutcome

/-- Makes one run. -/
def perform (task : FilterTask) (poll : Poll) : Report × FilterTask :=
  let ran := task.run poll.left poll.right poll.color poll.now poll.population
  ({ taken? := (task.intake.poll poll.left poll.right poll.color).1, outcome? := ran.1 }, ran.2.1)

/-- The swarm that a run leaves. -/
def swarmAfter (task : FilterTask) (poll : Poll) : Population poll.n :=
  (task.run poll.left poll.right poll.color poll.now poll.population).2.2

/-- The channels with new data in a run. -/
def noticed (task : FilterTask) (poll : Poll) : ColorIntake :=
  task.intake.notice poll.left poll.right

/-- The courses that a run can take: the report, the task and the swarm afterwards. -/
inductive Course (task : FilterTask) (poll : Poll) :
    Report → FilterTask → Population poll.n → Prop
  /-- A channel is not ready. -/
  | waits (hwaits : ¬ ((task.noticed poll).leftReady = true ∧ (task.noticed poll).rightReady = true)) :
      Course task poll ⟨none, none⟩ { task with intake := task.noticed poll } poll.population
  /-- A color is taken and not resampled on. -/
  | passes (hready : (task.noticed poll).leftReady = true ∧ (task.noticed poll).rightReady = true)
      (hdue : ¬ task.schedule.isDue poll.color poll.now = true) :
      Course task poll ⟨some poll.color, none⟩
        { task with intake := {}, detectedColor := poll.color } poll.population
  | resamples (hready : (task.noticed poll).leftReady = true ∧ (task.noticed poll).rightReady = true)
      (hdue : task.schedule.isDue poll.color poll.now = true) :
      Course task poll ⟨some poll.color, some (poll.population.observe poll.color).1⟩
        { intake := {}, detectedColor := poll.color
          schedule := task.schedule.mark poll.color poll.now }
        (poll.population.observe poll.color).2

theorem course_perform (task : FilterTask) (poll : Poll) :
    Course task poll (task.perform poll).1 (task.perform poll).2 (task.swarmAfter poll) := by
  by_cases hready : (task.noticed poll).leftReady = true ∧ (task.noticed poll).rightReady = true
  · have htakes : task.intake.poll poll.left poll.right poll.color = (some poll.color, {}) :=
      if_pos (by simpa [noticed] using hready)
    by_cases hdue : task.schedule.isDue poll.color poll.now = true
    · have hcourse := Course.resamples hready hdue
      simpa [perform, swarmAfter, run, htakes, hdue] using hcourse
    · have hcourse := Course.passes hready hdue
      simpa [perform, swarmAfter, run, htakes, hdue] using hcourse
  · have hwaits : task.intake.poll poll.left poll.right poll.color = (none, task.noticed poll) :=
      if_neg (by simpa [noticed] using hready)
    have hcourse := Course.waits hready
    simpa [perform, swarmAfter, run, hwaits] using hcourse

/-! ## What the runs so far tell -/

/-- Runs with their reports. -/
abbrev History : Type := List (Poll × Report)

/-- The runs since the last one that took a color. -/
def sinceTaken (history : History) : List Poll :=
  (history.rtakeWhile fun entry => entry.2.taken?.isNone).map Prod.fst

/-- The last run that resampled. -/
def lastResample? (history : History) : Option Poll :=
  ((history.filter fun entry => entry.2.outcome?.isSome).getLast?).map Prod.fst

/-- A line has fallen in one of these runs. -/
def HasFallen (line : Poll → Option Edge) (polls : List Poll) : Prop :=
  ∃ poll ∈ polls, line poll = some .falling

theorem not_hasFallen_nil (line : Poll → Option Edge) : ¬ HasFallen line [] := by
  simp [HasFallen]

theorem hasFallen_snoc {line : Poll → Option Edge} {polls : List Poll} {poll : Poll} :
    HasFallen line (polls ++ [poll]) ↔ HasFallen line polls ∨ line poll = some .falling := by
  simp [HasFallen, or_and_right, exists_or]

theorem sinceTaken_snoc_of_none (history : History) (poll : Poll) (outcome? : Option ResampleOutcome) :
    sinceTaken (history ++ [(poll, ⟨none, outcome?⟩)]) = sinceTaken history ++ [poll] := by
  simp [sinceTaken]

theorem sinceTaken_snoc_of_some (history : History) (poll : Poll) (color : UInt8)
    (outcome? : Option ResampleOutcome) :
    sinceTaken (history ++ [(poll, ⟨some color, outcome?⟩)]) = [] := by
  simp [sinceTaken]

theorem lastResample?_snoc_of_none (history : History) (poll : Poll) (taken? : Option UInt8) :
    lastResample? (history ++ [(poll, ⟨taken?, none⟩)]) = lastResample? history := by
  simp [lastResample?]

theorem lastResample?_snoc_of_some (history : History) (poll : Poll) (taken? : Option UInt8)
    (outcome : ResampleOutcome) :
    lastResample? (history ++ [(poll, ⟨taken?, some outcome⟩)]) = some poll := by
  simp [lastResample?]

/-- What a task that has made these runs remembers of them. -/
structure Remembers (config : FilterConfig) (history : History) (task : FilterTask) : Prop where
  left : task.intake.leftReady = true ↔ HasFallen Poll.left (sinceTaken history)
  right : task.intake.rightReady = true ↔ HasFallen Poll.right (sinceTaken history)
  interval : task.schedule.intervalMs = config.resampleIntervalMs
  last : task.schedule.last? = (lastResample? history).map fun poll => (poll.color, poll.now)

variable {config : FilterConfig} {history : History} {task : FilterTask}

theorem remembers_ofConfig (config : FilterConfig) : Remembers config [] (ofConfig config) := by
  exact ⟨by simp [ofConfig, sinceTaken, not_hasFallen_nil],
    by simp [ofConfig, sinceTaken, not_hasFallen_nil], rfl, rfl⟩

/-- The channels with new data are told by the edges since the last color, those of this run included. -/
theorem Remembers.ready_iff (h : Remembers config history task) (poll : Poll) :
    (task.noticed poll).leftReady = true ∧ (task.noticed poll).rightReady = true ↔
      HasFallen Poll.left (sinceTaken history ++ [poll]) ∧
      HasFallen Poll.right (sinceTaken history ++ [poll]) := by
  simp [noticed, ColorIntake.notice, hasFallen_snoc, h.left, h.right]

theorem Remembers.isDue_iff (h : Remembers config history task) (poll : Poll) :
    task.schedule.isDue poll.color poll.now = true ↔ poll.color < ambient ∧
      ∀ last ∈ lastResample? history,
        poll.color ≠ last.color ∨ config.resampleIntervalMs ≤ poll.now - last.now := by
  rw [ResampleSchedule.isDue_iff, h.last, h.interval]
  simp

/-- One more run is remembered too. -/
theorem Remembers.snoc (h : Remembers config history task) {poll : Poll} {report : Report}
    {next : FilterTask} {swarm : Population poll.n} (hcourse : Course task poll report next swarm) :
    Remembers config (history ++ [(poll, report)]) next := by
  cases hcourse with
  | waits hwaits =>
      refine ⟨?_, ?_, h.interval, ?_⟩
      · rw [sinceTaken_snoc_of_none, hasFallen_snoc, ← h.left]
        simp [noticed, ColorIntake.notice]
      · rw [sinceTaken_snoc_of_none, hasFallen_snoc, ← h.right]
        simp [noticed, ColorIntake.notice]
      · rw [lastResample?_snoc_of_none]
        exact h.last
  | passes hready hdue =>
      refine ⟨by simp [sinceTaken_snoc_of_some, not_hasFallen_nil],
        by simp [sinceTaken_snoc_of_some, not_hasFallen_nil], h.interval, ?_⟩
      rw [lastResample?_snoc_of_none]
      exact h.last
  | resamples hready hdue =>
      refine ⟨by simp [sinceTaken_snoc_of_some, not_hasFallen_nil],
        by simp [sinceTaken_snoc_of_some, not_hasFallen_nil], h.interval, ?_⟩
      rw [lastResample?_snoc_of_some]
      rfl

/-! ## Runs -/

/-- What a run of a task with this history has to do, and to leave. -/
structure ResamplesWhenDue (config : FilterConfig) (history : History) (task : FilterTask)
    (poll : Poll) (report : Report) (next : FilterTask) (swarm : Population poll.n) : Prop where
  /-- A color is taken when each line has fallen since the last time, this run included. -/
  takes : report.taken?.isSome ↔
    HasFallen Poll.left (sinceTaken history ++ [poll]) ∧
    HasFallen Poll.right (sinceTaken history ++ [poll])
  /-- It is the color there is to see, and the task shows it from now on. -/
  color : ∀ color, report.taken? = some color → color = poll.color
  shown : next.detectedColor = report.taken?.getD task.detectedColor
  /-- The swarm is resampled on a color that is taken and not ambient, unless it was resampled on last
  and not long enough ago. -/
  resamples : report.outcome?.isSome ↔
    report.taken?.isSome ∧ poll.color < ambient ∧
      ∀ last ∈ lastResample? history,
        poll.color ≠ last.color ∨ config.resampleIntervalMs ≤ poll.now - last.now
  /-- A resample observes the color, and is never skipped. -/
  outcome : ∀ outcome, report.outcome? = some outcome →
    outcome ≠ .skipped ∧ poll.population.observe poll.color = (outcome, swarm)
  /-- Any other run leaves the swarm and the schedule as they are. -/
  untouched : report.outcome? = none → swarm = poll.population ∧ next.schedule = task.schedule

/-- Only the ambient color is skipped. -/
theorem fst_observe_ne_skipped {n : Nat} (population : Population n) {color : UInt8}
    (hcolor : color < ambient) : (population.observe color).1 ≠ .skipped := by
  unfold Population.observe
  rw [if_neg (UInt8.not_le.2 hcolor)]
  dsimp only
  split
  · simp
  · simp

theorem Remembers.resamplesWhenDue (h : Remembers config history task) {poll : Poll}
    {report : Report} {next : FilterTask} {swarm : Population poll.n}
    (hcourse : Course task poll report next swarm) :
    ResamplesWhenDue config history task poll report next swarm := by
  have htakes := h.ready_iff poll
  have hresamples := h.isDue_iff poll
  cases hcourse with
  | waits hwaits =>
      rw [htakes] at hwaits
      exact ⟨by simp [hwaits], by simp, by simp, by simp, by simp, by simp⟩
  | passes hready hdue =>
      rw [htakes] at hready
      rw [hresamples] at hdue
      have hnone : ¬ (none : Option ResampleOutcome).isSome = true := by simp
      exact ⟨by simp [hready], by simp, by simp, iff_of_false hnone fun hboth => hdue hboth.2,
        by simp, by simp⟩
  | resamples hready hdue =>
      rw [htakes] at hready
      rw [hresamples] at hdue
      refine ⟨by simp [hready], by simp, by simp, iff_of_true rfl ⟨rfl, hdue⟩, ?_, by simp⟩
      intro outcome houtcome
      obtain rfl := Option.some.inj houtcome
      exact ⟨fst_observe_ne_skipped poll.population hdue.1, rfl⟩

/-- **A resample is made exactly when it is due.** After any runs of a new task, whatever the lines show,
the color is and the clock says, the edges and resamples of these runs decide what the next one does. -/
theorem resamplesWhenDue_run (config : FilterConfig) (polls : List Poll) (poll : Poll) :
    let history := Run.history perform (ofConfig config) polls
    let task := Run.final perform (ofConfig config) polls
    ResamplesWhenDue config history task poll (task.perform poll).1 (task.perform poll).2
      (task.swarmAfter poll) := by
  have hremembers : Remembers config (Run.history perform (ofConfig config) polls)
      (Run.final perform (ofConfig config) polls) :=
    Run.history_induction (remembers_ofConfig config)
      (fun _ task poll h => h.snoc (task.course_perform poll)) polls
  exact hremembers.resamplesWhenDue (course_perform _ poll)

end FilterTask

end LightPilot
