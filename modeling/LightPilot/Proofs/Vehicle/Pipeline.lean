import LightPilot.Proofs.Vehicle.LinkTask
import LightPilot.Vehicle.Vehicle

set_option autoImplicit false

/-! # The steps of sampling and decoding

Sampling preempts decoding. A run of the link task looks at the shared buffers several times: it takes
one window after the other until none waits, and then reads the tick once more for its poll. Each look,
with what the task does on its own afterwards, is one step here (`Pipeline.linkStep`), and ticks of
sampling may fall between any two steps. Without ticks the steps are a run of the task
(`Pipeline.linkSteps_run`). -/

namespace LightPilot

/-- The vehicle between two steps of its sampling and link tasks. -/
structure Pipeline where
  vehicle : Vehicle
  /-- The link task has found no window and has its poll left. -/
  closing : Bool := false

namespace Pipeline

/-- The sample buffers. -/
def samples (p : Pipeline) : SampleBuffers windowSize :=
  p.vehicle.shared.samples

/-- The receiver of the link task. -/
def receiver (p : Pipeline) : Receiver windowSize historyCapacity :=
  p.vehicle.link.receiver

@[simp]
theorem samples_mk (vehicle : Vehicle) (closing : Bool) :
    samples ⟨vehicle, closing⟩ = vehicle.shared.samples := rfl

@[simp]
theorem receiver_mk (vehicle : Vehicle) (closing : Bool) :
    receiver ⟨vehicle, closing⟩ = vehicle.link.receiver := rfl

/-- The next step of one of the two tasks. -/
inductive Move
  | tick (reading : Option Float32)
  | link

/-- What a step did. -/
inductive Event
  | ticked (outcome? : Option PushOutcome)
  | took (window : Window windowSize) (now : UInt32) (report : WindowReport)
  | exhausted
  | polled (now : UInt32) (dropped : Bool)

/-- The next step of the link task: it takes a window, or finds none, or polls and ends its run. -/
def linkStep (p : Pipeline) : Event × Pipeline :=
  let now := p.samples.ticks
  if p.closing then
    let (dropped, receiver) := p.receiver.pollTimeout now
    (.polled now dropped, { vehicle := { p.vehicle with link := ⟨receiver⟩ } })
  else
    match p.samples.take, p.vehicle.link.takeWindow p.vehicle.shared with
    | some (window, _), some (report, link, shared) =>
      (.took window now report, { vehicle := { p.vehicle with link, shared } })
    | _, _ => (.exhausted, { p with closing := true })

/-- Makes one step. -/
def perform (p : Pipeline) : Move → Event × Pipeline
  | .tick reading =>
    let (outcome?, vehicle) := p.vehicle.sample reading
    (.ticked outcome?, { p with vehicle })
  | .link => p.linkStep

def Move.reading? : Move → Option Float32
  | .tick reading => reading
  | .link => none

def Event.window? : Event → Option (Window windowSize)
  | .took window _ _ => some window
  | _ => none

def Event.outcome? : Event → Option FrameOutcome
  | .took _ _ report => some report.outcome
  | _ => none

/-- The readings among the moves, in order. -/
def readings (moves : List Move) : List Float32 :=
  moves.filterMap Move.reading?

/-- The windows processed, in order. -/
def windows (events : List Event) : List (Window windowSize) :=
  events.filterMap Event.window?

/-- The outcomes of the windows processed, in order. -/
def outcomes (events : List Event) : List FrameOutcome :=
  events.filterMap Event.outcome?

/-- The conditioned samples of readings. -/
def stream (config : VehicleConfig) (readings : List Float32) : List Float32 :=
  Run.answers Conditioner.condition (Conditioner.ofConfig config.link) readings

/-- Whether an event is no tick without a sample stored. -/
def Event.isGapless : Event → Bool
  | .ticked none => false
  | .ticked (some outcome) => outcome ≠ .dropped
  | _ => true

/-- The events from the start of the vehicle on. -/
def events (vehicle : Vehicle) (moves : List Move) : List Event :=
  Run.answers perform { vehicle } moves

/-- The state that the moves leave. -/
def last (vehicle : Vehicle) (moves : List Move) : Pipeline :=
  Run.final perform { vehicle } moves

variable {vehicle : Vehicle} {p : Pipeline}

theorem sample_some {raw value : Float32} {conditioner : Conditioner}
    (hcondition : vehicle.sampling.conditioner.condition raw = (value, conditioner)) :
    vehicle.sample (some raw) = (some (vehicle.shared.samples.push value).1, { vehicle with
      sampling := ⟨conditioner⟩
      shared := { vehicle.shared with samples := (vehicle.shared.samples.push value).2 } }) := by
  rw [Vehicle.sample, SamplingTask.tick, hcondition]

@[simp]
theorem readings_snoc (moves : List Move) (move : Move) :
    readings (moves ++ [move]) = readings moves ++ move.reading?.toList := by
  cases hreading : move.reading? <;> simp [readings, hreading]

@[simp]
theorem windows_snoc (log : List Event) (event : Event) :
    windows (log ++ [event]) = windows log ++ event.window?.toList := by
  cases hwindow : event.window? <;> simp [windows, hwindow]

@[simp]
theorem outcomes_snoc (log : List Event) (event : Event) :
    outcomes (log ++ [event]) = outcomes log ++ event.outcome?.toList := by
  cases houtcome : event.outcome? <;> simp [outcomes, houtcome]

/-! ## One step -/

/-- Everything a step of the link task can do. -/
theorem linkStep_cases (h : p.samples.Ordered) :
    (p.closing = true ∧
      p.linkStep = (.polled p.samples.ticks (p.receiver.pollTimeout p.samples.ticks).1,
        { vehicle := { p.vehicle with link := ⟨(p.receiver.pollTimeout p.samples.ticks).2⟩ } })) ∨
    (p.closing = false ∧ p.samples.waiting = [] ∧
      p.vehicle.link.takeWindow p.vehicle.shared = none ∧
      p.linkStep = (.exhausted, { p with closing := true })) ∨
    (p.closing = false ∧ ∃ window report shared',
      p.vehicle.link.takeWindow p.vehicle.shared = some (report, ⟨report.after⟩, shared') ∧
      p.linkStep = (.took window p.samples.ticks report,
        { vehicle := { p.vehicle with link := ⟨report.after⟩, shared := shared' } }) ∧
      report.before = p.receiver ∧
      p.receiver.process window p.samples.ticks = (report.outcome, report.after) ∧
      shared'.samples.Ordered ∧ p.samples.waiting = window :: shared'.samples.waiting ∧
      shared'.samples.begun = p.samples.begun ∧ shared'.samples.ticks = p.samples.ticks) := by
  cases hclosing : p.closing with
  | true => exact .inl ⟨rfl, by rw [linkStep, hclosing, if_pos rfl]⟩
  | false =>
      refine .inr ?_
      rcases p.vehicle.link.takeWindow_cases h with ⟨hwaiting, htake, hnone⟩ |
        ⟨window, report, shared', htake, hsome, hbefore, hprocess, hordered, hwaiting, hbegun, hticks, -⟩
      · have hstep : p.linkStep = (.exhausted, { p with closing := true }) := by
          rw [linkStep, hclosing, if_neg Bool.false_ne_true, samples, htake]
        exact .inl ⟨rfl, hwaiting, hnone, hstep⟩
      · have hstep : p.linkStep = (.took window p.samples.ticks report,
            { vehicle := { p.vehicle with link := ⟨report.after⟩, shared := shared' } }) := by
          rw [linkStep, hclosing, if_neg Bool.false_ne_true, samples, htake, hsome]
        exact .inr ⟨rfl, window, report, shared', hsome, hstep, hbefore, hprocess, hordered, hwaiting,
          hbegun, hticks⟩

/-! ## A run of the link task -/

/-- Steps of the link task with no tick in between take the windows that `LinkTask.takeWindowsAs` takes
with the ear of the vehicle. -/
theorem linkSteps_takeWindowsAs (count : Nat) {v : Vehicle} (h : v.shared.samples.Ordered)
    (hcount : v.shared.samples.waiting.length ≤ count) :
    Run.final perform { vehicle := v } (List.replicate v.shared.samples.waiting.length .link)
        = { vehicle := { v with
              link := (LinkTask.takeWindowsAs .peak count v.link v.shared).2.1
              shared := (LinkTask.takeWindowsAs .peak count v.link v.shared).2.2 } } ∧
      outcomes (Run.answers perform { vehicle := v }
          (List.replicate v.shared.samples.waiting.length .link))
        = (LinkTask.takeWindowsAs .peak count v.link v.shared).1.map WindowReport.outcome := by
  induction count generalizing v with
  | zero =>
      rw [Nat.le_zero.1 hcount]
      exact ⟨rfl, rfl⟩
  | succ count ih =>
      rw [LinkTask.takeWindowsAs]
      rcases linkStep_cases (p := { vehicle := v }) h with ⟨hclosing, -⟩ | ⟨-, hwaiting, hnone, -⟩ |
        ⟨-, window, report, shared, htake, hstep, -, -, hordered, hwaiting, -, -⟩
      · contradiction
      · change v.shared.samples.waiting = [] at hwaiting
        change v.link.takeWindowAs .peak v.shared = none at hnone
        rw [hwaiting, hnone]
        exact ⟨rfl, rfl⟩
      · change v.shared.samples.waiting = _ at hwaiting
        change v.link.takeWindowAs .peak v.shared = _ at htake
        rw [hwaiting, List.length_cons] at hcount
        obtain ⟨hfinal, houtcomes⟩ := ih (v := { v with link := ⟨report.after⟩, shared })
          hordered (Nat.le_of_succ_le_succ hcount)
        rw [hwaiting, List.length_cons, List.replicate_succ, Run.final, Run.answers, perform, hstep,
          htake]
        refine ⟨hfinal, ?_⟩
        rw [List.map_cons, ← houtcomes]
        rfl

/-- Once no window waits, the link task notices and polls. -/
theorem linkSteps_poll {v : Vehicle} (h : v.shared.samples.Ordered)
    (hempty : v.shared.samples.waiting = []) :
    Run.answers perform { vehicle := v } [.link, .link] = [.exhausted,
        .polled v.shared.samples.ticks (v.link.receiver.pollTimeout v.shared.samples.ticks).1] ∧
      Run.final perform { vehicle := v } [.link, .link] = { vehicle := { v with
        link := ⟨(v.link.receiver.pollTimeout v.shared.samples.ticks).2⟩ } } := by
  rcases linkStep_cases (p := { vehicle := v }) h with ⟨hclosing, -⟩ | ⟨-, -, -, hstep⟩ |
    ⟨-, window, report, shared, -, -, -, -, -, hwaiting, -, -⟩
  · contradiction
  · rw [Run.answers, Run.final, perform, hstep]
    exact ⟨rfl, rfl⟩
  · exact absurd (hempty.symm.trans hwaiting) (List.cons_ne_nil _ _).symm

/-- A run of the link task that no tick interrupts is `Vehicle.decode`. -/
theorem linkSteps_run {v : Vehicle} (h : v.shared.samples.Ordered) :
    ∃ earlier,
      Run.answers perform { vehicle := v }
          (List.replicate (v.shared.samples.waiting.length + 2) .link)
        = earlier ++ [.polled v.decode.1.endTick v.decode.1.timedOut] ∧
      outcomes earlier = v.decode.1.windows.map WindowReport.outcome ∧
      Run.final perform { vehicle := v }
          (List.replicate (v.shared.samples.waiting.length + 2) .link) = { vehicle := v.decode.2 } := by
  have hwaiting := SampleBuffers.length_waiting_le v.shared.samples
  obtain ⟨hfinal, houtcomes⟩ := linkSteps_takeWindowsAs 2 h hwaiting
  have hempty := LinkTask.samples_takeWindowsAs .peak 2 v.link h hwaiting
  obtain ⟨hanswers, hlast⟩ := linkSteps_poll (v := { v with
    link := (LinkTask.takeWindowsAs .peak 2 v.link v.shared).2.1
    shared := (LinkTask.takeWindowsAs .peak 2 v.link v.shared).2.2 }) hempty.ordered hempty.waiting
  refine ⟨Run.answers perform { vehicle := v }
    (List.replicate v.shared.samples.waiting.length .link) ++ [.exhausted], ?_, ?_, ?_⟩
  · rw [List.replicate_add, Run.answers_append, hfinal, List.append_assoc]
    exact congrArg _ hanswers
  · rw [outcomes_snoc, houtcomes]
    exact List.append_nil _
  · rw [List.replicate_add, Run.final_append, hfinal]
    exact hlast

theorem exists_ends (h : p.samples.Ordered) :
    ∃ count ≤ 4, ∃ earlier now dropped,
      Run.answers perform p (List.replicate count .link) = earlier ++ [.polled now dropped] := by
  cases hclosing : p.closing with
  | true =>
      have hstep : p.linkStep.1
          = .polled p.samples.ticks (p.receiver.pollTimeout p.samples.ticks).1 := by
        rw [linkStep, hclosing, if_pos rfl]
      exact ⟨1, by decide, [], _, _, congrArg (· :: []) hstep⟩
  | false =>
      obtain ⟨v, closing⟩ := p
      cases hclosing
      obtain ⟨earlier, hanswers, -⟩ := linkSteps_run h
      have hwaiting := SampleBuffers.length_waiting_le v.shared.samples
      exact ⟨_, Nat.add_le_add_right hwaiting 2, earlier, _, _, hanswers⟩

/-! ## Schedules -/

/-- Whether every tick of a schedule finds room, with `backlog` samples in the buffers at first. -/
def fits : (backlog : Nat) → (closing : Bool) → List Move → Bool
  | _, _, [] => true
  | _, _, .tick none :: _ => false
  | backlog, closing, .tick (some _) :: moves =>
    decide (backlog < 2 * windowSize) && fits (backlog + 1) closing moves
  | backlog, true, .link :: moves => fits backlog false moves
  | backlog, false, .link :: moves =>
    if windowSize ≤ backlog then fits (backlog - windowSize) false moves else fits backlog true moves

/-- Whether all ticks store their samples is a matter of counting. -/
theorem all_isGapless (h : p.samples.Ordered) (moves : List Move) :
    (Run.answers perform p moves).all Event.isGapless = fits p.samples.backlog p.closing moves := by
  induction moves generalizing p with
  | nil => rfl
  | cons move moves ih =>
      rw [Run.answers, List.all_cons]
      cases move with
      | tick reading =>
          cases reading with
          | none => rfl
          | some raw =>
              obtain ⟨value, conditioner, hcondition⟩ : ∃ value conditioner,
                  p.vehicle.sampling.conditioner.condition raw = (value, conditioner) := ⟨_, _, rfl⟩
              have hle := h.backlog_le (by decide)
              have hdropped := SampleBuffers.push_eq_dropped_iff_backlog (by decide) h value
              rw [perform, sample_some hcondition, fits]
              by_cases hfull : p.samples.backlog = 2 * windowSize
              · have hlost : (p.vehicle.shared.samples.push value).1 = .dropped := hdropped.2 hfull
                simp [Event.isGapless, hlost, hfull]
              · have hkept : (p.vehicle.shared.samples.push value).1 ≠ .dropped := mt hdropped.1 hfull
                have hnext := SampleBuffers.backlog_push (by decide) h hkept
                have hordered := (SampleBuffers.queue_push (by decide) p.samples h value).1
                have hrest := ih (p := { p with vehicle := { p.vehicle with
                  sampling := ⟨conditioner⟩
                  shared := { p.vehicle.shared with samples := (p.samples.push value).2 } } }) hordered
                have hgapless : Event.isGapless (.ticked (some (p.samples.push value).1)) = true :=
                  decide_eq_true hkept
                rw [← hnext, decide_eq_true (Nat.lt_of_le_of_ne hle hfull), ← samples, hgapless]
                exact hrest
      | link =>
          rw [perform]
          rcases linkStep_cases h with ⟨hclosing, hstep⟩ | ⟨hclosing, hwaiting, -, hstep⟩ |
            ⟨hclosing, window, report, shared, -, hstep, -, -, hordered, hwaiting, hbegun, -⟩
          · rw [hstep, hclosing, fits]
            exact ih (p := { vehicle := { p.vehicle with
              link := ⟨(p.receiver.pollTimeout p.samples.ticks).2⟩ } }) h
          · have hbacklog : p.samples.backlog < windowSize := by
              rw [SampleBuffers.backlog_of_waiting_nil hwaiting]
              exact h.length_begun_lt (by decide)
            rw [hstep, hclosing, fits, if_neg (Nat.not_le.2 hbacklog)]
            exact ih (p := { p with closing := true }) h
          · have hbacklog := SampleBuffers.backlog_of_waiting hwaiting hbegun
            rw [hstep, hclosing, fits, hbacklog, if_pos (Nat.le_add_left ..), Nat.add_sub_cancel]
            exact ih (p := { vehicle := { p.vehicle with link := ⟨report.after⟩, shared } }) hordered

end Pipeline

end LightPilot
