import LightPilot.Proofs.Link.Promptness
import LightPilot.Proofs.Vehicle.Pipeline
import LightPilot.Proofs.World.Arithmetic

set_option autoImplicit false

/-! # What is decoded does not depend on the schedule

The ticks of sampling may fall between the steps of a run of the link task in any way (`Pipeline`). As
long as each tick stores its sample, the ticks count the samples: those of the windows processed, and the
backlog of at most two windows. So each window is processed after its samples, and each poll comes in time
(`Receiver.InTime`). No poll drops anything, and the outcomes are those of the successive windows of
the conditioned stream, at whatever ticks they are taken. -/

namespace LightPilot

namespace Window

variable {size : Nat}

/-- A stream that begins with these windows is cut into them. -/
theorem cut_samples (windows : List (Window size)) (rest : List Float32) :
    cut size windows.length (SampleBuffers.samples windows ++ rest) = windows := by
  induction windows with
  | nil => rfl
  | cons window windows ih =>
      have hstream : SampleBuffers.samples (window :: windows) ++ rest
          = window.toList ++ (SampleBuffers.samples windows ++ rest) := by
        simp [SampleBuffers.samples]
      have hlength : window.toList.length = size := Vector.length_toList
      have hhead : ((window.toList ++ (SampleBuffers.samples windows ++ rest)).take size).toArray
          = window.toArray := by
        rw [List.take_left' hlength, Vector.toList, Array.toArray_toList]
      rw [hstream, List.length_cons, cut]
      simp only [hhead, Vector.size_toArray, dite_true, List.drop_left' hlength, ih]

theorem cut_prefix_cut {count more : Nat} (h : count ≤ more) (stream : List Float32) :
    cut size count stream <+: cut size more stream := by
  induction count generalizing more stream with
  | zero => exact List.nil_prefix
  | succ count ih =>
      cases more with
      | zero => exact absurd h (Nat.not_succ_le_zero count)
      | succ more =>
          rw [cut, cut]
          split
          · exact List.cons_prefix_cons.2 ⟨rfl, ih (Nat.le_of_succ_le_succ h) _⟩
          · exact List.prefix_rfl

end Window

namespace Pipeline

variable {config : VehicleConfig} {vehicle : Vehicle} {moves : List Move} {log : List Event}
  {p : Pipeline}

/-- What a new vehicle is promised of moves whose ticks all store a sample. -/
structure Undisturbed (config : VehicleConfig) (vehicle : Vehicle) (moves : List Move) : Prop where
  /-- The windows processed are the first blocks of the conditioned stream. -/
  windows : windows (events vehicle moves)
    = Window.cut windowSize (windows (events vehicle moves)).length (stream config (readings moves))
  /-- The samples that follow are in the buffers. -/
  kept : stream config (readings moves)
    = SampleBuffers.samples (Pipeline.windows (events vehicle moves)
        ++ (last vehicle moves).samples.waiting)
      ++ (last vehicle moves).samples.begun
  processed : ∀ window now report, .took window now report ∈ events vehicle moves →
    report.before.process window now = (report.outcome, report.after)
  quiet : ∀ now dropped, .polled now dropped ∈ events vehicle moves → dropped = false
  timeouts : (last vehicle moves).receiver.stats.timeouts = 0
  /-- Without ticks the run of the link task ends after four steps at most. -/
  ends : ∃ count ≤ 4, ∃ earlier now dropped,
    Run.answers perform (last vehicle moves) (List.replicate count .link)
      = earlier ++ [.polled now dropped]
  /-- Other moves on the same stream of readings lead to the same outcomes, as far as both go. -/
  agrees : ∀ other longer, (events vehicle other).all Event.isGapless →
    readings moves <+: longer → readings other <+: longer →
    outcomes (events vehicle moves) <+: outcomes (events vehicle other) ∨
      outcomes (events vehicle other) <+: outcomes (events vehicle moves)

/-! ## The buffers -/

/-- The buffers hold the end of the stream. -/
structure Buffered (config : VehicleConfig) (moves : List Move) (log : List Event) (p : Pipeline) :
    Prop where
  ordered : p.samples.Ordered
  conditioner : p.vehicle.sampling.conditioner
    = Run.final Conditioner.condition (Conditioner.ofConfig config.link) (readings moves)
  kept : stream config (readings moves)
    = SampleBuffers.samples (windows log ++ p.samples.waiting) ++ p.samples.begun
  ticks : p.samples.ticks = UInt32.ofNat (readings moves).length

/-- The ticks count the samples of the windows processed and the backlog. -/
theorem Buffered.length (h : Buffered config moves log p) :
    (readings moves).length = (windows log).length * windowSize + p.samples.backlog := by
  have hlength := congrArg List.length h.kept
  rw [stream, Run.length_answers, List.length_append, SampleBuffers.length_samples,
    List.length_append, Nat.add_mul] at hlength
  rw [hlength, SampleBuffers.backlog, Nat.add_assoc]

theorem Buffered.sample (h : Buffered config moves log p) {raw value : Float32}
    {conditioner : Conditioner}
    (hcondition : p.vehicle.sampling.conditioner.condition raw = (value, conditioner))
    (hkept : (p.samples.push value).1 ≠ .dropped) :
    Buffered config (moves ++ [.tick (some raw)])
      (log ++ [.ticked (some (p.samples.push value).1)])
      { p with vehicle := { p.vehicle with
          sampling := ⟨conditioner⟩
          shared := { p.vehicle.shared with samples := (p.samples.push value).2 } } } := by
  have hreadings : readings (moves ++ [.tick (some raw)]) = readings moves ++ [raw] :=
    readings_snoc ..
  have hstream : stream config (readings moves ++ [raw])
      = stream config (readings moves) ++ [value] := by
    simp [stream, Run.answers_append, ← h.conditioner, Run.answers, hcondition]
  obtain ⟨hordered, hqueue⟩ := SampleBuffers.queue_push (by decide) p.samples h.ordered value
  refine ⟨hordered, ?_, ?_, ?_⟩
  · simp [hreadings, Run.final_append, ← h.conditioner, Run.final, hcondition]
  · rw [hreadings, hstream, h.kept]
    rcases hqueue with ⟨hdropped, -⟩ | ⟨-, hwaiting, hbegun⟩ | ⟨-, hbegun, window, hwindow, hwaiting⟩
    · exact absurd hdropped hkept
    · simp [hwaiting, hbegun, Event.window?]
    · simp [hwaiting, hbegun, Event.window?, SampleBuffers.samples, hwindow]
  · rw [hreadings, List.length_append, UInt32.ofNat_add, ← h.ticks]
    exact SampleBuffers.ticks_push ..

/-- A window is processed after its samples. -/
theorem Buffered.succ_mul_le (h : Buffered config moves log p) {window : Window windowSize}
    {older : List (Window windowSize)} (hwaiting : p.samples.waiting = window :: older) :
    ((windows log).length + 1) * windowSize ≤ (readings moves).length := by
  rw [h.length, SampleBuffers.backlog, hwaiting, List.length_cons, Nat.succ_mul, Nat.succ_mul]
  omega

theorem Buffered.le_add_two_mul (h : Buffered config moves log p) :
    (readings moves).length ≤ ((windows log).length + 2) * windowSize := by
  have hbacklog := h.ordered.backlog_le (by decide)
  rw [h.length, Nat.add_mul]
  exact Nat.add_le_add_left hbacklog _

theorem Buffered.aside (h : Buffered config moves log p) {q : Pipeline} {event : Event}
    (hsamples : q.samples = p.samples) (hsampling : q.vehicle.sampling = p.vehicle.sampling)
    (hevent : event.window? = none) : Buffered config (moves ++ [.link]) (log ++ [event]) q := by
  refine ⟨?_, ?_, ?_, ?_⟩
  · rw [hsamples]
    exact h.ordered
  · simp [hsampling, h.conditioner, Move.reading?]
  · simp [hsamples, hevent, h.kept, Move.reading?]
  · simp [hsamples, h.ticks, Move.reading?]

theorem Buffered.took (h : Buffered config moves log p) {window : Window windowSize} {now : UInt32}
    {report : WindowReport} {link : LinkTask} {shared : SharedState} (hordered : shared.samples.Ordered)
    (hwaiting : p.samples.waiting = window :: shared.samples.waiting)
    (hbegun : shared.samples.begun = p.samples.begun)
    (hticks : shared.samples.ticks = p.samples.ticks) :
    Buffered config (moves ++ [.link]) (log ++ [.took window now report])
      { vehicle := { p.vehicle with link, shared } } := by
  refine ⟨hordered, ?_, ?_, ?_⟩
  · simp [← h.conditioner, Move.reading?]
  · simp [h.kept, hwaiting, hbegun, Move.reading?, Event.window?]
  · simp [hticks, h.ticks, Move.reading?]

/-! ## The receiver -/

/-- The receiver has received the windows as if without a clock, and nothing has timed out. -/
structure Received (config : VehicleConfig) (vehicle : Vehicle) (moves : List Move) (log : List Event)
    (p : Pipeline) : Prop where
  inTime : p.receiver.InTime config.link (windows log).length (readings moves).length
  untimed : p.receiver.untimed
    = Run.final Receiver.processUntimed vehicle.link.receiver (windows log)
  outcomes : outcomes log = Run.answers Receiver.processUntimed vehicle.link.receiver (windows log)
  timeouts : p.receiver.stats.timeouts = 0
  processed : ∀ window now report, .took window now report ∈ log →
    report.before.process window now = (report.outcome, report.after)
  quiet : ∀ now dropped, .polled now dropped ∈ log → dropped = false

theorem Received.aside (h : Received config vehicle moves log p) (move : Move) {q : Pipeline}
    {event : Event} (hreceiver : q.receiver = p.receiver)
    (hevent : event = .exhausted ∨ ∃ outcome?, event = .ticked outcome?) :
    Received config vehicle (moves ++ [move]) (log ++ [event]) q := by
  have hwindow : event.window? = none := by rcases hevent with rfl | ⟨outcome?, rfl⟩ <;> rfl
  have houtcome : event.outcome? = none := by rcases hevent with rfl | ⟨outcome?, rfl⟩ <;> rfl
  have hlater : (readings moves).length ≤ (readings (moves ++ [move])).length := by simp
  refine ⟨?_, ?_, ?_, ?_, ?_, ?_⟩
  · simpa [hreceiver, hwindow] using h.inTime.later hlater
  · simp [hreceiver, hwindow, h.untimed]
  · simp [houtcome, hwindow, h.outcomes]
  · rw [hreceiver, h.timeouts]
  · intro window now report hmem
    refine h.processed window now report ?_
    rcases hevent with rfl | ⟨outcome?, rfl⟩ <;> simpa using hmem
  · intro now dropped hmem
    refine h.quiet now dropped ?_
    rcases hevent with rfl | ⟨outcome?, rfl⟩ <;> simpa using hmem

theorem Received.took (h : Received config vehicle moves log p)
    (hbuffered : Buffered config moves log p) {window : Window windowSize} {report : WindowReport}
    {older : List (Window windowSize)} {shared : SharedState}
    (hwaiting : p.samples.waiting = window :: older) (hbefore : report.before = p.receiver)
    (hprocess : p.receiver.process window p.samples.ticks = (report.outcome, report.after)) :
    Received config vehicle (moves ++ [.link]) (log ++ [.took window p.samples.ticks report])
      { vehicle := { p.vehicle with link := ⟨report.after⟩, shared } } := by
  have hafter : (p.receiver.process window p.samples.ticks).2 = report.after := by rw [hprocess]
  have huntimed := p.receiver.processUntimed_untimed window p.samples.ticks
  rw [h.untimed, hprocess] at huntimed
  refine ⟨?_, ?_, ?_, ?_, ?_, ?_⟩
  · have hnext := h.inTime.process (hbuffered.succ_mul_le hwaiting) window
    rw [← hbuffered.ticks, hafter] at hnext
    simpa [Move.reading?, Event.window?] using hnext
  · simp [Event.window?, Run.final_append, Run.final, huntimed]
  · simp [Event.window?, Event.outcome?, h.outcomes, Run.answers_append, Run.answers, huntimed]
  · have htimeouts := p.receiver.timeouts_process window p.samples.ticks
    rw [hafter, h.timeouts] at htimeouts
    exact htimeouts
  · intro earlier now other hmem
    rcases List.mem_append.1 hmem with hlog | hlast
    · exact h.processed earlier now other hlog
    · cases List.mem_singleton.1 hlast
      rw [hbefore, hprocess]
  · intro now dropped hmem
    exact h.quiet now dropped (by simpa using hmem)

theorem Received.polled (h : Received config vehicle moves log p)
    (hbuffered : Buffered config moves log p)
    (hshort : windowSize * config.link.window * 2 < UInt32.size) :
    Received config vehicle (moves ++ [.link])
      (log ++ [.polled p.samples.ticks (p.receiver.pollTimeout p.samples.ticks).1])
      { vehicle := { p.vehicle with link := ⟨(p.receiver.pollTimeout p.samples.ticks).2⟩ } } := by
  obtain ⟨hquiet, hnext⟩ := h.inTime.poll hbuffered.le_add_two_mul hshort
  obtain ⟨bits, hbits⟩ := h.inTime.ready.holds
  rw [← hbuffered.ticks] at hquiet hnext
  refine ⟨?_, ?_, ?_, ?_, ?_, ?_⟩
  · simpa [Move.reading?, Event.window?] using hnext
  · have huntimed := Receiver.untimed_pollTimeout hbits hquiet
    simpa [Event.window?, h.untimed] using huntimed
  · simp [Event.window?, Event.outcome?, h.outcomes]
  · rw [← h.timeouts]
    exact Receiver.timeouts_pollTimeout hquiet
  · intro window now report hmem
    exact h.processed window now report (by simpa using hmem)
  · intro now dropped hmem
    rcases List.mem_append.1 hmem with hlog | hlast
    · exact h.quiet now dropped hlog
    · cases List.mem_singleton.1 hlast
      exact hquiet

/-! ## Runs -/

theorem keeps_perform (hbuffered : Buffered config moves log p)
    (hreceived : Received config vehicle moves log p)
    (hshort : windowSize * config.link.window * 2 < UInt32.size) {move : Move}
    (hgapless : (p.perform move).1.isGapless = true) :
    Buffered config (moves ++ [move]) (log ++ [(p.perform move).1]) (p.perform move).2 ∧
      Received config vehicle (moves ++ [move]) (log ++ [(p.perform move).1]) (p.perform move).2 := by
  cases move with
  | tick reading =>
      refine ⟨?_, hreceived.aside _ ?_ (.inr ⟨_, rfl⟩)⟩
      · cases reading with
        | none => simp [perform, Vehicle.sample, SamplingTask.tick, Event.isGapless] at hgapless
        | some raw =>
            obtain ⟨value, conditioner, hcondition⟩ : ∃ value conditioner,
                p.vehicle.sampling.conditioner.condition raw = (value, conditioner) := ⟨_, _, rfl⟩
            rw [perform, sample_some hcondition] at hgapless ⊢
            exact hbuffered.sample hcondition (of_decide_eq_true hgapless)
      · cases reading <;> rfl
  | link =>
      rw [perform]
      rcases linkStep_cases hbuffered.ordered with ⟨-, hstep⟩ | ⟨-, -, -, hstep⟩ |
        ⟨-, window, report, shared, -, hstep, hbefore, hprocess, hordered, hwaiting, hbegun, hticks⟩
      · rw [hstep]
        exact ⟨hbuffered.aside rfl rfl rfl, hreceived.polled hbuffered hshort⟩
      · rw [hstep]
        exact ⟨hbuffered.aside rfl rfl rfl, hreceived.aside _ rfl (.inl rfl)⟩
      · rw [hstep]
        exact ⟨hbuffered.took hordered hwaiting hbegun hticks,
          hreceived.took hbuffered hwaiting hbefore hprocess⟩

theorem receiver_create (hcreate : Vehicle.create config = .ok vehicle) :
    Receiver.create windowSize historyCapacity config.link = .ok vehicle.link.receiver := by
  obtain ⟨receiver, hreceiver, hlink⟩ := Check.exists_of_bind_eq_ok (Vehicle.link_create hcreate).1
  rw [← Except.ok.inj hlink]
  exact Check.mapError_eq_ok_iff.1 hreceiver

theorem buffered_create (hcreate : Vehicle.create config = .ok vehicle) :
    Buffered config [] [] { vehicle } := by
  obtain ⟨-, hsampling, hsamples⟩ := Vehicle.link_create hcreate
  refine ⟨?_, ?_, ?_, ?_⟩
  · rw [samples, hsamples]
    exact SampleBuffers.ordered_empty windowSize
  · rw [hsampling]
    rfl
  · rw [samples, hsamples]
    rfl
  · rw [samples, hsamples]
    rfl

theorem received_create (hcreate : Vehicle.create config = .ok vehicle) :
    Received config vehicle [] [] { vehicle } := by
  have hreceiver := receiver_create hcreate
  obtain ⟨-, -, hnew⟩ := Receiver.create_eq_ok_iff.1 hreceiver
  refine ⟨Receiver.inTime_create hreceiver, ?_, rfl, ?_, by simp, by simp⟩
  · rw [receiver, hnew]
    rfl
  · rw [receiver, hnew]

theorem keeps_run (hcreate : Vehicle.create config = .ok vehicle) (moves : List Move)
    (hgapless : (events vehicle moves).all Event.isGapless = true) :
    Buffered config moves (events vehicle moves) (last vehicle moves) ∧
      Received config vehicle moves (events vehicle moves) (last vehicle moves) := by
  obtain ⟨-, ⟨-, hle⟩, -⟩ := Receiver.create_eq_ok_iff.1 (receiver_create hcreate)
  have hshort : windowSize * config.link.window * 2 < UInt32.size := by
    have hfive : config.link.window ≤ 5 := hle
    change 16 * config.link.window * 2 < 4294967296
    omega
  refine Run.induction (motive := fun moves log p => log.all Event.isGapless = true →
    Buffered config moves log p ∧ Received config vehicle moves log p) ?_ ?_ moves hgapless
  · exact fun _ => ⟨buffered_create hcreate, received_create hcreate⟩
  · intro moves log p move ih hgapless
    rw [List.all_append, Bool.and_eq_true] at hgapless
    obtain ⟨hbuffered, hreceived⟩ := ih hgapless.1
    exact keeps_perform hbuffered hreceived hshort (by simpa using hgapless.2)

/-! ## Independence of the schedule -/

theorem Buffered.windows_eq_cut (h : Buffered config moves log p) {longer : List Float32}
    (hlonger : readings moves <+: longer) :
    windows log = Window.cut windowSize (windows log).length (stream config longer) := by
  obtain ⟨rest, hrest⟩ :=
    Run.answers_prefix Conditioner.condition hlonger (Conditioner.ofConfig config.link)
  have hkept := h.kept
  rw [stream] at hkept
  rw [stream, ← hrest, hkept, SampleBuffers.samples, List.flatMap_append, List.append_assoc,
    List.append_assoc]
  exact (Window.cut_samples _ _).symm

theorem Received.outcomes_prefix {other : List Move} {otherLog : List Event} {q : Pipeline}
    (h : Received config vehicle moves log p) (hother : Received config vehicle other otherLog q)
    (hwindows : windows log <+: windows otherLog) :
    Pipeline.outcomes log <+: Pipeline.outcomes otherLog := by
  rw [h.outcomes, hother.outcomes]
  exact Run.answers_prefix _ hwindows _

/-- **Independence of the schedule.** However the ticks of sampling fall between the steps of the link
task: as long as each stores a sample, the blocks of the conditioned stream are processed in order, no
poll drops a byte, runs end, and the outcomes depend on the stream alone. -/
theorem undisturbed_run (hcreate : Vehicle.create config = .ok vehicle) (moves : List Move)
    (hgapless : (events vehicle moves).all Event.isGapless = true) :
    Undisturbed config vehicle moves := by
  obtain ⟨hbuffered, hreceived⟩ := keeps_run hcreate moves hgapless
  refine ⟨hbuffered.windows_eq_cut List.prefix_rfl, hbuffered.kept, hreceived.processed,
    hreceived.quiet, hreceived.timeouts, exists_ends hbuffered.ordered, ?_⟩
  intro other longer hother hmoves hreadings
  obtain ⟨hbuffered', hreceived'⟩ := keeps_run hcreate other hother
  have hwindows := hbuffered.windows_eq_cut hmoves
  have hwindows' := hbuffered'.windows_eq_cut hreadings
  rcases Nat.le_total (windows (events vehicle moves)).length (windows (events vehicle other)).length
    with hle | hle
  · refine .inl (hreceived.outcomes_prefix hreceived' ?_)
    rw [hwindows, hwindows']
    exact Window.cut_prefix_cut hle _
  · refine .inr (hreceived'.outcomes_prefix hreceived ?_)
    rw [hwindows, hwindows']
    exact Window.cut_prefix_cut hle _

/-- A tick for each sample of a window of the zero tone. -/
def toneMoves : List Move :=
  [1, 1, 1, 1, 0, 0, 0, 0, 1, 1, 1, 1, 0, 0, 0, 0].map fun level => .tick (some level)

/-- The first window is taken at once, and the poll comes when both buffers are full again; with votes of
one window that is the last tick in time. Another tick falls between the windows taken then. -/
def lateMoves : List Move :=
  List.flatten [toneMoves, [.link, .link], toneMoves, toneMoves,
    [.link, .link, .tick (some 1), .link, .link, .link]]

/-- Settings with one window a vote. -/
def briefConfig : VehicleConfig :=
  { link := { window := 1 } }

theorem undisturbed_lateMoves :
    ∃ vehicle, Vehicle.create briefConfig = .ok vehicle ∧
      (events vehicle lateMoves).all Event.isGapless = true ∧
      Undisturbed briefConfig vehicle lateMoves := by
  have hvalid : briefConfig.validate = .ok () :=
    Simulation.validate_link ((LinkConfig.validate_eq_ok_iff briefConfig.link windowSize).2
      (by decide +kernel))
  obtain ⟨s, hs⟩ := (Simulation.exists_create_eq_ok_iff briefConfig).2 ⟨hvalid, by decide, by decide⟩
  obtain ⟨vehicle, hcreate, -⟩ := Check.exists_of_bind_eq_ok hs
  obtain ⟨-, -, hsamples⟩ := Vehicle.link_create hcreate
  have hfits : fits 0 false lateMoves = true := by decide
  have hgapless : (events vehicle lateMoves).all Event.isGapless = true := by
    rw [events, all_isGapless (buffered_create hcreate).ordered, samples, hsamples,
      SampleBuffers.backlog_empty (by decide)]
    exact hfits
  exact ⟨vehicle, hcreate, hgapless, undisturbed_run hcreate lateMoves hgapless⟩

end Pipeline

end LightPilot
