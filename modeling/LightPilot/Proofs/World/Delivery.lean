import LightPilot.Proofs.Link.Frame
import LightPilot.Proofs.World.Accounting
import LightPilot.Proofs.World.Listening

set_option autoImplicit false

/-! # Commands arrive as they were sent

With a sample in each millisecond the lights of a run are what the vehicle samples (`Simulation.watch`). If
the windows of these lights are heard right, the vehicle takes exactly the commands whose frames were on
air to the end, in the order in which they were sent, wherever between the steps that was
(`Simulation.relays_run`). -/

namespace LightPilot.Simulation

open Projector

/-- One call; a step answers with the light in it and what it did. -/
def watch (classify : Classifier) (s : Simulation) (call : Call) :
    Option (Light × StepReport) × Simulation :=
  ((s.performAs classify call).1.map (s.projector.light s.now, ·), (s.performAs classify call).2)

/-- The commands that were sent, in order. -/
def sent (calls : List Call) : List Command :=
  calls.filterMap fun
    | .transmit command => some command
    | .step => none

/-- The lights of a run. -/
def lights (log : List (Light × StepReport)) : List Light :=
  log.map Prod.fst

/-- What a run reported. -/
def reports (log : List (Light × StepReport)) : List StepReport :=
  log.map Prod.snd

variable {s : Simulation} {config : VehicleConfig} {classify : Classifier} {calls : List Call}
  {log : List (Light × StepReport)} {commands : List Command}

theorem reduceOption_transmit (answers : List (Option (Light × StepReport))) (command : Command) :
    (answers ++ [(s.watch classify (.transmit command)).1]).reduceOption = answers.reduceOption := by
  rw [List.reduceOption_append]
  exact List.append_nil _

theorem watch_step (classify : Classifier) (s : Simulation) :
    s.watch classify .step
      = (some (s.projector.light s.now, s.reportAs classify), s.stepAs classify) := by
  rw [watch, performAs_step, Option.map_some]

theorem reduceOption_step (answers : List (Option (Light × StepReport))) :
    (answers ++ [(s.watch classify .step).1]).reduceOption
      = answers.reduceOption ++ [(s.projector.light s.now, s.reportAs classify)] := by
  rw [watch_step, List.reduceOption_append]
  rfl

/-! ## The projector and the receiver -/

/-- The frame of a command for this vehicle. -/
def frameOf (config : LinkConfig) (command : Command) : UInt8 :=
  Frame.encode config.unitId command.code config.addressBits

/-- The byte that arrives for a command: its code as far as the command field goes. -/
def byteOf (config : LinkConfig) (command : Command) : UInt8 :=
  UInt8.ofNat (command.code.toNat % 2 ^ (7 - config.addressBits.toNat))

theorem command_frameOf {config : LinkConfig} (hvalid : config.validate windowSize = .ok ())
    (command : Command) :
    FrameOutcome.ofByte (frameOf config command) config.unitId config.addressBits
        = .command (Frame.command (frameOf config command) config.addressBits) ∧
      Frame.command (frameOf config command) config.addressBits = byteOf config command := by
  obtain ⟨-, -, ⟨hbits, hunit⟩, -⟩ := (config.validate_eq_ok_iff windowSize).1 hvalid
  have hwidth : Frame.addressWidth config.addressBits = config.addressBits.toNat :=
    Nat.min_eq_left (Nat.le_succ_of_le (UInt8.le_iff_toNat_le.1 hbits))
  rw [← hwidth] at hunit
  have hfield : Frame.command (frameOf config command) config.addressBits = byteOf config command := by
    apply UInt8.toNat_inj.1
    rw [frameOf, Frame.command_encode, hwidth, byteOf, UInt8.toNat_ofNat_of_lt']
    exact Nat.lt_of_le_of_lt (Nat.mod_le ..) command.code.toNat_lt
  refine ⟨?_, hfield⟩
  rw [hfield, FrameOutcome.ofByte, frameOf, Frame.validate_encode _ _ hunit, hwidth]
  rfl

/-- The projector and the link after the steps of a log. -/
structure Tracks (config : VehicleConfig) (commands : List Command) (log : List (Light × StepReport))
    (s : Simulation) : Prop where
  isOf : s.IsOf config
  now : s.now = UInt32.ofNat log.length
  holding : s.Holding config.periods s.now (allowed config.periods s.now.toNat)
  airs : s.projector.Airs config.link (commands.map (frameOf config.link))
    ((lights log).map Light.shown)
  bits : ∀ light ∈ lights log, light.bit? = bitOf? (Receiver.bitSamples config.link) light.shown
  conditioner : s.vehicle.sampling.conditioner = Run.final Conditioner.condition
    (Conditioner.ofConfig config.link) ((lights log).map Light.level)
  link : ∃ heard, InStep config.link (lights log) heard s.vehicle.link s.vehicle.shared ∧
    heard.length = (windows (reports log)).length
  decoded : decoded (reports log)
    = heardIn config.link ((lights log).map Light.shown) (windows (reports log)).length
  kept : ∀ window ∈ windows (reports log), ∀ error, window.outcome ≠ .discarded error
  quiet : ∀ report ∈ reports log, ∀ link, report.link? = some link → link.timedOut = false

theorem broadcast_of_airs {p : Projector} {shine : List Light}
    (h : p.Airs config.link (commands.map (frameOf config.link)) (shine.map Light.shown))
    (hbits : ∀ light ∈ shine, light.bit? = bitOf? (Receiver.bitSamples config.link) light.shown)
    (hvalid : config.link.validate windowSize = .ok ())
    (hbit : p.bitMs.toNat = Receiver.bitSamples config.link) : Broadcast config.link shine := by
  refine ⟨?_, hbits, fun frame hframe => ?_⟩
  · rw [← hbit]
    exact h.regular
  · have hsent : frame ∈ commands.map (frameOf config.link) := by
      rw [← h.sent]
      exact List.mem_append_left _ hframe
    obtain ⟨command, -, rfl⟩ := List.mem_map.1 hsent
    exact (command_frameOf hvalid command).1

theorem Tracks.transmit (h : Tracks config commands log s) (command : Command) :
    Tracks config (commands ++ [command]) log (s.transmit command) := by
  refine ⟨h.isOf.transmit command, h.now, h.holding.of_leaves ⟨rfl, rfl, rfl⟩, ?_, h.bits, h.conditioner,
    h.link, h.decoded, h.kept, h.quiet⟩
  have hsend := h.airs.send s.config.link.unitId command
  rw [Projector.frame, h.airs.config, h.isOf.settings] at hsend
  rw [List.map_append]
  rw [Simulation.transmit, h.isOf.settings]
  exact hsend

/-- With a sample in each millisecond the light is due in every step. -/
theorem isDue_moveCraft (h : s.IsOf config) (hone : config.periods.sampleMs = 1) :
    s.moveCraft.2.isDue s.moveCraft.2.config.periods.sampleMs = true := by
  have hsettings : s.moveCraft.2.config = config := h.settings
  rw [isDue_iff, hsettings, hone]
  exact Nat.one_dvd _

/-- A step that samples the light. -/
theorem runSampling_of_due (hdue : s.isDue s.config.periods.sampleMs = true) {value : Float32}
    {conditioner : Conditioner}
    (hcondition : s.vehicle.sampling.conditioner.condition (s.projector.intensity s.now).1
      = (value, conditioner)) :
    s.runSampling = (some (s.samples.push value).1, { s with
      projector := (s.projector.intensity s.now).2
      vehicle := { s.vehicle with
        sampling := ⟨conditioner⟩
        shared := { s.vehicle.shared with samples := (s.samples.push value).2 } } }) := by
  rw [runSampling, if_pos hdue]
  dsimp only
  rw [Pipeline.sample_some hcondition]
  rfl

/-- The link task of a step hears what waits, if it is due. -/
theorem inStep_runLinkAs {shine : List Light} {heard : List (Window windowSize)}
    (h : InStep config.link shine heard s.vehicle.link s.vehicle.shared)
    (husable : config.link.Usable) (hlights : Broadcast config.link shine)
    (hknows : classify.Knows config.link shine) :
    ∃ more, InStep config.link shine (heard ++ more) (s.runLinkAs classify).2.vehicle.link
        (s.runLinkAs classify).2.vehicle.shared ∧
      ((s.runLinkAs classify).1.elim [] LinkReport.windows).map WindowReport.outcome
        = (List.range' heard.length more.length).map
          (outcomeAt config.link (shine.map Light.shown)) ∧
      ∀ link, (s.runLinkAs classify).1 = some link → link.timedOut = false := by
  by_cases hdue : s.isDue s.config.periods.linkMs = true
  · obtain ⟨more, hlast, houtcomes, hquiet⟩ := h.runAs husable hlights hknows
    rw [runLinkAs, if_pos hdue]
    refine ⟨more, hlast, houtcomes, fun link hlink => ?_⟩
    cases hlink
    exact hquiet
  · rw [runLinkAs, if_neg hdue]
    refine ⟨[], ?_, rfl, fun link hlink => by contradiction⟩
    rw [List.append_nil]
    exact h

/-- The rest of a step leaves the link as it is. -/
theorem inStep_runTasksAs {shine : List Light} {heard : List (Window windowSize)}
    (h : InStep config.link shine heard (s.beforeExecutor classify).vehicle.link
      (s.beforeExecutor classify).vehicle.shared) :
    InStep config.link shine heard (s.runTasksAs classify).vehicle.link
      (s.runTasksAs classify).vehicle.shared := by
  have hrest := aside_runTasksAs classify s
  have hsamples : (s.runTasksAs classify).vehicle.shared.samples
      = (s.beforeExecutor classify).vehicle.shared.samples :=
    hrest.samples.trans (leaves_runExecutor (s.beforeExecutor classify)).samples
  have hlink : (s.runTasksAs classify).vehicle.link = (s.beforeExecutor classify).vehicle.link :=
    hrest.link
  rw [hlink]
  refine ⟨?_, ?_, ?_, h.tuned, h.discarded⟩
  · rw [hsamples]
    exact h.ordered
  · rw [hsamples]
    exact h.kept
  · rw [hsamples]
    exact h.ticks

theorem keeps_runLinkAs (classify : Classifier) (s : Simulation) :
    (s.runLinkAs classify).2.projector = s.projector ∧
      (s.runLinkAs classify).2.vehicle.sampling = s.vehicle.sampling := by
  unfold runLinkAs
  split <;> exact ⟨rfl, rfl⟩

/-- What a step does before its link task: it samples the light. -/
theorem Tracks.sampled (h : Tracks config commands log s) (husable : config.link.Usable)
    (hperiods : config.periods.validate = .ok ()) (hone : config.periods.sampleMs = 1) :
    s.beforeLink.projector = (s.projector.intensity s.now).2 ∧
      s.beforeLink.vehicle.sampling.conditioner = Run.final Conditioner.condition
        (Conditioner.ofConfig config.link)
        ((lights log ++ [s.projector.light s.now]).map Light.level) ∧
      ∃ heard, InStep config.link (lights log ++ [s.projector.light s.now]) heard
          s.beforeLink.vehicle.link s.beforeLink.vehicle.shared ∧
        heard.length = (windows (reports log)).length := by
  obtain ⟨value, conditioner, hcondition⟩ : ∃ value conditioner,
      s.vehicle.sampling.conditioner.condition (s.projector.intensity s.now).1
        = (value, conditioner) := ⟨_, _, rfl⟩
  have hsampling := runSampling_of_due (isDue_moveCraft h.isOf hone) hcondition
  have hstored := (h.holding.stepAs hperiods .peak).1
  rw [hsampling] at hstored
  have hkept : (s.vehicle.shared.samples.push value).1 ≠ .dropped := fun hdropped =>
    hstored (congrArg some hdropped)
  rw [h.conditioner] at hcondition
  obtain ⟨heard, hstep, hlength⟩ := h.link
  rw [beforeLink, hsampling]
  refine ⟨rfl, ?_, heard, hstep.sample husable.window_pos hcondition hkept, hlength⟩
  rw [List.map_append, Run.final_append]
  simp only [List.map_cons, List.map_nil, Run.final]
  exact (congrArg Prod.snd hcondition).symm

theorem Tracks.step (h : Tracks config commands log s) (husable : config.link.Usable)
    (hvalid : config.link.validate windowSize = .ok ()) (hperiods : config.periods.validate = .ok ())
    (hone : config.periods.sampleMs = 1)
    (hbit : ({ config := config.link } : Projector).bitMs.toNat = Receiver.bitSamples config.link)
    (hlt : log.length < UInt32.size)
    (hknows : classify.Knows config.link (lights log ++ [s.projector.light s.now])) :
    Tracks config commands (log ++ [(s.projector.light s.now, s.reportAs classify)])
      (s.stepAs classify) := by
  have hlights : lights (log ++ [(s.projector.light s.now, s.reportAs classify)])
      = lights log ++ [s.projector.light s.now] := List.map_append
  have hreports : reports (log ++ [(s.projector.light s.now, s.reportAs classify)])
      = reports log ++ [s.reportAs classify] := List.map_append
  have hbitMs : s.projector.bitMs.toNat = Receiver.bitSamples config.link := by
    rw [h.isOf.bitMs, hbit]
  have hlength : ((lights log).map Light.shown).length = log.length := by
    simp [lights]
  obtain ⟨hprojector, hconditioner, heard, hsampled, hcount⟩ := h.sampled husable hperiods hone
  -- the projector
  obtain ⟨hairs, hshown⟩ := h.airs.light (by rw [hbitMs]; exact Nat.mul_pos (by decide) husable.window_pos)
    (by rw [hlength]; exact hlt)
  rw [hlength, ← h.now, ← hprojector] at hairs
  rw [hlength, ← h.now, hbitMs] at hshown
  have hbits : ∀ light ∈ lights log ++ [s.projector.light s.now],
      light.bit? = bitOf? (Receiver.bitSamples config.link) light.shown :=
    List.forall_mem_append.2 ⟨h.bits, List.forall_mem_singleton.2 hshown⟩
  have hair : s.beforeLink.projector.Airs config.link (commands.map (frameOf config.link))
      ((lights log ++ [s.projector.light s.now]).map Light.shown) := by
    rw [List.map_append]
    exact hairs
  have hbroadcast := broadcast_of_airs hair hbits hvalid (by
    rw [hprojector, bitMs_of_config (config_intensity ..), hbitMs])
  -- the link task
  obtain ⟨more, hlinked, houtcomes, hquiet⟩ := inStep_runLinkAs hsampled husable hbroadcast hknows
  have hlast := inStep_runTasksAs hlinked
  have hwindows : (s.reportAs classify).windows.map WindowReport.outcome
      = (List.range' heard.length more.length).map
        (outcomeAt config.link ((lights log ++ [s.projector.light s.now]).map Light.shown)) := by
    rw [StepReport.windows, link?_reportAs]
    exact houtcomes
  have hmore : (s.reportAs classify).windows.length = more.length := by
    simpa using congrArg List.length hwindows
  have hheard : (heard.length + more.length) * windowSize
      ≤ (lights log ++ [s.projector.light s.now]).length := by
    rw [← List.length_append, hlinked.length]
    exact Nat.le_add_right ..
  obtain ⟨hbytes, hkept⟩ := hbroadcast.heardIn_add husable.window_pos hheard
  rw [← hwindows] at hbytes hkept
  obtain ⟨-, -, hholding⟩ := h.holding.stepAs hperiods classify
  have hnow := hholding.now
  rw [← hnow] at hholding
  refine ⟨h.isOf.stepAs classify, ?_, hholding, ?_, ?_, ?_, ⟨heard ++ more, ?_, ?_⟩, ?_, ?_, ?_⟩
  · rw [hnow, h.now, List.length_append, UInt32.ofNat_add]
    rfl
  · rw [hlights]
    have hsame : (s.stepAs classify).projector = s.beforeLink.projector := by
      rw [stepAs_eq]
      exact (aside_runTasksAs classify s).projector.trans (keeps_runLinkAs classify s.beforeLink).1
    rw [hsame]
    exact hair
  · rw [hlights]
    exact hbits
  · have hsame : (s.stepAs classify).vehicle.sampling = s.beforeLink.vehicle.sampling := by
      rw [vehicle_stepAs]
      exact (aside_runTasksAs classify s).sampling.trans (keeps_runLinkAs classify s.beforeLink).2
    rw [hlights, hsame]
    exact hconditioner
  · rw [hlights, vehicle_stepAs]
    exact hlast
  · rw [hreports, windows_snoc, List.length_append, List.length_append, hmore, hcount]
  · have hearlier : heard.length * windowSize ≤ ((lights log).map Light.shown).length := by
      obtain ⟨before, hbefore, hsame⟩ := h.link
      rw [hcount, ← hsame, List.length_map, hbefore.length]
      exact Nat.le_add_right ..
    rw [hreports, hlights, decoded_snoc, windows_snoc, List.length_append, hmore, ← hcount, hbytes,
      h.decoded, ← hcount, List.map_append, heardIn_append hearlier, List.filterMap_map]
    rfl
  · rw [hreports, windows_snoc]
    refine List.forall_mem_append.2 ⟨h.kept, fun window hwindow => ?_⟩
    exact hkept _ (List.mem_map_of_mem hwindow)
  · rw [hreports]
    refine List.forall_mem_append.2 ⟨h.quiet, List.forall_mem_singleton.2 ?_⟩
    rw [link?_reportAs]
    exact hquiet

/-! ## The lights of a run -/

/-- What a projector shows while commands are sent and milliseconds pass. -/
def shine (unitId : UInt8) : Projector → UInt32 → List Call → List Light
  | _, _, [] => []
  | p, now, .transmit command :: calls => shine unitId (p.send unitId command) now calls
  | p, now, .step :: calls => p.light now :: shine unitId (p.intensity now).2 (now + 1) calls

theorem projector_stepAs (h : s.IsOf config) (hone : config.periods.sampleMs = 1)
    (classify : Classifier) :
    (s.stepAs classify).projector = (s.projector.intensity s.now).2 := by
  have hsampled : s.beforeLink.projector = (s.projector.intensity s.now).2 := by
    rw [beforeLink, runSampling, if_pos (isDue_moveCraft h hone)]
    rfl
  rw [← hsampled, stepAs_eq]
  exact (aside_runTasksAs classify s).projector.trans
    (keeps_runLinkAs classify s.beforeLink).1

theorem now_stepAs (classify : Classifier) (s : Simulation) :
    (s.stepAs classify).now = s.now + 1 := by
  rw [stepAs_eq]
  exact congrArg (· + 1) ((aside_runTasksAs classify s).now.trans (clock_beforeMotion classify s).1)

/-- The lights do not depend on what is heard. -/
theorem lights_watch (h : s.IsOf config) (hone : config.periods.sampleMs = 1) (classify : Classifier)
    (calls : List Call) : lights (Run.answers (watch classify) s calls).reduceOption
      = shine config.link.unitId s.projector s.now calls := by
  induction calls generalizing s with
  | nil => rfl
  | cons call calls ih =>
      cases call with
      | transmit command =>
          have hsend : (s.transmit command).projector
              = s.projector.send config.link.unitId command := by
            rw [transmit, h.settings]
          rw [Run.answers, shine, ← hsend]
          exact ih (h.transmit command)
      | step =>
          rw [Run.answers, shine, ← projector_stepAs h hone classify, ← now_stepAs classify s]
          exact congrArg _ (ih (h.stepAs classify))

theorem length_shine (unitId : UInt8) (p : Projector) (now : UInt32) (calls : List Call) :
    (shine unitId p now calls).length = calls.count .step := by
  induction calls generalizing p now with
  | nil => rfl
  | cons call calls ih => cases call <;> simp [shine, ih]

/-- The lights of a short run can be heard right. -/
theorem exists_knows_watch (h : s.IsOf config) (hone : config.periods.sampleMs = 1) {calls : List Call}
    (hshort : calls.count .step < UInt32.size) :
    ∃ classify : Classifier, classify.Knows config.link
      (lights (Run.answers (watch classify) s calls).reduceOption) := by
  have hlength : (shine config.link.unitId s.projector s.now calls).length < UInt32.size := by
    rwa [length_shine]
  obtain ⟨classify, hknows⟩ := Classifier.exists_knows config.link hlength
  exact ⟨classify, by rwa [lights_watch h hone]⟩

/-! ## Runs -/

theorem usable_of_create (h : Vehicle.create config = .ok s.vehicle) : config.link.Usable := by
  obtain ⟨hvalid, ⟨hpos, hle⟩, -⟩ := Receiver.create_eq_ok_iff.1 (Pipeline.receiver_create h)
  obtain ⟨-, -, -, -, -, htones⟩ := (config.link.validate_eq_ok_iff windowSize).1 hvalid
  exact ⟨htones, hpos, hle⟩

theorem vehicle_create (h : create config = .ok s) : Vehicle.create config = .ok s.vehicle := by
  obtain ⟨vehicle, hvehicle, hs⟩ := Check.exists_of_bind_eq_ok h
  cases hs
  exact hvehicle

theorem projector_create (h : create config = .ok s) : s.projector = { config := config.link } := by
  obtain ⟨vehicle, -, hs⟩ := Check.exists_of_bind_eq_ok h
  cases hs
  rfl

theorem tracks_create (h : create config = .ok s) : Tracks config [] [] s := by
  obtain ⟨hof, hnow⟩ := isOf_create h
  have hvehicle := vehicle_create h
  have hreceiver := Pipeline.receiver_create hvehicle
  obtain ⟨-, hsampling, hsamples⟩ := Vehicle.link_create hvehicle
  have hholding : s.Holding config.periods s.now (allowed config.periods s.now.toNat) := by
    have hstart : s.Holding s.config.periods 0 (allowed config.periods s.now.toNat) :=
      Holding.start hnow hsamples
    rwa [hof.settings, ← hnow] at hstart
  refine ⟨hof, hnow, hholding, ?_, by simp [lights], ?_, ⟨[], ?_, rfl⟩, ?_, by simp [reports, windows],
    by simp [reports]⟩
  · rw [projector_create h]
    exact airs_new config.link
  · rw [hsampling]
    rfl
  · refine ⟨?_, ?_, ?_, Receiver.tuned_create hreceiver, ?_⟩
    · rw [hsamples]
      exact SampleBuffers.ordered_empty windowSize
    · rw [hsamples]
      rfl
    · rw [hsamples]
      rfl
    · rw [(Receiver.create_eq_ok_iff.1 hreceiver).2.2]
  · simp [reports, decoded, windows, heardIn, lights, completed]

/-- What is known after calls. -/
structure Tracked (config : VehicleConfig) (classify : Classifier) (calls : List Call)
    (answers : List (Option (Light × StepReport))) (s : Simulation) : Prop where
  steps : answers.reduceOption.length = calls.count .step
  tracks : calls.count .step ≤ UInt32.size → classify.Knows config.link (lights answers.reduceOption) →
    Tracks config (sent calls) answers.reduceOption s
  settled : Settled (reports answers.reduceOption) s

theorem Tracked.watch {answers : List (Option (Light × StepReport))}
    (h : Tracked config classify calls answers s) (husable : config.link.Usable)
    (hvalid : config.link.validate windowSize = .ok ()) (hperiods : config.periods.validate = .ok ())
    (hone : config.periods.sampleMs = 1)
    (hbit : ({ config := config.link } : Projector).bitMs.toNat = Receiver.bitSamples config.link)
    (call : Call) :
    Tracked config classify (calls ++ [call]) (answers ++ [(s.watch classify call).1])
      (s.watch classify call).2 := by
  cases call with
  | transmit command =>
      have hsent : sent (calls ++ [.transmit command]) = sent calls ++ [command] :=
        List.filterMap_append
      refine ⟨?_, ?_, ?_⟩
      · rw [reduceOption_transmit, h.steps, List.count_append]
        rfl
      · rw [reduceOption_transmit, hsent, List.count_append]
        exact fun hlt hknows => (h.tracks hlt hknows).transmit command
      · rw [reduceOption_transmit]
        exact h.settled.transmit command
  | step =>
      have hsent : sent (calls ++ [.step]) = sent calls :=
        List.filterMap_append.trans (List.append_nil _)
      have hcount : (calls ++ [Call.step]).count .step = calls.count .step + 1 := List.count_append
      refine ⟨?_, ?_, ?_⟩
      · rw [reduceOption_step, List.length_append, h.steps, hcount]
        rfl
      · rw [reduceOption_step, hsent, hcount]
        intro hlt hknows
        rw [lights, List.map_append] at hknows
        refine (h.tracks (Nat.le_of_succ_le hlt) hknows.of_append).step husable hvalid hperiods hone hbit
          ?_ hknows
        rw [h.steps]
        exact hlt
      · rw [reduceOption_step, reports, List.map_append]
        exact h.settled.step classify

/-- The frames whose last millisecond on air is in the windows that were taken. -/
def heardFrames (bitMs : Nat) (log : List (Light × StepReport)) : List UInt8 :=
  completed bitMs (((lights log).map Light.shown).take ((windows (reports log)).length * windowSize))

/-- The first commands that were sent have arrived, and nothing else. -/
structure Relays (config : VehicleConfig) (commands : List Command)
    (log : List (Light × StepReport)) (s : Simulation) : Prop where
  /-- The frames heard are those of the first commands. -/
  frames : heardFrames s.projector.bitMs.toNat log
    = (commands.take (heardFrames s.projector.bitMs.toNat log).length).map (frameOf config.link)
  /-- The executor took the bytes of these commands, in order. -/
  taken : taken (reports log)
    = (commands.take (heardFrames s.projector.bitMs.toNat log).length).map (byteOf config.link)
  /-- No other byte came out of the receiver. -/
  decoded : decoded (reports log) = Simulation.taken (reports log)
  discarded : s.vehicle.link.receiver.stats.framesDiscarded = 0 ∧
    ∀ window ∈ windows (reports log), ∀ error, window.outcome ≠ .discarded error
  quiet : ∀ report ∈ reports log, ∀ link, report.link? = some link → link.timedOut = false

theorem Tracks.relays (h : Tracks config commands log s) (hsettled : Settled (reports log) s)
    (husable : config.link.Usable) (hvalid : config.link.validate windowSize = .ok ())
    (hbit : ({ config := config.link } : Projector).bitMs.toNat = Receiver.bitSamples config.link) :
    Relays config commands log s := by
  have hbitMs : s.projector.bitMs.toNat = Receiver.bitSamples config.link := by
    rw [h.isOf.bitMs, hbit]
  have hpos : 0 < Receiver.bitSamples config.link := Nat.mul_pos (by decide) husable.window_pos
  have hregular : Regular (Receiver.bitSamples config.link) ((lights log).map Light.shown) :=
    hbitMs ▸ h.airs.regular
  have hpart : heardFrames (Receiver.bitSamples config.link) log
      <+: commands.map (frameOf config.link) := by
    have htake := List.take_prefix ((windows (reports log)).length * windowSize)
      ((lights log).map Light.shown)
    have hcompleted := (hregular.of_prefix htake).started_eq hpos
    calc heardFrames (Receiver.bitSamples config.link) log
      _ <+: started (((lights log).map Light.shown).take _) := by
        rw [hcompleted]
        exact List.prefix_append ..
      _ <+: started ((lights log).map Light.shown) := htake.filterMap starts?
      _ <+: commands.map (frameOf config.link) := by
        rw [← h.airs.sent]
        exact List.prefix_append ..
  have hframes := List.prefix_iff_eq_take.1 hpart
  rw [← List.map_take] at hframes
  have htaken : taken (reports log)
      = (heardFrames (Receiver.bitSamples config.link) log).map fun frame =>
        Frame.command frame config.link.addressBits := by
    rw [hsettled.taken, h.decoded]
    rfl
  rw [hframes, List.map_map] at htaken
  obtain ⟨heard, hlink, -⟩ := h.link
  refine ⟨?_, ?_, hsettled.taken.symm, ⟨hlink.discarded, h.kept⟩, h.quiet⟩
  · rw [hbitMs]
    exact hframes
  · rw [hbitMs, htaken]
    exact List.map_congr_left fun command _ => (command_frameOf hvalid command).2

/-- At a thousand samples a second a bit takes as many milliseconds as its vote takes samples. -/
theorem bitMs_of_rate {config : LinkConfig} (husable : config.Usable)
    (hrate : config.sampleRate = 1000) :
    ({ config } : Projector).bitMs.toNat = Receiver.bitSamples config := by
  have hword : windowSize * config.window * 1000 < UInt32.size := by
    have hfive : config.window ≤ 5 := husable.window_le
    change 16 * config.window * 1000 < 4294967296
    omega
  rw [Projector.bitMs, UInt32.toNat_div, UInt32.toNat_ofNat_of_lt' hword, hrate, Receiver.bitSamples]
  exact Nat.mul_div_cancel _ (by decide)

theorem tracked_run {start : Simulation} (hcreate : create config = .ok start)
    (hsample : config.periods.sampleMs = 1) (hrate : config.link.sampleRate = 1000)
    (classify : Classifier) (calls : List Call) :
    Tracked config classify calls (Run.answers (watch classify) start calls)
      (Run.final (watch classify) start calls) := by
  have hvehicle := vehicle_create hcreate
  have husable := usable_of_create hvehicle
  obtain ⟨hvalid, -, -⟩ := Receiver.create_eq_ok_iff.1 (Pipeline.receiver_create hvehicle)
  have hconfig := ((exists_create_eq_ok_iff config).1 ⟨start, hcreate⟩).1
  have hperiods := (config.validate_eq_ok_iff.1 hconfig).2.2.2
  have hstart : Tracked config classify [] [] start :=
    ⟨rfl, fun _ _ => tracks_create hcreate, settled_create hcreate⟩
  exact Run.induction (motive := Tracked config classify) hstart
    (fun _ _ _ call h => h.watch husable hvalid hperiods hsample (bitMs_of_rate husable hrate) call)
    calls

/-- When all full windows have been heard, they are as many as fit into the milliseconds so far. -/
theorem Tracks.length_windows (h : Tracks config commands log s) (hlt : log.length < UInt32.size)
    (hheard : allowed config.periods log.length < windowSize) :
    (windows (reports log)).length = log.length / windowSize := by
  obtain ⟨heard, hlink, hlength⟩ := h.link
  have hkept := hlink.length
  have hbacklog := h.holding.backlog
  rw [h.now, UInt32.toNat_ofNat_of_lt' hlt] at hbacklog
  have hfew : s.vehicle.shared.samples.backlog < windowSize := Nat.lt_of_le_of_lt hbacklog hheard
  rw [lights, List.length_map, Nat.mul_comm] at hkept
  rw [← hlength, hkept, Nat.mul_add_div (by decide), Nat.div_eq_of_lt hfew, Nat.add_zero]

/-- The commands taken are known from what the projector shows, when all full windows have been heard. -/
theorem taken_watch {start : Simulation} (hcreate : create config = .ok start)
    (hsample : config.periods.sampleMs = 1) (hrate : config.link.sampleRate = 1000)
    {calls : List Call} (hshort : calls.count .step < UInt32.size)
    (hknows : classify.Knows config.link
      (lights (Run.answers (watch classify) start calls).reduceOption))
    (hheard : allowed config.periods (calls.count .step) < windowSize) :
    taken (reports (Run.answers (watch classify) start calls).reduceOption)
      = (heardIn config.link ((shine config.link.unitId { config := config.link } 0 calls).map Light.shown)
          (calls.count .step / windowSize)) := by
  have htracked := tracked_run hcreate hsample hrate classify calls
  have htracks := htracked.tracks (Nat.le_of_lt hshort) hknows
  obtain ⟨hof, hnow⟩ := isOf_create hcreate
  rw [htracked.settled.taken, htracks.decoded, htracks.length_windows (by rwa [htracked.steps])
    (by rwa [htracked.steps]), htracked.steps, lights_watch hof hsample, projector_create hcreate,
    hnow]

/-- **Commands arrive as they were sent.** With a sample in each millisecond, and windows that are heard
right where they have one tone or none, the commands whose frames were on air to the end and have been
processed are taken, in order and once each, and no other byte ever comes out, wherever between the steps
the commands are sent. -/
theorem relays_run {start : Simulation} (hcreate : create config = .ok start)
    (hsample : config.periods.sampleMs = 1) (hrate : config.link.sampleRate = 1000)
    (classify : Classifier) (calls : List Call) (hshort : calls.count .step < 2 ^ 32)
    (hknows : classify.Knows config.link
      (lights (Run.answers (watch classify) start calls).reduceOption)) :
    Relays config (sent calls) (Run.answers (watch classify) start calls).reduceOption
      (Run.final (watch classify) start calls) := by
  have hvehicle := vehicle_create hcreate
  have husable := usable_of_create hvehicle
  obtain ⟨hvalid, -, -⟩ := Receiver.create_eq_ok_iff.1 (Pipeline.receiver_create hvehicle)
  have htracked := tracked_run hcreate hsample hrate classify calls
  exact (htracked.tracks (Nat.le_of_lt hshort) hknows).relays htracked.settled husable hvalid
    (bitMs_of_rate husable hrate)

/-- The second command is sent while the first one is on air. -/
def briskCalls : List Call :=
  List.flatten [[.transmit .up], List.replicate 50 .step, [.transmit .land], List.replicate 303 .step]

theorem relays_briskCalls :
    ∃ start classify, create Pipeline.briefConfig = .ok start ∧
      classify.Knows Pipeline.briefConfig.link
        (lights (Run.answers (watch classify) start briskCalls).reduceOption) ∧
      taken (reports (Run.answers (watch classify) start briskCalls).reduceOption)
        = [Command.up.code, Command.land.code] ∧
      Relays Pipeline.briefConfig (sent briskCalls)
        (Run.answers (watch classify) start briskCalls).reduceOption
        (Run.final (watch classify) start briskCalls) := by
  have hvalid : Pipeline.briefConfig.validate = .ok () :=
    validate_link ((LinkConfig.validate_eq_ok_iff Pipeline.briefConfig.link windowSize).2
      (by decide +kernel))
  obtain ⟨start, hcreate⟩ :=
    (exists_create_eq_ok_iff Pipeline.briefConfig).2 ⟨hvalid, by decide, by decide⟩
  have hsteps : briskCalls.count .step = 353 := by decide +kernel
  have hshort : briskCalls.count .step < 2 ^ 32 := by
    rw [hsteps]
    decide
  obtain ⟨classify, hknows⟩ := exists_knows_watch (isOf_create hcreate).1 rfl hshort
  refine ⟨start, classify, hcreate, hknows, ?_, relays_run hcreate rfl rfl classify briskCalls hshort hknows⟩
  rw [taken_watch hcreate rfl rfl hshort hknows (by rw [hsteps]; decide)]
  decide +kernel

end LightPilot.Simulation
