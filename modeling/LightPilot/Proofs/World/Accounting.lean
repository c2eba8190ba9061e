import LightPilot.Proofs.Link.Pace
import LightPilot.Proofs.World.Execution
import LightPilot.Proofs.World.Hearing
import LightPilot.Proofs.World.Schedule

set_option autoImplicit false

/-! # Every command decoded is taken in its step

A run of the link task takes two windows at most, and a byte takes eight votes, so at most one command
comes out of a run (`LinkTask.decodes_runAs`). The queue is empty then, so the command finds its place,
and the executor takes it in the same step. So nothing is ever left between steps, and the counts of
receiver and executor agree, whatever is heard in the windows (`Simulation.balanced_run`). -/

namespace LightPilot

theorem SharedState.queueCommand_of_room {shared : SharedState}
    (hroom : shared.commands.bytes.length < commandCapacity) (byte : UInt8) :
    (shared.queueCommand byte).1 = true ∧
      (shared.queueCommand byte).2.commands.bytes = shared.commands.bytes ++ [byte] := by
  rw [queueCommand, CommandQueue.push?, dif_pos hroom]
  exact ⟨rfl, rfl⟩

/-- The queue of a new vehicle is empty. -/
theorem Vehicle.commands_create {config : VehicleConfig} {vehicle : Vehicle}
    (h : create config = .ok vehicle) : vehicle.shared.commands.bytes = [] := by
  obtain ⟨shared, hshared, hlink⟩ := Check.exists_of_bind_eq_ok h
  obtain ⟨link, -, hmotion⟩ := Check.exists_of_bind_eq_ok hlink
  obtain ⟨motion, -, hbuilt⟩ := Check.exists_of_bind_eq_ok hmotion
  obtain ⟨population, -, hnew⟩ := Check.exists_of_bind_eq_ok (Check.bind_eq_ok_iff.1 hshared).2
  cases hbuilt
  cases hnew
  rfl

namespace LinkTask

variable {classify : Classifier} {task last middle : LinkTask} {shared : SharedState}
  {waiting left between : List UInt8} {windows more : List WindowReport} {bytes others : List UInt8}

/-- These bytes came out of windows and joined those that wait. -/
structure Decodes (task : LinkTask) (waiting : List UInt8) (windows : List WindowReport)
    (bytes : List UInt8) (last : LinkTask) (left : List UInt8) : Prop where
  decoded : windows.filterMap (fun window => window.outcome.byte?) = bytes
  queued : ∀ window ∈ windows, window.outcome.byte?.isSome → window.queued = true
  waiting : left = waiting ++ bytes
  counted : last.receiver.stats.framesDecoded
    = task.receiver.stats.framesDecoded + UInt32.ofNat bytes.length

theorem decodes_nil (task : LinkTask) (waiting : List UInt8) :
    Decodes task waiting [] [] task waiting :=
  ⟨rfl, by simp, by simp, by simp⟩

theorem Decodes.append (h : Decodes task waiting windows bytes middle between)
    (hmore : Decodes middle between more others last left) :
    Decodes task waiting (windows ++ more) (bytes ++ others) last left := by
  refine ⟨?_, ?_, ?_, ?_⟩
  · rw [List.filterMap_append, h.decoded, hmore.decoded]
  · exact List.forall_mem_append.2 ⟨h.queued, hmore.queued⟩
  · rw [hmore.waiting, h.waiting, List.append_assoc]
  · rw [hmore.counted, h.counted, List.length_append, UInt32.ofNat_add, UInt32.add_assoc]

/-- One window, with room in the queue. -/
theorem decodes_hear (task : LinkTask) {shared : SharedState}
    (hroom : shared.commands.bytes.length < commandCapacity) (frequency : UInt16) :
    Decodes task shared.commands.bytes [(task.hear frequency shared).1]
      (task.hear frequency shared).1.outcome.byte?.toList (task.hear frequency shared).2.1
      (task.hear frequency shared).2.2.commands.bytes := by
  have hcounted := task.receiver.framesDecoded_hear frequency shared.samples.ticks
  obtain ⟨outcome, receiver, hheard⟩ : ∃ outcome receiver,
      task.receiver.hear frequency shared.samples.ticks = (outcome, receiver) := ⟨_, _, rfl⟩
  rw [hheard] at hcounted
  unfold hear
  rw [hheard]
  cases outcome with
  | command byte =>
      obtain ⟨hqueued, hcommands⟩ := SharedState.queueCommand_of_room hroom byte
      exact ⟨rfl, by simp [hqueued], hcommands, hcounted⟩
  | pending => exact ⟨rfl, by simp [FrameOutcome.byte?], by simp [FrameOutcome.byte?], hcounted⟩
  | bitAccepted count =>
      exact ⟨rfl, by simp [FrameOutcome.byte?], by simp [FrameOutcome.byte?], hcounted⟩
  | discarded error =>
      exact ⟨rfl, by simp [FrameOutcome.byte?], by simp [FrameOutcome.byte?], hcounted⟩
  | reset => exact ⟨rfl, by simp [FrameOutcome.byte?], by simp [FrameOutcome.byte?], hcounted⟩

theorem takeWindowAs_eq (classify : Classifier) (task : LinkTask) (shared : SharedState) :
    task.takeWindowAs classify shared = none ∨ ∃ frequency samples,
      task.takeWindowAs classify shared = some (task.hear frequency { shared with samples }) := by
  unfold takeWindowAs
  cases shared.samples.take with
  | none => exact .inl rfl
  | some taken => exact .inr ⟨_, taken.2, rfl⟩

/-- Few windows make one byte at most, and none before the bits held are eight. -/
theorem decodes_takeWindowsAs (classify : Classifier) {count : Nat} (hcount : count ≤ 8)
    {bits : List Bool} (hbits : task.receiver.decoder.Holds bits)
    (hroom : shared.commands.bytes.length + count ≤ commandCapacity) :
    ∃ bytes, Decodes task shared.commands.bytes (takeWindowsAs classify count task shared).1 bytes
        (takeWindowsAs classify count task shared).2.1
        (takeWindowsAs classify count task shared).2.2.commands.bytes ∧
      (∃ bits, (takeWindowsAs classify count task shared).2.1.receiver.decoder.Holds bits) ∧
      bytes.length ≤ 1 ∧ (bits.length + count < 8 → bytes = []) := by
  induction count generalizing task shared bits with
  | zero => exact ⟨[], decodes_nil task _, ⟨bits, hbits⟩, Nat.zero_le _, fun _ => rfl⟩
  | succ count ih =>
      rw [takeWindowsAs]
      rcases task.takeWindowAs_eq classify shared with hnone | ⟨frequency, samples, hsome⟩
      · rw [hnone]
        exact ⟨[], decodes_nil task _, ⟨bits, hbits⟩, Nat.zero_le _, fun _ => rfl⟩
      · have hplace : ({ shared with samples } : SharedState).commands.bytes.length
            < commandCapacity := Nat.lt_of_lt_of_le (Nat.lt_add_of_pos_right (Nat.succ_pos count)) hroom
        have hfirst := task.decodes_hear hplace frequency
        obtain ⟨next, hnext, hbyte, hfew⟩ :=
          task.receiver.exists_holds_hear hbits frequency samples.ticks
        rw [hsome]
        generalize hheard : task.hear frequency { shared with samples } = heard at hfirst
        obtain ⟨report, middle, between⟩ := heard
        have houtcome : (task.receiver.hear frequency samples.ticks).1 = report.outcome :=
          congrArg (fun heard => heard.1.outcome) hheard
        have hmiddle : (task.receiver.hear frequency samples.ticks).2 = middle.receiver :=
          congrArg (fun heard => heard.2.1.receiver) hheard
        rw [houtcome] at hbyte
        rw [hmiddle] at hnext
        have hlength : between.commands.bytes.length
            = shared.commands.bytes.length + report.outcome.byte?.toList.length := by
          rw [hfirst.waiting, List.length_append]
        have hone : report.outcome.byte?.toList.length ≤ 1 := Option.length_toList_le
        have hspace : between.commands.bytes.length + count ≤ commandCapacity := by omega
        obtain ⟨others, hrest, hlast, hone', hnone⟩ := ih (by omega) hnext hspace
        cases hout : report.outcome.byte? with
        | none =>
            rw [hout] at hfirst
            exact ⟨others, hfirst.append hrest, hlast, hone', fun hless => hnone (by omega)⟩
        | some byte =>
            -- the bits are used up, and the windows left are too few
            obtain ⟨rfl, hfull⟩ := hbyte (by rw [hout]; rfl)
            rw [hout] at hfirst
            rw [hnone (by simp; omega)] at hrest
            exact ⟨[byte], hfirst.append hrest, hlast, Nat.le_refl 1, fun hless => by omega⟩

/-- At most one command comes out of a run. -/
theorem decodes_runAs (classify : Classifier) (hbits : ∃ bits, task.receiver.decoder.Holds bits)
    (hempty : shared.commands.bytes = []) :
    ∃ byte? : Option UInt8,
      Decodes task [] (task.runAs classify shared).1.windows byte?.toList
        (task.runAs classify shared).2.1 (task.runAs classify shared).2.2.commands.bytes ∧
      ∃ bits, (task.runAs classify shared).2.1.receiver.decoder.Holds bits := by
  obtain ⟨bits, hbits⟩ := hbits
  have hroom : shared.commands.bytes.length + 2 ≤ commandCapacity := by
    rw [hempty]
    decide
  obtain ⟨bytes, hdecodes, hholds, hone, -⟩ := decodes_takeWindowsAs classify (by decide) hbits hroom
  have hlist : ∃ byte? : Option UInt8, bytes = byte?.toList := by
    match bytes, hone with
    | [], _ => exact ⟨none, rfl⟩
    | [byte], _ => exact ⟨some byte, rfl⟩
  obtain ⟨byte?, rfl⟩ := hlist
  rw [hempty] at hdecodes
  exact ⟨byte?, ⟨hdecodes.decoded, hdecodes.queued, hdecodes.waiting, hdecodes.counted⟩,
    Decoder.exists_holds_checkTimeout hholds _⟩

end LinkTask

/-- The reports of the windows taken in a step. -/
def StepReport.windows (report : StepReport) : List WindowReport :=
  report.link?.elim [] LinkReport.windows

namespace Simulation

/-- The windows taken in steps, in order. -/
def windows (reports : List StepReport) : List WindowReport :=
  reports.flatMap StepReport.windows

/-- The command bytes decoded in steps, in order. -/
def decoded (reports : List StepReport) : List UInt8 :=
  (windows reports).filterMap fun window => window.outcome.byte?

/-- The bytes that the executor took in steps, in order. -/
def taken (reports : List StepReport) : List UInt8 :=
  reports.filterMap fun report => report.executor.byte?

/-- The commands executed in steps, in order. -/
def executed (reports : List StepReport) : List Command :=
  reports.filterMap fun report => report.executor.command?

variable {s : Simulation} {reports : List StepReport} {classify : Classifier}

@[simp]
theorem windows_snoc (reports : List StepReport) (report : StepReport) :
    windows (reports ++ [report]) = windows reports ++ report.windows := by
  simp [windows]

@[simp]
theorem decoded_snoc (reports : List StepReport) (report : StepReport) :
    decoded (reports ++ [report])
      = decoded reports ++ report.windows.filterMap fun window => window.outcome.byte? := by
  simp [decoded]

@[simp]
theorem taken_snoc (reports : List StepReport) (report : StepReport) :
    taken (reports ++ [report]) = taken reports ++ report.executor.byte?.toList := by
  cases h : report.executor.byte? <;> simp [taken, h]

@[simp]
theorem executed_snoc (reports : List StepReport) (report : StepReport) :
    executed (reports ++ [report]) = executed reports ++ report.executor.command?.toList := by
  cases h : report.executor.command? <;> simp [executed, h]

/-! ## One step -/

/-- A step without a rest: the executor took what the receiver decoded, and all is counted. -/
structure Clears (before : Simulation) (report : StepReport) (after : Simulation) : Prop where
  decoded : report.windows.filterMap (fun window => window.outcome.byte?)
    = report.executor.byte?.toList
  queued : ∀ window ∈ report.windows, window.outcome.byte?.isSome → window.queued = true
  drained : after.vehicle.shared.commands.bytes = []
  counted : after.vehicle.link.receiver.stats.framesDecoded
    = before.vehicle.link.receiver.stats.framesDecoded
      + UInt32.ofNat report.executor.byte?.toList.length
  executed : after.executor.executed
    = before.executor.executed + UInt32.ofNat report.executor.command?.toList.length
  rejected : after.executor.rejected = before.executor.rejected + UInt32.ofNat
    (report.executor.byte?.toList.length - report.executor.command?.toList.length)
  holds : ∃ bits, after.vehicle.link.receiver.decoder.Holds bits

theorem keeps_runSampling (s : Simulation) :
    s.runSampling.2.vehicle.link = s.vehicle.link ∧
      s.runSampling.2.vehicle.shared.commands = s.vehicle.shared.commands ∧
      s.runSampling.2.executor = s.executor := by
  unfold runSampling
  split <;> exact ⟨rfl, rfl, rfl⟩

/-- The link task leaves the one byte that was decoded, if there was one. -/
theorem decodes_runLinkAs (classify : Classifier)
    (hholds : ∃ bits, s.vehicle.link.receiver.decoder.Holds bits)
    (hempty : s.vehicle.shared.commands.bytes = []) :
    ∃ byte? : Option UInt8,
      LinkTask.Decodes s.vehicle.link [] ((s.runLinkAs classify).1.elim [] LinkReport.windows)
        byte?.toList (s.runLinkAs classify).2.vehicle.link
        (s.runLinkAs classify).2.vehicle.shared.commands.bytes ∧
      (∃ bits, (s.runLinkAs classify).2.vehicle.link.receiver.decoder.Holds bits) ∧
      (s.runLinkAs classify).2.executor = s.executor := by
  by_cases hdue : s.isDue s.config.periods.linkMs = true
  · obtain ⟨byte?, hdecodes, hlast⟩ := LinkTask.decodes_runAs classify hholds hempty
    rw [runLinkAs, if_pos hdue]
    exact ⟨byte?, hdecodes, hlast, rfl⟩
  · rw [runLinkAs, if_neg hdue]
    refine ⟨none, ?_, hholds, rfl⟩
    rw [hempty]
    exact LinkTask.decodes_nil ..

theorem clears_step (classify : Classifier)
    (hholds : ∃ bits, s.vehicle.link.receiver.decoder.Holds bits)
    (hempty : s.vehicle.shared.commands.bytes = []) :
    Clears s (s.reportAs classify) (s.stepAs classify) := by
  obtain ⟨hlink, hcommands, hexecutor⟩ := keeps_runSampling s.moveCraft.2
  change s.beforeLink.vehicle.link = s.vehicle.link at hlink
  change s.beforeLink.vehicle.shared.commands = s.vehicle.shared.commands at hcommands
  change s.beforeLink.executor = s.executor at hexecutor
  rw [← hlink] at hholds
  rw [← hcommands] at hempty
  obtain ⟨byte?, hdecodes, hlast, hsame⟩ := decodes_runLinkAs classify hholds hempty
  have hpolls := (s.beforeExecutor classify).executor.polls_poll
    (s.beforeExecutor classify).vehicle.shared (s.beforeExecutor classify).vehicle.params
    (s.beforeExecutor classify).craft
  obtain ⟨hexecuted, hrejected⟩ := hpolls.counts
  have hrest := aside_runTasksAs classify s
  obtain ⟨htaken, hdrained⟩ := hpolls.bytes
  change (s.beforeExecutor classify).runExecutor.1.byte? = _ at htaken
  change (s.beforeMotion classify).vehicle.shared.commands.bytes = _ at hdrained
  -- one byte at most waits, and the executor takes it
  rw [beforeExecutor, hdecodes.waiting, List.nil_append] at htaken hdrained
  obtain rfl : byte? = (s.beforeExecutor classify).runExecutor.1.byte? := by
    cases byte? with
    | none => exact htaken.symm
    | some byte => exact htaken.symm
  have hempty : (s.beforeMotion classify).vehicle.shared.commands.bytes = [] := by
    rw [hdrained]
    cases (s.beforeExecutor classify).runExecutor.1.byte? <;> rfl
  rw [reportAs_eq, stepAs_eq]
  refine ⟨hdecodes.decoded, hdecodes.queued, ?_, ?_, ?_, ?_, ?_⟩
  · exact (congrArg CommandQueue.bytes hrest.commands).trans hempty
  · rw [← hlink]
    exact (congrArg (fun link => link.receiver.stats.framesDecoded) hrest.link).trans hdecodes.counted
  · rw [← hexecutor, ← hsame]
    exact (congrArg Executor.executed hrest.executor).trans hexecuted
  · rw [← hexecutor, ← hsame]
    exact (congrArg Executor.rejected hrest.executor).trans hrejected
  · change ∃ bits, (s.runTasksAs classify).vehicle.link.receiver.decoder.Holds bits
    rw [hrest.link]
    exact hlast

/-! ## Runs -/

/-- What is left once calls were answered. -/
structure Settled (reports : List StepReport) (s : Simulation) : Prop where
  drained : s.vehicle.shared.commands.bytes = []
  queued : ∀ window ∈ windows reports, window.outcome.byte?.isSome → window.queued = true
  taken : taken reports = decoded reports
  counted : s.vehicle.link.receiver.stats.framesDecoded = UInt32.ofNat (decoded reports).length
  executed : s.executor.executed = UInt32.ofNat (executed reports).length
  executed_le : (Simulation.executed reports).length ≤ (Simulation.taken reports).length
  rejected : s.executor.rejected
    = UInt32.ofNat ((Simulation.taken reports).length - (Simulation.executed reports).length)
  holds : ∃ bits, s.vehicle.link.receiver.decoder.Holds bits

theorem settled_create {config : VehicleConfig} (h : create config = .ok s) : Settled [] s := by
  obtain ⟨vehicle, hvehicle, hs⟩ := Check.exists_of_bind_eq_ok h
  obtain ⟨-, -, hreceiver⟩ := Receiver.create_eq_ok_iff.1 (Pipeline.receiver_create hvehicle)
  have hcommands := Vehicle.commands_create hvehicle
  cases hs
  refine ⟨hcommands, by simp [windows], rfl, ?_, rfl, Nat.le_refl 0, rfl, [], ?_⟩
  · rw [hreceiver]
    rfl
  · rw [hreceiver]
    exact Decoder.holds_clear (Decoder.ofConfig config.link windowSize)

theorem Settled.transmit (h : Settled reports s) (command : Command) :
    Settled reports (s.transmit command) :=
  ⟨h.drained, h.queued, h.taken, h.counted, h.executed, h.executed_le, h.rejected, h.holds⟩

theorem Settled.step (h : Settled reports s) (classify : Classifier) :
    Settled (reports ++ [s.reportAs classify]) (s.stepAs classify) := by
  have hclears := clears_step classify h.holds h.drained
  have hle := Executor.length_command?_le (s.reportAs classify).executor
  refine ⟨hclears.drained, ?_, ?_, ?_, ?_, ?_, ?_, hclears.holds⟩
  · rw [windows_snoc]
    exact List.forall_mem_append.2 ⟨h.queued, hclears.queued⟩
  · rw [taken_snoc, decoded_snoc, hclears.decoded, h.taken]
  · rw [hclears.counted, h.counted, decoded_snoc, hclears.decoded, List.length_append,
      UInt32.ofNat_add]
  · rw [hclears.executed, h.executed, executed_snoc, List.length_append, UInt32.ofNat_add]
  · rw [executed_snoc, taken_snoc, List.length_append, List.length_append]
    exact Nat.add_le_add h.executed_le hle
  · have hsplit := h.executed_le
    rw [hclears.rejected, h.rejected, executed_snoc, taken_snoc, List.length_append,
      List.length_append, ← UInt32.ofNat_add]
    congr 1
    omega

/-- What holds once calls were answered, whatever was heard. -/
structure Balanced (reports : List StepReport) (s : Simulation) : Prop where
  drained : s.vehicle.shared.commands.bytes = []
  /-- No command was refused by the queue. -/
  queued : ∀ window ∈ windows reports, window.outcome.byte?.isSome → window.queued = true
  /-- The executor took the commands decoded, in order. -/
  taken : taken reports = decoded reports
  balance : (decoded reports).length < 2 ^ 32 →
    s.vehicle.link.receiver.stats.framesDecoded.toNat = (decoded reports).length ∧
      s.executor.executed.toNat + s.executor.rejected.toNat = (decoded reports).length

theorem Settled.balanced (h : Settled reports s) : Balanced reports s := by
  refine ⟨h.drained, h.queued, h.taken, fun hfew => ?_⟩
  have hsplit := h.executed_le
  rw [h.taken] at hsplit
  rw [h.counted, h.executed, h.rejected, h.taken, UInt32.toNat_ofNat_of_lt' hfew,
    UInt32.toNat_ofNat_of_lt' (Nat.lt_of_le_of_lt hsplit hfew),
    UInt32.toNat_ofNat_of_lt' (Nat.lt_of_le_of_lt (Nat.sub_le ..) hfew)]
  exact ⟨rfl, Nat.add_sub_cancel' hsplit⟩

/-- One call with what is heard in it. -/
def performHearing (s : Simulation) (call : Classifier × Call) : Option StepReport × Simulation :=
  s.performAs call.1 call.2

/-- **Every command decoded is taken in its step.** From creation on, after any calls and whatever is
heard in each: no command waits, none was refused by its queue, and the frames decoded are the commands
executed and rejected. -/
theorem balanced_run {config : VehicleConfig} {start : Simulation} (hcreate : create config = .ok start)
    (calls : List (Classifier × Call)) :
    Balanced (Run.answers performHearing start calls).reduceOption
      (Run.final performHearing start calls) := by
  have hsettled : Settled (Run.answers performHearing start calls).reduceOption
      (Run.final performHearing start calls) := Run.induction
    (motive := fun _ answers s => Settled answers.reduceOption s) (settled_create hcreate)
    (fun _ answers s call h => by
      rw [List.reduceOption_append]
      cases hcall : call.2 with
      | transmit command =>
          simp only [performHearing, hcall, performAs]
          simpa using h.transmit command
      | step =>
          simp only [performHearing, hcall, performAs]
          exact h.step call.1) calls
  exact hsettled.balanced

/-- A hum at the zero tone, which is heard as one byte after the other, and a command in between. -/
def humming : List (Classifier × Call) :=
  List.flatten [List.replicate 1000 (fun _ _ _ => 125, .step), [(.peak, .transmit .land)],
    List.replicate 1000 (fun _ _ _ => 125, .step)]

theorem balanced_humming :
    ∃ start, create {} = .ok start ∧
      Balanced (Run.answers performHearing start humming).reduceOption
        (Run.final performHearing start humming) := by
  have hvalid : VehicleConfig.validate {} = .ok () :=
    validate_link ((LinkConfig.validate_eq_ok_iff _ windowSize).2 (by decide +kernel))
  obtain ⟨start, hcreate⟩ := (exists_create_eq_ok_iff {}).2 ⟨hvalid, by decide, by decide⟩
  exact ⟨start, hcreate, balanced_run hcreate humming⟩

end Simulation

end LightPilot
