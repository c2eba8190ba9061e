import LightPilot.Proofs.Vehicle.LinkTask
import LightPilot.Proofs.World.Arithmetic

set_option autoImplicit false

/-! # The link task keeps up with sampling

Sampling stores a sample in every millisecond that its period divides, and the link task empties the
buffers in every millisecond that its own period divides. The two periods need not divide each other, and
when the clock wraps both schedules start anew, out of step with what came before.

Before each step the backlog is bounded by what the link task may leave, less than a window, and the
samples due since its last run (`allowed`). Accepted periods let at most a window of samples fall between
two runs (`sampled_le`), so a push always finds room. When the clock wraps, one more sample may come
before the next run, which then finds two whole windows and takes both. -/

namespace LightPilot

theorem Executor.samples_poll (executor : Executor) (shared : SharedState) (params : Parameters)
    (craft : Craft) : (executor.poll shared params craft).2.2.1.samples = shared.samples := by
  have hnext : ∀ byte next, shared.nextCommand? = some (byte, next) →
      next.samples = shared.samples := by
    intro byte next hnext
    obtain ⟨popped, -, heq⟩ := Option.map_eq_some_iff.1 hnext
    cases heq
    rfl
  rw [poll]
  split
  · rfl
  · next hsome =>
      dsimp only
      split
      · exact hnext _ _ hsome
      · split
        · exact hnext _ _ hsome
        · exact hnext _ _ hsome

namespace Simulation

variable {s : Simulation}

/-- The sample buffers. -/
def samples (s : Simulation) : SampleBuffers windowSize :=
  s.vehicle.shared.samples

/-! ## The parts of a step -/

/-- A part of a step that has nothing to do with sampling or the link. -/
structure Leaves (before after : Simulation) : Prop where
  now : after.now = before.now
  config : after.config = before.config
  samples : after.samples = before.samples

theorem leaves_moveCraft (s : Simulation) : Leaves s s.moveCraft.2 := ⟨rfl, rfl, rfl⟩

theorem leaves_runExecutor (s : Simulation) : Leaves s s.runExecutor.2 :=
  ⟨rfl, rfl, s.executor.samples_poll s.vehicle.shared s.vehicle.params s.craft⟩

theorem leaves_runMotion (s : Simulation) : Leaves s s.runMotion.2 := by
  rw [runMotion]
  split <;> exact ⟨rfl, rfl, rfl⟩

theorem leaves_runFilter (s : Simulation) : Leaves s s.runFilter.2 := by
  rw [runFilter]
  split <;> exact ⟨rfl, rfl, rfl⟩

theorem isDue_iff (periodMs : UInt32) : s.isDue periodMs ↔ periodMs.toNat ∣ s.now.toNat := by
  rw [isDue, beq_iff_eq, ← UInt32.toNat_inj, UInt32.toNat_mod, UInt32.toNat_zero,
    Nat.dvd_iff_mod_eq_zero]

/-- The sampling task stores a sample if it is due. -/
theorem runSampling_cases (s : Simulation) :
    (¬ s.config.periods.sampleMs.toNat ∣ s.now.toNat ∧ s.runSampling = (none, s)) ∨
    (s.config.periods.sampleMs.toNat ∣ s.now.toNat ∧ ∃ value,
      s.runSampling.1 = some (s.samples.push value).1 ∧
      s.runSampling.2.samples = (s.samples.push value).2 ∧
      s.runSampling.2.now = s.now ∧ s.runSampling.2.config = s.config) := by
  rw [← isDue_iff, runSampling]
  by_cases hdue : s.isDue s.config.periods.sampleMs = true
  · rw [if_pos hdue]
    exact .inr ⟨hdue, _, rfl, rfl, rfl, rfl⟩
  · rw [if_neg hdue]
    exact .inl ⟨hdue, rfl⟩

/-- The link task empties the buffers if it is due, whatever it hears. -/
theorem runLinkAs_cases (classify : Classifier) (s : Simulation) (hordered : s.samples.Ordered) :
    (¬ s.config.periods.linkMs.toNat ∣ s.now.toNat ∧ s.runLinkAs classify = (none, s)) ∨
    (s.config.periods.linkMs.toNat ∣ s.now.toNat ∧
      LinkTask.Emptied s.samples (s.runLinkAs classify).2.samples ∧
      (s.runLinkAs classify).2.now = s.now ∧ (s.runLinkAs classify).2.config = s.config) := by
  rw [← isDue_iff, runLinkAs]
  by_cases hdue : s.isDue s.config.periods.linkMs = true
  · rw [if_pos hdue]
    exact .inr ⟨hdue, s.vehicle.link.samples_runAs classify hordered, rfl, rfl⟩
  · rw [if_neg hdue]
    exact .inl ⟨hdue, rfl⟩

/-! ## Samples between two runs -/

/-- The number of samples due after the last run of the link task up to an instant. -/
def sampled (periods : TaskPeriods) (instant : Nat) : Nat :=
  let lastRun := instant / periods.linkMs.toNat * periods.linkMs.toNat
  instant / periods.sampleMs.toNat - lastRun / periods.sampleMs.toNat

/-- The most samples that may wait before the step at `now`: what the link task may leave and the
samples since. Where the clock wraps the last run is not known, but one more sample has room. -/
def allowed (periods : TaskPeriods) : (now : Nat) → Nat
  | 0 => 2 * windowSize - 1
  | instant + 1 => windowSize - 1 + sampled periods instant

variable {periods : TaskPeriods}

theorem lastRun_div_le (periods : TaskPeriods) (instant : Nat) :
    instant / periods.linkMs.toNat * periods.linkMs.toNat / periods.sampleMs.toNat
      ≤ instant / periods.sampleMs.toNat :=
  Nat.div_le_div_right (Nat.div_mul_le_self ..)

/-- One more sample is due after an instant, or none. -/
theorem sampled_succ {instant : Nat} (h : ¬ periods.linkMs.toNat ∣ instant + 1) :
    sampled periods (instant + 1)
      = sampled periods instant + if periods.sampleMs.toNat ∣ instant + 1 then 1 else 0 := by
  have hbefore := lastRun_div_le periods instant
  rw [sampled, sampled, Nat.succ_div_of_not_dvd h, Nat.succ_div]
  omega

/-- From one run to the next at most a window of samples is due. -/
theorem sampled_le (hperiods : periods.validate = .ok ()) (instant : Nat) :
    sampled periods instant + (if periods.sampleMs.toNat ∣ instant + 1 then 1 else 0)
      ≤ windowSize := by
  obtain ⟨⟨hsample, hlink, -⟩, -, hslow⟩ := periods.validate_eq_ok_iff.1 hperiods
  have hsample : 0 < periods.sampleMs.toNat := UInt32.pos_iff_ne_zero.2 hsample
  have hlink : 0 < periods.linkMs.toNat := UInt32.pos_iff_ne_zero.2 hlink
  have hnext : instant + 1 ≤ instant / periods.linkMs.toNat * periods.linkMs.toNat
      + windowSize * periods.sampleMs.toNat := by
    have hdiv := Nat.div_add_mod' instant periods.linkMs.toNat
    have hlt := Nat.mod_lt instant hlink
    omega
  have hbefore := lastRun_div_le periods instant
  have hcount := Nat.div_le_div_right (c := periods.sampleMs.toNat) hnext
  rw [Nat.add_mul_div_right _ _ hsample, Nat.succ_div] at hcount
  rw [sampled]
  omega

theorem allowed_lt (hperiods : periods.validate = .ok ()) (now : Nat) :
    allowed periods now < 2 * windowSize := by
  cases now with
  | zero => exact Nat.sub_lt (by decide) (by decide)
  | succ instant =>
      have hle := sampled_le hperiods instant
      have hsize : 0 < windowSize := by decide
      rw [allowed]
      omega

/-- What the step at `now` leaves is allowed before the next one. -/
theorem le_allowed_succ (periods : TaskPeriods) (now : Nat) :
    (if periods.linkMs.toNat ∣ now then windowSize - 1
      else allowed periods now + if periods.sampleMs.toNat ∣ now then 1 else 0)
      ≤ allowed periods (now + 1) := by
  by_cases hdue : periods.linkMs.toNat ∣ now
  · rw [if_pos hdue]
    exact Nat.le_add_right ..
  · cases now with
    | zero => exact absurd (Nat.dvd_zero _) hdue
    | succ instant =>
        rw [if_neg hdue, allowed, allowed, sampled_succ hdue]
        exact Nat.le_of_eq (Nat.add_assoc ..)

/-- The same where the clock wraps. -/
theorem le_allowed_next (hperiods : periods.validate = .ok ()) (now : UInt32) :
    (if periods.linkMs.toNat ∣ now.toNat then windowSize - 1
      else allowed periods now.toNat + if periods.sampleMs.toNat ∣ now.toNat then 1 else 0)
      ≤ allowed periods (now + 1).toNat := by
  have hsucc := le_allowed_succ periods now.toNat
  have hroom := allowed_lt hperiods (now.toNat + 1)
  rw [UInt32.toNat_add, UInt32.toNat_one]
  rcases Nat.lt_or_ge (now.toNat + 1) (2 ^ 32) with hlt | hge
  · rwa [Nat.mod_eq_of_lt hlt]
  · have hlast : now.toNat + 1 = 2 ^ 32 := Nat.le_antisymm now.toNat_lt hge
    rw [← hlast, Nat.mod_self]
    exact hsucc.trans (Nat.le_sub_one_of_lt hroom)

/-! ## One step -/

/-- The buffers have lost no sample, and at most `bound` samples wait. -/
structure Holding (periods : TaskPeriods) (now : UInt32) (bound : Nat) (s : Simulation) : Prop where
  now : s.now = now
  periods : s.config.periods = periods
  ordered : s.samples.Ordered
  dropped : s.samples.dropped = 0
  backlog : s.samples.backlog ≤ bound

variable {now : UInt32} {bound : Nat}

theorem Holding.start (hnow : s.now = 0) (hsamples : s.samples = .empty) :
    s.Holding s.config.periods 0 bound := by
  refine ⟨hnow, rfl, ?_, ?_, ?_⟩
  · rw [hsamples]
    exact SampleBuffers.ordered_empty windowSize
  · rw [hsamples]
    rfl
  · rw [hsamples, SampleBuffers.backlog_empty (by decide)]
    exact Nat.zero_le bound

theorem Holding.of_leaves {after : Simulation} (h : s.Holding periods now bound)
    (hleaves : Leaves s after) : after.Holding periods now bound := by
  refine ⟨hleaves.now.trans h.now, ?_, ?_, ?_, ?_⟩
  · rw [hleaves.config, h.periods]
  · rw [hleaves.samples]
    exact h.ordered
  · rw [hleaves.samples, h.dropped]
  · rw [hleaves.samples]
    exact h.backlog

/-- A push with room for it is kept. -/
theorem Holding.runSampling (h : s.Holding periods now bound) (hroom : bound < 2 * windowSize) :
    s.runSampling.1 ≠ some .dropped ∧ s.runSampling.2.Holding periods now
      (bound + if periods.sampleMs.toNat ∣ now.toNat then 1 else 0) := by
  rw [← h.now, ← h.periods]
  rcases s.runSampling_cases with ⟨hdue, hnone⟩ | ⟨hdue, value, houtcome, hsamples, hnow, hconfig⟩
  · rw [hnone, if_neg hdue]
    exact ⟨by simp, ⟨rfl, rfl, h.ordered, h.dropped, h.backlog⟩⟩
  · have hkept : (s.samples.push value).1 ≠ .dropped := by
      rw [Ne, SampleBuffers.push_eq_dropped_iff_backlog (by decide) h.ordered]
      exact Nat.ne_of_lt (Nat.lt_of_le_of_lt h.backlog hroom)
    have hdropped := SampleBuffers.dropped_push (by decide) s.samples value
    rw [if_neg hkept, h.dropped] at hdropped
    rw [houtcome, if_pos hdue]
    refine ⟨by simpa using hkept, ⟨hnow, by rw [hconfig], ?_, ?_, ?_⟩⟩
    · rw [hsamples]
      exact (SampleBuffers.queue_push (by decide) s.samples h.ordered value).1
    · rw [hsamples]
      exact hdropped
    · rw [hsamples, SampleBuffers.backlog_push (by decide) h.ordered hkept]
      exact Nat.succ_le_succ h.backlog

/-- A run of the link task leaves less than a window. -/
theorem Holding.runLinkAs (h : s.Holding periods now bound) (classify : Classifier) :
    (s.runLinkAs classify).2.Holding periods now
        (if periods.linkMs.toNat ∣ now.toNat then windowSize - 1 else bound) ∧
      ((s.runLinkAs classify).1.isSome →
        ∀ buffer, (s.runLinkAs classify).2.samples.status buffer ≠ .full) := by
  rw [← h.now, ← h.periods]
  rcases s.runLinkAs_cases classify h.ordered with ⟨hdue, hnone⟩ | ⟨hdue, hemptied, hnow, hconfig⟩
  · rw [hnone, if_neg hdue]
    exact ⟨⟨rfl, rfl, h.ordered, h.dropped, h.backlog⟩, fun hrun => by simp at hrun⟩
  · rw [if_pos hdue]
    refine ⟨⟨hnow, by rw [hconfig], hemptied.ordered, hemptied.dropped.trans h.dropped, ?_⟩,
      fun _ => SampleBuffers.status_ne_full_of_waiting (by decide) hemptied.ordered hemptied.waiting⟩
    rw [SampleBuffers.backlog_of_waiting_nil hemptied.waiting]
    exact Nat.le_sub_one_of_lt (hemptied.ordered.length_begun_lt (by decide))

/-- The next push of a simulation is kept, and the next run of its link task leaves no buffer full. -/
structure KeepsPace (s : Simulation) : Prop where
  stored : s.moveCraft.2.runSampling.1 ≠ some .dropped
  drained : s.moveCraft.2.runSampling.2.runLink.1.isSome →
    ∀ buffer, s.moveCraft.2.runSampling.2.runLink.2.samples.status buffer ≠ .full

/-- A step that drops nothing reports no overrun. -/
theorem KeepsPace.overrun?_eq_none (h : s.KeepsPace) : s.stepReporting.1.overrun? = none :=
  if_neg h.stored

theorem Holding.tick (h : s.Holding periods now bound) {next : Nat} (hle : bound ≤ next) :
    ({ s with now := s.now + 1 } : Simulation).Holding periods (now + 1) next :=
  ⟨congrArg (· + 1) h.now, h.periods, h.ordered, h.dropped, h.backlog.trans hle⟩

/-- Whatever is heard, no sample is lost in a step, and its link task leaves no buffer full. -/
theorem Holding.stepAs (hperiods : periods.validate = .ok ())
    (h : s.Holding periods now (allowed periods now.toNat)) (classify : Classifier) :
    s.moveCraft.2.runSampling.1 ≠ some .dropped ∧
      ((s.beforeLink.runLinkAs classify).1.isSome →
        ∀ buffer, (s.beforeLink.runLinkAs classify).2.samples.status buffer ≠ .full) ∧
      (s.stepAs classify).Holding periods (now + 1) (allowed periods (now + 1).toNat) := by
  obtain ⟨hstored, hsampled⟩ :=
    (h.of_leaves s.leaves_moveCraft).runSampling (allowed_lt hperiods now.toNat)
  obtain ⟨hlinked, hdrained⟩ := hsampled.runLinkAs classify
  have hdone := ((hlinked.of_leaves (leaves_runExecutor _)).of_leaves (leaves_runMotion _)).of_leaves
    (leaves_runFilter _)
  refine ⟨hstored, hdrained, ?_⟩
  rw [stepAs_eq]
  exact Holding.tick (s := s.runTasksAs classify) hdone (le_allowed_next hperiods now)

theorem Holding.step (hperiods : periods.validate = .ok ())
    (h : s.Holding periods now (allowed periods now.toNat)) :
    s.KeepsPace ∧ s.step.Holding periods (now + 1) (allowed periods (now + 1).toNat) := by
  obtain ⟨hstored, hdrained, hnext⟩ := h.stepAs hperiods .peak
  exact ⟨⟨hstored, hdrained⟩, hnext⟩

/-! ## Runs -/

/-- What holds after the calls `calls` on the simulation `start`. -/
structure NeverOverruns (start : Simulation) (calls : List Call) : Prop where
  clock : (Run.final perform start calls).now = UInt32.ofNat (calls.count .step)
  periods : (Run.final perform start calls).config.periods = start.config.periods
  keepsPace : (Run.final perform start calls).KeepsPace
  dropped : (Run.final perform start calls).samples.dropped = 0
  reported : ∀ report, some report ∈ Run.answers perform start calls → report.overrun? = none

/-- What the calls so far, answered by `answers`, keep of the simulation `start`. -/
structure KeptSince (start : Simulation) (calls : List Call) (answers : List (Option StepReport))
    (s : Simulation) : Prop where
  holding : s.Holding start.config.periods (UInt32.ofNat (calls.count .step))
    (allowed start.config.periods (UInt32.ofNat (calls.count .step)).toNat)
  reported : ∀ report, some report ∈ answers → report.overrun? = none

theorem KeptSince.perform {start : Simulation} {calls : List Call}
    {answers : List (Option StepReport)} (hperiods : start.config.periods.validate = .ok ())
    (h : KeptSince start calls answers s) (call : Call) :
    KeptSince start (calls ++ [call]) (answers ++ [(s.perform call).1]) (s.perform call).2 := by
  cases call with
  | transmit command =>
      refine ⟨?_, by simpa [Simulation.perform, performAs] using h.reported⟩
      rw [List.count_append]
      exact h.holding.of_leaves ⟨rfl, rfl, rfl⟩
  | step =>
      obtain ⟨hpace, hnext⟩ := h.holding.step hperiods
      refine ⟨?_, fun report hreport => ?_⟩
      · rw [List.count_append, UInt32.ofNat_add]
        exact hnext
      rcases List.mem_append.1 hreport with hbefore | hlast
      · exact h.reported report hbefore
      · obtain rfl : report = s.stepReporting.1 := Option.some.inj (List.mem_singleton.1 hlast)
        exact hpace.overrun?_eq_none

/-- **No overrun.** With accepted periods no sample is ever dropped, from a start with new buffers on,
however long the simulation runs and however often its clock wraps. -/
theorem neverOverruns_run {start : Simulation} (hperiods : start.config.periods.validate = .ok ())
    (hnow : start.now = 0) (hsamples : start.samples = .empty) (calls : List Call) :
    NeverOverruns start calls := by
  have hstart : KeptSince start [] [] start := ⟨.start hnow hsamples, by simp⟩
  obtain ⟨hholding, hreported⟩ := Run.induction (motive := KeptSince start) hstart
    (fun _ _ _ call h => h.perform hperiods call) calls
  have hpace := (hholding.step hperiods).1
  exact ⟨hholding.now, hholding.periods, hpace, hholding.dropped, hreported⟩

theorem samples_create {config : VehicleConfig} (h : create config = .ok s) :
    s.samples = .empty := by
  obtain ⟨vehicle, hvehicle, hs⟩ := Check.exists_of_bind_eq_ok h
  cases hs
  exact (Vehicle.link_create hvehicle).2.2

/-- The slowest link task that is accepted for a sample every three milliseconds; neither period
divides the other. -/
def tightConfig : VehicleConfig :=
  { periods := { sampleMs := 3, linkMs := 47 } }

theorem neverOverruns_tightConfig :
    ∃ s, create tightConfig = .ok s ∧
      NeverOverruns s (.transmit .land :: List.replicate 1000 .step) := by
  have hlink : tightConfig.link.validate windowSize = .ok () :=
    (LinkConfig.validate_eq_ok_iff _ _).2 (by decide +kernel)
  have hperiods : tightConfig.periods.validate = .ok () :=
    (TaskPeriods.validate_eq_ok_iff _).2 (by decide)
  obtain ⟨hfilter, hmotion, -, -⟩ := (VehicleConfig.validate_eq_ok_iff _).1 (validate_link hlink)
  have hvalid : tightConfig.validate = .ok () :=
    (VehicleConfig.validate_eq_ok_iff _).2 ⟨hfilter, hmotion, hlink, hperiods⟩
  obtain ⟨s, hs⟩ := (exists_create_eq_ok_iff tightConfig).2 ⟨hvalid, by decide, by decide⟩
  obtain ⟨hof, hnow⟩ := isOf_create hs
  rw [← hof.settings] at hperiods
  exact ⟨s, hs, neverOverruns_run hperiods hnow (samples_create hs) _⟩

end Simulation

end LightPilot
