import LightPilot.Proofs.Link.Backlog
import LightPilot.Vehicle.LinkTask

set_option autoImplicit false

/-! # What a run of the link task does to the buffers

A run takes the waiting windows, older first, and leaves the window that is begun. Since two windows at
most can wait, none is left after a run, whatever is heard in them (`samples_runAs`). -/

namespace LightPilot

theorem SharedState.samples_queueCommand (shared : SharedState) (byte : UInt8) :
    (shared.queueCommand byte).2.samples = shared.samples := by
  rw [queueCommand]
  split <;> rfl

namespace LinkTask

theorem samples_hear (task : LinkTask) (frequency : UInt16) (shared : SharedState) :
    (task.hear frequency shared).2.2.samples = shared.samples := by
  unfold hear
  dsimp only
  split
  · exact SharedState.samples_queueCommand ..
  · rfl

theorem report_hear (task : LinkTask) (frequency : UInt16) (shared : SharedState) :
    (task.hear frequency shared).1.before = task.receiver ∧
      (task.hear frequency shared).2.1 = ⟨(task.hear frequency shared).1.after⟩ ∧
      task.receiver.hear frequency shared.samples.ticks
        = ((task.hear frequency shared).1.outcome, (task.hear frequency shared).1.after) :=
  ⟨rfl, rfl, rfl⟩

/-- Nothing happens if no window waits; else the oldest one is heard. -/
theorem takeWindowAs_cases (classify : Classifier) (task : LinkTask) {shared : SharedState}
    (h : shared.samples.Ordered) :
    (shared.samples.waiting = [] ∧ shared.samples.take = none ∧
      task.takeWindowAs classify shared = none) ∨
    ∃ window samples, shared.samples.take = some (window, samples) ∧
      task.takeWindowAs classify shared = some (task.hear
        (classify task.receiver.stats.windows task.receiver.sampleRate window)
        { shared with samples }) ∧
      samples.Ordered ∧ shared.samples.waiting = window :: samples.waiting ∧
      samples.begun = shared.samples.begun ∧ samples.ticks = shared.samples.ticks ∧
      samples.dropped = shared.samples.dropped := by
  rcases SampleBuffers.queue_take (by decide) shared.samples h with ⟨hwaiting, hnone⟩ |
    ⟨window, samples, hsome, hordered, hwaiting, hbegun, hticks, hdropped⟩
  · exact .inl ⟨hwaiting, hnone, by rw [takeWindowAs, hnone, Option.map_none]⟩
  · exact .inr ⟨window, samples, hsome, by rw [takeWindowAs, hsome, Option.map_some], hordered,
      hwaiting, hbegun, hticks, hdropped⟩

/-- With the ear of the vehicle the oldest window is processed at the tick of the buffers. -/
theorem takeWindow_cases (task : LinkTask) {shared : SharedState} (h : shared.samples.Ordered) :
    (shared.samples.waiting = [] ∧ shared.samples.take = none ∧ task.takeWindow shared = none) ∨
    ∃ window report shared', shared.samples.take = some (window, shared'.samples) ∧
      task.takeWindow shared = some (report, ⟨report.after⟩, shared') ∧
      report.before = task.receiver ∧
      task.receiver.process window shared.samples.ticks = (report.outcome, report.after) ∧
      shared'.samples.Ordered ∧ shared.samples.waiting = window :: shared'.samples.waiting ∧
      shared'.samples.begun = shared.samples.begun ∧ shared'.samples.ticks = shared.samples.ticks ∧
      shared'.samples.dropped = shared.samples.dropped := by
  rcases task.takeWindowAs_cases .peak h with hnone |
    ⟨window, samples, htake, hsome, hordered, hwaiting, hbegun, hticks, hdropped⟩
  · exact .inl hnone
  · have hprocess : task.receiver.process window shared.samples.ticks
        = task.receiver.hear (Classifier.peak task.receiver.stats.windows task.receiver.sampleRate window)
          samples.ticks := by
      rw [hticks]
      rfl
    generalize Classifier.peak task.receiver.stats.windows task.receiver.sampleRate window
      = frequency at hsome hprocess
    obtain ⟨hbefore, hafter, hheard⟩ := task.report_hear frequency { shared with samples }
    have hsamples := task.samples_hear frequency { shared with samples }
    rw [hheard] at hprocess
    generalize task.hear frequency { shared with samples } = heard
      at hsome hprocess hbefore hafter hsamples
    obtain ⟨report, next, shared'⟩ := heard
    obtain rfl : shared'.samples = samples := hsamples
    obtain rfl : next = ⟨report.after⟩ := hafter
    exact .inr ⟨window, report, shared', htake, hsome, hbefore, hprocess, hordered, hwaiting, hbegun,
      hticks, hdropped⟩

/-- The link task has taken all that waited in `before`. -/
structure Emptied (before after : SampleBuffers windowSize) : Prop where
  ordered : after.Ordered
  waiting : after.waiting = []
  begun : after.begun = before.begun
  ticks : after.ticks = before.ticks
  dropped : after.dropped = before.dropped

theorem samples_takeWindowsAs (classify : Classifier) (count : Nat) (task : LinkTask)
    {shared : SharedState} (h : shared.samples.Ordered) (hcount : shared.samples.waiting.length ≤ count) :
    Emptied shared.samples (takeWindowsAs classify count task shared).2.2.samples := by
  induction count generalizing task shared with
  | zero =>
      have hwaiting : shared.samples.waiting = [] :=
        List.eq_nil_of_length_eq_zero (Nat.le_zero.1 hcount)
      exact ⟨h, hwaiting, rfl, rfl, rfl⟩
  | succ count ih =>
      rw [takeWindowsAs]
      rcases task.takeWindowAs_cases classify h with ⟨hwaiting, -, hnone⟩ |
        ⟨window, samples, -, hsome, hordered, hwaiting, hbegun, hticks, hdropped⟩
      · rw [hnone]
        exact ⟨h, hwaiting, rfl, rfl, rfl⟩
      · rw [hsome]
        generalize classify task.receiver.stats.windows task.receiver.sampleRate window = frequency
        have hsamples := task.samples_hear frequency { shared with samples }
        generalize task.hear frequency { shared with samples } = heard at hsamples
        obtain ⟨report, middle, shared'⟩ := heard
        obtain rfl : shared'.samples = samples := hsamples
        rw [hwaiting, List.length_cons] at hcount
        have hrest := ih middle hordered (Nat.le_of_succ_le_succ hcount)
        exact ⟨hrest.ordered, hrest.waiting, hrest.begun.trans hbegun, hrest.ticks.trans hticks,
          hrest.dropped.trans hdropped⟩

theorem samples_runAs (classify : Classifier) (task : LinkTask) {shared : SharedState}
    (h : shared.samples.Ordered) :
    Emptied shared.samples (task.runAs classify shared).2.2.samples :=
  samples_takeWindowsAs classify 2 task h (SampleBuffers.length_waiting_le shared.samples)

end LinkTask

end LightPilot
