import LightPilot.Link.Receiver
import LightPilot.Vehicle.SharedState

set_option autoImplicit false

/-! # Decoding the light

A run takes every full window, decodes it, queues the commands that come out, and last looks for a byte
that has waited too long. There are two buffers, so a run takes two windows at most.

The task looks into a window only to reduce it to a frequency. So its steps are defined for any `Classifier`,
the `As` ones, and those of the vehicle are the ones for the peak of the spectrum. -/

namespace LightPilot

/-- What is heard in a window, given the number of windows heard before and the sample rate. -/
abbrev Classifier : Type := UInt32 → UInt32 → Window windowSize → UInt16

/-- The ear of the vehicle. -/
def Classifier.peak : Classifier :=
  fun _ sampleRate window => window.peakFrequency sampleRate

/-- The link task. -/
structure LinkTask where
  receiver : Receiver windowSize historyCapacity

/-- What one window led to. -/
structure WindowReport where
  /-- The receiver that took the window. -/
  before : Receiver windowSize historyCapacity
  /-- The receiver afterwards. -/
  after : Receiver windowSize historyCapacity
  outcome : FrameOutcome
  /-- Whether a command came out and was queued. -/
  queued : Bool

/-- What one run did. -/
structure LinkReport where
  windows : List WindowReport
  /-- The tick at which the run ended. -/
  endTick : UInt32
  /-- Whether a byte was dropped at the end. -/
  timedOut : Bool

/-- The number of commands queued by a run. -/
def LinkReport.queued (report : LinkReport) : Nat :=
  report.windows.countP WindowReport.queued

namespace LinkTask

/-- The link task of a vehicle. -/
def create (config : LinkConfig) : Except VehicleError LinkTask := do
  let receiver ← (Receiver.create windowSize historyCapacity config).mapError .link
  return { receiver }

/-- Takes the frequency heard in a window. -/
def hear (task : LinkTask) (frequency : UInt16) (shared : SharedState) :
    WindowReport × LinkTask × SharedState :=
  let (outcome, receiver) := task.receiver.hear frequency shared.samples.ticks
  let (queued, shared) :=
    match outcome with
    | .command byte => shared.queueCommand byte
    | _ => (false, shared)
  ({ before := task.receiver, after := receiver, outcome, queued }, ⟨receiver⟩, shared)

/-- Takes one full window, if there is one. -/
def takeWindowAs (classify : Classifier) (task : LinkTask) (shared : SharedState) :
    Option (WindowReport × LinkTask × SharedState) :=
  shared.samples.take.map fun (window, samples) =>
    task.hear (classify task.receiver.stats.windows task.receiver.sampleRate window)
      { shared with samples }

/-- Takes full windows while there are any, up to `count`. -/
def takeWindowsAs (classify : Classifier) : (count : Nat) → LinkTask → SharedState →
    List WindowReport × LinkTask × SharedState
  | 0, task, shared => ([], task, shared)
  | count + 1, task, shared =>
    match task.takeWindowAs classify shared with
    | none => ([], task, shared)
    | some (report, task, shared) =>
      let (reports, task, shared) := takeWindowsAs classify count task shared
      (report :: reports, task, shared)

/-- One run. -/
def runAs (classify : Classifier) (task : LinkTask) (shared : SharedState) :
    LinkReport × LinkTask × SharedState :=
  let (windows, task, shared) := takeWindowsAs classify 2 task shared
  let endTick := shared.samples.ticks
  let (timedOut, receiver) := task.receiver.pollTimeout endTick
  ({ windows, endTick, timedOut }, ⟨receiver⟩, shared)

/-- Takes one full window, if there is one, with the ear of the vehicle. -/
def takeWindow (task : LinkTask) (shared : SharedState) :
    Option (WindowReport × LinkTask × SharedState) :=
  task.takeWindowAs .peak shared

end LinkTask

end LightPilot
