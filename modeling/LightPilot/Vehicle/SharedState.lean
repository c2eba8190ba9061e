import LightPilot.Filter.Population
import LightPilot.Link.SampleBuffers
import LightPilot.Vehicle.Config

set_option autoImplicit false

/-! # What the tasks share

The swarm, which motion and observations both change; the sample buffers between sampling and decoding;
and the queue of decoded commands, first in, first out, which refuses a command when it is full. -/

namespace LightPilot

/-- The commands that may wait. -/
def commandCapacity : Nat := 20

/-- Decoded command bytes, oldest first. -/
structure CommandQueue where
  bytes : List UInt8
  bounded : bytes.length ≤ commandCapacity

namespace CommandQueue

/-- A queue without commands. -/
def empty : CommandQueue :=
  ⟨[], Nat.zero_le _⟩

/-- The queue with one more command, if there is a place. -/
def push? (queue : CommandQueue) (byte : UInt8) : Option CommandQueue :=
  if h : queue.bytes.length < commandCapacity then
    some ⟨queue.bytes ++ [byte], by rw [List.length_append]; exact h⟩
  else none

/-- The oldest command and the others. -/
def pop? (queue : CommandQueue) : Option (UInt8 × CommandQueue) :=
  match h : queue.bytes with
  | [] => none
  | byte :: bytes =>
    some (byte, ⟨bytes, by have := queue.bounded; rw [h, List.length_cons] at this; omega⟩)

/-- The number of commands that wait. -/
def length (queue : CommandQueue) : Nat :=
  queue.bytes.length

end CommandQueue

/-- What the tasks share. -/
structure SharedState where
  population : Population particleCount
  samples : SampleBuffers windowSize := SampleBuffers.empty
  commands : CommandQueue := CommandQueue.empty

namespace SharedState

/-- The shared state of a vehicle at the start. -/
def create (config : VehicleConfig) : Except VehicleError SharedState := do
  config.validate
  let population ← (Population.create particleCount config.filter config.map).mapError .navigation
  return { population }

/-- Queues a command and says whether it found a place. -/
def queueCommand (shared : SharedState) (byte : UInt8) : Bool × SharedState :=
  match shared.commands.push? byte with
  | some commands => (true, { shared with commands })
  | none => (false, shared)

/-- The oldest command, taken out of the queue. -/
def nextCommand? (shared : SharedState) : Option (UInt8 × SharedState) :=
  shared.commands.pop?.map fun (byte, commands) => (byte, { shared with commands })

end SharedState

end LightPilot
