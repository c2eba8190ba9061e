import LightPilot.Link.Peak

set_option autoImplicit false

/-! # The double buffer between sampling and decoding

Two buffers of one window each: samples go into the current one while the other waits to be taken. A
full buffer is never written before it has been taken; a sample that finds both full is dropped. -/

namespace LightPilot

/-- How far a buffer is filled. -/
inductive BufferStatus
  | empty
  | filling
  | full
  deriving DecidableEq

/-- What became of a sample. -/
inductive PushOutcome
  | stored
  /-- The sample made this buffer full. -/
  | filled (buffer : Fin 2)
  /-- Both buffers were full. -/
  | dropped
  deriving DecidableEq

/-- Two buffers of `size` samples. -/
structure SampleBuffers (size : Nat) where
  buffers : Vector (Array Float32) 2 := #v[#[], #[]]
  /-- The buffer that is written next. -/
  current : Fin 2 := 0
  /-- The sampling ticks so far, with or without a sample. -/
  ticks : UInt32 := 0
  /-- The samples dropped so far. -/
  dropped : UInt32 := 0

namespace SampleBuffers

variable {size : Nat}

/-- Buffers without samples. -/
def empty : SampleBuffers size := {}

/-- The buffer that is not written next. -/
def other (b : SampleBuffers size) : Fin 2 := 1 - b.current

/-- The number of samples in a buffer. -/
def entries (b : SampleBuffers size) (buffer : Fin 2) : Nat :=
  b.buffers[buffer].size

/-- How far a buffer is filled. -/
def status (b : SampleBuffers size) (buffer : Fin 2) : BufferStatus :=
  if b.entries buffer = 0 then .empty
  else if b.entries buffer < size then .filling
  else .full

/-- A tick without a sample. -/
def skip (b : SampleBuffers size) : SampleBuffers size :=
  { b with ticks := b.ticks + 1 }

/-- A tick with a sample. -/
def push (b : SampleBuffers size) (value : Float32) : PushOutcome × SampleBuffers size :=
  let b := b.skip
  if b.status b.current = .full then (.dropped, { b with dropped := b.dropped + 1 })
  else
    let buffer := b.buffers[b.current].push value
    let buffers := b.buffers.set b.current buffer
    if buffer.size < size then (.stored, { b with buffers })
    else (.filled b.current, { b with buffers, current := b.other })

/-- The content of a full buffer. -/
def window? (b : SampleBuffers size) (buffer : Fin 2) : Option (Window size) :=
  if h : b.buffers[buffer].size = size ∧ 0 < size then some ⟨b.buffers[buffer], h.1⟩ else none

/-- The buffers with one of them emptied. -/
def release (b : SampleBuffers size) (buffer : Fin 2) : SampleBuffers size :=
  { b with buffers := b.buffers.set buffer #[] }

/-- Takes a full buffer. If both are full, the current one is the older and goes first. -/
def take (b : SampleBuffers size) : Option (Window size × SampleBuffers size) :=
  match b.window? b.current with
  | some window => some (window, b.release b.current)
  | none => (b.window? b.other).map fun window => (window, b.release b.other)

end SampleBuffers

end LightPilot
