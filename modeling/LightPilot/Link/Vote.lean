set_option autoImplicit false

/-! # Majority votes

A vote over a list elects the value that fills more than half of it. One pass keeps a candidate and a
count of votes for it, paired off against votes for others: a value with a majority cannot be paired
off completely, so it ends as the candidate, and a second pass confirms it.

The history keeps the latest frequencies, up to a capacity, and votes over the last few of them. -/

namespace LightPilot

namespace Vote

/-- A candidate and its votes not paired off. -/
structure Tally where
  candidate : UInt16
  votes : Nat

/-- One more value. -/
def Tally.add (tally : Tally) (value : UInt16) : Tally :=
  if tally.votes = 0 then ⟨value, 1⟩
  else if value = tally.candidate then { tally with votes := tally.votes + 1 }
  else { tally with votes := tally.votes - 1 }

/-- The value that fills more than half of a list. -/
def majority? : List UInt16 → Option UInt16
  | [] => none
  | first :: rest =>
    let values := first :: rest
    let candidate := (values.foldl Tally.add ⟨first, 0⟩).candidate
    if values.count candidate > values.length / 2 then some candidate else none

end Vote

/-- The latest frequencies, newest first. -/
structure FrequencyHistory (capacity : Nat) where
  recent : List UInt16 := []

namespace FrequencyHistory

variable {capacity : Nat}

/-- Records a frequency; beyond the capacity the oldest is forgotten. -/
def push (h : FrequencyHistory capacity) (frequency : UInt16) : FrequencyHistory capacity :=
  ⟨(frequency :: h.recent).take capacity⟩

/-- The number of frequencies kept. -/
def length (h : FrequencyHistory capacity) : Nat :=
  h.recent.length

/-- The latest frequency. -/
def latest? (h : FrequencyHistory capacity) : Option UInt16 :=
  h.recent.head?

/-- The frequency that fills more than half of the last `window` places. A place not yet filled counts
against every frequency. -/
def majority? (h : FrequencyHistory capacity) (window : Nat) : Option UInt16 :=
  let window := min window capacity
  let voters := h.recent.take window
  match Vote.majority? voters with
  | some candidate => if voters.count candidate > window / 2 then some candidate else none
  | none => none

end FrequencyHistory

end LightPilot
