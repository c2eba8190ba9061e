import LightPilot.Proofs.Link.Vote
import Mathlib.Data.List.DropRight

set_option autoImplicit false

/-! # Votes over the latest frequencies

A history is filled by pushes, and its vote elects what fills more than half of the last places, where a
place not filled yet counts against every frequency (`votesOverLatest`). The list that the history keeps
is what a ring of places holds in which each new frequency overwrites the oldest one: read from the oldest
frequency on, the ring has the list backwards, however often it has gone round (`recent_filled`,
`Holds.push`), and a vote over the newest end of the ring is the history's (`majority?_ringFilled`). -/

namespace LightPilot

/-! ## The ring -/

/-- A ring of places. New frequencies go round it, over the oldest one once every place is taken. -/
structure FrequencyRing (capacity : Nat) where
  places : Vector UInt16 capacity := .replicate capacity 0
  /-- The place that is written next. -/
  next : Nat := 0
  /-- Whether every place is taken. -/
  isFull : Bool := false

namespace FrequencyRing

variable {capacity : Nat}

/-- Writes a frequency and moves on, from the last place back to the first. -/
def push (ring : FrequencyRing capacity) (frequency : UInt16) : FrequencyRing capacity :=
  let places := ring.places.setIfInBounds ring.next frequency
  if ring.next + 1 = capacity then ⟨places, 0, true⟩ else ⟨places, ring.next + 1, ring.isFull⟩

/-- The frequencies in the ring, from the oldest to the newest. -/
def oldestFirst (ring : FrequencyRing capacity) : List UInt16 :=
  if ring.isFull then ring.places.toList.drop ring.next ++ ring.places.toList.take ring.next
  else ring.places.toList.take ring.next

/-- The vote over the newest end of the ring, confirmed against the places asked for. -/
def majority? (ring : FrequencyRing capacity) (window : Nat) : Option UInt16 :=
  let window := min window capacity
  let voters := ring.oldestFirst.rtake window
  (Vote.majority? voters).filter fun candidate => voters.count candidate > window / 2

/-! ## Reading the ring -/

/-- The place written next, with what stands in front of it and behind it. -/
theorem exists_split {ring : FrequencyRing capacity} (hnext : ring.next < capacity) :
    ∃ front old behind, front.length = ring.next ∧ ring.places.toList = front ++ old :: behind ∧
      ∀ frequency, (ring.places.setIfInBounds ring.next frequency).toList
        = front ++ frequency :: behind := by
  have hplace : ring.next < ring.places.toList.length := by rwa [ring.places.length_toList]
  refine ⟨ring.places.toList.take ring.next, ring.places.toList[ring.next],
    ring.places.toList.drop (ring.next + 1), List.length_take_of_le hplace.le, ?_, fun frequency => ?_⟩
  · rw [← List.drop_eq_getElem_cons hplace, List.take_append_drop]
  · rw [Vector.toList_setIfInBounds, List.set_eq_take_append_cons_drop, if_pos hplace]

/-- A new frequency is the newest, and takes the place of the oldest if there is no other. -/
theorem oldestFirst_push {ring : FrequencyRing capacity} (hnext : ring.next < capacity)
    (frequency : UInt16) :
    (ring.push frequency).oldestFirst
      = (if ring.isFull then ring.oldestFirst.tail else ring.oldestFirst) ++ [frequency] := by
  obtain ⟨front, old, behind, hfront, hplaces, hwritten⟩ := exists_split hnext
  have hlength : front.length + (behind.length + 1) = capacity := by
    rw [← ring.places.length_toList, hplaces, List.length_append, List.length_cons]
  -- what was there before
  have hbefore : ring.oldestFirst = if ring.isFull then old :: behind ++ front else front := by
    rw [oldestFirst, hplaces, ← hfront, List.drop_left, List.take_left]
  rw [hbefore, push]
  split
  · -- the last place was written
    have hbehind : behind = [] := List.eq_nil_of_length_eq_zero (by omega)
    rw [oldestFirst, hwritten, hbehind]
    cases ring.isFull <;> simp
  · have hroom : (front ++ frequency :: behind).take (ring.next + 1) = front ++ [frequency] ∧
        (front ++ frequency :: behind).drop (ring.next + 1) = behind := by
      rw [List.append_cons, ← hfront]
      exact ⟨List.take_left' (by simp), List.drop_left' (by simp)⟩
    rw [oldestFirst, hwritten, hroom.1, hroom.2]
    cases ring.isFull <;> simp

/-! ## What the ring holds -/

theorem rtake_snoc (capacity : Nat) (hcapacity : 0 < capacity) (pushed : List UInt16)
    (frequency : UInt16) :
    (pushed ++ [frequency]).rtake capacity
      = (if capacity ≤ pushed.length then (pushed.rtake capacity).tail else pushed.rtake capacity)
        ++ [frequency] := by
  obtain ⟨places, rfl⟩ : ∃ places, capacity = places + 1 := ⟨capacity - 1, by omega⟩
  rw [List.rtake_concat_succ]
  congr 1
  split
  · next hfull =>
      rw [List.rtake, List.rtake, List.tail_drop]
      congr 1
      omega
  · next hroom =>
      rw [List.rtake, List.rtake]
      congr 1
      omega

/-- The ring holds the latest of the frequencies pushed. -/
structure Holds (ring : FrequencyRing capacity) (pushed : List UInt16) : Prop where
  next_lt : ring.next < capacity
  isFull_iff : ring.isFull = true ↔ capacity ≤ pushed.length
  /-- Until the ring is full it is written from its first place on. -/
  filling : ring.isFull = false → ring.next = pushed.length
  oldestFirst : ring.oldestFirst = pushed.rtake capacity

theorem holds_nil (hcapacity : 0 < capacity) : ({} : FrequencyRing capacity).Holds [] := by
  refine ⟨hcapacity, ?_, fun _ => rfl, ?_⟩
  · simpa using hcapacity.ne'
  · rw [List.rtake_nil]
    rfl

theorem Holds.push {ring : FrequencyRing capacity} {pushed : List UInt16} (h : ring.Holds pushed)
    (frequency : UInt16) : (ring.push frequency).Holds (pushed ++ [frequency]) := by
  have hnext := h.next_lt
  have hlength : (pushed ++ [frequency]).length = pushed.length + 1 := List.length_append
  -- the ring is full after a push if it was before, or if the push wrote its last place
  have hfull : capacity ≤ pushed.length + 1 ↔ ring.next + 1 = capacity ∨ ring.isFull = true := by
    rw [h.isFull_iff]
    cases hroom : ring.isFull
    · have hnow := h.filling hroom
      omega
    · have hmany := h.isFull_iff.1 hroom
      omega
  constructor
  case next_lt =>
    rw [FrequencyRing.push]
    split
    · exact Nat.zero_lt_of_lt hnext
    · next hroom => exact Nat.lt_of_le_of_ne hnext hroom
  case isFull_iff =>
    rw [hlength, hfull, FrequencyRing.push]
    split
    · next hlast => exact iff_of_true rfl (.inl hlast)
    · next hroom => rw [or_iff_right hroom]
  case filling =>
    rw [hlength, FrequencyRing.push]
    split
    · exact fun hroom => by contradiction
    · exact fun hroom => congrArg (· + 1) (h.filling hroom)
  case oldestFirst =>
    rw [oldestFirst_push hnext, rtake_snoc capacity (Nat.zero_lt_of_lt hnext), h.oldestFirst]
    simp only [h.isFull_iff]

theorem majority?_eq_some_iff (ring : FrequencyRing capacity) (window : Nat) (frequency : UInt16) :
    ring.majority? window = some frequency ↔
      min window capacity / 2 < (ring.oldestFirst.rtake (min window capacity)).count frequency := by
  rw [majority?]
  generalize min window capacity = places
  have hlength : (ring.oldestFirst.rtake places).length ≤ places := by
    rw [List.rtake, List.length_drop]
    omega
  rw [Option.filter_eq_some_iff, Vote.majority?_eq_some_iff, decide_eq_true_iff]
  omega

end FrequencyRing

/-! ## The history -/

namespace FrequencyHistory

variable {capacity : Nat}

/-- The history after `pushed`. -/
def filled (capacity : Nat) (pushed : List UInt16) : FrequencyHistory capacity :=
  pushed.foldl push {}

/-- The ring after `pushed`. -/
def ringFilled (capacity : Nat) (pushed : List UInt16) : FrequencyRing capacity :=
  pushed.foldl FrequencyRing.push {}

theorem recent_filled (capacity : Nat) (pushed : List UInt16) :
    (filled capacity pushed).recent = pushed.reverse.take capacity := by
  induction pushed using List.reverseRecOn with
  | nil => exact List.take_nil.symm
  | append_singleton pushed frequency ih =>
      rw [filled, List.foldl_concat, ← filled, push, ih, List.reverse_concat]
      cases capacity with
      | zero => rfl
      | succ places => rw [List.take_succ_cons, List.take_succ_cons, List.take_take,
          Nat.min_eq_left (Nat.le_succ places)]

theorem holds_ringFilled (hcapacity : 0 < capacity) (pushed : List UInt16) :
    (ringFilled capacity pushed).Holds pushed := by
  induction pushed using List.reverseRecOn with
  | nil => exact FrequencyRing.holds_nil hcapacity
  | append_singleton pushed frequency ih =>
      rw [ringFilled, List.foldl_concat, ← ringFilled]
      exact ih.push frequency

/-- The voters of a window, from the newest on. -/
theorem take_recent_filled (capacity : Nat) (pushed : List UInt16) (window : Nat) :
    (filled capacity pushed).recent.take (min window capacity)
      = (pushed.rtake (min window capacity)).reverse := by
  rw [recent_filled, List.take_take, Nat.min_eq_left (Nat.min_le_right ..),
    List.rtake_eq_reverse_take_reverse, List.reverse_reverse]

/-- The vote over the newest end of the ring is the vote of the history. -/
theorem majority?_ringFilled (hcapacity : 0 < capacity) (pushed : List UInt16) (window : Nat) :
    (ringFilled capacity pushed).majority? window = (filled capacity pushed).majority? window := by
  have hvoters : (pushed.rtake capacity).rtake (min window capacity)
      = pushed.rtake (min window capacity) := by
    rw [List.rtake_eq_reverse_take_reverse, List.rtake_eq_reverse_take_reverse, List.reverse_reverse,
      List.take_take, Nat.min_eq_left (Nat.min_le_right ..), List.rtake_eq_reverse_take_reverse]
  ext frequency
  rw [FrequencyRing.majority?_eq_some_iff, (holds_ringFilled hcapacity pushed).oldestFirst, hvoters,
    majority?_eq_some_iff, take_recent_filled, List.count_reverse, gt_iff_lt]

/-- What a history has to do after `pushed`. -/
structure VotesOverLatest (capacity : Nat) (pushed : List UInt16) : Prop where
  length : (filled capacity pushed).length = min capacity pushed.length
  latest : (filled capacity pushed).latest? = pushed.getLast?
  /-- A frequency is elected if it fills more than half of the last places, filled or not. -/
  elects : ∀ window frequency, (filled capacity pushed).majority? window = some frequency ↔
    min window capacity / 2 < (pushed.rtake (min window capacity)).count frequency
  abstains : ∀ window, (filled capacity pushed).majority? window = none ↔
    ∀ frequency, (pushed.rtake (min window capacity)).count frequency ≤ min window capacity / 2
  /-- The history is what a ring holds, read backwards, and votes as the ring does. -/
  ring : (ringFilled capacity pushed).oldestFirst = (filled capacity pushed).recent.reverse ∧
    ∀ window, (ringFilled capacity pushed).majority? window = (filled capacity pushed).majority? window

/-- **A history votes over the latest frequencies**, as many as it has room for. -/
theorem votesOverLatest (hcapacity : 0 < capacity) (pushed : List UInt16) :
    VotesOverLatest capacity pushed where
  length := by
    rw [length, recent_filled, List.length_take, List.length_reverse]
  latest := by
    rw [latest?, recent_filled, List.head?_take, if_neg hcapacity.ne', List.head?_reverse]
  elects window frequency := by
    rw [majority?_eq_some_iff, take_recent_filled, List.count_reverse, gt_iff_lt]
  abstains window := by
    rw [Option.eq_none_iff_forall_ne_some]
    refine forall_congr' fun frequency => ?_
    rw [Ne, majority?_eq_some_iff, take_recent_filled, List.count_reverse, gt_iff_lt, Nat.not_lt]
  ring := by
    refine ⟨?_, majority?_ringFilled hcapacity pushed⟩
    rw [(holds_ringFilled hcapacity pushed).oldestFirst, recent_filled,
      List.rtake_eq_reverse_take_reverse]

/-- Five places, of which the last three are asked: the ring has gone round once, and two of the three
frequencies in its newest places agree. -/
theorem votesOverLatest_wrapped :
    0 < 5 ∧ VotesOverLatest 5 [187, 187, 187, 187, 125, 62, 125] ∧
      (ringFilled 5 [187, 187, 187, 187, 125, 62, 125]).places = #v[62, 125, 187, 187, 125] ∧
      (filled 5 [187, 187, 187, 187, 125, 62, 125]).majority? 3 = some 125 ∧
      (filled 5 [187, 187, 187, 187, 125, 62, 125]).majority? 9 = none :=
  ⟨by decide, votesOverLatest (by decide) _, by decide, by decide, by decide⟩

/-- A history that is partly filled elects what fills more than half of all the places. -/
example : (filled 5 [125, 125]).majority? 5 = none ∧
    (filled 5 [125, 125, 125]).majority? 5 = some 125 := by
  decide

end FrequencyHistory

end LightPilot
