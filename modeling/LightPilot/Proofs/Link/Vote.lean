import LightPilot.Link.Vote

set_option autoImplicit false

/-! # The majority vote is exact

One pass with a candidate and a count elects the only value that can have a majority. The count is read
as what is left after pairing votes off: each vote but the candidate's last `votes` ones stands in a pair
of two different values (`Tally.Covers`), so no other value can fill more than half of the list. The
second pass then makes the vote exact (`Vote.majority?_eq_some_iff`), and so is the vote over the last
places of a history (`FrequencyHistory.majority?_eq_some_iff`). -/

namespace LightPilot

namespace Vote

/-- What a tally knows of the values it has seen. -/
structure Tally.Covers (tally : Tally) (seen : List UInt16) : Prop where
  /-- The votes for another value are paired off. -/
  others : ∀ value, value ≠ tally.candidate → 2 * seen.count value + tally.votes ≤ seen.length
  /-- The votes for the candidate are paired off but for the last ones. -/
  own : 2 * seen.count tally.candidate ≤ seen.length + tally.votes

theorem covers_nil (candidate : UInt16) : (Tally.mk candidate 0).Covers [] :=
  ⟨fun _ _ => Nat.le_refl 0, Nat.le_refl 0⟩

theorem Tally.Covers.half {tally : Tally} {seen : List UInt16} (h : tally.Covers seen)
    (hvotes : tally.votes = 0) (value : UInt16) : 2 * seen.count value ≤ seen.length := by
  by_cases hvalue : value = tally.candidate
  · have hown := h.own
    rw [hvotes] at hown
    rw [hvalue]
    exact hown
  · have hothers := h.others value hvalue
    omega

theorem count_snoc (seen : List UInt16) (last value : UInt16) :
    (seen ++ [last]).count value = seen.count value + if last = value then 1 else 0 := by
  rw [List.count_append, List.count_singleton]
  simp

theorem Tally.Covers.add {tally : Tally} {seen : List UInt16} (h : tally.Covers seen)
    (value : UInt16) : (tally.add value).Covers (seen ++ [value]) := by
  rw [Tally.add]
  split
  · next hvotes =>
      -- every vote is paired off, so the value is the new candidate
      constructor
      · intro other hother
        have hhalf := h.half hvotes other
        rw [count_snoc, if_neg (Ne.symm hother), List.length_append, List.length_singleton]
        dsimp only
        omega
      · have hhalf := h.half hvotes value
        rw [count_snoc, if_pos rfl, List.length_append, List.length_singleton]
        dsimp only
        omega
  · split
    · next hvalue =>
        subst hvalue
        constructor
        · intro other hother
          have hothers := h.others other hother
          rw [count_snoc, if_neg (Ne.symm hother), List.length_append, List.length_singleton]
          dsimp only
          omega
        · have hown := h.own
          rw [count_snoc, if_pos rfl, List.length_append, List.length_singleton]
          dsimp only
          omega
    · next hvotes hvalue =>
        -- the value is paired off with a vote for the candidate
        constructor
        · intro other hother
          have hothers := h.others other hother
          rw [count_snoc, List.length_append, List.length_singleton]
          dsimp only
          split <;> omega
        · have hown := h.own
          rw [count_snoc, if_neg hvalue, List.length_append, List.length_singleton]
          dsimp only
          omega

theorem Tally.Covers.foldl {tally : Tally} {seen : List UInt16} (h : tally.Covers seen)
    (values : List UInt16) : (values.foldl Tally.add tally).Covers (seen ++ values) := by
  induction values generalizing tally seen with
  | nil => simpa using h
  | cons value values ih =>
      have hnext := ih (h.add value)
      rwa [List.append_assoc, List.singleton_append] at hnext

/-- The vote elects a value exactly if it fills more than half of the list. -/
theorem majority?_eq_some_iff (values : List UInt16) (value : UInt16) :
    majority? values = some value ↔ values.count value > values.length / 2 := by
  cases values with
  | nil => simp [majority?]
  | cons first rest =>
      have hcovers := (covers_nil first).foldl (first :: rest)
      rw [List.nil_append] at hcovers
      rw [majority?]
      generalize (first :: rest).foldl Tally.add ⟨first, 0⟩ = tally at hcovers
      generalize first :: rest = values at hcovers
      constructor
      · intro helected
        split at helected
        · next hmajority =>
            rw [← Option.some.inj helected]
            exact hmajority
        · contradiction
      · intro hmajority
        -- another value than the candidate is paired off completely
        have hcandidate : value = tally.candidate := by
          refine Decidable.byContradiction fun hother => ?_
          have hothers := hcovers.others value hother
          omega
        rw [← hcandidate, if_pos hmajority]

theorem majority?_eq_none_iff (values : List UInt16) :
    majority? values = none ↔ ∀ value, values.count value ≤ values.length / 2 := by
  rw [Option.eq_none_iff_forall_ne_some]
  refine forall_congr' fun value => ?_
  rw [Ne, majority?_eq_some_iff, gt_iff_lt, Nat.not_lt]

theorem majority?_of_perm {values other : List UInt16} (h : other.Perm values) :
    majority? other = majority? values := by
  ext value
  rw [majority?_eq_some_iff, majority?_eq_some_iff, h.count_eq, h.length_eq]

/-- What a vote over a list has to do. -/
structure IsExact (values : List UInt16) : Prop where
  /-- A value is elected if it fills strictly more than half of the list, and only then. -/
  elects : ∀ value, majority? values = some value ↔ values.length < 2 * values.count value
  /-- Nothing is elected if no value does. -/
  abstains : majority? values = none ↔ ∀ value, 2 * values.count value ≤ values.length
  /-- The order of the votes does not matter. -/
  shuffled : ∀ other : List UInt16, other.Perm values → majority? other = majority? values

/-- **The vote is exact** for every list, of even length as of odd. -/
theorem isExact (values : List UInt16) : IsExact values where
  elects value := by
    rw [majority?_eq_some_iff]
    omega
  abstains := by
    rw [majority?_eq_none_iff]
    refine forall_congr' fun value => ?_
    omega
  shuffled _ h := majority?_of_perm h

/-- Half of the list is not enough, and the candidate may change until the last vote. -/
example : majority? [125, 125, 187, 187] = none ∧ majority? [1, 2, 3, 4, 4, 4, 4] = some 4 := by
  decide

end Vote

namespace FrequencyHistory

variable {capacity : Nat}

theorem majority?_eq_some_iff (h : FrequencyHistory capacity) (window : Nat) (value : UInt16) :
    h.majority? window = some value ↔
      (h.recent.take (min window capacity)).count value > min window capacity / 2 := by
  rw [majority?]
  generalize min window capacity = places
  have hlength : (h.recent.take places).length ≤ places := List.length_take_le ..
  constructor
  · intro helected
    split at helected
    · split at helected
      · next hmajority =>
          rw [← Option.some.inj helected]
          exact hmajority
      · contradiction
    · contradiction
  · intro hmajority
    have hvote : Vote.majority? (h.recent.take places) = some value := by
      rw [Vote.majority?_eq_some_iff]
      omega
    rw [hvote]
    exact if_pos hmajority

end FrequencyHistory

end LightPilot
