import LightPilot.Proofs.Filter.Resampling
import LightPilot.Proofs.Filter.WordWalk

set_option autoImplicit false

/-! # Which particle a slot takes

A draw is a row of equally spaced pointers over the particles, laid side by side with lengths in proportion
to their scores. The slots that do not agree with the observed color take the particles under the pointers
one by one (`map_origin_drawnSlots`), and exactly one particle lies under each (`getElem?_picked_iff`). The
walk that finds them can be made in 32-bit words as long as all particles together could score high without
the sum passing a word (`samplesSystematically_of_start`). -/

namespace LightPilot

namespace Systematic

theorem massBefore_eq_sum {n : Nat} (weight : Fin n → Nat) (c : Fin n) :
    massBefore weight c = ∑ i ∈ Finset.Iio c, weight i := by
  rw [massBefore, ← Finset.sum_filter]
  congr 1
  ext i
  simp

theorem massBefore_add {n : Nat} (weight : Fin n → Nat) (c : Fin n) :
    massBefore weight c + weight c = ∑ i ∈ Finset.Iic c, weight i := by
  have hlast : Finset.Iic c = insert c (Finset.Iio c) := by
    ext i
    simp [le_iff_eq_or_lt]
  rw [hlast, Finset.sum_insert (by simp), massBefore_eq_sum, Nat.add_comm]

end Systematic

namespace Population

variable {n : Nat}

/-! ## Pointers -/

/-- Pointer number `k` falls on a particle: it is beyond the scaled scores of the particles before it, and
not beyond its own. -/
def IsUnder (p : Population n) (color : UInt8) (start k : Nat) (c : Fin n) : Prop :=
  p.draws color * ∑ i ∈ Finset.Iio c, p.weight color i < start + k * p.totalWeight color ∧
    start + k * p.totalWeight color ≤ p.draws color * ∑ i ∈ Finset.Iic c, p.weight color i

theorem itemAt_iff_isUnder (p : Population n) (color : UInt8) (start k : Nat) (hstart : 0 < start)
    (c : Fin n) :
    Systematic.itemAt (Systematic.scaled (Systematic.numbered (p.weight color)) (p.draws color))
        (start + k * p.totalWeight color) = some c
      ↔ p.IsUnder color start k c := by
  rw [Systematic.scaled_numbered, Systematic.itemAt_numbered _ _ _ (by omega),
    Systematic.massBefore_add, Systematic.massBefore_eq_sum, IsUnder]
  simp only [← Finset.sum_mul, Nat.mul_comm (p.draws color)]

/-- Pick number `k` is the one particle under pointer number `k`. -/
theorem getElem?_picked_iff (p : Population n) (color : UInt8) (start : Nat) (hstart : 0 < start)
    (htotal : start ≤ p.totalWeight color) (k : Nat) (c : Fin n) :
    (p.picked color start)[k]? = some c ↔ k < p.draws color ∧ p.IsUnder color start k c := by
  have hwalk := Systematic.map_some_picks (Systematic.numbered (p.weight color)) (p.draws color) start
    hstart (by simpa [totalWeight] using htotal)
  have hpick := congrArg (fun picked => picked[k]?) hwalk
  simp only [List.getElem?_map, Systematic.lineLength_numbered] at hpick
  rw [← p.itemAt_iff_isUnder color start k hstart c, totalWeight]
  change ((p.picked color start)[k]?).map some = _ at hpick
  by_cases hk : k < p.draws color
  · rw [List.getElem?_range hk, Option.map_some] at hpick
    obtain ⟨drawn, hdrawn, hitem⟩ := Option.map_eq_some_iff.1 hpick
    rw [hdrawn, ← hitem]
    simp [hk]
  · have hnone : (List.range (p.draws color))[k]? = none := List.getElem?_eq_none (by simpa using hk)
    rw [hnone, Option.map_none, Option.map_eq_none_iff] at hpick
    simp [hpick, hk]

/-! ## Slots -/

/-- The slots that are drawn for, in order. -/
def drawnSlots (p : Population n) (color : UInt8) : List (Fin n) :=
  (List.finRange n).filter fun slot => !p.agrees color slot

theorem length_drawnSlots (p : Population n) (color : UInt8) :
    (p.drawnSlots color).length = p.draws color := by
  rw [drawnSlots, ← List.countP_eq_length_filter, countP_finRange, draws]
  simp

/-- The slots that are drawn for take the picks in order. -/
theorem map_origin_drawnSlots (p : Population n) (color : UInt8) (start : Nat) (hstart : 0 < start)
    (htotal : start ≤ p.totalWeight color) :
    (p.drawnSlots color).map (p.origin color start) = p.picked color start := by
  have hlength : (p.picked color start).length = (p.slots color).countP fun slot => !slot.2 := by
    rw [picked, Systematic.length_picks _ _ _ hstart (by simpa [totalWeight] using htotal),
      ← length_drawnSlots, drawnSlots, slots, List.countP_map, List.countP_eq_length_filter]
    rfl
  have hdrawn := Systematic.drawn_fill (p.slots color) (p.picked color start) hlength
  rwa [zip_slots_fill, List.filter_map, List.map_map] at hdrawn

/-! ## Words -/

/-- The scores that a draw for a color goes by. -/
def scores (p : Population n) (color : UInt8) : List (Fin n × UInt16) :=
  (List.finRange n).map fun i => (i, ((p.scored color).particle i).score)

theorem weights_scores (p : Population n) (color : UInt8) :
    Systematic.Words.weights (p.scores color) = Systematic.numbered (p.weight color) := by
  rw [Systematic.Words.weights, scores, List.map_map, Systematic.numbered]
  apply List.map_congr_left
  intro i _
  simp only [Function.comp_apply, scored_score]

theorem draws_le (p : Population n) (color : UInt8) : p.draws color ≤ n := by
  have hn := p.matching_add_draws color
  omega

variable {p : Population n} {color : UInt8}

theorem mass_lt (hconfig : p.config.validate = .ok ()) (hfit : n * p.config.highScore.toNat < 2 ^ 32)
    (c : Fin n) : p.draws color * p.weight color c < 2 ^ 32 :=
  Nat.lt_of_le_of_lt
    (Nat.mul_le_mul (p.draws_le color) (p.weight_le_highScore color hconfig c)) hfit

theorem draws_lt (hconfig : p.config.validate = .ok ()) (hfit : n * p.config.highScore.toNat < 2 ^ 32) :
    p.draws color < 2 ^ 32 := by
  have hhigh : 0 < p.config.highScore.toNat :=
    Nat.zero_lt_of_lt ((FilterConfig.validate_eq_ok_iff p.config).1 hconfig).2.2.2.2
  have hn := Nat.le_mul_of_pos_right n hhigh
  exact Nat.lt_of_le_of_lt (Nat.le_trans (p.draws_le color) hn) hfit

/-- The walk in words finds the origins of the slots that are drawn for. -/
theorem words_picks (hconfig : p.config.validate = .ok ())
    (hfit : n * p.config.highScore.toNat < 2 ^ 32) {start : Nat} (hstart : 0 < start)
    (htotal : start ≤ p.totalWeight color) :
    Systematic.Words.picks (p.scores color) (UInt32.ofNat (p.draws color)) (UInt32.ofNat start)
      = .ok ((p.drawnSlots color).map (p.origin color start)) := by
  have hweight : p.totalWeight color < 2 ^ 32 :=
    Nat.lt_of_le_of_lt (p.totalWeight_le color hconfig) hfit
  have hdraws : (UInt32.ofNat (p.draws color)).toNat = p.draws color :=
    UInt32.toNat_ofNat_of_lt' (draws_lt hconfig hfit)
  have hfirst : (UInt32.ofNat start).toNat = start :=
    UInt32.toNat_ofNat_of_lt' (Nat.lt_of_le_of_lt htotal hweight)
  have hline : Systematic.lineLength (Systematic.Words.weights (p.scores color))
      = p.totalWeight color := by
    rw [weights_scores, Systematic.lineLength_numbered, totalWeight]
  have hfits : Systematic.Words.Fits (p.scores color) (UInt32.ofNat (p.draws color)) := by
    intro entry hentry
    obtain ⟨i, -, rfl⟩ := List.mem_map.1 hentry
    rw [hdraws, scored_score, Nat.mul_comm]
    exact mass_lt hconfig hfit i
  rw [Systematic.Words.picks_eq_ok _ _ _ (by rwa [hline]) hfits (by rwa [hfirst])
    (by rwa [hfirst, hline]), map_origin_drawnSlots p color start hstart htotal, weights_scores,
    hdraws, hfirst, picked]

/-! ## The whole draw -/

/-- What a draw with the first pointer at `start` has to do. -/
structure SamplesSystematically (p : Population n) (color : UInt8) (start : Nat) : Prop where
  /-- There is a pointer for each slot that is drawn for. -/
  length : (p.drawnSlots color).length = p.draws color
  /-- Slot number `k` of them takes the one particle under pointer number `k`. -/
  drawn : ∀ k slot, (p.drawnSlots color)[k]? = some slot →
    ∀ c, p.IsUnder color start k c ↔ c = p.origin color start slot
  /-- A slot takes the pose that its origin has before. -/
  pose : ∀ slot, ((p.resampledAt color start).particle slot).position
    = (p.particle (p.origin color start slot)).position
  /-- The walk can be made in words: it never overflows, never subtracts too much and never runs out of
  particles. -/
  words : Systematic.Words.picks (p.scores color) (UInt32.ofNat (p.draws color)) (UInt32.ofNat start)
    = .ok ((p.drawnSlots color).map (p.origin color start))

/-- **The walk is systematic sampling.** Wherever the first pointer falls, each slot that is drawn for takes
the particle under its own pointer. -/
theorem samplesSystematically_of_start (p : Population n) (color : UInt8)
    (hconfig : p.config.validate = .ok ()) (hfit : n * p.config.highScore.toNat < 2 ^ 32) (start : Nat)
    (hstart : 0 < start) (htotal : start ≤ p.totalWeight color) :
    p.SamplesSystematically color start where
  length := p.length_drawnSlots color
  drawn k slot hslot c := by
    have hpick : (p.picked color start)[k]? = some (p.origin color start slot) := by
      rw [← map_origin_drawnSlots p color start hstart htotal, List.getElem?_map, hslot]
      rfl
    have hpicked := getElem?_picked_iff p color start hstart htotal k
    have hk : k < p.draws color := ((hpicked _).1 hpick).1
    constructor
    · intro hunder
      have hc := (hpicked c).2 ⟨hk, hunder⟩
      rw [hpick] at hc
      exact (Option.some.inj hc).symm
    · rintro rfl
      exact ((hpicked _).1 hpick).2
  pose := p.resampledAt_position color start
  words := words_picks hconfig hfit hstart htotal

/-- With two agreeing particles of three, the one slot left to draw for takes the second particle if the
pointer falls on its five of 165 places. -/
theorem trio_samplesSystematically :
    (trio.config.validate = .ok () ∧ 3 * trio.config.highScore.toNat < 2 ^ 32 ∧ 0 < 84 ∧
      84 ≤ trio.totalWeight 0) ∧ trio.SamplesSystematically 0 84 := by
  have hconfig : trio.config.validate = .ok () :=
    (FilterConfig.validate_eq_ok_iff _).2 (by decide +kernel)
  have hfit : 3 * trio.config.highScore.toNat < 2 ^ 32 := by decide
  have hstart : 0 < 84 := by decide
  have htotal : 84 ≤ trio.totalWeight 0 := by decide +kernel
  exact ⟨⟨hconfig, hfit, hstart, htotal⟩,
    samplesSystematically_of_start trio 0 hconfig hfit 84 hstart htotal⟩

end Population

end LightPilot
