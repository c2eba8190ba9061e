import LightPilot.Proofs.Filter.Resampling

set_option autoImplicit false

/-! # Resampling favours no particle

A single draw rounds the share of a particle up or down, but over all the numbers from which the first
pointer can be drawn nothing is left of the rounding. The pointers that follow first pointers 1 to `total`
fall on every position of the scaled line once (`Systematic.sum_countP_pointers`), so together they fall on
an item as often as it has positions (`Systematic.sum_count_picks`). With a uniform draw a particle is
therefore copied as often, on average, as its weight says, wherever it stands in the population. -/

namespace LightPilot

namespace Systematic

/-- Over all first pointers, each position of the line lies under one pointer. -/
theorem sum_countP_pointers (P : Nat → Bool) (spacing count : Nat) :
    ∑ start ∈ Finset.Ioc 0 spacing, (List.range count).countP (fun k => P (start + k * spacing))
      = ((Finset.Ioc 0 (count * spacing)).filter fun x => P x).card := by
  rw [Finset.card_filter]
  induction count with
  | zero => simp
  | succ count ih =>
      -- the last pointers sweep the positions that a further item of length `spacing` adds
      have hlast : ∑ start ∈ Finset.Ioc 0 spacing, (if P (start + count * spacing) then 1 else 0)
          = ∑ x ∈ Finset.Ioc (count * spacing) ((count + 1) * spacing), if P x then 1 else 0 := by
        have hshift := Finset.map_add_right_Ioc 0 spacing (count * spacing)
        rw [Nat.zero_add, ← Nat.add_comm (count * spacing), ← Nat.succ_mul] at hshift
        rw [← hshift, Finset.sum_map]
        rfl
      simp only [List.range_succ, List.countP_append, List.countP_singleton,
        Finset.sum_add_distrib, ih, hlast]
      exact Finset.sum_Ioc_consecutive _ (Nat.zero_le _) (Nat.mul_le_mul_right _ (Nat.le_succ _))

/-- Over all first pointers, an item is picked exactly as often as its weight says. -/
theorem sum_count_picks {n : Nat} (weight : Fin n → Nat) (count : Nat) (c : Fin n) :
    ∑ start ∈ Finset.Icc 1 (∑ i, weight i), (picks (numbered weight) count start).count c
      = count * weight c := by
  have hstarts : Finset.Icc 1 (∑ i, weight i) = Finset.Ioc 0 (∑ i, weight i) :=
    Finset.Icc_add_one_left_eq_Ioc 0 _
  have hcount := fun start (hstart : start ∈ Finset.Ioc 0 (∑ i, weight i)) =>
    count_picks_eq_countP weight count start (Finset.mem_Ioc.1 hstart).1 (Finset.mem_Ioc.1 hstart).2 c
  have hend := massBefore_add_le (fun i => weight i * count) c
  rw [← Finset.sum_mul, Nat.mul_comm (∑ i, weight i) count] at hend
  -- the item covers the positions beyond `first`, up to its mass
  generalize massBefore (fun i => weight i * count) c = first at hcount hend
  rw [hstarts, Finset.sum_congr rfl hcount]
  calc ∑ start ∈ Finset.Ioc 0 (∑ i, weight i), (List.range count).countP (fun k => decide
          (first < start + k * ∑ i, weight i ∧ start + k * ∑ i, weight i ≤ first + weight c * count))
      = ((Finset.Ioc 0 (count * ∑ i, weight i)).filter fun x =>
          decide (first < x ∧ x ≤ first + weight c * count)).card :=
        sum_countP_pointers (fun x => decide (first < x ∧ x ≤ first + weight c * count)) _ count
    _ = (Finset.Ioc first (first + weight c * count)).card := by
        congr 1
        ext x
        simp only [Finset.mem_filter, Finset.mem_Ioc, decide_eq_true_eq]
        omega
    _ = count * weight c := by
        rw [Nat.card_Ioc, Nat.add_sub_cancel_left, Nat.mul_comm]

end Systematic

namespace Population

variable {n : Nat}

/-- Over all first pointers, the slots that take the pose of a particle are as many as its weight says. -/
theorem sum_card_drawn (p : Population n) (color : UInt8) (c : Fin n) :
    ∑ start ∈ Finset.Icc 1 (p.totalWeight color),
        (Finset.univ.filter fun slot => ¬ p.agrees color slot ∧ p.origin color start slot = c).card
      = p.draws color * p.weight color c := by
  rw [← Systematic.sum_count_picks (p.weight color) (p.draws color) c]
  refine Finset.sum_congr rfl fun start hstart => ?_
  obtain ⟨hfirst, hlast⟩ := Finset.mem_Icc.1 hstart
  exact p.card_drawn color start hfirst hlast c

/-- What an observation that some particle agrees with hands out, over all its possible draws. -/
structure SharesEvenly (p : Population n) (color : UInt8) : Prop where
  /-- The total and every scaled score fit 32 bits. -/
  total_fits : p.totalWeight color < 2 ^ 32
  mass_fits : ∀ c, p.draws color * p.weight color c < 2 ^ 32
  /-- The first pointer is the number that the generator draws. -/
  outcome : ∀ start generator, p.generator.upTo (p.totalWeight color) = (start, generator) →
    start ∈ Finset.Icc 1 (p.totalWeight color) ∧
      p.observe color
        = (.resampled (Finset.univ.filter fun i => p.agrees color i).card,
            { p.resampledAt color start with generator })
  /-- Each slot takes the pose that its origin has before. -/
  pose : ∀ start slot, ((p.resampledAt color start).particle slot).position
    = (p.particle (p.origin color start slot)).position
  /-- Over all draws, the slots that do not agree take a particle exactly as often as its weight says. -/
  total : ∀ c,
    ∑ start ∈ Finset.Icc 1 (p.totalWeight color),
        (Finset.univ.filter fun slot => ¬ p.agrees color slot ∧ p.origin color start slot = c).card
      = p.draws color * p.weight color c
  /-- With a uniform draw this is its share of them on average. -/
  average : ∀ c,
    (Finset.expect (Finset.Icc 1 (p.totalWeight color)) fun start =>
        ((Finset.univ.filter fun slot =>
          ¬ p.agrees color slot ∧ p.origin color start slot = c).card : ℚ))
      = p.draws color * p.weight color c / p.totalWeight color

/-- **No particle is favoured.** Over all the numbers that the generator can draw, each particle is copied
in exact proportion to its score. -/
theorem sharesEvenly_of_agrees (p : Population n) (color : UInt8)
    (hconfig : p.config.validate = .ok ()) (hfit : n * p.config.highScore.toNat < 2 ^ 32)
    (hcolor : color < ambient) (hagrees : ∃ i, p.agrees color i) : p.SharesEvenly color where
  total_fits := Nat.lt_of_le_of_lt (p.totalWeight_le color hconfig) hfit
  mass_fits c := by
    have hdraws : p.draws color ≤ n := by
      have hn := p.matching_add_draws color
      omega
    have hmass := Nat.mul_le_mul hdraws (p.weight_le_highScore color hconfig c)
    exact Nat.lt_of_le_of_lt hmass hfit
  outcome start generator hdraw := by
    obtain ⟨i, hi⟩ := hagrees
    have hrange := p.generator.upTo_mem _ (p.totalWeight_pos color hconfig i hi)
    rw [hdraw] at hrange
    exact ⟨Finset.mem_Icc.2 hrange, p.observe_of_draw color hcolor ⟨i, hi⟩ hdraw⟩
  pose := p.resampledAt_position color
  total := p.sum_card_drawn color
  average c := by
    have hsum := p.sum_card_drawn color c
    rw [Finset.expect_eq_sum_div_card, Nat.card_Icc, Nat.add_sub_cancel]
    rw [← Nat.cast_sum, hsum, Nat.cast_mul]

/-- One slot is drawn for a population of which two particles agree. -/
theorem trio_sharesEvenly :
    (trio.config.validate = .ok () ∧ 3 * trio.config.highScore.toNat < 2 ^ 32 ∧ 0 < ambient ∧
      ∃ i, trio.agrees 0 i) ∧ trio.SharesEvenly 0 := by
  have hconfig : trio.config.validate = .ok () :=
    (FilterConfig.validate_eq_ok_iff _).2 (by decide +kernel)
  have hfit : 3 * trio.config.highScore.toNat < 2 ^ 32 := by decide
  have hcolor : 0 < ambient := by decide
  have hagrees : ∃ i, trio.agrees 0 i := ⟨2, by decide +kernel⟩
  exact ⟨⟨hconfig, hfit, hcolor, hagrees⟩,
    sharesEvenly_of_agrees trio 0 hconfig hfit hcolor hagrees⟩

end Population

end LightPilot
