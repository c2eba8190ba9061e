import LightPilot.Filter.Population
import LightPilot.Proofs.Filter.Systematic
import LightPilot.Proofs.Random.Generator

set_option autoImplicit false

/-! # What an observation does to a population

An observation scores every particle by whether its pose agrees with the color, keeps those that do
and draws the others' slots by score. This file states that in terms of the poses alone, through
`agrees` and `weight`, and shows that the scored population which `observe` builds on the way has just
these scores. The slots are then filled by systematic sampling, so each particle is copied as often as
its weight says, rounded down or up, wherever the first pointer falls. -/

namespace LightPilot.Population

variable {n : Nat}

/-! ## Agreement and weight of a particle -/

/-- Particle number `i`. -/
def particle (p : Population n) (i : Fin n) : Particle :=
  p.particles.get i

/-- Whether the color that a particle should see at its pose is the observed one. -/
def agrees (p : Population n) (color : UInt8) (i : Fin n) : Bool :=
  p.model.expectedColor (p.particle i).position == color

/-- The score of a particle against an observed color. -/
def weight (p : Population n) (color : UInt8) (i : Fin n) : Nat :=
  (if p.agrees color i then p.config.highScore else p.config.lowScore).toNat

/-- The sum of the scores against an observed color. -/
def totalWeight (p : Population n) (color : UInt8) : Nat :=
  ∑ i, p.weight color i

/-- The number of slots that an observed color leaves to be drawn. -/
def draws (p : Population n) (color : UInt8) : Nat :=
  (Finset.univ.filter fun slot => ¬ p.agrees color slot).card

/-- The population scored against a color at its present poses. -/
def scored (p : Population n) (color : UInt8) : Population n :=
  p.refreshColors.score color

theorem scored_position (p : Population n) (color : UInt8) (i : Fin n) :
    ((p.scored color).particle i).position = (p.particle i).position := by
  simp [particle, Vector.get_eq_getElem, scored, score, refreshColors]

theorem scored_expectedColor (p : Population n) (color : UInt8) (i : Fin n) :
    ((p.scored color).particle i).expectedColor
      = p.model.expectedColor (p.particle i).position := by
  simp [particle, Vector.get_eq_getElem, scored, score, refreshColors, model]

theorem scored_score (p : Population n) (color : UInt8) (i : Fin n) :
    ((p.scored color).particle i).score.toNat = p.weight color i := by
  simp [particle, Vector.get_eq_getElem, scored, score, refreshColors, model, weight, agrees]

theorem scored_expectedColor_eq_iff (p : Population n) (color : UInt8) (i : Fin n) :
    ((p.scored color).particle i).expectedColor = color ↔ p.agrees color i := by
  rw [scored_expectedColor, agrees, beq_iff_eq]

/-! ## Counting particles -/

theorem countP_finRange (P : Fin n → Bool) :
    (List.finRange n).countP P = (Finset.univ.filter fun i => P i).card := by
  rw [List.countP_eq_length_filter, Finset.card_filter, Fin.sum_univ_def]
  induction List.finRange n with
  | nil => rfl
  | cons i is ih => by_cases h : P i <;> simp [h, ih, Nat.add_comm]

theorem toList_eq_map_finRange {α : Type} (v : Vector α n) :
    v.toList = (List.finRange n).map v.get := by
  apply List.ext_getElem <;> simp [Vector.get_eq_getElem]

theorem toList_particles (p : Population n) :
    p.particles.toList = (List.finRange n).map p.particle :=
  toList_eq_map_finRange p.particles

theorem matching_eq_card (p : Population n) (color : UInt8) :
    p.matching color
      = (Finset.univ.filter fun i : Fin n => (p.particle i).expectedColor = color).card := by
  rw [matching, toList_particles, List.countP_map]
  have hcount := countP_finRange fun i : Fin n => decide ((p.particle i).expectedColor = color)
  simpa only [Function.comp_def, decide_eq_true_eq] using hcount

theorem scored_matching (p : Population n) (color : UInt8) :
    (p.scored color).matching color = (Finset.univ.filter fun i => p.agrees color i).card := by
  simp only [matching_eq_card, scored_expectedColor_eq_iff]

theorem matching_add_draws (p : Population n) (color : UInt8) :
    (p.scored color).matching color + p.draws color = n := by
  rw [scored_matching, draws, Finset.card_filter_add_card_filter_not]
  exact Finset.card_fin n

theorem totalScore_eq_sum (p : Population n) :
    p.totalScore = (p.particles.toList.map fun particle => particle.score.toNat).sum := rfl

theorem scored_totalScore (p : Population n) (color : UInt8) :
    (p.scored color).totalScore = p.totalWeight color := by
  rw [totalScore_eq_sum, toList_particles, List.map_map, totalWeight, Fin.sum_univ_def]
  simp only [Function.comp_def, scored_score]

/-! ## Where the poses come from -/

/-- The slots of a population; those that agree with the color are kept. -/
def slots (p : Population n) (color : UInt8) : List (Fin n × Bool) :=
  (List.finRange n).map fun i => (i, p.agrees color i)

/-- The particles drawn for the other slots, when the first pointer is at `start`. -/
def picked (p : Population n) (color : UInt8) (start : Nat) : List (Fin n) :=
  Systematic.picks (Systematic.numbered (p.weight color)) (p.draws color) start

/-- The particle whose pose a slot takes, when the first pointer is at `start`. -/
def origin (p : Population n) (color : UInt8) (start : Nat) (slot : Fin n) : Fin n :=
  ((p.scored color).origins color start).get slot

theorem toList_origins (p : Population n) (color : UInt8) (start : Nat) :
    ((p.scored color).origins color start).toList
      = Systematic.fill (p.slots color) (p.picked color start) := by
  have hdraws : n - (p.scored color).matching color = p.draws color := by
    have hn := p.matching_add_draws color
    omega
  have hparticle : ∀ i : Fin n, (p.scored color).particles[i] = (p.scored color).particle i :=
    fun _ => rfl
  simp only [origins, hdraws, hparticle, scored_score, scored_expectedColor_eq_iff,
    Bool.decide_eq_true]
  rfl

/-- Each slot beside the particle whose pose it takes. -/
theorem zip_slots_fill (p : Population n) (color : UInt8) (start : Nat) :
    (p.slots color).zip (Systematic.fill (p.slots color) (p.picked color start))
      = (List.finRange n).map fun i => ((i, p.agrees color i), p.origin color start i) := by
  rw [← toList_origins, toList_eq_map_finRange, slots, List.zip_map']
  rfl

theorem origin_of_agrees (p : Population n) (color : UInt8) (start : Nat) (slot : Fin n)
    (h : p.agrees color slot) : p.origin color start slot = slot := by
  have hkept := Systematic.fill_kept (p.slots color) (p.picked color start)
  rw [zip_slots_fill] at hkept
  exact hkept ((slot, p.agrees color slot), p.origin color start slot)
    (List.mem_map.2 ⟨slot, List.mem_finRange slot, rfl⟩) h

/-- The slots that are not kept hold exactly the particles drawn. -/
theorem card_drawn (p : Population n) (color : UInt8) (start : Nat) (hstart : 0 < start)
    (htotal : start ≤ p.totalWeight color) (c : Fin n) :
    (Finset.univ.filter fun slot => ¬ p.agrees color slot ∧ p.origin color start slot = c).card
      = (p.picked color start).count c := by
  have hlength : (p.picked color start).length = (p.slots color).countP fun slot => !slot.2 := by
    rw [picked, Systematic.length_picks _ _ _ hstart (by simpa [totalWeight] using htotal), slots,
      List.countP_map, countP_finRange, draws]
    simp
  have hcount := Systematic.countP_fill (p.slots color) (p.picked color start) hlength c
  rw [zip_slots_fill, List.countP_map, countP_finRange] at hcount
  rw [← hcount]
  simp

/-! ## Fair copies -/

/-- The population resampled on a color with the first pointer at `start`. -/
def resampledAt (p : Population n) (color : UInt8) (start : Nat) : Population n :=
  (p.scored color).moveTo ((p.scored color).origins color start)

/-- Each slot of `after` holds the pose that the particle `origin slot` had in `p`, and the slots are
shared out fairly among the particles of `p`. -/
structure IsFairCopy (p : Population n) (color : UInt8) (after : Population n)
    (origin : Fin n → Fin n) : Prop where
  pose : ∀ slot, (after.particle slot).position = (p.particle (origin slot)).position
  /-- A particle that agrees with the color keeps its own slot. -/
  kept : ∀ slot, p.agrees color slot → origin slot = slot
  /-- A particle is copied into the other slots as often as its weight says, rounded down or up. -/
  share : ∀ c,
    (Finset.univ.filter fun slot => ¬ p.agrees color slot ∧ origin slot = c).card
        = p.draws color * p.weight color c / p.totalWeight color
      ∨ (Finset.univ.filter fun slot => ¬ p.agrees color slot ∧ origin slot = c).card
        = (p.draws color * p.weight color c) ⌈/⌉ p.totalWeight color
  /-- With its own slot counted, a particle that agrees ends up no rarer than one that does not. -/
  favoured : ∀ c d, p.agrees color c → ¬ p.agrees color d →
    (Finset.univ.filter fun slot => origin slot = d).card
      ≤ (Finset.univ.filter fun slot => origin slot = c).card

theorem resampledAt_position (p : Population n) (color : UInt8) (start : Nat) (slot : Fin n) :
    ((p.resampledAt color start).particle slot).position
      = (p.particle (p.origin color start slot)).position := by
  rw [← scored_position p color (p.origin color start slot)]
  simp [particle, Vector.get_eq_getElem, resampledAt, moveTo, origin, Particle.commit, Particle.stage]

theorem share_of_origin (p : Population n) (color : UInt8) (start : Nat) (hstart : 0 < start)
    (htotal : start ≤ p.totalWeight color) (c : Fin n) :
    (Finset.univ.filter fun slot => ¬ p.agrees color slot ∧ p.origin color start slot = c).card
        = p.draws color * p.weight color c / p.totalWeight color
      ∨ (Finset.univ.filter fun slot => ¬ p.agrees color slot ∧ p.origin color start slot = c).card
        = (p.draws color * p.weight color c) ⌈/⌉ p.totalWeight color := by
  rw [card_drawn p color start hstart htotal]
  exact Systematic.count_picks (p.weight color) (p.draws color) start hstart htotal c

/-- A particle that does not agree is found only in slots that were drawn. -/
theorem card_origin_of_not_agrees (p : Population n) (color : UInt8) (start : Nat) (d : Fin n)
    (hd : ¬ p.agrees color d) :
    (Finset.univ.filter fun slot => p.origin color start slot = d).card
      = (Finset.univ.filter fun slot =>
          ¬ p.agrees color slot ∧ p.origin color start slot = d).card := by
  congr 1
  apply Finset.filter_congr
  intro slot _
  refine ⟨fun horigin => ⟨fun hagrees => ?_, horigin⟩, fun h => h.2⟩
  rw [origin_of_agrees p color start slot hagrees] at horigin
  exact hd (horigin ▸ hagrees)

/-- A particle that agrees is found in its own slot and in those where it was drawn. -/
theorem card_origin_of_agrees (p : Population n) (color : UInt8) (start : Nat) (c : Fin n)
    (hc : p.agrees color c) :
    (Finset.univ.filter fun slot =>
        ¬ p.agrees color slot ∧ p.origin color start slot = c).card + 1
      ≤ (Finset.univ.filter fun slot => p.origin color start slot = c).card := by
  have hnot : c ∉ Finset.univ.filter fun slot =>
      ¬ p.agrees color slot ∧ p.origin color start slot = c := by simp [hc]
  rw [← Finset.card_insert_of_notMem hnot]
  apply Finset.card_le_card
  intro slot hslot
  rcases Finset.mem_insert.1 hslot with rfl | hslot
  · simp [origin_of_agrees p color start slot hc]
  · simp only [Finset.mem_filter] at hslot ⊢
    exact ⟨hslot.1, hslot.2.2⟩

theorem weight_le_highScore (p : Population n) (color : UInt8)
    (hconfig : p.config.validate = .ok ()) (i : Fin n) :
    p.weight color i ≤ p.config.highScore.toNat := by
  have hscores := ((FilterConfig.validate_eq_ok_iff p.config).1 hconfig).2.2.2.2
  rw [weight]
  split
  · exact Nat.le_refl _
  · exact Nat.le_of_lt hscores

theorem isFairCopy_resampledAt (p : Population n) (color : UInt8) (start : Nat)
    (hconfig : p.config.validate = .ok ()) (hstart : 0 < start)
    (htotal : start ≤ p.totalWeight color) :
    p.IsFairCopy color (p.resampledAt color start) (p.origin color start) where
  pose := p.resampledAt_position color start
  kept := p.origin_of_agrees color start
  share := p.share_of_origin color start hstart htotal
  favoured c d hc hd := by
    have htotal' : 0 < p.totalWeight color := by omega
    have hweight : p.weight color d ≤ p.weight color c := by
      have hhigh : p.weight color c = p.config.highScore.toNat := by simp [weight, hc]
      rw [hhigh]
      exact p.weight_le_highScore color hconfig d
    have hmass := Nat.mul_le_mul_left (p.draws color) hweight
    -- the share of `d` rounded up exceeds the share of `c` rounded down by one at most
    have hround : (p.draws color * p.weight color d) ⌈/⌉ p.totalWeight color
        ≤ p.draws color * p.weight color c / p.totalWeight color + 1 := by
      rw [ceilDiv_le_iff_le_mul htotal', Nat.mul_add, Nat.mul_one]
      have hdiv := Nat.div_add_mod (p.draws color * p.weight color c) (p.totalWeight color)
      have hmod := Nat.mod_lt (p.draws color * p.weight color c) htotal'
      omega
    have hfloor : p.draws color * p.weight color d / p.totalWeight color
        ≤ p.draws color * p.weight color c / p.totalWeight color :=
      Nat.div_le_div_right hmass
    have hceil : p.draws color * p.weight color c / p.totalWeight color
        ≤ (p.draws color * p.weight color c) ⌈/⌉ p.totalWeight color := by
      rw [← Nat.floorDiv_eq_div]
      exact floorDiv_le_ceilDiv
    have hown := p.card_origin_of_agrees color start c hc
    rw [p.card_origin_of_not_agrees color start d hd]
    rcases p.share_of_origin color start hstart htotal c with hshare | hshare <;>
      rcases p.share_of_origin color start hstart htotal d with hshare' | hshare' <;>
      omega

/-! ## An observation -/

theorem totalWeight_le (p : Population n) (color : UInt8) (hconfig : p.config.validate = .ok ()) :
    p.totalWeight color ≤ n * p.config.highScore.toNat := by
  have hsum := Finset.sum_le_card_nsmul Finset.univ (p.weight color) p.config.highScore.toNat
    fun i _ => p.weight_le_highScore color hconfig i
  simpa [totalWeight] using hsum

theorem totalWeight_pos (p : Population n) (color : UInt8) (hconfig : p.config.validate = .ok ())
    (i : Fin n) (hi : p.agrees color i) : 0 < p.totalWeight color := by
  have hscores := ((FilterConfig.validate_eq_ok_iff p.config).1 hconfig).2.2.2.2
  have hweight : 0 < p.weight color i := by
    have hhigh : p.weight color i = p.config.highScore.toNat := by simp [weight, hi]
    rw [hhigh]
    exact Nat.zero_lt_of_lt hscores
  exact Nat.lt_of_lt_of_le hweight (Finset.single_le_sum (fun j _ => Nat.zero_le _) (Finset.mem_univ i))

theorem resample_of_draw (p : Population n) (color : UInt8) (start : Nat) (generator : Generator)
    (hdraw : p.generator.upTo p.totalScore = (start, generator)) :
    p.resample color = { p.moveTo (p.origins color start) with generator } := by
  unfold resample
  rw [hdraw]

theorem observe_of_matching (p : Population n) (color : UInt8) (hcolor : color < ambient)
    (hmatching : (p.scored color).matching color ≠ 0) :
    p.observe color
      = (.resampled ((p.scored color).matching color), (p.scored color).resample color) := by
  rw [scored] at hmatching ⊢
  rw [observe, if_neg (UInt8.not_le.2 hcolor)]
  simp only [if_neg hmatching]

/-- An observation that some particle agrees with resamples, with the first pointer where the generator
puts it. -/
theorem observe_of_draw (p : Population n) (color : UInt8) (hcolor : color < ambient)
    (hagrees : ∃ i, p.agrees color i) {start : Nat} {generator : Generator}
    (hdraw : p.generator.upTo (p.totalWeight color) = (start, generator)) :
    p.observe color
      = (.resampled (Finset.univ.filter fun i => p.agrees color i).card,
          { p.resampledAt color start with generator }) := by
  obtain ⟨i, hi⟩ := hagrees
  have hmatching : (p.scored color).matching color ≠ 0 := by
    rw [scored_matching]
    exact Finset.card_ne_zero_of_mem (Finset.mem_filter.2 ⟨Finset.mem_univ i, hi⟩)
  rw [← scored_totalScore] at hdraw
  rw [observe_of_matching p color hcolor hmatching, resample_of_draw _ color start generator hdraw,
    scored_matching, resampledAt]

/-- An observation that some particle agrees with resamples, with a first pointer from 1 to the total. -/
theorem observe_of_agrees (p : Population n) (color : UInt8) (hconfig : p.config.validate = .ok ())
    (hcolor : color < ambient) (hagrees : ∃ i, p.agrees color i) :
    ∃ start generator, 0 < start ∧ start ≤ p.totalWeight color ∧
      p.observe color
        = (.resampled (Finset.univ.filter fun i => p.agrees color i).card,
            { p.resampledAt color start with generator }) := by
  obtain ⟨i, hi⟩ := hagrees
  -- the draw is named and never evaluated
  rcases hdraw : p.generator.upTo (p.totalWeight color) with ⟨start, generator⟩
  have hrange := p.generator.upTo_mem (p.totalWeight color) (p.totalWeight_pos color hconfig i hi)
  rw [hdraw] at hrange
  exact ⟨start, generator, hrange.1, hrange.2, p.observe_of_draw color hcolor ⟨i, hi⟩ hdraw⟩

/-- What an observation that some particle agrees with has to do. -/
structure ObservesFairly (p : Population n) (color : UInt8) : Prop where
  /-- The total and every scaled score fit 32 bits. -/
  total_fits : p.totalWeight color < 2 ^ 32
  mass_fits : ∀ c, p.draws color * p.weight color c < 2 ^ 32
  /-- Wherever the first pointer falls, the copies are fair. -/
  fair : ∀ start, 0 < start → start ≤ p.totalWeight color →
    ∃ origin, p.IsFairCopy color (p.resampledAt color start) origin
  /-- The population is resampled with the first pointer at some place that the generator draws. -/
  outcome : ∃ start generator, 0 < start ∧ start ≤ p.totalWeight color ∧
    p.observe color
      = (.resampled (Finset.univ.filter fun i => p.agrees color i).card,
          { p.resampledAt color start with generator })

/-- **Resampling is sound for every draw.** -/
theorem observesFairly_of_agrees (p : Population n) (color : UInt8)
    (hconfig : p.config.validate = .ok ()) (hfit : n * p.config.highScore.toNat < 2 ^ 32)
    (hcolor : color < ambient) (hagrees : ∃ i, p.agrees color i) : p.ObservesFairly color where
  total_fits := Nat.lt_of_le_of_lt (p.totalWeight_le color hconfig) hfit
  mass_fits c := by
    have hdraws : p.draws color ≤ n := by
      have hn := p.matching_add_draws color
      omega
    have hmass := Nat.mul_le_mul hdraws (p.weight_le_highScore color hconfig c)
    exact Nat.lt_of_le_of_lt hmass hfit
  fair start hstart htotal :=
    ⟨p.origin color start, p.isFairCopy_resampledAt color start hconfig hstart htotal⟩
  outcome := p.observe_of_agrees color hconfig hcolor hagrees

/-- Two particles over the first cell of the standard map and one over the second. -/
def trio : Population 3 where
  particles := #v[⟨10, 10, 200⟩, ⟨30, 10, 200⟩, ⟨12, 10, 200⟩].map Particle.resting
  map := ColorMap.standard
  config := {}
  generator := ⟨7⟩

theorem trio_observesFairly :
    (trio.config.validate = .ok () ∧ 3 * trio.config.highScore.toNat < 2 ^ 32 ∧ 0 < ambient ∧
      ∃ i, trio.agrees 0 i) ∧ trio.ObservesFairly 0 := by
  have hconfig : trio.config.validate = .ok () :=
    (FilterConfig.validate_eq_ok_iff _).2 (by decide +kernel)
  have hfit : 3 * trio.config.highScore.toNat < 2 ^ 32 := by decide
  have hcolor : 0 < ambient := by decide
  have hagrees : ∃ i, trio.agrees 0 i := ⟨2, by decide +kernel⟩
  exact ⟨⟨hconfig, hfit, hcolor, hagrees⟩,
    observesFairly_of_agrees trio 0 hconfig hfit hcolor hagrees⟩

end LightPilot.Population
