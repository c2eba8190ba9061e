import LightPilot.Proofs.Filter.Drawing
import LightPilot.Proofs.Filter.Upkeep

set_option autoImplicit false

/-! # All that an observation does

An observation is skipped, starts the population over or resamples it, and which of the three follows from
the color and the poses alone (`observe_ambient`, `observe_of_no_agreement`, `observe_of_draw`). This file
says for each of them what becomes of every field: nothing changes, or the particles are those of a fresh
grid (`IsStartedOver`), or each slot stands at a pose that some particle had before (`IsResampled`). -/

namespace LightPilot.Population

variable {n : Nat}

/-! ## Starting over -/

/-- The particles are those of a fresh grid, and all else is as before. -/
structure IsStartedOver (p after : Population n) : Prop where
  /-- Any population with the same settings and the same map is laid out like this. -/
  fresh : ∀ other : Population n, other.config = p.config → other.map = p.map →
    after.particles = (other.layOut .grid).particles
  map : after.map = p.map
  config : after.config = p.config
  generator : after.generator = p.generator

/-- A grid does not depend on the particles that were there before. -/
theorem particles_layOut_grid {p other : Population n} (hconfig : other.config = p.config)
    (hmap : other.map = p.map) :
    (p.layOut .grid).particles = (other.layOut .grid).particles := by
  have hmodel : p.model = other.model := by
    rw [model, model, hconfig, hmap]
  simp only [layOut, settled, gridPose, hconfig, hmodel]

theorem isStartedOver_scored (p : Population n) (color : UInt8) :
    p.IsStartedOver ((p.scored color).layOut .grid) where
  fresh _ hconfig hmap := particles_layOut_grid (p := p.scored color) hconfig hmap
  map := rfl
  config := rfl
  generator := rfl

/-! ## Resampling -/

/-- Each slot stands at the pose that its origin had in `p`, and its score and its color are those that the
slot's own pose had earned. -/
structure IsResampled (p : Population n) (color : UInt8) (after : Population n)
    (origin : Fin n → Fin n) : Prop where
  position : ∀ slot, (after.particle slot).position = (p.particle (origin slot)).position
  staged : ∀ slot, (after.particle slot).staged = (p.particle (origin slot)).position
  coarse : ∀ slot,
    (after.particle slot).coarse = Particle.coarseOf (p.particle (origin slot)).position
  score : ∀ slot, (after.particle slot).score
    = if p.agrees color slot then p.config.highScore else p.config.lowScore
  expectedColor : ∀ slot, (after.particle slot).expectedColor
    = p.model.expectedColor (p.particle slot).position
  /-- A particle that agrees with the color keeps its own slot. -/
  kept : ∀ slot, p.agrees color slot → origin slot = slot
  map : after.map = p.map
  config : after.config = p.config
  /-- The generator is asked once, for the place of the first pointer. -/
  generator : after.generator = (p.generator.upTo (p.totalWeight color)).2

theorem particle_moveTo (p : Population n) (origins : Vector (Fin n) n) (slot : Fin n) :
    (p.moveTo origins).particle slot
      = ((p.particle slot).stage (p.particle (origins.get slot)).position).commit := by
  simp [particle, Vector.get_eq_getElem, moveTo]

theorem particle_resampledAt (p : Population n) (color : UInt8) (start : Nat) (slot : Fin n) :
    (p.resampledAt color start).particle slot
      = (((p.scored color).particle slot).stage
          (p.particle (p.origin color start slot)).position).commit := by
  rw [resampledAt, particle_moveTo, scored_position]
  rfl

theorem particle_scored_score (p : Population n) (color : UInt8) (slot : Fin n) :
    ((p.scored color).particle slot).score
      = if p.agrees color slot then p.config.highScore else p.config.lowScore := by
  rw [scored, particle_score, particle_refreshColors]
  simp only [agrees, beq_iff_eq]
  rfl

theorem isResampled_resampledAt (p : Population n) (color : UInt8) {start : Nat}
    {generator : Generator} (hdraw : p.generator.upTo (p.totalWeight color) = (start, generator)) :
    p.IsResampled color { p.resampledAt color start with generator } (p.origin color start) where
  position := p.resampledAt_position color start
  staged slot := by
    show ((p.resampledAt color start).particle slot).staged = _
    rw [particle_resampledAt]
    rfl
  coarse slot := by
    show ((p.resampledAt color start).particle slot).coarse = _
    rw [particle_resampledAt]
    rfl
  score slot := by
    show ((p.resampledAt color start).particle slot).score = _
    rw [particle_resampledAt]
    exact p.particle_scored_score color slot
  expectedColor slot := by
    show ((p.resampledAt color start).particle slot).expectedColor = _
    rw [particle_resampledAt]
    exact p.scored_expectedColor color slot
  kept := p.origin_of_agrees color start
  map := rfl
  config := rfl
  generator := by rw [hdraw]

/-! ## The three outcomes -/

theorem observe_ambient (p : Population n) {color : UInt8} (hcolor : ambient ≤ color) :
    p.observe color = (.skipped, p) := by
  rw [observe, if_pos hcolor]

theorem card_agrees_eq_zero {p : Population n} {color : UInt8} (hnone : ∀ i, ¬ p.agrees color i) :
    (Finset.univ.filter fun i => p.agrees color i).card = 0 := by
  rw [Finset.card_eq_zero, Finset.filter_eq_empty_iff]
  intro i _
  exact hnone i

theorem observe_of_no_agreement (p : Population n) {color : UInt8} (hcolor : color < ambient)
    (hnone : ∀ i, ¬ p.agrees color i) :
    p.observe color = (.reset, (p.scored color).layOut .grid) := by
  have hmatching : (p.scored color).matching color = 0 := by
    rw [scored_matching, card_agrees_eq_zero hnone]
  rw [scored] at hmatching ⊢
  rw [observe, if_neg (UInt8.not_le.2 hcolor)]
  simp only [if_pos hmatching]

/-- What an observation has to do to a population, and what it has to answer. -/
structure ObservesCompletely (p : Population n) (color : UInt8) : Prop where
  skipped_iff : (p.observe color).1 = .skipped ↔ ambient ≤ color
  skipped : (p.observe color).1 = .skipped → (p.observe color).2 = p
  reset_iff : (p.observe color).1 = .reset ↔ color < ambient ∧ ∀ i, ¬ p.agrees color i
  reset : (p.observe color).1 = .reset → p.IsStartedOver (p.observe color).2
  resampled_iff : ∀ matched, (p.observe color).1 = .resampled matched ↔
    color < ambient ∧ 0 < matched ∧ matched = (Finset.univ.filter fun i => p.agrees color i).card
  resampled : ∀ matched, (p.observe color).1 = .resampled matched →
    ∃ origin, p.IsResampled color (p.observe color).2 origin
  /-- The total of a resample is a word and leaves room for a first pointer, and from wherever that falls
  the draw can be made in words. -/
  words : ∀ matched, (p.observe color).1 = .resampled matched →
    0 < p.totalWeight color ∧ p.totalWeight color < 2 ^ 32 ∧
      ∀ start, 0 < start → start ≤ p.totalWeight color →
        ∃ picked, Systematic.Words.picks (p.scores color) (UInt32.ofNat (p.draws color))
          (UInt32.ofNat start) = .ok picked

theorem observesCompletely_of_ambient (p : Population n) {color : UInt8} (hcolor : ambient ≤ color) :
    p.ObservesCompletely color := by
  have hnot : ¬ color < ambient := UInt8.not_lt.2 hcolor
  have hobserve := p.observe_ambient hcolor
  constructor <;> simp [hobserve, hcolor, hnot]

theorem observesCompletely_of_no_agreement (p : Population n) {color : UInt8}
    (hcolor : color < ambient) (hnone : ∀ i, ¬ p.agrees color i) : p.ObservesCompletely color := by
  have hnot : ¬ ambient ≤ color := UInt8.not_le.2 hcolor
  have hobserve := p.observe_of_no_agreement hcolor hnone
  constructor
  case skipped_iff => simp [hobserve, hnot]
  case skipped => simp [hobserve]
  case reset_iff =>
    rw [hobserve]
    exact ⟨fun _ => ⟨hcolor, hnone⟩, fun _ => rfl⟩
  case reset =>
    intro _
    rw [hobserve]
    exact p.isStartedOver_scored color
  case resampled_iff =>
    intro matched
    rw [hobserve, card_agrees_eq_zero hnone]
    simp only [reduceCtorEq, false_iff]
    omega
  case resampled => simp [hobserve]
  case words => simp [hobserve]

theorem observesCompletely_of_agrees (p : Population n) {color : UInt8}
    (hconfig : p.config.validate = .ok ()) (hfit : n * p.config.highScore.toNat < 2 ^ 32)
    (hcolor : color < ambient) {i : Fin n} (hi : p.agrees color i) : p.ObservesCompletely color := by
  have hnot : ¬ ambient ≤ color := UInt8.not_le.2 hcolor
  have hmatched : 0 < (Finset.univ.filter fun i => p.agrees color i).card :=
    Finset.card_pos.2 ⟨i, by simp [hi]⟩
  -- the draw is named and never evaluated
  rcases hdraw : p.generator.upTo (p.totalWeight color) with ⟨start, generator⟩
  have hobserve := p.observe_of_draw color hcolor ⟨i, hi⟩ hdraw
  constructor
  case skipped_iff => simp [hobserve, hnot]
  case skipped => simp [hobserve]
  case reset_iff =>
    rw [hobserve]
    simp only [reduceCtorEq, false_iff]
    rintro ⟨-, hnone⟩
    exact hnone i hi
  case reset => simp [hobserve]
  case resampled_iff =>
    intro matched
    rw [hobserve]
    simp only [ResampleOutcome.resampled.injEq]
    constructor
    · rintro rfl
      exact ⟨hcolor, hmatched, rfl⟩
    · rintro ⟨-, -, rfl⟩
      rfl
  case resampled =>
    intro matched _
    rw [hobserve]
    exact ⟨p.origin color start, p.isResampled_resampledAt color hdraw⟩
  case words =>
    intro matched _
    have htotal := Nat.lt_of_le_of_lt (p.totalWeight_le color hconfig) hfit
    refine ⟨p.totalWeight_pos color hconfig i hi, htotal, ?_⟩
    intro start hstart hle
    exact ⟨_, words_picks hconfig hfit hstart hle⟩

/-- **An observation has one of three effects, and nothing else changes.** -/
theorem observesCompletely_of_fit (p : Population n) (color : UInt8)
    (hconfig : p.config.validate = .ok ()) (hfit : n * p.config.highScore.toNat < 2 ^ 32) :
    p.ObservesCompletely color := by
  by_cases hcolor : ambient ≤ color
  case pos => exact p.observesCompletely_of_ambient hcolor
  case neg =>
    rw [UInt8.not_le] at hcolor
    by_cases hagrees : ∃ i, p.agrees color i
    case pos =>
      obtain ⟨i, hi⟩ := hagrees
      exact p.observesCompletely_of_agrees hconfig hfit hcolor hi
    case neg => exact p.observesCompletely_of_no_agreement hcolor (not_exists.1 hagrees)

/-- Two of three particles agree with the first color. -/
theorem trio_observesCompletely :
    (trio.config.validate = .ok () ∧ 3 * trio.config.highScore.toNat < 2 ^ 32) ∧
      trio.ObservesCompletely 0 := by
  have hconfig : trio.config.validate = .ok () :=
    (FilterConfig.validate_eq_ok_iff _).2 (by decide +kernel)
  have hfit : 3 * trio.config.highScore.toNat < 2 ^ 32 := by decide
  exact ⟨⟨hconfig, hfit⟩, observesCompletely_of_fit trio 0 hconfig hfit⟩

end LightPilot.Population
