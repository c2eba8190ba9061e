import LightPilot.Proofs.Filter.Observation

set_option autoImplicit false

/-! # Stale fields never matter

A displacement and a resample leave the scores and the colors of poses that the particles are no longer at.
Populations are alike if they differ in no more than what their particles carry beside the pose
(`Alike`). A call gets the same answer from both and leaves them alike, as whatever it reads of these
fields it has written before; a layout, or an observation of a color, writes all of them and leaves the
two populations the same (`forgetsStale_of_alike`). -/

namespace LightPilot

attribute [ext] Particle Population

namespace Population

variable {n : Nat}

/-- The particles stand at the same poses, and all else but the particles is the same. -/
structure Alike (p q : Population n) : Prop where
  position : ∀ i, (p.particle i).position = (q.particle i).position
  map : p.map = q.map
  config : p.config = q.config
  generator : p.generator = q.generator

variable {p q : Population n}

theorem eq_of_particle (hparticle : ∀ i, p.particle i = q.particle i) (hmap : p.map = q.map)
    (hconfig : p.config = q.config) (hgenerator : p.generator = q.generator) : p = q := by
  refine Population.ext (Vector.ext fun i hi => ?_) hmap hconfig hgenerator
  exact hparticle ⟨i, hi⟩

theorem Alike.refl (p : Population n) : p.Alike p :=
  ⟨fun _ => rfl, rfl, rfl, rfl⟩

theorem Alike.model (h : p.Alike q) : p.model = q.model := by
  rw [Population.model, Population.model, h.map, h.config]

/-! ## What an observation goes by -/

theorem Alike.agrees (h : p.Alike q) (color : UInt8) : p.agrees color = q.agrees color := by
  funext i
  rw [Population.agrees, Population.agrees, h.model, h.position]

theorem Alike.weight (h : p.Alike q) (color : UInt8) : p.weight color = q.weight color := by
  funext i
  rw [Population.weight, Population.weight, h.agrees, h.config]

theorem Alike.totalWeight (h : p.Alike q) (color : UInt8) :
    p.totalWeight color = q.totalWeight color := by
  rw [Population.totalWeight, Population.totalWeight, h.weight]

theorem Alike.draws (h : p.Alike q) (color : UInt8) : p.draws color = q.draws color := by
  rw [Population.draws, Population.draws, h.agrees]

theorem Alike.scores (h : p.Alike q) (color : UInt8) : p.scores color = q.scores color := by
  rw [Population.scores, Population.scores]
  refine List.map_congr_left fun i _ => ?_
  rw [particle_scored_score, particle_scored_score, h.agrees, h.config]

theorem Alike.origin (h : p.Alike q) (color : UInt8) (start : Nat) :
    p.origin color start = q.origin color start := by
  have horigins : (p.scored color).origins color start = (q.scored color).origins color start := by
    apply Vector.toList_inj.1
    rw [toList_origins, toList_origins, slots, slots, picked, picked, h.agrees, h.weight, h.draws]
  funext slot
  rw [Population.origin, Population.origin, horigins]

/-! ## What an observation leaves -/

/-- A resample tells every field of every particle by the poses before it. -/
theorem Alike.eq_of_isResampled (h : p.Alike q) {color : UInt8} {after other : Population n}
    {origin : Fin n → Fin n} (hafter : p.IsResampled color after origin)
    (hother : q.IsResampled color other origin) : after = other := by
  refine eq_of_particle (fun slot => Particle.ext ?_ ?_ ?_ ?_ ?_) ?_ ?_ ?_
  · rw [hafter.position, hother.position, h.position]
  · rw [hafter.staged, hother.staged, h.position]
  · rw [hafter.score, hother.score, h.agrees, h.config]
  · rw [hafter.expectedColor, hother.expectedColor, h.model, h.position]
  · rw [hafter.coarse, hother.coarse, h.position]
  · rw [hafter.map, hother.map, h.map]
  · rw [hafter.config, hother.config, h.config]
  · rw [hafter.generator, hother.generator, h.generator, h.totalWeight]

/-- A layout starts from no field of the particles. -/
theorem Alike.layOut (h : p.Alike q) (layout : Layout) : p.layOut layout = q.layOut layout := by
  cases layout with
  | grid =>
      have hparticles := particles_layOut_grid h.config.symm h.map.symm
      exact Population.ext hparticles h.map h.config h.generator
  | uniform =>
      have hsettled : p.settled = q.settled := by
        funext pose
        rw [settled, settled, h.model, h.config]
      rw [Population.layOut, Population.layOut, hsettled, h.map, h.config, h.generator]

theorem Alike.scored (h : p.Alike q) (color : UInt8) : (p.scored color).Alike (q.scored color) :=
  ⟨fun i => by rw [scored_position, scored_position, h.position], h.map, h.config, h.generator⟩

theorem Alike.observe (h : p.Alike q) {color : UInt8} (hcolor : color < ambient) :
    p.observe color = q.observe color := by
  have hagrees := h.agrees color
  by_cases hmatch : ∃ i, p.agrees color i
  case pos =>
    -- the draw is named and never evaluated
    rcases hdraw : p.generator.upTo (p.totalWeight color) with ⟨start, generator⟩
    have hdraw' : q.generator.upTo (q.totalWeight color) = (start, generator) := by
      rw [← h.generator, ← h.totalWeight, hdraw]
    have hp := p.isResampled_resampledAt color hdraw
    have hq := q.isResampled_resampledAt color hdraw'
    rw [← h.origin] at hq
    rw [p.observe_of_draw color hcolor hmatch hdraw, h.eq_of_isResampled hp hq]
    rw [hagrees] at hmatch ⊢
    rw [q.observe_of_draw color hcolor hmatch hdraw']
  case neg =>
    have hnone := not_exists.1 hmatch
    rw [p.observe_of_no_agreement hcolor hnone, (h.scored color).layOut]
    rw [hagrees] at hnone
    rw [q.observe_of_no_agreement hcolor hnone]

/-! ## Calls -/

theorem Alike.displace (h : p.Alike q) (delta : Vec3) (deviation : Float32) :
    (p.displace delta deviation).Alike (q.displace delta deviation) := by
  rcases hdraws : Generator.draws (Generator.gaussianPair 0 deviation) n p.generator
    with ⟨spreads, generator⟩
  have hdraws' : Generator.draws (Generator.gaussianPair 0 deviation) n q.generator
      = (spreads, generator) := by
    rw [← h.generator, hdraws]
  refine ⟨fun i => ?_, h.map, h.config, ?_⟩
  · rw [particle_displace_of_draws hdraws, particle_displace_of_draws hdraws']
    simp only [Particle.place, h.position]
  · simp only [Population.displace, hdraws, hdraws']

theorem Alike.refreshColors (h : p.Alike q) : p.refreshColors.Alike q.refreshColors := by
  refine ⟨fun i => ?_, h.map, h.config, h.generator⟩
  rw [particle_refreshColors, particle_refreshColors]
  exact h.position i

/-- A call gets the same answer and leaves the populations alike. -/
theorem Alike.perform (h : p.Alike q) (call : Call) :
    (p.perform call).1 = (q.perform call).1 ∧ (p.perform call).2.Alike (q.perform call).2 := by
  cases call with
  | layOut layout =>
      rw [Population.perform, Population.perform, h.layOut]
      exact ⟨rfl, .refl _⟩
  | refreshColors => exact ⟨rfl, h.refreshColors⟩
  | observe color =>
      rw [Population.perform, Population.perform]
      by_cases hcolor : ambient ≤ color
      · rw [observe_ambient p hcolor, observe_ambient q hcolor]
        exact ⟨rfl, h⟩
      · rw [h.observe (UInt8.not_le.1 hcolor)]
        exact ⟨rfl, .refl _⟩
  | displace delta deviation => exact ⟨rfl, h.displace delta deviation⟩
  | flush model =>
      rw [Population.perform, Population.perform, MotionModel.handOver, MotionModel.handOver,
        MotionModel.flush, MotionModel.flush]
      cases model.takeDelta with
      | none => exact ⟨rfl, h⟩
      | some taken => exact ⟨rfl, h.displace taken.1 _⟩

/-- Whether a call writes every field of every particle. -/
def Call.rewrites : Call → Bool
  | .layOut _ => true
  | .observe color => decide (color < ambient)
  | .refreshColors | .displace .. | .flush _ => false

theorem Alike.perform_of_rewrites (h : p.Alike q) {call : Call} (hcall : call.rewrites = true) :
    p.perform call = q.perform call := by
  cases call with
  | layOut layout => rw [Population.perform, Population.perform, h.layOut]
  | observe color =>
      rw [Population.perform, Population.perform, h.observe (of_decide_eq_true hcall)]
  | refreshColors | displace _ _ | flush _ => contradiction

/-! ## Runs -/

theorem Alike.run (h : p.Alike q) (calls : List Call) :
    Run.answers Population.perform p calls = Run.answers Population.perform q calls ∧
      (Run.final Population.perform p calls).Alike (Run.final Population.perform q calls) := by
  induction calls generalizing p q with
  | nil => exact ⟨rfl, h⟩
  | cons call calls ih =>
      obtain ⟨hanswer, hnext⟩ := h.perform call
      obtain ⟨hanswers, hfinal⟩ := ih hnext
      rw [Run.answers, Run.answers, hanswer, hanswers]
      exact ⟨rfl, hfinal⟩

/-- One call that writes every field is enough, wherever it comes. -/
theorem Alike.final_eq (h : p.Alike q) {calls : List Call}
    (hcalls : calls.any Call.rewrites = true) :
    Run.final Population.perform p calls = Run.final Population.perform q calls := by
  induction calls generalizing p q with
  | nil => contradiction
  | cons call calls ih =>
      rw [Run.final, Run.final]
      cases hcall : call.rewrites with
      | true => rw [h.perform_of_rewrites hcall]
      | false =>
          rw [List.any_cons, hcall, Bool.false_or] at hcalls
          exact ih (h.perform call).2 hcalls

theorem Alike.meanPosition (h : p.Alike q) : p.meanPosition = q.meanPosition := by
  have hpositions : p.particles.map Particle.position = q.particles.map Particle.position := by
    refine Vector.ext fun i hi => ?_
    rw [Vector.getElem_map, Vector.getElem_map]
    exact h.position ⟨i, hi⟩
  have hfold := congrArg (fun positions => positions.foldl (· + ·) Vec3.zero) hpositions
  simp only [Vector.foldl_map] at hfold
  rw [Population.meanPosition, Population.meanPosition, hfold]

/-- The fields in which two populations may differ have no part in anything. -/
structure ForgetsStale (p q : Population n) : Prop where
  /-- An observation of a color has the same outcome and leaves the same population. -/
  observe : ∀ color < ambient, p.observe color = q.observe color
  /-- Its draw is the same in words too, and so is where that overflows. -/
  words : ∀ color start,
    Systematic.Words.picks (p.scores color) (UInt32.ofNat (p.draws color)) start
      = Systematic.Words.picks (q.scores color) (UInt32.ofNat (q.draws color)) start
  answers : ∀ calls, Run.answers perform p calls = Run.answers perform q calls
  estimate : ∀ calls,
    (Run.final perform p calls).meanPosition = (Run.final perform q calls).meanPosition
  alike : ∀ calls, (Run.final perform p calls).Alike (Run.final perform q calls)
  /-- Runs that lay the population out or observe a color leave the same population. -/
  forgotten : ∀ calls : List Call, calls.any Call.rewrites = true →
    Run.final perform p calls = Run.final perform q calls

/-- **Stale fields never matter.** Populations that differ only in what their particles carry beside the
pose are observed with the same outcome and are then the same. -/
theorem forgetsStale_of_alike (h : p.Alike q) : p.ForgetsStale q where
  observe _ hcolor := h.observe hcolor
  words color start := by rw [h.scores, h.draws]
  answers calls := (h.run calls).1
  estimate calls := (h.run calls).2.meanPosition
  alike calls := (h.run calls).2
  forgotten _ hcalls := h.final_eq hcalls

/-- The three particles with other fields than their poses tell. -/
def staleTrio : Population 3 :=
  { trio with
    particles := trio.particles.map fun particle =>
      { particle with staged := ⟨1, 2, 3⟩, score := 7, expectedColor := 3, coarse := (5, -5) } }

theorem forgetsStale_staleTrio :
    trio ≠ staleTrio ∧ trio.Alike staleTrio ∧ trio.ForgetsStale staleTrio := by
  have hdiffer : trio ≠ staleTrio := fun heq =>
    absurd (congrArg (fun p => (p.particle 0).score) heq) (by decide +kernel)
  have halike : trio.Alike staleTrio :=
    ⟨fun i => by simp [particle, Vector.get_eq_getElem, staleTrio], rfl, rfl, rfl⟩
  exact ⟨hdiffer, halike, forgetsStale_of_alike halike⟩

end Population

end LightPilot
