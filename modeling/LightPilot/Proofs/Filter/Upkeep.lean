import LightPilot.Proofs.Filter.Resampling
import LightPilot.Proofs.Motion.HandOver
import LightPilot.Proofs.Number.Truncation

set_option autoImplicit false

/-! # A population keeps its particles in order

Beside its pose a particle carries a staged pose, a place in whole units, a score and a color. They are
written at different moments: a layout and a displacement place the particle at once, a resample stages
all poses and then commits them, also those of slots that keep theirs. `Particle.InOrder` says how they
have to fit together between two calls, `Population.Kept` that all particles of a population are in order
and that its settings are those it was created with. Each call keeps this, and so does every run. -/

namespace LightPilot

namespace Particle

/-- How the fields of a particle fit together between two calls. -/
structure InOrder (config : FilterConfig) (particle : Particle) : Prop where
  /-- No pose is waiting to be taken. -/
  staged : particle.staged = particle.position
  /-- The place in whole units is that of the present pose. -/
  coarse : Single.IsTruncation particle.position.x particle.coarse.1 ∧
    Single.IsTruncation particle.position.y particle.coarse.2
  score : particle.score = config.lowScore ∨ particle.score = config.highScore
  color : particle.expectedColor ≤ ambient

variable {config : FilterConfig} {particle : Particle}

theorem isTruncation_coarseOf (pose : Vec3) :
    Single.IsTruncation pose.x (coarseOf pose).1 ∧ Single.IsTruncation pose.y (coarseOf pose).2 :=
  ⟨Single.isTruncation_truncate16 _, Single.isTruncation_truncate16 _⟩

theorem InOrder.place (h : particle.InOrder config) (pose : Vec3) :
    (particle.place pose).InOrder config :=
  ⟨rfl, isTruncation_coarseOf pose, h.score, h.color⟩

/-- A particle may be staged anywhere, as long as it takes the pose. -/
theorem InOrder.commit (h : particle.InOrder config) (pose : Vec3) :
    (particle.stage pose).commit.InOrder config :=
  ⟨rfl, isTruncation_coarseOf pose, h.score, h.color⟩

theorem InOrder.withColor (h : particle.InOrder config) {color : UInt8} (hcolor : color ≤ ambient) :
    { particle with expectedColor := color }.InOrder config :=
  ⟨h.staged, h.coarse, h.score, hcolor⟩

theorem InOrder.withScore (h : particle.InOrder config) (matched : Prop) [Decidable matched] :
    { particle with score := if matched then config.highScore else config.lowScore }.InOrder
      config := by
  refine ⟨h.staged, h.coarse, ?_, h.color⟩
  by_cases hmatched : matched
  · exact .inr (if_pos hmatched)
  · exact .inl (if_neg hmatched)

end Particle

namespace Population

variable {n : Nat}

/-! ## Calls -/

/-- A call on a population. -/
inductive Call
  | layOut (layout : Layout)
  | refreshColors
  | observe (color : UInt8)
  | displace (delta : Vec3) (deviation : Float32)
  /-- A motion model hands its displacement over, if it is due. -/
  | flush (model : MotionModel)

/-- The answer to a call. -/
inductive Answer
  | done
  | observed (outcome : ResampleOutcome)
  /-- The displacement that was handed over, if it was due. -/
  | flushed (delta? : Option Vec3)

/-- Makes one call. -/
def perform (p : Population n) : Call → Answer × Population n
  | .layOut layout => (.done, p.layOut layout)
  | .refreshColors => (.done, p.refreshColors)
  | .observe color => (.observed (p.observe color).1, (p.observe color).2)
  | .displace delta deviation => (.done, p.displace delta deviation)
  | .flush model => (.flushed (model.handOver p).1, (model.handOver p).2.2)

/-! ## What becomes of a particle -/

theorem particle_layOut (p : Population n) (layout : Layout) (i : Fin n) :
    ∃ pose, (p.layOut layout).particle i = p.settled pose := by
  cases layout with
  | grid => exact ⟨p.gridPose i, by simp [particle, Vector.get_eq_getElem, layOut]⟩
  | uniform =>
      -- the places are named and never drawn
      rcases hdraws : Generator.draws (randomPlace p.config.mapExtent) n p.generator
        with ⟨places, generator⟩
      refine ⟨⟨(places.get i).1, (places.get i).2, p.config.startingDepth⟩, ?_⟩
      simp [particle, Vector.get_eq_getElem, layOut, hdraws]

theorem particle_refreshColors (p : Population n) (i : Fin n) :
    p.refreshColors.particle i
      = { p.particle i with expectedColor := p.model.expectedColor (p.particle i).position } :=
  Vector.getElem_map ..

theorem particle_score (p : Population n) (color : UInt8) (i : Fin n) :
    (p.score color).particle i
      = { p.particle i with
          score := if (p.particle i).expectedColor = color then p.config.highScore
            else p.config.lowScore } :=
  Vector.getElem_map ..

theorem particle_resample (p : Population n) (color : UInt8) (i : Fin n) :
    ∃ pose, (p.resample color).particle i = ((p.particle i).stage pose).commit := by
  rcases hdraw : p.generator.upTo p.totalScore with ⟨start, generator⟩
  rw [p.resample_of_draw color start generator hdraw]
  refine ⟨(p.particle ((p.origins color start).get i)).position, ?_⟩
  simp [particle, Vector.get_eq_getElem, moveTo]

theorem particle_displace_of_draws {p : Population n} {deviation : Float32}
    {spreads : Vector (Float32 × Float32) n} {generator : Generator}
    (hdraws : Generator.draws (Generator.gaussianPair 0 deviation) n p.generator
      = (spreads, generator)) (delta : Vec3) (i : Fin n) :
    (p.displace delta deviation).particle i
      = (p.particle i).place
          ((p.particle i).position + delta + ⟨(spreads.get i).1, (spreads.get i).2, 0⟩) := by
  simp [particle, Vector.get_eq_getElem, displace, hdraws]

theorem particle_displace (p : Population n) (delta : Vec3) (deviation : Float32) (i : Fin n) :
    ∃ pose, (p.displace delta deviation).particle i = (p.particle i).place pose := by
  rcases hdraws : Generator.draws (Generator.gaussianPair 0 deviation) n p.generator
    with ⟨spreads, generator⟩
  exact ⟨_, particle_displace_of_draws hdraws delta i⟩

/-! ## What a call keeps -/

/-- A population with these settings and this map, whose particles are in order. -/
structure Kept (config : FilterConfig) (map : ColorMap) (p : Population n) : Prop where
  settings : p.config = config
  colors : p.map = map
  particles : ∀ i, (p.particle i).InOrder config

variable {config : FilterConfig} {map : ColorMap} {p : Population n}

theorem Kept.model (h : p.Kept config map) : p.model = ⟨map, config.lens⟩ := by
  rw [Population.model, h.colors, h.settings]

theorem inOrder_settled (p : Population n) (pose : Vec3) : (p.settled pose).InOrder p.config :=
  ⟨rfl, Particle.isTruncation_coarseOf pose, .inl rfl, p.model.expectedColor_le pose⟩

/-- A layout starts from any particles. -/
theorem kept_layOut (hsettings : p.config = config) (hcolors : p.map = map) (layout : Layout) :
    (p.layOut layout).Kept config map := by
  subst hsettings hcolors
  refine ⟨by cases layout <;> rfl, by cases layout <;> rfl, fun i => ?_⟩
  obtain ⟨pose, hpose⟩ := p.particle_layOut layout i
  rw [hpose]
  exact p.inOrder_settled pose

theorem Kept.layOut (h : p.Kept config map) (layout : Layout) :
    (p.layOut layout).Kept config map :=
  kept_layOut h.settings h.colors layout

theorem Kept.refreshColors (h : p.Kept config map) : p.refreshColors.Kept config map := by
  refine ⟨h.settings, h.colors, fun i => ?_⟩
  rw [particle_refreshColors]
  exact (h.particles i).withColor (p.model.expectedColor_le _)

theorem Kept.score (h : p.Kept config map) (color : UInt8) : (p.score color).Kept config map := by
  refine ⟨h.settings, h.colors, fun i => ?_⟩
  rw [particle_score, h.settings]
  exact (h.particles i).withScore _

theorem Kept.resample (h : p.Kept config map) (color : UInt8) :
    (p.resample color).Kept config map := by
  refine ⟨h.settings, h.colors, fun i => ?_⟩
  obtain ⟨pose, hpose⟩ := p.particle_resample color i
  rw [hpose]
  exact (h.particles i).commit pose

theorem Kept.observe (h : p.Kept config map) (color : UInt8) :
    (p.observe color).2.Kept config map := by
  unfold Population.observe
  split
  · exact h
  · dsimp only
    split
    · exact (h.refreshColors.score color).layOut .grid
    · exact (h.refreshColors.score color).resample color

theorem Kept.displace (h : p.Kept config map) (delta : Vec3) (deviation : Float32) :
    (p.displace delta deviation).Kept config map := by
  refine ⟨h.settings, h.colors, fun i => ?_⟩
  obtain ⟨pose, hpose⟩ := p.particle_displace delta deviation i
  rw [hpose]
  exact (h.particles i).place pose

theorem Kept.handOver (h : p.Kept config map) (model : MotionModel) :
    (model.handOver p).2.2.Kept config map := by
  unfold MotionModel.handOver MotionModel.flush
  cases model.takeDelta with
  | none => exact h
  | some taken => exact h.displace taken.1 _

theorem Kept.perform (h : p.Kept config map) (call : Call) :
    (p.perform call).2.Kept config map := by
  cases call with
  | layOut layout => exact h.layOut layout
  | refreshColors => exact h.refreshColors
  | observe color => exact h.observe color
  | displace delta deviation => exact h.displace delta deviation
  | flush model => exact h.handOver model

/-! ## Runs -/

/-- A population that has just been created is in order. -/
theorem kept_create (hcreate : create n config map = .ok p) : p.Kept config map := by
  rw [create] at hcreate
  obtain ⟨-, hlaid⟩ := Check.bind_eq_ok_iff.1 hcreate
  obtain ⟨-, hlaid⟩ := Check.before_eq_ok_iff.1 hlaid
  cases hlaid
  refine kept_layOut ?_ ?_ _
  · rfl
  · rfl

/-- **The particles stay in order.** After any calls on a new population, whatever their arguments, each
particle's copies agree with its pose, its score is one of the two in use and its color is on the scale,
and the settings, the lens and the map are those it was created with. -/
theorem kept_run (hcreate : create n config map = .ok p) (calls : List Call) :
    (Run.final perform p calls).Kept config map ∧
      (Run.final perform p calls).model = ⟨map, config.lens⟩ := by
  have hkept : (Run.final Population.perform p calls).Kept config map :=
    Run.invariant (kept_create hcreate) (fun _ call h => h.perform call) calls
  exact ⟨hkept, hkept.model⟩

/-- The calls of a run with a displacement that is no number. -/
def strayed : List Call :=
  [.observe 0, .displace ⟨0 / 0, 1 / 0, -1 / 0⟩ 2, .layOut .uniform, .observe ambient,
    .flush { config := {}, state := { steps := 10, delta := ⟨1, 2, 3⟩ } }, .refreshColors, .observe 3]

/-- Three particles stay in order when they are displaced beyond all numbers. -/
theorem kept_strayed :
    ∃ p : Population 3, create 3 {} ColorMap.standard = .ok p ∧
      (Run.final perform p strayed).Kept {} ColorMap.standard ∧
      (Run.final perform p strayed).model = ⟨ColorMap.standard, ({} : FilterConfig).lens⟩ := by
  have hvalid : ({} : FilterConfig).validate = .ok () :=
    (FilterConfig.validate_eq_ok_iff _).2 (by decide +kernel)
  obtain ⟨p, hcreate⟩ : ∃ p : Population 3, create 3 {} ColorMap.standard = .ok p := by
    rw [create]
    exact ⟨_, Check.bind_eq_ok_iff.2 ⟨hvalid, Check.before_eq_ok_iff.2 ⟨by decide, rfl⟩⟩⟩
  exact ⟨p, hcreate, kept_run hcreate strayed⟩

end Population

end LightPilot
