import LightPilot.Filter.Config
import LightPilot.Filter.Particle
import LightPilot.Filter.Systematic
import LightPilot.Random.Gaussian

set_option autoImplicit false

/-! # The swarm of pose hypotheses

A population of `n` particles is laid out over the map, scored against observed colors and moved by
displacements. An observation keeps every particle that agrees with it where it is and gives each other
slot the pose of a particle drawn in proportion to the scores, agreeing or not; if no particle agrees the
population starts over from the grid. -/

namespace LightPilot

/-- What an observation did to a population. -/
inductive ResampleOutcome
  /-- The ambient color was observed, which says nothing. -/
  | skipped
  /-- The population was resampled; `matched` particles agreed with the observation. -/
  | resampled (matched : Nat)
  /-- No particle agreed, and the population was laid out anew. -/
  | reset
  deriving DecidableEq

/-- A swarm of `n` pose hypotheses. -/
structure Population (n : Nat) where
  particles : Vector Particle n
  map : ColorMap
  config : FilterConfig
  generator : Generator

namespace Population

variable {n : Nat}

/-- The colors a pose should see. -/
def model (p : Population n) : ColorModel :=
  ⟨p.map, p.config.lens⟩

/-! ## Layouts -/

/-- A particle as a fresh layout leaves it. -/
def settled (p : Population n) (pose : Vec3) : Particle :=
  { Particle.resting pose with
    score := p.config.lowScore
    expectedColor := p.model.expectedColor pose }

/-- The pose of a particle on the grid. Particles fill the cells row by row; each further lap is shifted
along the diagonal of the cells, so that no two particles share a pose. -/
def gridPose (p : Population n) (index : Nat) : Vec3 :=
  let cells := mapSide * mapSide
  let laps := (n + (cells - 1)) / cells
  let cell := index % cells
  let lap := index / cells
  let size := p.config.startingCellSize
  let offset := (Float32.ofNat lap + 0.5) / Float32.ofNat laps
  let column := Float32.ofNat (cell % mapSide)
  let row := Float32.ofNat (cell / mapSide)
  ⟨(column + offset) * size, (row + offset) * size, p.config.startingDepth⟩

/-- A random place on the map. -/
def randomPlace (extent : Float32) (g : Generator) : (Float32 × Float32) × Generator :=
  let (x, g) := g.within 0 extent
  let (y, g) := g.within 0 extent
  ((x, y), g)

/-- The population laid out from scratch. -/
def layOut (p : Population n) : Layout → Population n
  | .grid => { p with particles := Vector.ofFn fun i => p.settled (p.gridPose i) }
  | .uniform =>
    let (places, generator) := Generator.draws (randomPlace p.config.mapExtent) n p.generator
    { p with
      particles := places.map fun (x, y) => p.settled ⟨x, y, p.config.startingDepth⟩
      generator }

/-- A population of `n` particles over a map. -/
def create (n : Nat) (config : FilterConfig) (map : ColorMap) :
    Except NavigationError (Population n) := do
  config.validate
  if n = 0 then throw (.invalidConfig .noParticles)
  let blank : Population n :=
    { particles := Vector.replicate n (Particle.resting Vec3.zero)
      map, config
      generator := ⟨config.seed⟩ }
  return blank.layOut config.layout

/-! ## Observations -/

/-- The population with the expected colors of its present poses. -/
def refreshColors (p : Population n) : Population n :=
  { p with
    particles := p.particles.map fun particle =>
      { particle with expectedColor := p.model.expectedColor particle.position } }

/-- The population with every particle scored by whether its expected color is the observed one. -/
def score (p : Population n) (color : UInt8) : Population n :=
  { p with
    particles := p.particles.map fun particle =>
      { particle with
        score := if particle.expectedColor = color then p.config.highScore else p.config.lowScore } }

/-- The number of particles that expect a color. -/
def matching (p : Population n) (color : UInt8) : Nat :=
  p.particles.toList.countP fun particle => particle.expectedColor = color

/-- The sum of the scores. -/
def totalScore (p : Population n) : Nat :=
  (p.particles.toList.map fun particle => particle.score.toNat).foldr (· + ·) 0

/-- For each slot the particle whose pose it takes when the first pointer is at `start`: itself if it
expects the observed color, else one drawn by score. -/
def origins (p : Population n) (color : UInt8) (start : Nat) : Vector (Fin n) n :=
  let weighted := (List.finRange n).map fun i => (i, p.particles[i].score.toNat)
  let slots := (List.finRange n).map fun i => (i, decide (p.particles[i].expectedColor = color))
  let picked := Systematic.picks weighted (n - p.matching color) start
  ⟨(Systematic.fill slots picked).toArray, by simp [slots]⟩

/-- The population with every slot moved to the pose of its origin. All poses are read before any
particle moves. -/
def moveTo (p : Population n) (origins : Vector (Fin n) n) : Population n :=
  { p with
    particles := Vector.ofFn fun i =>
      (p.particles[i].stage p.particles[origins[i]].position).commit }

/-- The population resampled on a color that at least one particle expects. -/
def resample (p : Population n) (color : UInt8) : Population n :=
  let (start, generator) := p.generator.upTo p.totalScore
  { p.moveTo (p.origins color start) with generator }

/-- Scores the population against an observed color and resamples it. -/
def observe (p : Population n) (color : UInt8) : ResampleOutcome × Population n :=
  if ambient ≤ color then (.skipped, p)
  else
    let scored := p.refreshColors.score color
    let matched := scored.matching color
    if matched = 0 then (.reset, scored.layOut .grid)
    else (.resampled matched, scored.resample color)

/-! ## Motion -/

/-- The population moved by `delta`, each particle with a normal spread of its own on the map. -/
def displace (p : Population n) (delta : Vec3) (deviation : Float32) : Population n :=
  let (spreads, generator) := Generator.draws (Generator.gaussianPair 0 deviation) n p.generator
  { p with
    particles := Vector.zipWith
      (fun particle (x, y) => particle.place (particle.position + delta + ⟨x, y, 0⟩))
      p.particles spreads
    generator }

/-- The mean pose. -/
def meanPosition (p : Population n) : Vec3 :=
  p.particles.foldl (fun sum particle => sum + particle.position) Vec3.zero / Float32.ofNat n

end Population

end LightPilot
