import LightPilot.Map.ColorModel

set_option autoImplicit false

/-! # Settings of the particle filter -/

namespace LightPilot

/-- How a swarm is laid out from scratch. -/
inductive Layout
  /-- Through the cells of the map in order, lap after lap. -/
  | grid
  /-- At random over the map. -/
  | uniform
  deriving DecidableEq

/-- Settings of the particle filter. Lengths are in map units. -/
structure FilterConfig where
  lens : Lens := ⟨9, 0.75⟩
  /-- The depth below the projector at which the particles start. -/
  startingDepth : Float32 := 200
  /-- The score of a particle that agrees with the observed color. -/
  highScore : UInt16 := 80
  /-- The score of any other particle; not zero, so that no pose starves. -/
  lowScore : UInt16 := 5
  /-- The time after which an unchanged color is resampled on again. -/
  resampleIntervalMs : UInt32 := 2000
  layout : Layout := .grid
  /-- The seed of the swarm's generator. -/
  seed : UInt64 := 0x5eed1234abcd0001

namespace FilterConfig

/-- The first setting that cannot be used. -/
def fault? (config : FilterConfig) : Option ConfigFault :=
  if ¬ config.lens.focalLength > 0 then some .focalLengthNotPositive
  else if ¬ config.lens.cellSize > 0 then some .cellSizeNotPositive
  else if ¬ config.startingDepth > config.lens.focalLength then some .startingDepthTooSmall
  else if config.lowScore = 0 then some .lowProbabilityZero
  else if config.highScore ≤ config.lowScore then some .highProbabilityTooLow
  else none

/-- Refuses settings that do not describe a filter. -/
def validate (config : FilterConfig) : Except NavigationError Unit :=
  match config.fault? with
  | some fault => .error (.invalidConfig fault)
  | none => .ok ()

theorem validate_eq_ok_iff (config : FilterConfig) :
    config.validate = .ok ()
      ↔ config.lens.focalLength > 0 ∧ config.lens.cellSize > 0 ∧
        config.startingDepth > config.lens.focalLength ∧ config.lowScore ≠ 0 ∧
        config.lowScore < config.highScore := by
  have hok : config.validate = .ok () ↔ config.fault? = none := by
    rw [validate]
    cases config.fault? <;> simp
  simp only [hok, fault?]
  grind

/-- The size of a cell at the starting depth. -/
def startingCellSize (config : FilterConfig) : Float32 :=
  config.lens.cellSizeAt config.startingDepth

/-- The length of the map's side at the starting depth. -/
def mapExtent (config : FilterConfig) : Float32 :=
  Float32.ofNat mapSide * config.startingCellSize

end FilterConfig

end LightPilot
