import LightPilot.Map.ColorMap
import LightPilot.Number.Single
import LightPilot.Vec3

set_option autoImplicit false

/-! # One pose hypothesis

A particle carries its pose, and beside it what is derived from the pose at certain moments: the pose
it is about to take, its score, the color it expects, and its place on the map in whole units. -/

namespace LightPilot

/-- A hypothesis of the craft's pose; `z` is the depth below the projector. -/
structure Particle where
  position : Vec3
  /-- The pose to be taken when the running resample ends. -/
  staged : Vec3
  /-- The score against the latest observation. -/
  score : UInt16
  /-- The color this pose should receive. -/
  expectedColor : UInt8
  /-- The place on the map in whole units. -/
  coarse : Int16 × Int16

namespace Particle

/-- The place on the map in whole units. -/
def coarseOf (position : Vec3) : Int16 × Int16 :=
  (Single.truncate16 position.x, Single.truncate16 position.y)

/-- A particle at rest, without score or color. -/
def resting (position : Vec3) : Particle where
  position := position
  staged := position
  score := 0
  expectedColor := ambient
  coarse := coarseOf position

/-- Moves at once. -/
def place (p : Particle) (position : Vec3) : Particle :=
  { p with position, staged := position, coarse := coarseOf position }

/-- Gives the pose to be taken later. -/
def stage (p : Particle) (position : Vec3) : Particle :=
  { p with staged := position }

/-- Takes the staged pose. -/
def commit (p : Particle) : Particle :=
  { p with position := p.staged, coarse := coarseOf p.staged }

end Particle

end LightPilot
