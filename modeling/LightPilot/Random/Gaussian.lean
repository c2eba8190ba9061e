import LightPilot.Number.Logarithm
import LightPilot.Number.Single
import LightPilot.Random.Generator

set_option autoImplicit false

/-! # Normal draws

Pairs of independent normal numbers by the Box–Muller transform: a radius from the logarithm of one
uniform draw, which must not be zero, and an angle from another. -/

namespace LightPilot.Generator

/-- A full turn. -/
def turn : Float32 := 6.283185307179586

/-- The sine of a single, computed in double precision. -/
def sine (x : Float32) : Float32 :=
  Single.narrow (Single.widen x).sin

/-- The cosine of a single, computed in double precision. -/
def cosine (x : Float32) : Float32 :=
  Single.narrow (Single.widen x).cos

/-- Draws until a number is not zero. -/
def positiveUnitWithin : Nat → Generator → Float32 × Generator
  | 0, g => g.unit
  | attempts + 1, g =>
    let (u, next) := g.unit
    if u == 0 then positiveUnitWithin attempts next else (u, next)

/-- A number above 0, up to 1. -/
def positiveUnit (g : Generator) : Float32 × Generator :=
  positiveUnitWithin period g

/-- Two independent normal numbers. -/
def gaussianPair (mean deviation : Float32) (g : Generator) : (Float32 × Float32) × Generator :=
  let (u, g) := g.positiveUnit
  let (v, g) := g.unit
  let angle := turn * v
  let radius := (-2 * Single.log u).sqrt
  ((mean + deviation * radius * cosine angle, mean + deviation * radius * sine angle), g)

end LightPilot.Generator
