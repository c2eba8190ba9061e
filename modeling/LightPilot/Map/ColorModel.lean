import LightPilot.Map.ColorMap
import LightPilot.Number.Single
import LightPilot.Vec3

set_option autoImplicit false

/-! # The color a pose should see

The projection widens with the distance from the focal point, so the same map covers larger cells
farther down. A pose belongs to the cell that its coordinates reach when divided by the cell size at
its depth and rounded down. -/

namespace LightPilot

/-- The projection lens. -/
structure Lens where
  focalLength : Float32
  /-- The size of a cell one focal length beyond the focal point. -/
  cellSize : Float32

/-- The size of a cell seen from a depth below the projector. -/
def Lens.cellSizeAt (lens : Lens) (depth : Float32) : Float32 :=
  (depth - lens.focalLength) / lens.focalLength * lens.cellSize

/-- A map thrown through a lens. -/
structure ColorModel where
  map : ColorMap
  lens : Lens

namespace ColorModel

/-- The color received at a pose. Where there is no cell, above the focal point or off the map, it is
the ambient one. -/
def expectedColor (model : ColorModel) (pose : Vec3) : UInt8 :=
  let size := model.lens.cellSizeAt pose.z
  if size > 0 ∧ Single.isFinite size ∧ Single.isFinite pose.x ∧ Single.isFinite pose.y then
    match Single.floor? (pose.x / size), Single.floor? (pose.y / size) with
    | some column, some row => model.map.lookup column row
    | _, _ => ambient
  else ambient

theorem expectedColor_le (model : ColorModel) (pose : Vec3) :
    model.expectedColor pose ≤ ambient := by
  unfold expectedColor
  dsimp only
  split
  · split
    · exact model.map.lookup_le _ _
    · exact UInt8.le_refl _
  · exact UInt8.le_refl _

end ColorModel

end LightPilot
