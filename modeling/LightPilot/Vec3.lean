import LightPilot.Flight.Command

set_option autoImplicit false

/-! # Vectors of three single-precision numbers

All operations act on each component by itself, in the order written; sums are never regrouped. -/

namespace LightPilot

/-- A vector in space. -/
structure Vec3 where
  x : Float32
  y : Float32
  z : Float32

namespace Vec3

/-- The zero vector. -/
def zero : Vec3 := ⟨0, 0, 0⟩

/-- The sum of each component. -/
def add (a b : Vec3) : Vec3 := ⟨a.x + b.x, a.y + b.y, a.z + b.z⟩

/-- Each component times a number. -/
def scale (a : Vec3) (k : Float32) : Vec3 := ⟨a.x * k, a.y * k, a.z * k⟩

/-- Each component divided by a number. -/
def shrink (a : Vec3) (k : Float32) : Vec3 := ⟨a.x / k, a.y / k, a.z / k⟩

instance : Add Vec3 := ⟨add⟩
instance : HMul Vec3 Float32 Vec3 := ⟨scale⟩
instance : HDiv Vec3 Float32 Vec3 := ⟨shrink⟩
instance : Inhabited Vec3 := ⟨zero⟩

/-- The component along an axis. -/
def along (v : Vec3) : Axis → Float32
  | .x => v.x
  | .y => v.y
  | .z => v.z

/-- The vector with one component given and the others zero. -/
def single (value : Float32) : Axis → Vec3
  | .x => ⟨value, 0, 0⟩
  | .y => ⟨0, value, 0⟩
  | .z => ⟨0, 0, value⟩

/-- The vector turned upside down: heights become depths. -/
def flipZ (v : Vec3) : Vec3 := ⟨v.x, v.y, -v.z⟩

end Vec3

end LightPilot
