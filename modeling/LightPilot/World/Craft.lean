import LightPilot.Flight.Inertia

set_option autoImplicit false

/-! # The simulated craft

The truth that the sensors see. A move accelerates along its direction for half of its time and brakes
for the other half, and leaves the craft at rest. The position is in map units with `z` the depth below
the projector; velocity and acceleration are in the body frame with `z` pointing up. -/

namespace LightPilot

/-- A move being flown. -/
structure Manoeuvre where
  command : Command
  axis : Axis
  /-- One along the axis, minus one against it. -/
  direction : Float32
  elapsedMs : UInt32
  /-- The time of each half. -/
  halfMs : UInt32

namespace Manoeuvre

/-- The force of a move along an axis (m/s²). -/
def strength (axis : Axis) : Float32 :=
  if axis.isLateral then 1.25 else 1

/-- The tilt held during a lateral move, in degrees. -/
def tilt : Float32 := 4

/-- Whether the second half has begun. -/
def isBraking (m : Manoeuvre) : Bool :=
  decide (m.elapsedMs ≥ m.halfMs)

/-- The direction of the force: along the move, then against it. -/
def push (m : Manoeuvre) : Float32 :=
  if m.isBraking then -m.direction else m.direction

/-- The acceleration of the craft. -/
def acceleration (m : Manoeuvre) : Vec3 :=
  Vec3.single (m.push * strength m.axis) m.axis

/-- The attitude of the craft. -/
def attitude (m : Manoeuvre) : Attitude :=
  match m.axis with
  | .x => { Attitude.level with pitch := m.push * tilt }
  | .y => { Attitude.level with roll := m.push * tilt }
  | .z => Attitude.level

/-- The move `dtMs` later. -/
def later (m : Manoeuvre) (dtMs : UInt32) : Manoeuvre :=
  { m with elapsedMs := m.elapsedMs + dtMs }

/-- Whether both halves are over. -/
def isOver (m : Manoeuvre) : Bool :=
  decide (m.elapsedMs ≥ 2 * m.halfMs)

end Manoeuvre

/-- The axis and the direction in which a command moves the craft. -/
def Command.heading? : Command → Option (Axis × Float32)
  | forward => some (.x, 1)
  | backward => some (.x, -1)
  | right => some (.y, 1)
  | left => some (.y, -1)
  | up | takeOff => some (.z, 1)
  | down | land => some (.z, -1)
  | _ => none

/-- The simulated craft. -/
structure Craft where
  position : Vec3
  velocity : Vec3 := Vec3.zero
  acceleration : Vec3 := Vec3.zero
  attitude : Attitude := Attitude.level
  manoeuvre? : Option Manoeuvre := none
  /-- The time of a lateral move. -/
  lateralMs : UInt32
  /-- The time of a vertical move. -/
  verticalMs : UInt32

namespace Craft

/-- Gravity, as the inertial sensor feels it (m/s²). -/
def gravity : Float32 := 9.81

/-- Map units per metre. -/
def mapUnitsPerMetre : Float32 := 100

/-- Whether a move is being flown. -/
def isBusy (craft : Craft) : Bool :=
  craft.manoeuvre?.isSome

/-- The craft with a move begun; none if it is busy or the command does not move. -/
def begin? (craft : Craft) (command : Command) : Option Craft :=
  if craft.isBusy then none
  else
    command.heading?.map fun (axis, direction) =>
      let durationMs := if axis.isLateral then craft.lateralMs else craft.verticalMs
      { craft with
        manoeuvre? := some { command, axis, direction, elapsedMs := 0, halfMs := durationMs / 2 } }

/-- The force on the craft. -/
def force (craft : Craft) : Vec3 :=
  match craft.manoeuvre? with
  | some m => m.acceleration
  | none => Vec3.zero

/-- The attitude that goes with the force. -/
def posture (craft : Craft) : Attitude :=
  match craft.manoeuvre? with
  | some m => m.attitude
  | none => Attitude.level

/-- The craft `dtMs` later, and the command of a move that ended. -/
def step (craft : Craft) (dtMs : UInt32) : Option Command × Craft :=
  let dt := dtMs.toFloat32 / 1000
  let acceleration := craft.force
  let velocity := craft.velocity + acceleration * dt
  let travelled := velocity * dt * mapUnitsPerMetre
  let moved : Craft :=
    { craft with
      acceleration, velocity
      attitude := craft.posture
      position := craft.position + travelled.flipZ
      manoeuvre? := craft.manoeuvre?.map (·.later dtMs) }
  match moved.manoeuvre? with
  | some m =>
    if m.isOver then (some m.command, { moved with manoeuvre? := none, velocity := Vec3.zero })
    else (none, moved)
  | none => (none, moved)

/-- The inertial sensor of the craft, with a constant bias. -/
def inertialSensor (craft : Craft) (bias : Vec3) : InertialSensor where
  acceleration? := some (craft.acceleration + ⟨0, 0, gravity⟩ + bias)
  attitude := craft.attitude
  stationary := !craft.isBusy

end Craft

end LightPilot
