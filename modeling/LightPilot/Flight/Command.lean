set_option autoImplicit false

/-! # Flight commands

The commands that travel over the light link, one byte each, and the axis along which a command
moves the craft. `Command.all` lists them in the order of their codes; `code` and `ofCode?` are the
two directions of that numbering. -/

namespace LightPilot

/-- A body axis. -/
inductive Axis
  | x
  | y
  | z
  deriving DecidableEq

namespace Axis

/-- The axes that move the craft across the map. -/
def isLateral : Axis → Bool
  | .x | .y => true
  | .z => false

/-- The position of the axis in a vector. -/
def index : Axis → Nat
  | .x => 0
  | .y => 1
  | .z => 2

/-- The letter of the axis. -/
def name : Axis → String
  | .x => "X"
  | .y => "Y"
  | .z => "Z"

end Axis

/-- What the ground may ask of the craft. -/
inductive Command
  | idle
  | flightEnable
  | flightDisable
  | up
  | down
  | left
  | right
  | forward
  | backward
  | takeOff
  | land
  | motionModelEnable
  | motionModelDisable
  | linkEnable
  | linkDisable
  deriving DecidableEq

namespace Command

/-- Every command, in the order of the codes. -/
def all : List Command :=
  [idle, flightEnable, flightDisable, up, down, left, right, forward, backward, takeOff, land,
    motionModelEnable, motionModelDisable, linkEnable, linkDisable]

/-- The byte that stands for a command. -/
def code : Command → UInt8
  | idle => 0
  | flightEnable => 1
  | flightDisable => 2
  | up => 3
  | down => 4
  | left => 5
  | right => 6
  | forward => 7
  | backward => 8
  | takeOff => 9
  | land => 10
  | motionModelEnable => 11
  | motionModelDisable => 12
  | linkEnable => 13
  | linkDisable => 14

/-- The command with the given code. -/
def ofCode? (code : UInt8) : Option Command :=
  all[code.toNat]?

/-- The axis along which a command moves the craft; none for a switch. -/
def axis? : Command → Option Axis
  | forward | backward => some .x
  | left | right => some .y
  | up | down | takeOff | land => some .z
  | _ => none

/-- The spelling of a command in log lines. -/
def name : Command → String
  | idle => "Idle"
  | flightEnable => "VlcFlightEnable"
  | flightDisable => "VlcFlightDisable"
  | up => "Up"
  | down => "Down"
  | left => "Left"
  | right => "Right"
  | forward => "Forward"
  | backward => "Backward"
  | takeOff => "TakeOff"
  | land => "Land"
  | motionModelEnable => "MotionModelEnable"
  | motionModelDisable => "MotionModelDisable"
  | linkEnable => "LinkEnable"
  | linkDisable => "LinkDisable"

theorem ofCode?_code (c : Command) : ofCode? c.code = some c := by
  cases c <;> rfl

end Command

end LightPilot
