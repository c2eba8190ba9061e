import LightPilot.Flight.Command

set_option autoImplicit false

/-! # Parameters

Named integers through which the tasks and the ground talk to each other. The store holds a few names
only; a new name finds no place when it is full, while a known one can always be set. -/

namespace LightPilot

/-- The names that fit a store. -/
def parameterCapacity : Nat := 8

/-- A store of named integers. -/
structure Parameters where
  entries : List (String × Int32)
  bounded : entries.length ≤ parameterCapacity

namespace Parameters

/-- The switch of the motion model. -/
def motionActive : String := "vlc.motionActive"

/-- The command waiting for the motion model; zero when there is none. -/
def lastCommand : String := "vlc.lastCommand"

/-- A store without names. -/
def empty : Parameters :=
  ⟨[], Nat.zero_le _⟩

/-- The value of a name. -/
def get? (p : Parameters) (name : String) : Option Int32 :=
  p.entries.lookup name

/-- The entries with the value of a known name replaced. -/
def replace (name : String) (value : Int32) (entries : List (String × Int32)) :
    List (String × Int32) :=
  entries.map fun entry => if entry.1 = name then (name, value) else entry

/-- Sets a name and says whether it found a place. -/
def set (p : Parameters) (name : String) (value : Int32) : Bool × Parameters :=
  if (p.get? name).isSome then
    (true, ⟨replace name value p.entries, by rw [replace, List.length_map]; exact p.bounded⟩)
  else if h : p.entries.length < parameterCapacity then
    (true, ⟨p.entries ++ [(name, value)], by rw [List.length_append]; exact h⟩)
  else (false, p)

/-- A name read as a switch: on unless it is zero or missing. -/
def flag (p : Parameters) (name : String) : Bool :=
  match p.get? name with
  | some value => value != 0
  | none => false

/-- The store at the start: the motion model is off and no command waits. -/
def initial : Parameters :=
  ((empty.set motionActive 0).2.set lastCommand 0).2

end Parameters

/-- The value by which a parameter stands for a command. -/
def Command.toParameter (command : Command) : Int32 :=
  Int32.ofNat command.code.toNat

/-- The command for which a parameter's value stands. -/
def Command.ofParameter? (value : Int32) : Option Command :=
  if value < 0 then none else Command.all[value.toInt.toNat]?

end LightPilot
