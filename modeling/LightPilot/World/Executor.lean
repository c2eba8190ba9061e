import LightPilot.Vehicle.Parameters
import LightPilot.Vehicle.SharedState
import LightPilot.World.Craft

set_option autoImplicit false

/-! # The command executor

One decoded command a poll: moves are flown by the craft and announced to the motion model, and the
switches of the motion model are set. A move that finds the craft busy is dropped. -/

namespace LightPilot

/-- The counts of the executor. -/
structure Executor where
  executed : UInt32 := 0
  rejected : UInt32 := 0

/-- What one poll did. -/
inductive ExecutorReport
  /-- No command waited. -/
  | nothing
  /-- The byte is no command. -/
  | unknown (byte : UInt8)
  /-- The craft was busy. -/
  | busy (command : Command)
  | executed (command : Command)
  deriving DecidableEq

/-- The command of a poll that executed one. -/
def ExecutorReport.command? : ExecutorReport → Option Command
  | executed command => some command
  | _ => none

namespace Executor

/-- Carries out a command; none if the craft is busy. -/
def carryOut? (command : Command) (params : Parameters) (craft : Craft) :
    Option (Parameters × Craft) :=
  match command with
  | .motionModelEnable => some ((params.set Parameters.motionActive 1).2, craft)
  | .motionModelDisable => some ((params.set Parameters.motionActive 0).2, craft)
  | _ =>
    if command.axis?.isSome then
      (craft.begin? command).map fun craft =>
        ((params.set Parameters.lastCommand command.toParameter).2, craft)
    else some (params, craft)

/-- One poll. -/
def poll (executor : Executor) (shared : SharedState) (params : Parameters) (craft : Craft) :
    ExecutorReport × Executor × SharedState × Parameters × Craft :=
  match shared.nextCommand? with
  | none => (.nothing, executor, shared, params, craft)
  | some (byte, shared) =>
    let rejecting := { executor with rejected := executor.rejected + 1 }
    match Command.ofCode? byte with
    | none => (.unknown byte, rejecting, shared, params, craft)
    | some command =>
      match carryOut? command params craft with
      | none => (.busy command, rejecting, shared, params, craft)
      | some (params, craft) =>
        (.executed command, { executor with executed := executor.executed + 1 }, shared, params, craft)

end Executor

end LightPilot
