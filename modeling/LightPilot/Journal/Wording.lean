import LightPilot.Filter.Population
import LightPilot.Motion.State

set_option autoImplicit false

/-! # How values are spelt in notices

A value with parts is written as its name and the parts in braces. -/

namespace LightPilot.Wording

/-- A switch. -/
def bool : Bool → String
  | true => "true"
  | false => "false"

/-- A value that may be missing. -/
def frequency? : Option UInt16 → String
  | some frequency => "Some(" ++ frequency.toNat.repr ++ ")"
  | none => "None"

/-- A name with parts in braces. -/
def record (name : String) (parts : List (String × String)) : String :=
  let texts := parts.map fun (part, value) => part ++ ": " ++ value
  name ++ " \x7b " ++ ", ".intercalate texts ++ " \x7d"

/-- A stage. -/
def stage : Stage → String
  | .idle => "Idle"
  | .executing command axis startedMs tilted =>
    record "Executing"
      [("command", command.name), ("axis", axis.name), ("started_ms", startedMs.toNat.repr),
        ("tilted", bool tilted)]
  | .cooldown sinceMs => record "Cooldown" [("since_ms", sinceMs.toNat.repr)]

/-- An event of the motion model. -/
def event : MotionEvent → String
  | .calibrating => "Calibrating"
  | .calibrationComplete => "CalibrationComplete"
  | .inactive => "Inactive"
  | .idle => "Idle"
  | .cooling => "Cooling"
  | .cooldownElapsed => "CooldownElapsed"
  | .integrated axis => record "Integrated" [("axis", axis.name)]
  | .commandFinished command timedOut =>
    record "CommandFinished" [("command", command.name), ("timed_out", bool timedOut)]

/-- The outcome of an observation. -/
def outcome : ResampleOutcome → String
  | .skipped => "Skipped"
  | .resampled matched => record "Resampled" [("matched", matched.repr)]
  | .reset => "Reset"

/-- A vector with a fixed number of places, each component padded to a width. -/
def vector (width places : Nat) (separator : String) (v : Vec3) : String :=
  let component (x : Float32) : String := Decimal.padLeft width (Decimal.fixed places x)
  "(" ++ separator.intercalate [component v.x, component v.y, component v.z] ++ ")"

end LightPilot.Wording
