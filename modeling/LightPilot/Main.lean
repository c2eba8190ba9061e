import LightPilot.Mission

set_option autoImplicit false

/-! # The command line

Runs a mission for the number of seconds given as the first argument. The environment variable
`LIGHT_PILOT_LOG` chooses the notices that are shown. -/

/-- Runs the mission and writes its notices to the standard error. -/
def main (args : List String) : IO UInt32 := do
  let selection? ← IO.getEnv "LIGHT_PILOT_LOG"
  let outcome := LightPilot.Mission.run args selection?
  for complaint in outcome.complaints do
    IO.eprintln complaint
  for notice in outcome.notices do
    IO.eprintln ("[" ++ notice.line)
  for line in outcome.failure do
    IO.eprintln line
  return outcome.exitCode.toUInt32
