import LightPilot.Journal.Report
import LightPilot.Journal.Selection

set_option autoImplicit false

/-! # A mission run from the command line

The vehicle is simulated for a number of seconds while the projector sends the commands of a fixed flight
plan. Once a second the true and the estimated position are told, and at the end the counts of the link
and of the executor. -/

namespace LightPilot.Mission

/-! ## The duration -/

/-- Why a text is not a whole number. -/
inductive NumberFault
  | empty
  | invalidDigit
  | tooLarge
  deriving DecidableEq

/-- The wording of a fault. -/
def NumberFault.message : NumberFault → String
  | empty => "cannot parse integer from empty string"
  | invalidDigit => "invalid digit found in string"
  | tooLarge => "number too large to fit in target type"

/-- Reads decimal digits after `value`, the first trouble from the left deciding. -/
def readDigits (limit value : Nat) : List Char → Except NumberFault Nat
  | [] => .ok value
  | c :: rest =>
    if !c.isDigit then .error .invalidDigit
    else
      let value := 10 * value + (c.toNat - '0'.toNat)
      if value < limit then readDigits limit value rest else .error .tooLarge

/-- Reads a whole number below `limit`; a plus sign may stand in front of it. -/
def readNumber (limit : Nat) (text : String) : Except NumberFault Nat :=
  match text.toList with
  | [] => .error .empty
  | ['+'] => .error .invalidDigit
  | '+' :: digits => readDigits limit 0 digits
  | digits => readDigits limit 0 digits

/-- A duration that cannot be used, and why. -/
inductive DurationError
  | notSeconds (fault : NumberFault)
  | tooLong

/-- The lines that tell of a duration that cannot be used. -/
def DurationError.lines : DurationError → List String
  | notSeconds fault =>
    ["Error: duration must be whole seconds", "", "Caused by:", "    " ++ fault.message]
  | tooLong =>
    ["Error: duration too long", "", "Caused by:", "    " ++ NumberFault.tooLarge.message]

/-- The usual duration in seconds. -/
def defaultSeconds : Nat := 30

/-- The duration in milliseconds that the arguments ask for. Only the first argument counts. -/
def durationMs (args : List String) : Except DurationError UInt32 := do
  let seconds ←
    match args with
    | [] => pure defaultSeconds
    | text :: _ => (readNumber (Nat.pow 2 64) text).mapError .notSeconds
  if 1000 * seconds < Nat.pow 2 32 then return UInt32.ofNat (1000 * seconds) else throw .tooLong

/-! ## The flight -/

/-- The commands sent, with the time from which each may be sent. -/
def flightPlan : List (UInt32 × Command) :=
  [(500, .motionModelEnable), (2000, .forward), (6000, .right), (10000, .up), (14000, .backward),
    (18000, .left), (22000, .down)]

/-- The time between two reports of the position. -/
def reportPeriodMs : UInt32 := 1000

/-- A flight underway. -/
structure Flight where
  simulation : Simulation
  /-- The commands not yet sent. -/
  plan : List (UInt32 × Command) := flightPlan

/-- A notice of the command line itself. -/
def say (text : String) : Notice :=
  ⟨.info, Journal.mission, text⟩

/-- Sends the next command if its time has come. -/
def Flight.transmit (flight : Flight) : List Notice × Flight :=
  match flight.plan with
  | (time, command) :: plan =>
    if flight.simulation.now ≥ time then
      let s := flight.simulation
      ([Journal.ofTransmission s.projector s.config.link.unitId command],
        { simulation := s.transmit command, plan })
    else ([], flight)
  | [] => ([], flight)

/-- The report of the position. -/
def report (s : Simulation) : Notice :=
  let telemetry := s.telemetry
  say ("t=" ++ Decimal.padLeft 6 s.now.toNat.repr
    ++ " ms true=" ++ Wording.vector 6 1 "," s.craft.position
    ++ " estimate=" ++ Wording.vector 6 1 "," telemetry.meanPosition
    ++ " color=" ++ telemetry.detectedColor.toNat.repr
    ++ " stage=" ++ Wording.stage telemetry.stage)

/-- One millisecond. -/
def Flight.advance (flight : Flight) : List Notice × Flight :=
  let (sent, flight) := flight.transmit
  let s := flight.simulation
  let reports := if s.now % reportPeriodMs = 0 then [report s] else []
  let (did, simulation) := s.stepReporting
  (sent ++ reports ++ Journal.ofStep did, { flight with simulation })

/-- The last notices. -/
def farewell (s : Simulation) : List Notice :=
  let link := s.telemetry.link
  [say "Stopping",
    say ("Link: " ++ link.windows.toNat.repr ++ " windows, "
      ++ link.framesDecoded.toNat.repr ++ " frames decoded, "
      ++ link.framesDiscarded.toNat.repr ++ " discarded, "
      ++ link.resets.toNat.repr ++ " resets, "
      ++ link.timeouts.toNat.repr ++ " timeouts"),
    say ("Executor: " ++ s.executor.executed.toNat.repr ++ " commands executed, "
      ++ s.executor.rejected.toNat.repr ++ " rejected")]

/-- `count` milliseconds of a flight; the shown notices are added to those before. -/
def fly (selection : Selection) : (count : Nat) → Flight → Array Notice → Array Notice × Flight
  | 0, flight, shown => (shown, flight)
  | count + 1, flight, shown =>
    let (notices, flight) := flight.advance
    fly selection count flight (shown ++ (notices.filter selection.shows).toArray)

/-- The notices of a whole mission. The last step is made at the end of the duration. -/
def notices (selection : Selection) (endMs : UInt32) : List Notice :=
  let shown := List.filter selection.shows
  match Simulation.create {} with
  | .ok simulation =>
    let opening :=
      [say "Initializing...", say ("Running for " ++ endMs.toNat.repr ++ " ms")]
    let (flown, flight) :=
      fly selection (endMs.toNat + 1) { simulation } (shown opening).toArray
    flown.toList ++ shown (farewell flight.simulation)
  | .error error =>
    shown [say "Initializing...",
      ⟨.error, Journal.mission, "Failed to set up the simulation: " ++ error.message⟩,
      say "Stopping"]

/-! ## The run -/

/-- The end of a run. -/
structure Outcome where
  exitCode : UInt8
  /-- Complaints about the choice of notices. -/
  complaints : List String
  notices : List Notice
  /-- The lines that tell of a failure. -/
  failure : List String

/-- All that a run writes about itself, line by line. -/
def Outcome.lines (outcome : Outcome) : List String :=
  (outcome.complaints ++ outcome.notices.map Notice.line ++ outcome.failure).flatMap fun written =>
    Text.lines (written ++ "\n")

/-- The choice of notices where none is made. -/
def defaultSelection : String := "info"

/-- Runs the mission that the arguments ask for. -/
def run (args : List String) (selection? : Option String) : Outcome :=
  let (selection, complaints) := Selection.read (selection?.getD defaultSelection)
  match durationMs args with
  | .error error => { exitCode := 1, complaints, notices := [], failure := error.lines }
  | .ok endMs =>
    { exitCode := 0, complaints, notices := notices selection endMs, failure := [] }

end LightPilot.Mission
