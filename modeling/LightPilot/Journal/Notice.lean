import LightPilot.Number.Decimal

set_option autoImplicit false

/-! # Notices: the lines of the log -/

namespace LightPilot

/-- How much a notice matters. -/
inductive Severity
  | error
  | warn
  | info
  | debug
  | trace
  deriving DecidableEq

namespace Severity

/-- Every severity, gravest first. -/
def all : List Severity := [error, warn, info, debug, trace]

/-- The place of a severity, 1 for the gravest. -/
def rank : Severity → Nat
  | error => 1
  | warn => 2
  | info => 3
  | debug => 4
  | trace => 5

/-- The name of a severity in log lines. -/
def name : Severity → String
  | error => "ERROR"
  | warn => "WARN"
  | info => "INFO"
  | debug => "DEBUG"
  | trace => "TRACE"

end Severity

/-- A line of the log. -/
structure Notice where
  severity : Severity
  /-- The part of the system that speaks. -/
  source : String
  text : String
  deriving DecidableEq

namespace Notice

/-- A notice as it is written, without the opening bracket: the severity in five columns, the source,
and the text. -/
def line (notice : Notice) : String :=
  let name := notice.severity.name
  name ++ String.ofList (List.replicate (5 - name.length) ' ') ++ " " ++ notice.source ++ "] "
    ++ notice.text

end Notice

end LightPilot
