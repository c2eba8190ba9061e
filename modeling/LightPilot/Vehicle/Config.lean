import LightPilot.Filter.Config
import LightPilot.Link.Config
import LightPilot.Motion.Config

set_option autoImplicit false

/-! # Settings of the whole vehicle

The settings of its parts, and the periods of the four tasks that drive them. Sampling must be the
fastest task and filtering the slowest, and the link task must run before a second window can fill. -/

namespace LightPilot

/-- The particles of the vehicle's swarm. -/
abbrev particleCount : Nat := 150

/-- The samples of one window of the vehicle's link. -/
abbrev windowSize : Nat := 16

/-- The frequencies that the vehicle's receiver remembers. -/
abbrev historyCapacity : Nat := 5

/-- Task periods that do not fit together. -/
inductive PeriodFault
  | zero
  | order
  | linkTooSlow
  deriving DecidableEq

/-- What the periods should have been. -/
def PeriodFault.reason : PeriodFault → String
  | zero => "periods must be non-zero"
  | order => "sampling must be fastest and filtering slowest"
  | linkTooSlow => "link task slower than one sample window"

/-- Why a vehicle cannot be set up. -/
inductive VehicleError
  | navigation (error : NavigationError)
  | link (error : LinkError)
  | periods (fault : PeriodFault)

/-- The wording of an error. -/
def VehicleError.message : VehicleError → String
  | navigation error => "Localization: " ++ error.message
  | link error => "Light link: " ++ error.message
  | periods fault => "Invalid task periods: " ++ fault.reason

/-- The periods of the tasks, in milliseconds. -/
structure TaskPeriods where
  /-- Sampling of the light. -/
  sampleMs : UInt32 := 1
  /-- Decoding of the light. -/
  linkMs : UInt32 := 4
  /-- Integration of motion. -/
  motionMs : UInt32 := 10
  /-- Color observations. -/
  filterMs : UInt32 := 100

namespace TaskPeriods

/-- The first way in which the periods do not fit together. -/
def fault? (periods : TaskPeriods) : Option PeriodFault :=
  if periods.sampleMs = 0 ∨ periods.linkMs = 0 ∨ periods.motionMs = 0 ∨ periods.filterMs = 0 then
    some .zero
  else if periods.sampleMs > periods.linkMs ∨ periods.linkMs > periods.filterMs then some .order
  else if periods.linkMs.toNat ≥ windowSize * periods.sampleMs.toNat then some .linkTooSlow
  else none

/-- Refuses periods that do not fit together. -/
def validate (periods : TaskPeriods) : Except VehicleError Unit :=
  match periods.fault? with
  | some fault => .error (.periods fault)
  | none => .ok ()

end TaskPeriods

/-- Settings of the vehicle. -/
structure VehicleConfig where
  filter : FilterConfig := {}
  motion : MotionConfig := {}
  link : LinkConfig := {}
  periods : TaskPeriods := {}
  map : ColorMap := ColorMap.standard

/-- Refuses settings of which some part is refused; the parts are checked in a fixed order. -/
def VehicleConfig.validate (config : VehicleConfig) : Except VehicleError Unit := do
  config.filter.validate.mapError .navigation
  config.motion.validate.mapError .navigation
  (config.link.validate windowSize).mapError .link
  config.periods.validate

end LightPilot
