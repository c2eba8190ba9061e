import LightPilot.Number.Decimal

set_option autoImplicit false

/-! # What can be wrong with a request to the navigation

Only configurations and misuse are errors. Trouble met while flying, such as a missing reading or an
observation that fits no particle, is dealt with where it arises and reported as an outcome. -/

namespace LightPilot

/-- A configuration value out of its range. -/
inductive ConfigFault
  | focalLengthNotPositive
  | cellSizeNotPositive
  | startingDepthTooSmall
  | lowProbabilityZero
  | highProbabilityTooLow
  | noParticles
  | calibrationSamplesZero
  | biasAlphaOutOfRange
  | accelerationAlphaOutOfRange
  | flushStepsZero
  | noiseNegative
  | mapScaleNotPositive
  | tiltThresholdNotPositive
  deriving DecidableEq

namespace ConfigFault

/-- The value at fault. -/
def parameter : ConfigFault → String
  | focalLengthNotPositive => "focal_length"
  | cellSizeNotPositive => "cell_size"
  | startingDepthTooSmall => "starting_depth"
  | lowProbabilityZero => "low_probability"
  | highProbabilityTooLow => "high_probability"
  | noParticles => "particle count"
  | calibrationSamplesZero => "calibration_samples"
  | biasAlphaOutOfRange => "bias_alpha"
  | accelerationAlphaOutOfRange => "acceleration_alpha"
  | flushStepsZero => "flush_steps"
  | noiseNegative => "noise_std_dev"
  | mapScaleNotPositive => "map_units_per_metre"
  | tiltThresholdNotPositive => "lateral_tilt_threshold"

/-- What the value should have been. -/
def reason : ConfigFault → String
  | startingDepthTooSmall => "must lie beyond the focal length"
  | highProbabilityTooLow => "must exceed low_probability"
  | biasAlphaOutOfRange | accelerationAlphaOutOfRange => "must lie in (0, 1]"
  | noiseNegative => "must not be negative"
  | lowProbabilityZero | noParticles | calibrationSamplesZero | flushStepsZero => "must be non-zero"
  | focalLengthNotPositive | cellSizeNotPositive | mapScaleNotPositive
  | tiltThresholdNotPositive => "must be positive"

end ConfigFault

/-- Why a request was refused. -/
inductive NavigationError
  /-- A map entry is neither a color nor the ambient mark. -/
  | invalidColor (value : UInt8) (column row : Nat)
  | invalidConfig (fault : ConfigFault)
  /-- A step whose time is zero, negative, infinite or not a number. -/
  | invalidTimeStep (dt : Float32)
  /-- A command before the bias is known. -/
  | notCalibrated

namespace NavigationError

/-- The wording of an error. -/
def message : NavigationError → String
  | invalidColor value column row =>
    "Invalid color id " ++ value.toNat.repr ++ " at column " ++ column.repr ++ ", row " ++ row.repr
  | invalidConfig fault => "Configuration error: " ++ fault.parameter ++ " " ++ fault.reason
  | invalidTimeStep dt => "Invalid time step: " ++ Decimal.shortest dt
  | notCalibrated => "Motion model is not calibrated"

end NavigationError

end LightPilot
