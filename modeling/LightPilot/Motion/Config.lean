import LightPilot.Navigation.Error

set_option autoImplicit false

/-! # Settings of the motion model -/

namespace LightPilot

/-- Settings of the motion model. -/
structure MotionConfig where
  /-- The stationary samples that make up a calibration. -/
  calibrationSamples : UInt32 := 100
  /-- The weight of a new sample in the bias. -/
  biasAlpha : Float32 := 0.1
  /-- The weight of a new sample in the filtered acceleration. -/
  accelerationAlpha : Float32 := 0.5
  /-- The integration steps after which the displacement is handed over. -/
  flushSteps : UInt32 := 10
  /-- The spread added to each particle on a hand-over, in map units. -/
  noiseDeviation : Float32 := 2
  mapUnitsPerMetre : Float32 := 100
  /-- The tilt in degrees that shows a lateral command underway. -/
  tiltThreshold : Float32 := 2
  /-- A lateral command that has not settled is given up after this time. -/
  lateralTimeoutMs : UInt32 := 3000
  /-- A vertical command takes exactly this time. -/
  verticalDurationMs : UInt32 := 1000
  /-- The pause after a command. -/
  cooldownMs : UInt32 := 500
  /-- Whether the bias follows the sensor while the craft rests. -/
  recalibrateWhenIdle : Bool := true

namespace MotionConfig

/-- A weight that a moving average can use. -/
def isWeight (alpha : Float32) : Bool :=
  decide (alpha > 0 ∧ alpha ≤ 1)

/-- The first setting that cannot be used. -/
def fault? (config : MotionConfig) : Option ConfigFault :=
  if config.calibrationSamples = 0 then some .calibrationSamplesZero
  else if ¬ isWeight config.biasAlpha then some .biasAlphaOutOfRange
  else if ¬ isWeight config.accelerationAlpha then some .accelerationAlphaOutOfRange
  else if config.flushSteps = 0 then some .flushStepsZero
  else if ¬ config.noiseDeviation ≥ 0 then some .noiseNegative
  else if ¬ config.mapUnitsPerMetre > 0 then some .mapScaleNotPositive
  else if ¬ config.tiltThreshold > 0 then some .tiltThresholdNotPositive
  else none

/-- Refuses settings that do not describe an integrator. -/
def validate (config : MotionConfig) : Except NavigationError Unit :=
  match config.fault? with
  | some fault => .error (.invalidConfig fault)
  | none => .ok ()

theorem calibrationSamples_ne_zero {config : MotionConfig} (h : config.validate = .ok ()) :
    config.calibrationSamples ≠ 0 := by
  intro hzero
  have hfault : config.fault? = some .calibrationSamplesZero := if_pos hzero
  rw [validate, hfault] at h
  contradiction

theorem flushSteps_ne_zero {config : MotionConfig} (h : config.validate = .ok ()) :
    config.flushSteps ≠ 0 := by
  intro hzero
  rw [validate] at h
  cases hfault : config.fault? with
  | some fault =>
      rw [hfault] at h
      contradiction
  | none =>
      simp only [fault?] at hfault
      grind

end MotionConfig

end LightPilot
