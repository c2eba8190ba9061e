set_option autoImplicit false

/-! # Settings of the light link

The link carries bits as two tones. The receiver knows a tone by the whole-hertz frequency of the
spectral bin it falls into, so a tone is usable only if some bin below half the sample rate is reported
under exactly its frequency. -/

namespace LightPilot

/-- Why a link cannot be set up. -/
inductive LinkError
  /-- The window length is no power of two that the transform supports. -/
  | unsupportedSize (size : Nat)
  /-- The votes do not fit the history. -/
  | invalidWindow (window capacity : Nat)
  /-- The address field leaves no room for commands or cannot hold the unit's address. -/
  | invalidAddressWidth (bits unitId : UInt8)
  /-- Frequencies at this rate are not reported in whole hertz. -/
  | invalidSampleRate (rate : UInt32)
  /-- No bin is reported under this frequency, or both tones are. -/
  | invalidTone (frequency : UInt16)
  deriving DecidableEq

/-- The wording of an error. -/
def LinkError.message : LinkError → String
  | unsupportedSize size =>
    "Unsupported FFT size " ++ size.repr ++ ", expected a power of two between 2 and 1024"
  | invalidWindow window capacity =>
    "Invalid vote window " ++ window.repr ++ " for a history of " ++ capacity.repr
  | invalidAddressWidth bits unitId =>
    "Invalid address field: " ++ bits.toNat.repr ++ " bits for unit id " ++ unitId.toNat.repr
  | invalidSampleRate rate => "Invalid sample rate " ++ rate.toNat.repr ++ " Hz"
  | invalidTone frequency =>
    "Tone " ++ frequency.toNat.repr ++ " Hz does not match any classifier bin"

/-- Settings of the light link. -/
structure LinkConfig where
  /-- Samples per second. -/
  sampleRate : UInt32 := 1000
  /-- The reported frequency of a zero bit. -/
  tone0 : UInt16 := 125
  /-- The reported frequency of a one bit. -/
  tone1 : UInt16 := 187
  /-- The windows that vote on one bit. -/
  window : Nat := 5
  /-- The address of this unit. -/
  unitId : UInt8 := 0
  /-- The width of the address field. -/
  addressBits : UInt8 := 2
  /-- The weight of a new sample in the slow average. -/
  spikeAlpha : Float32 := 0.015
  /-- A sample farther from the slow average is a spike. -/
  spikeMargin : Float32 := 650
  /-- The weight of a new sample in the low-pass stage, if there is one. -/
  lowPassAlpha : Option Float32 := none

/-! ## Bins -/

/-- The longest supported window. -/
def maxWindowSize : Nat := 1024

/-- The lengths of windows that can be transformed: powers of two from 2 to 1024. -/
def isWindowSize (size : Nat) : Bool :=
  decide (2 ≤ size ∧ size ≤ maxWindowSize ∧ Nat.pow 2 size.log2 = size)

/-- Refuses a window length that cannot be transformed. -/
def checkWindowSize (size : Nat) : Except LinkError Unit :=
  if isWindowSize size then .ok () else .error (.unsupportedSize size)

/-- The whole-hertz frequency under which a bin is reported, clamped to 16 bits. -/
def binFrequency (bin : Nat) (sampleRate : UInt32) (size : Nat) : UInt16 :=
  UInt16.ofNat (min 65535 (bin * sampleRate.toNat / size))

namespace LinkConfig

/-- The frequency of the tone that carries a bit. -/
def tone (config : LinkConfig) (bit : Bool) : UInt16 :=
  if bit then config.tone1 else config.tone0

/-- Whether some bin between the steady level and half the sample rate is reported under a frequency. -/
def isReachable (config : LinkConfig) (size : Nat) (frequency : UInt16) : Bool :=
  (List.range' 1 (size / 2 - 1)).any fun bin => binFrequency bin config.sampleRate size == frequency

/-- Checks the settings against the window length. The number of votes is the receiver's to check. -/
def validate (config : LinkConfig) (size : Nat) : Except LinkError Unit := do
  checkWindowSize size
  if config.sampleRate = 0 ∨ config.sampleRate.toNat / 2 > 65535 then
    throw (.invalidSampleRate config.sampleRate)
  if config.addressBits > 6 ∨ Nat.pow 2 config.addressBits.toNat ≤ config.unitId.toNat then
    throw (.invalidAddressWidth config.addressBits config.unitId)
  if !config.isReachable size config.tone0 then throw (.invalidTone config.tone0)
  if !config.isReachable size config.tone1 then throw (.invalidTone config.tone1)
  if config.tone0 = config.tone1 then throw (.invalidTone config.tone1)

/-- The ticks without a bit after which an unfinished byte is dropped: two bits' worth. -/
def timeoutTicks (config : LinkConfig) (size : Nat) : UInt32 :=
  UInt32.ofNat (size * config.window * 2)

end LinkConfig

end LightPilot
