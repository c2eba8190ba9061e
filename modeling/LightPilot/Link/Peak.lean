import LightPilot.Link.Spectrum

set_option autoImplicit false

/-! # The peak frequency of a window

A window is reduced to the frequency of its strongest bin between the steady level and half the sample
rate. Of equally strong bins the lowest counts, and a window in which no bin rises above the rounding
noise has the frequency zero. -/

namespace LightPilot

/-- A window of samples. -/
abbrev Window (size : Nat) : Type := Vector Float32 size

namespace Spectrum

/-- The squared magnitude that a bin must exceed: what rounding leaves of a constant window is below. -/
def noiseFloor : Float32 := .ofBits 0x34000000

/-- A bin and the squared magnitude that a stronger one must exceed. -/
structure Peak where
  bin : Nat
  magnitude : Float32

/-- The stronger of a peak and a bin; the peak stays unless the bin exceeds it. -/
def Peak.max (peak : Peak) (magnitude : Float32) (bin : Nat) : Peak :=
  if magnitude > peak.magnitude then ⟨bin, magnitude⟩ else peak

/-- The strongest bin of the lower half of a spectrum, the steady level left out; zero if none exceeds
the noise. -/
def peakBin (spectrum : List (Complex Float32)) : Nat :=
  let bins := ((spectrum.take (spectrum.length / 2)).map Complex.normSquared).zipIdx.drop 1
  (bins.foldl (fun peak entry => Peak.max peak entry.1 entry.2) (Peak.mk 0 noiseFloor)).bin

end Spectrum

namespace Window

variable {size : Nat}

/-- The first `count` windows of a stream of samples, as far as it fills them. -/
def cut (size : Nat) : (count : Nat) → List Float32 → List (Window size)
  | 0, _ => []
  | count + 1, samples =>
    let head := (samples.take size).toArray
    if h : head.size = size then ⟨head, h⟩ :: cut size count (samples.drop size) else []

/-- The samples as complex numbers. -/
def signal (window : Window size) : List (Complex Float32) :=
  window.toList.map fun sample => ⟨sample, 0⟩

/-- The whole-hertz frequency of the strongest bin. -/
def peakFrequency (window : Window size) (sampleRate : UInt32) : UInt16 :=
  match Spectrum.of window.signal with
  | .ok spectrum => binFrequency (Spectrum.peakBin spectrum) sampleRate size
  | .error _ => 0

end Window

end LightPilot
