import LightPilot.Proofs.Link.Tones
import LightPilot.Proofs.Number.Order

set_option autoImplicit false

/-! # The lowest of the strongest bins

A window is reported under the lowest bin between the steady level and half the sample rate that is louder
than rounding noise and that no other bin there surpasses (`Spectrum.picksPeak_peakBin`). Squared magnitudes
may be infinite, which is a number like others here, and may be no numbers, which are never louder than
anything. The bins are looked at in their order, and a bin takes the lead if it surpasses the one that has it
(`Spectrum.Leads`).

Nothing but the number of its bins is asked of a spectrum, so this holds of every transform
(`Window.reports_of_isWindowSize`). -/

namespace LightPilot

namespace Spectrum

open Single

/-! ## Strongest bins -/

/-- The squared magnitude of a bin. -/
def power (spectrum : List (Complex Float32)) (bin : ℕ) : Float32 :=
  (spectrum[bin]?.map Complex.normSquared).getD 0

/-- A bin between the steady level and half the sample rate. -/
structure IsTonal (spectrum : List (Complex Float32)) (bin : ℕ) : Prop where
  pos : 0 < bin
  lt : bin < spectrum.length / 2

/-- A tonal bin that is louder than rounding noise and that no tonal bin surpasses. -/
structure IsStrongest (spectrum : List (Complex Float32)) (bin : ℕ) : Prop where
  tonal : IsTonal spectrum bin
  loud : power spectrum bin > noiseFloor
  unsurpassed : ∀ other, IsTonal spectrum other → (power spectrum other).isNaN = false →
    ¬ power spectrum bin < power spectrum other

/-- What is picked of a spectrum: the lowest strongest bin, or zero if no tonal bin is loud. -/
structure PicksPeak (spectrum : List (Complex Float32)) (bin : ℕ) : Prop where
  lowest : (∃ other, IsTonal spectrum other ∧ power spectrum other > noiseFloor) →
    IsLeast {other | IsStrongest spectrum other} bin
  silent : (∀ other, IsTonal spectrum other → ¬ power spectrum other > noiseFloor) → bin = 0
  number : bin ≠ 0 → IsTonal spectrum bin ∧ (power spectrum bin).isNaN = false

variable {spectrum : List (Complex Float32)} {count : ℕ} {peak : Peak}

/-! ## The bins in their order -/

/-- The peak of the bins from 1 to `count`. -/
def peakUpTo (spectrum : List (Complex Float32)) (count : ℕ) : Peak :=
  (List.range' 1 count).foldl (fun peak bin => peak.max (power spectrum bin) bin) ⟨0, noiseFloor⟩

theorem peakUpTo_succ (spectrum : List (Complex Float32)) (count : ℕ) :
    peakUpTo spectrum (count + 1)
      = (peakUpTo spectrum count).max (power spectrum (count + 1)) (count + 1) := by
  rw [peakUpTo, List.range'_1_concat, List.foldl_append, ← peakUpTo, Nat.add_comm 1 count]
  rfl

/-- The tonal bins with their squared magnitudes. -/
theorem entries_eq (spectrum : List (Complex Float32)) :
    ((spectrum.take (spectrum.length / 2)).map Complex.normSquared).zipIdx.drop 1
      = (List.range' 1 (spectrum.length / 2 - 1)).map fun bin => (power spectrum bin, bin) := by
  refine List.ext_getElem ?_ fun i _ hi => ?_
  · simp only [List.length_drop, List.length_zipIdx, List.length_map, List.length_take,
      List.length_range']
    omega
  rw [List.length_map, List.length_range'] at hi
  have hbin : i + 1 < spectrum.length := by omega
  simp [power, Nat.add_comm 1 i, List.getElem?_eq_getElem hbin]

theorem peakBin_eq (spectrum : List (Complex Float32)) :
    peakBin spectrum = (peakUpTo spectrum (spectrum.length / 2 - 1)).bin := by
  rw [peakBin, entries_eq, List.foldl_map, peakUpTo]

/-- The lead after the bins from 1 to `count`: none has surpassed it, and those before it are below it. -/
structure Leads (spectrum : List (Complex Float32)) (count : ℕ) (peak : Peak) : Prop where
  origin : peak = ⟨0, noiseFloor⟩ ∨
    (0 < peak.bin ∧ peak.bin ≤ count) ∧ peak.magnitude = power spectrum peak.bin ∧
      noiseFloor < peak.magnitude
  unsurpassed : ∀ other, 0 < other → other ≤ count → ¬ peak.magnitude < power spectrum other
  first : ∀ other, 0 < other → other < peak.bin → (power spectrum other).isNaN = false →
    power spectrum other < peak.magnitude

theorem Leads.floor_le (h : Leads spectrum count peak) {magnitude : Float32}
    (hlouder : peak.magnitude < magnitude) : noiseFloor < magnitude := by
  rcases h.origin with rfl | ⟨-, -, hloud⟩
  · exact hlouder
  · exact trans_lt hloud hlouder

/-- The next bin takes the lead if it surpasses it. -/
theorem Leads.max (h : Leads spectrum count peak) :
    Leads spectrum (count + 1) (peak.max (power spectrum (count + 1)) (count + 1)) := by
  rw [Peak.max]
  split
  · next hlouder =>
      constructor
      case origin => exact .inr ⟨⟨Nat.succ_pos _, le_rfl⟩, rfl, h.floor_le hlouder⟩
      case unsurpassed =>
        intro other hpos hle hmore
        rcases Nat.lt_or_eq_of_le hle with hlt | rfl
        · exact h.unsurpassed other hpos (Nat.le_of_lt_succ hlt) (trans_lt hlouder hmore)
        · exact irrefl_lt _ hmore
      case first =>
        -- no bin so far surpassed the old lead, and the new one does
        intro other hpos hlt hnumber
        exact lt_of_not_lt_of_lt hnumber (h.unsurpassed other hpos (Nat.le_of_lt_succ hlt)) hlouder
  · next hkept =>
      constructor
      case origin =>
        rcases h.origin with horigin | ⟨⟨hpos, hle⟩, hrest⟩
        · exact .inl horigin
        · exact .inr ⟨⟨hpos, hle.trans (Nat.le_succ _)⟩, hrest⟩
      case unsurpassed =>
        intro other hpos hle hmore
        rcases Nat.lt_or_eq_of_le hle with hlt | rfl
        · exact h.unsurpassed other hpos (Nat.le_of_lt_succ hlt) hmore
        · exact hkept hmore
      case first => exact h.first

theorem leads_peakUpTo (spectrum : List (Complex Float32)) (count : ℕ) :
    Leads spectrum count (peakUpTo spectrum count) := by
  induction count with
  | zero =>
      constructor
      case origin => exact .inl rfl
      case unsurpassed =>
        intro other hpos hle
        exact absurd hpos (Nat.not_lt.2 hle)
      case first =>
        intro other hpos hlt
        exact absurd hlt (Nat.not_lt_zero other)
  | succ count ih =>
      rw [peakUpTo_succ]
      exact ih.max

/-- What leads after all tonal bins is what is picked. -/
theorem Leads.picksPeak (h : Leads spectrum (spectrum.length / 2 - 1) peak) :
    PicksPeak spectrum peak.bin := by
  have hleads : ∀ other, IsTonal spectrum other → ¬ peak.magnitude < power spectrum other := by
    intro other hother
    have hlt := hother.lt
    exact h.unsurpassed other hother.pos (by omega)
  rcases h.origin with rfl | ⟨⟨hpos, hle⟩, hmagnitude, hloud⟩
  · constructor
    case lowest =>
      rintro ⟨other, hother, hlouder⟩
      exact absurd hlouder (hleads other hother)
    case silent =>
      intro _
      rfl
    case number =>
      intro hne
      exact absurd rfl hne
  · have htonal : IsTonal spectrum peak.bin := ⟨hpos, by omega⟩
    rw [hmagnitude] at hloud hleads
    have hnumber := (isNaN_of_lt hloud).2
    constructor
    case lowest =>
      intro _
      refine ⟨⟨htonal, hloud, fun other hother _ => hleads other hother⟩, ?_⟩
      intro other hother
      refine Nat.le_of_not_lt fun hlower => ?_
      have hbelow := h.first other hother.tonal.pos hlower (isNaN_of_lt hother.loud).2
      rw [hmagnitude] at hbelow
      exact hother.unsurpassed _ htonal hnumber hbelow
    case silent =>
      intro hsilent
      exact absurd hloud (hsilent _ htonal)
    case number =>
      intro _
      exact ⟨htonal, hnumber⟩

theorem picksPeak_peakBin (spectrum : List (Complex Float32)) : PicksPeak spectrum (peakBin spectrum) := by
  rw [peakBin_eq]
  exact (leads_peakUpTo spectrum _).picksPeak

end Spectrum

/-! ## Windows -/

/-- A way to transform windows: of each length that is supported, into as many bins as samples. -/
def Transforms (transform : List (Complex Float32) → Except LinkError (List (Complex Float32))) : Prop :=
  ∀ values, isWindowSize values.length = true →
    ∃ spectrum, transform values = .ok spectrum ∧ spectrum.length = values.length

theorem Spectrum.transforms_of : Transforms Spectrum.of := by
  intro values hsize
  have hlength := length_of_isWindowSize hsize
  refine ⟨_, of_eq_ok hsize, ?_⟩
  rw [length_transform hlength.symm, hlength]

namespace Window

variable {size : ℕ}

/-- The whole-hertz frequency of the strongest bin, by any transform. -/
def peakFrequencyBy (transform : List (Complex Float32) → Except LinkError (List (Complex Float32)))
    (window : Window size) (sampleRate : UInt32) : UInt16 :=
  match transform window.signal with
  | .ok spectrum => binFrequency (Spectrum.peakBin spectrum) sampleRate size
  | .error _ => 0

/-- **A window is reported under its lowest strongest bin.** Whatever transform is given, and whatever the
samples of a supported window are, the frequency is that of the bin picked of the spectrum; and that of bin
zero is zero. -/
theorem reports_of_isWindowSize (hsize : isWindowSize size = true) (window : Window size)
    (sampleRate : UInt32) :
    (∀ transform, Transforms transform → ∃ spectrum bin, transform window.signal = .ok spectrum ∧
      spectrum.length = size ∧ Spectrum.PicksPeak spectrum bin ∧
      window.peakFrequencyBy transform sampleRate = binFrequency bin sampleRate size) ∧
    binFrequency 0 sampleRate size = 0 ∧
    Transforms Spectrum.of ∧
    window.peakFrequency sampleRate = window.peakFrequencyBy Spectrum.of sampleRate := by
  refine ⟨fun transform htransform => ?_, binFrequency_zero sampleRate size, Spectrum.transforms_of, rfl⟩
  have hlength := window.length_signal
  obtain ⟨spectrum, hspectrum, hbins⟩ := htransform window.signal (by rwa [hlength])
  refine ⟨spectrum, _, hspectrum, hbins.trans hlength, Spectrum.picksPeak_peakBin spectrum, ?_⟩
  rw [peakFrequencyBy, hspectrum]

/-- A single infinite sample. Its odd bins come out as no numbers. -/
def burst : Window 8 :=
  #v[0, 0, 1 / 0, 0, 0, 0, 0, 0]

theorem reports_burst :
    isWindowSize 8 = true ∧ burst.peakFrequency 1000 = 250 ∧
      ∃ spectrum bin, Spectrum.of burst.signal = .ok spectrum ∧ spectrum.length = 8 ∧
        Spectrum.PicksPeak spectrum bin ∧ 250 = binFrequency bin 1000 8 := by
  have hsize : isWindowSize 8 = true := by decide
  have hburst : burst.peakFrequency 1000 = 250 := by decide +kernel
  obtain ⟨hreports, -, htransforms, hsame⟩ := reports_of_isWindowSize hsize burst 1000
  refine ⟨hsize, hburst, ?_⟩
  rw [← hburst, hsame]
  exact hreports Spectrum.of htransforms

end Window

end LightPilot
