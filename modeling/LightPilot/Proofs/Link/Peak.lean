import LightPilot.Link.Peak
import LightPilot.Proofs.Link.Config

set_option autoImplicit false

/-! # The peak of a window is one of its bins

The transform keeps the number of entries, so the strongest bin of a window, if there is one, lies
between the steady level and half the sample rate (`Window.peakBin_lt`). -/

namespace LightPilot

namespace Spectrum

/-! ## Lengths -/

theorem length_halves {α : Type} (values : List α) :
    (halves values).1.length = (values.length + 1) / 2 ∧ (halves values).2.length = values.length / 2 := by
  induction values with
  | nil => simp [halves]
  | cons value values ih =>
      rw [halves, List.length_cons, ih.1, ih.2, List.length_cons]
      omega

theorem length_roots (level : Nat) : (roots level).length = 2 ^ level := by
  induction level with
  | zero => rfl
  | succ level ih =>
      rw [roots, List.length_flatMap]
      simp [ih, Nat.pow_succ]

theorem length_turn {level : Nat} {values : List (Complex Float32)}
    (h : values.length = 2 ^ level) : (turn level values).length = 2 ^ level := by
  cases values with
  | nil => exact h
  | cons first values =>
      rw [List.length_cons] at h
      rw [turn, List.length_cons, List.length_zipWith, List.length_map, List.length_tail,
        length_roots]
      omega

theorem length_transform {level : Nat} {values : List (Complex Float32)}
    (h : values.length = 2 ^ level) : (transform level values).length = 2 ^ level := by
  induction level generalizing values with
  | zero => exact h
  | succ level ih =>
      have hhalves := length_halves values
      rw [h, Nat.pow_succ] at hhalves
      have hevens : (transform level (halves values).1).length = 2 ^ level := ih (by omega)
      have hodds : (turn level (transform level (halves values).2)).length = 2 ^ level :=
        length_turn (ih (by omega))
      rw [transform, List.length_append, List.length_zipWith, List.length_zipWith, hevens, hodds,
        Nat.pow_succ]
      omega

theorem length_of_isWindowSize {size : Nat} (h : isWindowSize size = true) : 2 ^ size.log2 = size :=
  (of_decide_eq_true h).2.2

theorem of_eq_ok {values : List (Complex Float32)} (h : isWindowSize values.length = true) :
    of values = .ok (transform values.length.log2 values) := by
  rw [of, (checkWindowSize_eq_ok_iff _).2 h]
  rfl

/-! ## Peaks -/

/-- The peak stays or becomes the bin. -/
theorem bin_max (peak : Peak) (magnitude : Float32) (bin : Nat) :
    (peak.max magnitude bin).bin = peak.bin ∨ (peak.max magnitude bin).bin = bin := by
  rw [Peak.max]
  split
  · exact .inr rfl
  · exact .inl rfl

theorem bin_foldl_max (entries : List (Float32 × Nat)) (peak : Peak) :
    (entries.foldl (fun peak entry => Peak.max peak entry.1 entry.2) peak).bin = peak.bin ∨
      ∃ entry ∈ entries,
        (entries.foldl (fun peak entry => Peak.max peak entry.1 entry.2) peak).bin = entry.2 := by
  induction entries generalizing peak with
  | nil => exact .inl rfl
  | cons entry entries ih =>
      rw [List.foldl_cons]
      rcases ih (peak.max entry.1 entry.2) with hkept | ⟨later, hmem, hlater⟩
      · rw [hkept]
        rcases bin_max peak entry.1 entry.2 with hpeak | hentry
        · exact .inl hpeak
        · exact .inr ⟨entry, List.mem_cons_self, hentry⟩
      · -- a later entry exceeded both
        exact .inr ⟨later, List.mem_cons_of_mem entry hmem, hlater⟩

/-- The strongest bin lies in the lower half, or there is none. -/
theorem peakBin_lt (spectrum : List (Complex Float32)) :
    peakBin spectrum = 0 ∨ peakBin spectrum < spectrum.length / 2 := by
  rw [peakBin]
  rcases bin_foldl_max _ ⟨0, noiseFloor⟩ with hnone | ⟨entry, hmem, hentry⟩
  · exact .inl hnone
  · right
    rw [hentry]
    have hbin := List.snd_lt_of_mem_zipIdx (List.mem_of_mem_drop hmem)
    rw [List.length_map, List.length_take] at hbin
    omega

end Spectrum

namespace Window

variable {size : Nat}

/-- The strongest bin of a window; zero if it is silent. -/
def peakBin (window : Window size) : Nat :=
  Spectrum.peakBin (Spectrum.transform size.log2 window.signal)

theorem length_signal (window : Window size) : window.signal.length = size := by
  simp [signal]

theorem peakFrequency_eq (hsize : isWindowSize size = true) (window : Window size)
    (sampleRate : UInt32) :
    window.peakFrequency sampleRate = binFrequency window.peakBin sampleRate size := by
  have hok : Spectrum.of window.signal = .ok (Spectrum.transform window.signal.length.log2 _) :=
    Spectrum.of_eq_ok (by rwa [length_signal])
  rw [length_signal] at hok
  rw [peakFrequency, hok, peakBin]

theorem peakBin_lt (hsize : isWindowSize size = true) (window : Window size) :
    window.peakBin = 0 ∨ window.peakBin < size / 2 := by
  have hlength : window.signal.length = 2 ^ size.log2 := by
    rw [length_signal, Spectrum.length_of_isWindowSize hsize]
  have hlt := Spectrum.peakBin_lt (Spectrum.transform size.log2 window.signal)
  rwa [Spectrum.length_transform hlength, Spectrum.length_of_isWindowSize hsize] at hlt

end Window

end LightPilot
