import LightPilot.Proofs.Link.Decoder
import LightPilot.Proofs.Link.Peak

set_option autoImplicit false

/-! # Tones that can be told apart

A bin is known by its frequency in whole hertz, and bin zero stands for silence. While the samples of a
window span no more than a second, bins are at least one hertz apart, so each frequency is that of one
bin and only silence has none. Slower sampling lets bins share a frequency, and the lowest one is then
reported as silence is: the check of the settings, which looks for some bin with the frequency of a
tone, still accepts such tones. -/

namespace LightPilot

/-! ## Frequencies of bins -/

variable {size bin other : Nat} {sampleRate : UInt32}

/-- Below half the sample rate no frequency is clamped. -/
theorem toNat_binFrequency (hrate : sampleRate.toNat / 2 ≤ 65535) (hbin : bin < size / 2) :
    (binFrequency bin sampleRate size).toNat = bin * sampleRate.toNat / size := by
  have hle : bin * sampleRate.toNat / size ≤ sampleRate.toNat / 2 := by
    rw [Nat.le_div_iff_mul_le (by decide), Nat.mul_comm]
    calc 2 * (bin * sampleRate.toNat / size)
        ≤ 2 * (bin * sampleRate.toNat) / size := Nat.mul_div_le_mul_div_assoc ..
      _ = 2 * bin * sampleRate.toNat / size := by rw [Nat.mul_assoc]
      _ ≤ size * sampleRate.toNat / size :=
          Nat.div_le_div_right (Nat.mul_le_mul_right _ (by omega))
      _ = sampleRate.toNat := Nat.mul_div_cancel_left _ (by omega)
  rw [binFrequency, Nat.min_eq_right (hle.trans hrate), UInt16.toNat_ofNat_of_lt']
  exact Nat.lt_succ_of_le (hle.trans hrate)

/-- Bins at least one hertz apart are reported in their order. -/
theorem binFrequency_lt (hrate : sampleRate.toNat / 2 ≤ 65535) (hwide : size ≤ sampleRate.toNat)
    (hlt : bin < other) (hother : other < size / 2) :
    (binFrequency bin sampleRate size).toNat < (binFrequency other sampleRate size).toNat := by
  rw [toNat_binFrequency hrate (hlt.trans hother), toNat_binFrequency hrate hother]
  calc bin * sampleRate.toNat / size
      < bin * sampleRate.toNat / size + 1 := Nat.lt_succ_self _
    _ = (bin * sampleRate.toNat + size) / size := (Nat.add_div_right _ (by omega)).symm
    _ ≤ (bin + 1) * sampleRate.toNat / size := by
        rw [Nat.succ_mul]
        exact Nat.div_le_div_right (Nat.add_le_add_left hwide _)
    _ ≤ other * sampleRate.toNat / size :=
        Nat.div_le_div_right (Nat.mul_le_mul_right _ hlt)

/-- The bins, silence among them, have frequencies of their own iff they are a hertz apart. -/
theorem injOn_binFrequency_iff (hrate : sampleRate.toNat / 2 ≤ 65535) (hsize : 1 < size / 2) :
    Set.InjOn (fun bin => binFrequency bin sampleRate size) (Set.Iio (size / 2)) ↔
      size ≤ sampleRate.toNat := by
  constructor
  · intro hinj
    refine Nat.le_of_not_lt fun hslow => ?_
    -- the lowest bin is reported as silence is
    have hlowest : (binFrequency 1 sampleRate size).toNat = (binFrequency 0 sampleRate size).toNat := by
      rw [toNat_binFrequency hrate hsize, toNat_binFrequency hrate (by omega), Nat.one_mul,
        Nat.zero_mul, Nat.zero_div, Nat.div_eq_of_lt hslow]
    exact absurd (hinj (Set.mem_Iio.2 hsize) (Set.mem_Iio.2 (by omega)) (UInt16.toNat_inj.1 hlowest))
      (by decide)
  · intro hwide bin hbin other hother heq
    have heq' := congrArg UInt16.toNat heq
    rcases Nat.lt_trichotomy bin other with hlt | heq | hgt
    · exact absurd heq' (Nat.ne_of_lt (binFrequency_lt hrate hwide hlt hother))
    · exact heq
    · exact absurd heq'.symm (Nat.ne_of_lt (binFrequency_lt hrate hwide hgt hbin))

theorem binFrequency_zero (sampleRate : UInt32) (size : Nat) : binFrequency 0 sampleRate size = 0 := by
  rw [binFrequency, Nat.zero_mul, Nat.zero_div]
  rfl

/-! ## Tones -/

namespace LinkConfig

/-- A bin of a window, not the steady one, that is reported under the tone of a bit. -/
structure IsBinOf (config : LinkConfig) (size : Nat) (bit : Bool) (bin : Nat) : Prop where
  pos : 0 < bin
  lt : bin < size / 2
  reported : binFrequency bin config.sampleRate size = config.tone bit

variable {config : LinkConfig}

theorem exists_isBinOf (hvalid : config.validate size = .ok ()) (bit : Bool) :
    ∃ bin, config.IsBinOf size bit bin := by
  obtain ⟨-, -, -, hzero, hone, -⟩ := (validate_eq_ok_iff config size).1 hvalid
  have hreach : config.isReachable size (config.tone bit) = true := by
    cases bit with
    | false => exact hzero
    | true => exact hone
  obtain ⟨bin, hmem, hreported⟩ := List.any_eq_true.1 hreach
  obtain ⟨hpos, hlt⟩ := List.mem_range'_1.1 hmem
  exact ⟨bin, hpos, by omega, beq_iff_eq.1 hreported⟩

theorem one_lt_of_validate (hvalid : config.validate size = .ok ()) : 1 < size / 2 := by
  obtain ⟨bin, hbin⟩ := exists_isBinOf hvalid false
  exact Nat.lt_of_le_of_lt hbin.pos hbin.lt

/-- The tones of a link are told apart from each other, from silence and from all other bins. -/
structure TellsApart (config : LinkConfig) (size : Nat) : Prop where
  own : ∀ bit, ∃! bin, config.IsBinOf size bit bin
  audible : ∀ bit, config.tone bit ≠ 0
  /-- A window counts as a bit iff it peaks at the bin of the bit's tone. -/
  heard : ∀ d : Decoder, d.settings = Decoder.ofConfig config size →
    ∀ (window : Window size) (bit : Bool),
      d.bit? (some (window.peakFrequency config.sampleRate)) = some bit ↔
        config.IsBinOf size bit window.peakBin

/-- Tones above silence are heard in no other bins than theirs. -/
theorem isBinOf_peakBin_iff (hvalid : config.validate size = .ok ())
    (haudible : ∀ bit, config.tone bit ≠ 0) (window : Window size) (bit : Bool) :
    config.IsBinOf size bit window.peakBin ↔
      window.peakFrequency config.sampleRate = config.tone bit := by
  have hsize := ((validate_eq_ok_iff config size).1 hvalid).1
  rw [window.peakFrequency_eq hsize]
  refine ⟨fun hbin => hbin.reported, fun hreported => ?_⟩
  have hpos : window.peakBin ≠ 0 := by
    intro hsilent
    rw [hsilent, binFrequency_zero] at hreported
    exact haudible bit hreported.symm
  exact ⟨Nat.pos_of_ne_zero hpos, (window.peakBin_lt hsize).resolve_left hpos, hreported⟩

/-- **Tones on bins a hertz apart are told apart.** An accepted link hears each of its tones in one
bin, and in no silence, if a window spans no more than a second; and only then do all bins have
frequencies of their own. -/
theorem tellsApart_of_validate (hvalid : config.validate size = .ok ()) :
    (size ≤ config.sampleRate.toNat → config.TellsApart size) ∧
      (Set.InjOn (fun bin => binFrequency bin config.sampleRate size) (Set.Iio (size / 2)) ↔
        size ≤ config.sampleRate.toNat) := by
  obtain ⟨-, ⟨-, hrate⟩, -, -, -, htones⟩ := (validate_eq_ok_iff config size).1 hvalid
  have hinjective := injOn_binFrequency_iff hrate (one_lt_of_validate hvalid)
  refine ⟨fun hwide => ?_, hinjective⟩
  have hinj := hinjective.2 hwide
  have haudible : ∀ bit, config.tone bit ≠ 0 := by
    intro bit hsilent
    obtain ⟨bin, hbin⟩ := exists_isBinOf hvalid bit
    have hsame : binFrequency bin config.sampleRate size = binFrequency 0 config.sampleRate size := by
      rw [hbin.reported, hsilent, binFrequency_zero]
    exact hbin.pos.ne' (hinj hbin.lt (hbin.pos.trans hbin.lt) hsame)
  constructor
  · intro bit
    obtain ⟨bin, hbin⟩ := exists_isBinOf hvalid bit
    exact ⟨bin, hbin, fun other hother =>
      hinj hother.lt hbin.lt (hother.reported.trans hbin.reported.symm)⟩
  · exact haudible
  · intro d hsettings window bit
    rw [isBinOf_peakBin_iff hvalid haudible, Decoder.bit?_eq_some_iff hsettings htones]

theorem tellsApart_default :
    ({} : LinkConfig).validate 16 = .ok () ∧ ({} : LinkConfig).TellsApart 16 := by
  have hvalid : ({} : LinkConfig).validate 16 = .ok () :=
    (validate_eq_ok_iff {} 16).2 (by decide +kernel)
  exact ⟨hvalid, (tellsApart_of_validate hvalid).1 (by decide)⟩

/-- Settings for ten samples a second, with the frequency of silence as a tone. -/
def slowConfig : LinkConfig := { sampleRate := 10, tone0 := 0, tone1 := 1, window := 1 }

/-- Slower links are accepted with tones that cannot be told apart: one is heard in silence and the
other in two bins. -/
theorem validate_slowConfig :
    slowConfig.validate 16 = .ok () ∧
      (slowConfig.IsBinOf 16 true 2 ∧ slowConfig.IsBinOf 16 true 3) ∧
      (let silence : Window 16 := Vector.replicate 16 0
       silence.peakBin = 0 ∧
        ((Decoder.ofConfig slowConfig 16).vote (some (silence.peakFrequency 10)) 16).1
          = .bitAccepted 1) ∧
      ¬ slowConfig.TellsApart 16 := by
  refine ⟨(validate_eq_ok_iff slowConfig 16).2 (by decide +kernel), ⟨?_, ?_⟩, ⟨?_, ?_⟩, ?_⟩
  · exact ⟨by decide, by decide, by decide⟩
  · exact ⟨by decide, by decide, by decide⟩
  · decide +kernel
  · decide +kernel
  · exact fun hapart => hapart.audible false rfl

end LinkConfig

end LightPilot
