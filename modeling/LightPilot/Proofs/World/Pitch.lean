import LightPilot.Proofs.Link.Tones
import LightPilot.Proofs.Number.Value
import LightPilot.World.Projector

set_option autoImplicit false

/-! # The tones on air

The receiver reports a bin under its center cut off to whole hertz, and the projector looks for the bin
again by dividing the tone by the distance of bins and rounding. Single precision does not disturb this:
what goes on air is exactly the center of the bin nearest to the tone (`airsCenter_nearestBin`). That is a bin
reported under the tone if the fraction of a hertz that was cut off is at most half the distance of bins
(`nearestBin_eq_iff`), as it is for all bins from 27 samples a second on. At lower rates links are accepted
whose tones lead back to the bin below. -/

namespace LightPilot

open Single

/-! ## Rounding to the nearest bin -/

/-- The rounding of a quotient to single precision does not change what it is next to. -/
theorem Single.IsRounded.floor_add_half {num den : ℕ} {r : ℚ} (h : IsRounded (num / den : ℚ) r)
    (hden : 0 < den) (hrate : den < 2 ^ 17) (hsmall : num < 8 * den) :
    ⌊r + 1 / 2⌋ = ((2 * num + den) / (2 * den) : ℕ) := by
  have hden' : (0 : ℚ) < den := by exact_mod_cast hden
  have hbound : |(num / den : ℚ)| < 2 ^ (3 : ℤ) := by
    rw [abs_of_nonneg (by positivity), div_lt_iff₀ hden']
    exact_mod_cast hsmall
  have hmoved := (abs_le.1 (h.abs_sub_le hbound (by norm_num))).1
  generalize hwhole : (2 * num + den) / (2 * den) = whole
  have hlower : 2 * den * whole ≤ 2 * num + den := hwhole ▸ Nat.mul_div_le ..
  have hupper : 2 * num + den + 1 ≤ 2 * den * (whole + 1) :=
    hwhole ▸ Nat.lt_mul_div_succ (2 * num + den) (Nat.mul_pos two_pos hden)
  have hfew : whole ≤ 8 := by
    rw [← hwhole, ← Nat.lt_succ_iff, Nat.div_lt_iff_lt_mul (Nat.mul_pos two_pos hden)]
    omega
  rw [Int.floor_eq_iff, Int.cast_natCast]
  constructor
  · -- a half is representable
    have hhalf : Representable (whole - 1 / 2 : ℚ) := by
      refine ⟨2 * whole - 1, -1, ?_, by norm_num, ?_⟩
      · rw [abs_lt]
        constructor <;> omega
      · push_cast
        norm_num
        ring
    have hle : (whole - 1 / 2 : ℚ) ≤ num / den := by
      have hlower' : (2 : ℚ) * den * whole ≤ 2 * num + den := by exact_mod_cast hlower
      rw [le_div_iff₀ hden']
      linarith
    have hkept := h.le_of_le hhalf hle
    linarith
  · -- the quotient is below the half by more than rounding moves it
    have hplace : (1 / 2 ^ 18 : ℚ) ≤ 1 / (2 * den) := by
      have hrate' : (den : ℚ) ≤ 2 ^ 17 := by exact_mod_cast hrate.le
      apply one_div_le_one_div_of_le (by positivity)
      linarith
    have hlt : (num / den : ℚ) + 1 / (2 * den) ≤ whole + 1 / 2 := by
      have hupper' : (2 : ℚ) * num + den + 1 ≤ 2 * den * (whole + 1) := by exact_mod_cast hupper
      have hsum : (num / den : ℚ) + 1 / (2 * den) = (2 * num + 1) / (2 * den) := by
        field_simp
      rw [hsum, div_le_iff₀ (by positivity)]
      linarith
    have hstep : (2 : ℚ) ^ ((3 : ℤ) - 25) < 1 / 2 ^ 18 := by norm_num
    linarith

namespace Projector

/-- The bin whose center is nearest to the tone of a bit; a half goes up. -/
def nearestBin (p : Projector) (bit : Bool) : ℕ :=
  (2 * (windowSize * (p.config.tone bit).toNat) + p.config.sampleRate.toNat)
    / (2 * p.config.sampleRate.toNat)

/-- What goes on air for a bit is exactly the center of a bin. -/
structure AirsCenter (p : Projector) (bit : Bool) (bin : ℕ) : Prop where
  finite : isFinite (p.toneFrequency bit) = true
  value : value (p.toneFrequency bit) = bin * p.config.sampleRate.toNat / windowSize

/-- What goes on air for a bit is the center of a bin that the receiver reports as the bit's tone. -/
def AirsTone (p : Projector) (bit : Bool) : Prop :=
  ∃ bin, p.config.IsBinOf windowSize bit bin ∧ p.AirsCenter bit bin

variable {p : Projector}

/-! ## The frequency on air -/

/-- The distance of bins in hertz. -/
def resolution (p : Projector) : Float32 :=
  p.config.sampleRate.toFloat32 / Float32.ofNat windowSize

theorem value_resolution (hrate : p.config.sampleRate.toNat < 2 ^ 17) :
    isFinite p.resolution = true ∧
      value p.resolution = p.config.sampleRate.toNat / windowSize := by
  obtain ⟨hfiniteRate, hvalueRate⟩ := (rounds_toFloat32 p.config.sampleRate).value_eq
    (representable_natCast (by omega)) (abs_natCast_le_greatest (by omega))
  obtain ⟨hfiniteSize, hvalueSize⟩ := value_natCast (n := windowSize) (by norm_num)
  have hquotient := rounds_div hfiniteRate hfiniteSize (by rw [hvalueSize]; norm_num)
  rw [hvalueRate, hvalueSize] at hquotient
  have hexact : Representable (p.config.sampleRate.toNat / windowSize : ℚ) := by
    refine ⟨p.config.sampleRate.toNat, -4, ?_, by norm_num, ?_⟩
    · rw [abs_of_nonneg (by positivity)]
      omega
    · norm_num [div_eq_mul_inv]
  have hrate' : (p.config.sampleRate.toNat : ℚ) ≤ 2 ^ 17 := by exact_mod_cast hrate.le
  refine hquotient.value_eq hexact (le_greatest_of_le (by positivity) ?_)
  rw [div_le_iff₀ (by norm_num)]
  norm_num at hrate' ⊢
  linarith

/-- The tone in bins, rounded. -/
theorem value_roundAway_tone (hrate : p.config.sampleRate.toNat < 2 ^ 17)
    (hpos : 0 < p.config.sampleRate.toNat) {bit : Bool}
    (htone : windowSize * (p.config.tone bit).toNat < 8 * p.config.sampleRate.toNat) :
    isFinite (roundAway (Float32.ofNat (p.config.tone bit).toNat / p.resolution)) = true ∧
      value (roundAway (Float32.ofNat (p.config.tone bit).toNat / p.resolution))
        = p.nearestBin bit := by
  obtain ⟨hfiniteTone, hvalueTone⟩ := value_natCast (n := (p.config.tone bit).toNat)
    ((p.config.tone bit).toNat_lt.trans (by norm_num))
  obtain ⟨hfinite, hvalue⟩ := value_resolution hrate
  have hpos' : (0 : ℚ) < p.config.sampleRate.toNat := by exact_mod_cast hpos
  have hquotient := rounds_div hfiniteTone hfinite (by rw [hvalue]; positivity)
  have hbins : ((p.config.tone bit).toNat : ℚ) / (p.config.sampleRate.toNat / windowSize)
      = (windowSize * (p.config.tone bit).toNat : ℕ) / p.config.sampleRate.toNat := by
    push_cast
    field_simp
  rw [hvalueTone, hvalue, hbins] at hquotient
  have hsmall : ((windowSize * (p.config.tone bit).toNat : ℕ) : ℚ) / p.config.sampleRate.toNat ≤ 8 := by
    rw [div_le_iff₀ hpos']
    exact_mod_cast htone.le
  obtain ⟨hfiniteBins, hrounded⟩ := hquotient.of_le (by positivity) (hsmall.trans (by norm_num))
  have hlower := hrounded.le_of_le representable_zero (by positivity)
  have hupper := hrounded.ge_of_ge (representable_natCast (n := 8) (by norm_num)) hsmall
  obtain ⟨hfiniteBin, hbin⟩ := value_roundAway hfiniteBins hlower
    (hupper.trans_lt (by norm_num))
  refine ⟨hfiniteBin, ?_⟩
  rw [hbin, hrounded.floor_add_half hpos hrate htone, Int.cast_natCast, nearestBin]

theorem rate_of_validate (hvalid : p.config.validate windowSize = .ok ()) :
    0 < p.config.sampleRate.toNat ∧ p.config.sampleRate.toNat / 2 ≤ 65535 := by
  obtain ⟨-, ⟨hne, hrate⟩, -⟩ := (LinkConfig.validate_eq_ok_iff p.config windowSize).1 hvalid
  refine ⟨Nat.pos_of_ne_zero fun hzero => hne ?_, hrate⟩
  exact UInt32.toNat_inj.1 hzero

/-- The tone is the center of its bin without what is cut off. -/
theorem tone_add_mod (hvalid : p.config.validate windowSize = .ok ()) {bit : Bool} {bin : ℕ}
    (hbin : p.config.IsBinOf windowSize bit bin) :
    windowSize * (p.config.tone bit).toNat + bin * p.config.sampleRate.toNat % windowSize
      = bin * p.config.sampleRate.toNat := by
  rw [← hbin.reported, toNat_binFrequency (rate_of_validate hvalid).2 hbin.lt, Nat.div_add_mod]

/-- What goes on air is the center of the bin nearest to the tone. -/
theorem airsCenter_nearestBin (hvalid : p.config.validate windowSize = .ok ()) (bit : Bool) :
    p.AirsCenter bit (p.nearestBin bit) := by
  obtain ⟨hpos, hrate⟩ := rate_of_validate hvalid
  have hrate' : p.config.sampleRate.toNat < 2 ^ 17 := by omega
  obtain ⟨bin, hbin⟩ := LinkConfig.exists_isBinOf hvalid bit
  have htone : windowSize * (p.config.tone bit).toNat < 8 * p.config.sampleRate.toNat := by
    have hcut := tone_add_mod hvalid hbin
    have hbelow := Nat.mul_lt_mul_of_pos_right hbin.lt hpos
    exact lt_of_le_of_lt (hcut ▸ Nat.le_add_right ..) hbelow
  obtain ⟨hfinite, hvalue⟩ := value_resolution hrate'
  obtain ⟨hfiniteBin, hvalueBin⟩ := value_roundAway_tone hrate' hpos htone
  have hproduct := rounds_mul hfiniteBin hfinite
  rw [hvalue, hvalueBin, ← mul_div_assoc] at hproduct
  have hfew : p.nearestBin bit ≤ 8 := by
    rw [nearestBin, ← Nat.lt_succ_iff, Nat.div_lt_iff_lt_mul (Nat.mul_pos two_pos hpos)]
    omega
  have hmany : p.nearestBin bit * p.config.sampleRate.toNat ≤ 8 * 2 ^ 17 :=
    Nat.mul_le_mul hfew hrate'.le
  have hmany' : (p.nearestBin bit * p.config.sampleRate.toNat : ℚ) ≤ 8 * 2 ^ 17 := by
    exact_mod_cast hmany
  have hexact : Representable (p.nearestBin bit * p.config.sampleRate.toNat / windowSize : ℚ) := by
    refine ⟨p.nearestBin bit * p.config.sampleRate.toNat, -4, ?_, by norm_num, ?_⟩
    · rw [abs_of_nonneg (by positivity)]
      exact_mod_cast lt_of_le_of_lt hmany (by norm_num)
    · push_cast
      norm_num [div_eq_mul_inv]
  obtain ⟨hfiniteTone, hvalueTone⟩ := hproduct.value_eq hexact
    (le_greatest_of_le (by positivity) (by
      rw [div_le_iff₀ (by norm_num)]
      norm_num at hmany' ⊢
      linarith))
  exact ⟨hfiniteTone, hvalueTone⟩

/-- The nearest bin is one of the tone's if at most half the distance of bins was cut off its center. -/
theorem nearestBin_eq_iff (hvalid : p.config.validate windowSize = .ok ()) {bit : Bool} {bin : ℕ}
    (hbin : p.config.IsBinOf windowSize bit bin) :
    p.nearestBin bit = bin ↔
      2 * (bin * p.config.sampleRate.toNat % windowSize) ≤ p.config.sampleRate.toNat := by
  obtain ⟨hpos, -⟩ := rate_of_validate hvalid
  have hcut := tone_add_mod hvalid hbin
  rw [nearestBin, Nat.div_eq_iff (Nat.mul_pos two_pos hpos), Nat.mul_left_comm]
  generalize windowSize * (p.config.tone bit).toNat = cut at hcut ⊢
  generalize bin * p.config.sampleRate.toNat % windowSize = rest at hcut ⊢
  omega

theorem AirsCenter.bin_eq {bit : Bool} {bin other : ℕ} (h : p.AirsCenter bit bin)
    (hother : p.AirsCenter bit other) (hpos : 0 < p.config.sampleRate.toNat) : bin = other := by
  have hpos' : (0 : ℚ) < p.config.sampleRate.toNat := by exact_mod_cast hpos
  have hsame := h.value.symm.trans hother.value
  rw [div_left_inj' (by norm_num), mul_left_inj' hpos'.ne'] at hsame
  exact_mod_cast hsame

theorem airsTone_iff (hvalid : p.config.validate windowSize = .ok ()) (bit : Bool) :
    p.AirsTone bit ↔ ∃ bin, p.config.IsBinOf windowSize bit bin ∧
      2 * (bin * p.config.sampleRate.toNat % windowSize) ≤ p.config.sampleRate.toNat := by
  refine exists_congr fun bin => and_congr_right fun hbin => ?_
  have hcenter := airsCenter_nearestBin hvalid bit
  rw [← nearestBin_eq_iff hvalid hbin]
  constructor
  · intro hair
    exact hcenter.bin_eq hair (rate_of_validate hvalid).1
  · intro hnearest
    rwa [hnearest] at hcenter

/-- From 27 samples a second on, no more than half the distance of bins is cut off. -/
theorem two_mul_mod_le {rate bin : ℕ} (hrate : 27 ≤ rate) (hbin : bin < windowSize / 2) :
    2 * (bin * rate % windowSize) ≤ rate := by
  have hrest := Nat.mod_lt (bin * rate) (show 0 < windowSize by norm_num)
  rcases Nat.lt_or_ge rate 30 with hlow | hhigh
  · have hbin' : bin < 8 := hbin
    interval_cases rate <;> interval_cases bin <;> decide
  · have hrest' : bin * rate % windowSize < 16 := hrest
    omega

/-- What the projector does with the tones of an accepted link. -/
structure AirsTones (p : Projector) : Prop where
  /-- The center of a bin goes on air, exactly, and it is the bin nearest to the tone. -/
  center : ∀ bit, p.AirsCenter bit (p.nearestBin bit)
  /-- The receiver reports that bin as the tone if at most half the distance of bins was cut off. -/
  reported : ∀ bit, p.AirsTone bit ↔ ∃ bin, p.config.IsBinOf windowSize bit bin ∧
    2 * (bin * p.config.sampleRate.toNat % windowSize) ≤ p.config.sampleRate.toNat
  /-- Which is so from 27 samples a second on. -/
  usual : 27 ≤ p.config.sampleRate.toNat → ∀ bit, p.AirsTone bit

/-- **The tones on air are the tones listened for** by every accepted link with 27 samples a second or more,
and below that by those whose bins lose little to whole hertz. -/
theorem airsTones_of_validate (hvalid : p.config.validate windowSize = .ok ()) : p.AirsTones where
  center bit := airsCenter_nearestBin hvalid bit
  reported bit := airsTone_iff hvalid bit
  usual hrate bit := by
    obtain ⟨bin, hbin⟩ := LinkConfig.exists_isBinOf hvalid bit
    exact (airsTone_iff hvalid bit).2 ⟨bin, hbin, two_mul_mod_le hrate hbin.lt⟩

/-- The usual tones are 125 and 187 Hz, the latter cut off from 187.5 Hz. -/
theorem airsTones_default :
    ({} : LinkConfig).validate windowSize = .ok () ∧
      (Projector.mk {} [] none).AirsTones ∧ (∀ bit, (Projector.mk {} [] none).AirsTone bit) ∧
      (Projector.mk {} [] none).toneFrequency true = 187.5 := by
  have hvalid : ({} : LinkConfig).validate windowSize = .ok () :=
    (LinkConfig.validate_eq_ok_iff {} windowSize).2 (by decide +kernel)
  have hair := airsTones_of_validate (p := Projector.mk {} [] none) hvalid
  exact ⟨hvalid, hair, hair.usual (by decide), by decide +kernel⟩

/-- Settings for 18 samples a second, with the highest bin for a one: its center of 7.875 Hz is reported as
7 Hz. -/
def coarseConfig : LinkConfig := { sampleRate := 18, tone0 := 1, tone1 := 7, window := 1 }

/-- At 18 samples a second bins have frequencies of their own, and yet for a tone of 7 Hz the center of the
bin below goes on air, which is reported as 6 Hz. -/
theorem airs_coarseConfig :
    coarseConfig.validate windowSize = .ok () ∧
      (Projector.mk coarseConfig [] none).toneFrequency true = 6.75 ∧
      (Projector.mk coarseConfig [] none).AirsCenter true 6 ∧ binFrequency 6 18 windowSize = 6 ∧
      ¬ (Projector.mk coarseConfig [] none).AirsTone true := by
  have hvalid : coarseConfig.validate windowSize = .ok () :=
    (LinkConfig.validate_eq_ok_iff coarseConfig windowSize).2 (by decide +kernel)
  have hcenter := airsCenter_nearestBin (p := Projector.mk coarseConfig [] none) hvalid true
  refine ⟨hvalid, by decide +kernel, hcenter, by decide, ?_⟩
  rintro ⟨bin, hbin, hair⟩
  -- only the nearest bin can be on air, and it is not reported as the tone
  have hsix : bin = 6 := hair.bin_eq hcenter (by decide)
  have hreported := hbin.reported
  rw [hsix] at hreported
  exact absurd hreported (by decide)

end Projector

end LightPilot
