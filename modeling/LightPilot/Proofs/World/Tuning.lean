import LightPilot.Proofs.Link.Promptness
import LightPilot.Proofs.World.Airing

set_option autoImplicit false

/-! # A receiver in step with the projector

The windows of one vote fall into one bit time, so what they are heard as elects the bit that was on air,
and nothing elects a tone when none was. So the decoder holds the bits of the frame on air as far as it was
heard (`held`), and its outcomes are those of the bit times one after the other (`Tuned.hear`). -/

namespace LightPilot

open Projector

/-- A frequency is right for what was on air: the tone of the bit, or no tone. -/
def LinkConfig.Sounds (config : LinkConfig) (shown : Shown) (frequency : UInt16) : Prop :=
  match shown with
  | none => ∀ bit, frequency ≠ config.tone bit
  | some (frame, bit) => frequency = config.tone (frame.toNat.testBit bit)

namespace Receiver

/-- The time of a vote in samples. -/
def bitSamples (config : LinkConfig) : Nat :=
  windowSize * config.window

/-- The bits in progress after a bit time. -/
def held (shown : Shown) : List Bool :=
  match shown with
  | none => []
  | some (frame, bit) => if bit + 1 < 8 then (Binary.bits frame).take (bit + 1) else []

/-- What the vote of a bit time leads to. -/
def outcomeOf (config : LinkConfig) (shown : Shown) : FrameOutcome :=
  match shown with
  | none => .reset
  | some (frame, bit) =>
    if bit + 1 < 8 then .bitAccepted (bit + 1)
    else .ofByte frame config.unitId config.addressBits

theorem held_of_free {shown : Shown} (h : Free 1 shown) : held shown = [] := by
  cases shown with
  | none => rfl
  | some entry => exact if_neg (Nat.not_lt.2 (h entry.1 entry.2 rfl))

/-- The bits in progress before a bit time, and the bit that comes. -/
theorem held_of_follows {index bit : Nat} {earlier : Shown} {frame : UInt8}
    (h : Follows 1 index earlier (some (frame, bit))) :
    bit < 8 ∧ held earlier = (Binary.bits frame).take bit := by
  rcases follows_some h with ⟨rfl, -, hfree⟩ | ⟨passed, rfl, rfl, hlt⟩
  · exact ⟨by decide, held_of_free hfree⟩
  · exact ⟨hlt, if_pos hlt⟩

variable {config : LinkConfig} {air : List Shown} {count now : Nat}

/-- Windows that all sound right elect what was on air. -/
theorem elects {d : Decoder} (hsettings : d.settings = Decoder.ofConfig config windowSize)
    (htones : config.tone0 ≠ config.tone1) {history : FrequencyHistory historyCapacity}
    (hpos : 0 < config.window) (hfits : config.window ≤ historyCapacity) {newest : List UInt16}
    (hlength : newest.length = config.window) (hnewest : newest <+: history.recent) {shown : Shown}
    (hsounds : ∀ frequency ∈ newest, config.Sounds shown frequency) :
    d.bit? (history.majority? config.window)
      = shown.map fun entry => entry.1.toNat.testBit entry.2 := by
  have hvoters : history.recent.take (min config.window historyCapacity) = newest := by
    rw [Nat.min_eq_left hfits, ← hlength]
    exact (List.prefix_iff_eq_take.1 hnewest).symm
  have helected := history.majority?_eq_some_iff config.window
  rw [hvoters, Nat.min_eq_left hfits] at helected
  cases shown with
  | none =>
      cases hvote : history.majority? config.window with
      | none => rfl
      | some frequency =>
          have hcount := (helected frequency).1 hvote
          have hmem : frequency ∈ newest := List.count_pos_iff.1 (by omega)
          cases hbit : d.bit? (some frequency) with
          | none => rfl
          | some bit =>
              have htone := (Decoder.bit?_eq_some_iff hsettings htones frequency bit).1 hbit
              exact absurd htone (hsounds frequency hmem bit)
  | some entry =>
      have hall : newest.count (config.tone (entry.1.toNat.testBit entry.2)) = newest.length :=
        List.count_eq_length.2 fun frequency hmem => (hsounds frequency hmem).symm
      have hvote := (helected (config.tone (entry.1.toNat.testBit entry.2))).2 (by omega)
      rw [hvote, Decoder.bit?_tone hsettings htones]
      rfl

/-- The vote of a bit time. -/
theorem vote_of_follows {d : Decoder} (hsettings : d.settings = Decoder.ofConfig config windowSize)
    {index : Nat} {earlier shown : Shown} (hfollows : Follows 1 index earlier shown)
    (hheld : d.Holds (held earlier)) {elected : Option UInt16}
    (hbit : d.bit? elected = shown.map fun entry => entry.1.toNat.testBit entry.2) (now : UInt32) :
    (d.vote elected now).1 = outcomeOf config shown ∧
      (d.vote elected now).2.Holds (held shown) := by
  cases shown with
  | none =>
      rw [Decoder.vote_of_none hbit]
      exact ⟨rfl, Decoder.holds_clear d⟩
  | some entry =>
      obtain ⟨frame, bit⟩ := entry
      obtain ⟨hlt, hearlier⟩ := held_of_follows hfollows
      rw [hearlier] at hheld
      have hunit : d.unitId = config.unitId := congrArg Decoder.unitId hsettings
      have haddress : d.addressBits = config.addressBits := congrArg Decoder.addressBits hsettings
      obtain ⟨next, hvote, hnext, -⟩ := Decoder.vote_frame hlt hheld hbit now
      rw [hunit, haddress] at hvote
      rw [hvote, outcomeOf, held]
      refine ⟨rfl, ?_⟩
      by_cases hroom : bit + 1 < 8
      · rw [Nat.mod_eq_of_lt hroom] at hnext
        dsimp only
        rwa [if_pos hroom]
      · have hlast : bit + 1 = 8 := by omega
        rw [hlast, Nat.mod_self, List.take_zero] at hnext
        dsimp only
        rwa [if_neg hroom]

/-- The receiver has heard `count` windows of what was on air. -/
structure Tuned (config : LinkConfig) (air : List Shown) (count now : Nat)
    (r : Receiver windowSize historyCapacity) : Prop where
  inTime : r.InTime config count now
  windows : r.stats.windows = UInt32.ofNat count
  cadence : r.windowsSinceVote = count % config.window
  /-- The windows since the last vote sound right. -/
  newest : ∃ newest, newest.length = count % config.window ∧ newest <+: r.history.recent ∧
    ∀ frequency ∈ newest,
      config.Sounds (shownIn (bitSamples config) air (count / config.window)) frequency
  bits : r.decoder.Holds (held (earlierShown (bitSamples config) air (count / config.window)))

variable {r : Receiver windowSize historyCapacity}

theorem Tuned.later (h : Tuned config air count now r) {next : Nat} (hle : now ≤ next) :
    Tuned config air count next r :=
  ⟨h.inTime.later hle, h.windows, h.cadence, h.newest, h.bits⟩

theorem windows_record (stats : LinkStats) (outcome : FrameOutcome) :
    (stats.record outcome).windows = stats.windows := by
  cases outcome <;> rfl

/-- More is shown. -/
theorem Tuned.append (h : Tuned config air count now r) (hpos : 0 < config.window)
    (hheard : count * windowSize ≤ air.length) (more : List Shown) :
    Tuned config (air ++ more) count now r := by
  have hsplit : bitSamples config * (count / config.window) + windowSize * (count % config.window)
      = count * windowSize := by
    rw [bitSamples, Nat.mul_assoc, ← Nat.mul_add, Nat.div_add_mod, Nat.mul_comm]
  have hsize : 0 < windowSize := by decide
  have hbit : 0 < bitSamples config := Nat.mul_pos hsize hpos
  refine ⟨h.inTime, h.windows, h.cadence, ?_, ?_⟩
  · obtain ⟨newest, hlength, hnewest, hright⟩ := h.newest
    refine ⟨newest, hlength, hnewest, fun frequency hmem => ?_⟩
    have hsome : 0 < count % config.window := hlength ▸ List.length_pos_of_mem hmem
    have hmore := Nat.mul_pos hsize hsome
    rw [shownIn_append (by rw [Nat.mul_comm]; omega)]
    exact hright frequency hmem
  · cases hindex : count / config.window with
    | zero =>
        have hbits := h.bits
        rwa [hindex] at hbits
    | succ index =>
        have hbits := h.bits
        rw [hindex] at hbits hsplit
        rw [Nat.mul_succ, Nat.mul_comm] at hsplit
        rw [earlierShown, shownIn_append (by omega)]
        exact hbits

/-- One more window that sounds right. -/
theorem Tuned.hear (h : Tuned config air count now r) (htones : config.tone0 ≠ config.tone1)
    (hpos : 0 < config.window) (hfits : config.window ≤ historyCapacity)
    (hfollows : Follows 1 (count / config.window)
      (earlierShown (bitSamples config) air (count / config.window))
      (shownIn (bitSamples config) air (count / config.window)))
    (hnow : (count + 1) * windowSize ≤ now) {frequency : UInt16}
    (hsounds : config.Sounds (shownIn (bitSamples config) air (count / config.window)) frequency) :
    (r.hear frequency (UInt32.ofNat now)).1
        = (if config.window ∣ count + 1
            then outcomeOf config (shownIn (bitSamples config) air (count / config.window))
            else .pending) ∧
      Tuned config air (count + 1) now (r.hear frequency (UInt32.ofNat now)).2 := by
  have hinTime := h.inTime.hear hnow frequency
  have hwindow := h.inTime.ready.window
  obtain ⟨newest, hlength, hnewest, hright⟩ := h.newest
  have hall : ∀ heard ∈ frequency :: newest,
      config.Sounds (shownIn (bitSamples config) air (count / config.window)) heard :=
    List.forall_mem_cons.2 ⟨hsounds, hright⟩
  have hrecent : frequency :: newest <+: (r.history.push frequency).recent := by
    have hroom := Nat.mod_lt count hpos
    refine List.prefix_take_iff.2 ⟨List.cons_prefix_cons.2 ⟨rfl, hnewest⟩, ?_⟩
    rw [List.length_cons]
    omega
  by_cases hend : config.window ∣ count + 1
  · -- the vote takes the windows of this bit time
    have hfull : count % config.window + 1 = config.window := mod_succ_of_dvd hend
    have hge : r.window ≤ r.windowsSinceVote + 1 := by
      rw [hwindow, h.cadence, hfull]
    have hbit := elects h.inTime.ready.settings htones hpos hfits
      (by rw [List.length_cons, hlength, hfull]) hrecent hall
    obtain ⟨houtcome, hholds⟩ := vote_of_follows h.inTime.ready.settings hfollows h.bits hbit
      (UInt32.ofNat now)
    obtain ⟨outcome, decoder, hvote⟩ : ∃ outcome decoder,
        r.decoder.vote ((r.history.push frequency).majority? config.window) (UInt32.ofNat now)
          = (outcome, decoder) := ⟨_, _, rfl⟩
    rw [hvote] at houtcome hholds
    have hdiv : (count + 1) / config.window = count / config.window + 1 := by
      rw [Nat.succ_div, if_pos hend]
    rw [hear_of_le hge (by rw [hwindow, hvote])] at hinTime ⊢
    rw [if_pos hend]
    refine ⟨houtcome, hinTime, ?_, ?_, ⟨[], ?_, List.nil_prefix, by simp⟩, ?_⟩
    · change (LinkStats.record _ _).windows = _
      rw [windows_record, UInt32.ofNat_add, ← h.windows]
      rfl
    · exact (Nat.mod_eq_zero_of_dvd hend).symm
    · exact (Nat.mod_eq_zero_of_dvd hend).symm
    · rw [hdiv]
      exact hholds
  · have hmod := mod_succ_of_not_dvd hend
    have hdiv : (count + 1) / config.window = count / config.window := Nat.succ_div_of_not_dvd hend
    have hlt : r.windowsSinceVote + 1 < r.window := by
      rw [hwindow, h.cadence, ← hmod]
      exact Nat.mod_lt _ hpos
    rw [hear_of_lt hlt] at hinTime ⊢
    rw [if_neg hend]
    refine ⟨rfl, hinTime, ?_, ?_, ⟨frequency :: newest, ?_, hrecent, ?_⟩, ?_⟩
    · rw [UInt32.ofNat_add, ← h.windows]
      rfl
    · rw [hmod, ← h.cadence]
    · rw [List.length_cons, hlength, hmod]
    · rw [hdiv]
      exact hall
    · rw [hdiv]
      exact h.bits

theorem holds_checkTimeout {d : Decoder} {bits : List Bool} (h : d.Holds bits) {tick : UInt32}
    (hquiet : (d.checkTimeout tick).1 = false) : (d.checkTimeout tick).2.Holds bits := by
  rw [Decoder.checkTimeout] at hquiet ⊢
  split at hquiet
  · next hshort => rwa [if_pos hshort]
  · next hlong =>
      have hcount : d.bitCount = 0 := Nat.eq_zero_of_not_pos (of_decide_eq_false hquiet)
      have hnone : bits = [] := List.eq_nil_of_length_eq_zero (h.count ▸ hcount)
      rw [if_neg hlong, hnone]
      exact (Decoder.holds_clear d).withTick tick

/-- A poll that comes soon drops nothing. -/
theorem Tuned.poll (h : Tuned config air count now r) (hfits : config.window ≤ historyCapacity)
    (hnow : now ≤ (count + 2) * windowSize) :
    (r.pollTimeout (UInt32.ofNat now)).1 = false ∧
      Tuned config air count now (r.pollTimeout (UInt32.ofNat now)).2 := by
  have hshort : windowSize * config.window * 2 < UInt32.size := by
    have hfive : config.window ≤ 5 := hfits
    change 16 * config.window * 2 < 4294967296
    omega
  obtain ⟨hquiet, hinTime⟩ := h.inTime.poll hnow hshort
  exact ⟨hquiet, hinTime, h.windows, h.cadence, h.newest, holds_checkTimeout h.bits hquiet⟩

theorem tuned_create (hcreate : create windowSize historyCapacity config = .ok r) :
    Tuned config [] 0 0 r := by
  have hinTime := inTime_create hcreate
  obtain ⟨-, -, rfl⟩ := create_eq_ok_iff.1 hcreate
  refine ⟨hinTime, rfl, (Nat.zero_mod _).symm, ⟨[], (Nat.zero_mod _).symm, List.nil_prefix, by simp⟩, ?_⟩
  rw [Nat.zero_div]
  exact Decoder.holds_clear (Decoder.ofConfig config windowSize)

end Receiver

end LightPilot
