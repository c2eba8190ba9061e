import LightPilot.Proofs.Link.Reception

set_option autoImplicit false

/-! # A receiver that is served promptly times nothing out

A receiver knows the time from the ticks that come with its calls, and compares it with the tick of the
last bit. Suppose that a window is taken after the samples in it, and that less than three windows of
samples come between the last window taken and a poll. Then the last bit of a byte in progress is at most
the windows of one vote and a window old at every poll, and that is within the timeout of two votes, even
for votes of a single window (`InTime.poll`).

Polls that drop nothing leave no trace but in the tick of the decoder, and outcomes do not depend on it.
So what is received promptly is what a receiver without a clock receives (`processUntimed_untimed`). -/

namespace LightPilot

namespace Decoder

/-! ## The clock of the decoder -/

/-- The decoder with its clock at zero. -/
def untimed (d : Decoder) : Decoder :=
  { d with lastBitTick := 0 }

theorem untimed_vote (d : Decoder) (elected : Option UInt16) (now : UInt32) :
    d.untimed.vote elected 0 = ((d.vote elected now).1, (d.vote elected now).2.untimed) := by
  have hbit : d.untimed.bit? elected = d.bit? elected := rfl
  rw [vote, vote, hbit]
  cases d.bit? elected with
  | none => rfl
  | some bit =>
      dsimp only [untimed, withBit]
      split
      · rfl
      · split <;> rfl

theorem byte_of_nil {d : Decoder} (h : d.Holds []) : d.byte = 0 := by
  apply UInt8.toNat_inj.1
  apply Nat.eq_of_testBit_eq
  intro i
  rw [h.testBit]
  simp

/-- A poll that drops nothing may at most note the time. -/
theorem untimed_checkTimeout {d : Decoder} {bits : List Bool} (h : d.Holds bits) {now : UInt32}
    (hquiet : (d.checkTimeout now).1 = false) : (d.checkTimeout now).2.untimed = d.untimed := by
  rw [checkTimeout] at hquiet ⊢
  split at hquiet
  · next hshort => rw [if_pos hshort]
  · next hlong =>
      have hcount : d.bitCount = 0 := Nat.eq_zero_of_not_pos (of_decide_eq_false hquiet)
      have hnone : bits = [] := List.eq_nil_of_length_eq_zero (h.count ▸ hcount)
      have hbyte := byte_of_nil (hnone ▸ h)
      rw [if_neg hlong, untimed, untimed, clear, hcount, hbyte]

theorem lastBitTick_vote {d : Decoder} {elected : Option UInt16} {now : UInt32}
    (h : 0 < (d.vote elected now).2.bitCount) : (d.vote elected now).2.lastBitTick = now := by
  rw [vote] at h ⊢
  split at h
  · simp [clear] at h
  · dsimp only at h ⊢
    split at h
    · next hroom => rw [if_pos hroom]
    · split at h <;> simp [clear] at h

end Decoder

namespace Receiver

variable {size capacity : Nat}

/-- The receiver with the clock of its decoder at zero. -/
def untimed (r : Receiver size capacity) : Receiver size capacity :=
  { r with decoder := r.decoder.untimed }

theorem untimed_hear (r : Receiver size capacity) (frequency : UInt16) (now : UInt32) :
    r.untimed.hear frequency 0 = ((r.hear frequency now).1, (r.hear frequency now).2.untimed) := by
  rcases Nat.lt_or_ge (r.windowsSinceVote + 1) r.window with hlt | hge
  · rw [hear_of_lt hlt, hear_of_lt (r := r.untimed) hlt]
    rfl
  · have huntimed := r.decoder.untimed_vote ((r.history.push frequency).majority? r.window) now
    generalize hvote : r.decoder.vote _ now = result at huntimed
    rw [hear_of_le hge hvote, hear_of_le (r := r.untimed) hge huntimed]
    rfl

/-- Takes one window without looking at the clock. -/
def processUntimed (r : Receiver size capacity) (window : Window size) :
    FrameOutcome × Receiver size capacity :=
  r.process window 0

theorem processUntimed_untimed (r : Receiver size capacity) (window : Window size) (now : UInt32) :
    r.untimed.processUntimed window
      = ((r.process window now).1, (r.process window now).2.untimed) :=
  untimed_hear r (window.peakFrequency r.sampleRate) now

theorem untimed_pollTimeout {r : Receiver size capacity} {bits : List Bool}
    (h : r.decoder.Holds bits) {now : UInt32} (hquiet : (r.pollTimeout now).1 = false) :
    (r.pollTimeout now).2.untimed = r.untimed := by
  have hdecoder : (r.decoder.checkTimeout now).1 = false := hquiet
  rw [pollTimeout]
  dsimp only [untimed]
  rw [Decoder.untimed_checkTimeout h hdecoder, hdecoder, if_neg Bool.false_ne_true]

/-! ## The count of timeouts -/

theorem timeouts_process (r : Receiver size capacity) (window : Window size) (now : UInt32) :
    (r.process window now).2.stats.timeouts = r.stats.timeouts := by
  have hrecord : ∀ (stats : LinkStats) (outcome : FrameOutcome),
      (stats.record outcome).timeouts = stats.timeouts := by
    intro stats outcome
    cases outcome <;> rfl
  rw [process]
  rcases Nat.lt_or_ge (r.windowsSinceVote + 1) r.window with hlt | hge
  · rw [hear_of_lt hlt]
    rfl
  · rw [hear_of_le hge rfl]
    exact hrecord _ _

theorem timeouts_pollTimeout {r : Receiver size capacity} {now : UInt32}
    (hquiet : (r.pollTimeout now).1 = false) :
    (r.pollTimeout now).2.stats.timeouts = r.stats.timeouts := by
  have hdecoder : (r.decoder.checkTimeout now).1 = false := hquiet
  simp [pollTimeout, hdecoder]

/-! ## Prompt service -/

/-- The receiver has heard `count` windows, and the latest tick is `now`; the last bit came with the
window that ended the last vote, and not before the samples of that window. -/
structure InTime (config : LinkConfig) (count now : Nat) (r : Receiver size capacity) : Prop where
  ready : r.Ready config
  since_lt : r.windowsSinceVote < config.window
  lastBit : 0 < r.decoder.bitCount → ∃ tick, r.decoder.lastBitTick = UInt32.ofNat tick ∧
    tick ≤ now ∧ count * size ≤ tick + r.windowsSinceVote * size

variable {config : LinkConfig} {count now : Nat} {r : Receiver size capacity}

theorem inTime_create (hcreate : create size capacity config = .ok r) : InTime config 0 0 r := by
  have hready := ready_create hcreate
  obtain ⟨-, ⟨hpos, -⟩, rfl⟩ := create_eq_ok_iff.1 hcreate
  exact ⟨hready, hpos, fun hbits => absurd hbits (Nat.lt_irrefl 0)⟩

theorem InTime.later (h : InTime config count now r) {next : Nat} (hle : now ≤ next) :
    InTime config count next r := by
  refine ⟨h.ready, h.since_lt, fun hbits => ?_⟩
  obtain ⟨tick, htick, hpast, hrecent⟩ := h.lastBit hbits
  exact ⟨tick, htick, hpast.trans hle, hrecent⟩

theorem InTime.hear (h : InTime config count now r) (hnow : (count + 1) * size ≤ now)
    (frequency : UInt16) :
    InTime config (count + 1) now (r.hear frequency (UInt32.ofNat now)).2 := by
  have hready := ready_hear h.ready frequency (UInt32.ofNat now)
  rcases Nat.lt_or_ge (r.windowsSinceVote + 1) r.window with hlt | hge
  · rw [hear_of_lt hlt] at hready ⊢
    refine ⟨hready, h.ready.window ▸ hlt, fun hbits => ?_⟩
    obtain ⟨tick, htick, hpast, hrecent⟩ := h.lastBit hbits
    refine ⟨tick, htick, hpast, ?_⟩
    change (count + 1) * size ≤ tick + (r.windowsSinceVote + 1) * size
    rw [Nat.succ_mul, Nat.succ_mul]
    omega
  · rw [hear_of_le hge rfl] at hready ⊢
    refine ⟨hready, Nat.lt_of_le_of_lt (Nat.zero_le _) h.since_lt, fun hbits => ?_⟩
    refine ⟨now, Decoder.lastBitTick_vote hbits, Nat.le_refl now, ?_⟩
    change (count + 1) * size ≤ now + 0 * size
    omega

theorem InTime.process (h : InTime config count now r) (hnow : (count + 1) * size ≤ now)
    (window : Window size) :
    InTime config (count + 1) now (r.process window (UInt32.ofNat now)).2 :=
  h.hear hnow (window.peakFrequency r.sampleRate)

/-- A poll less than three windows of samples after the last window taken drops nothing. -/
theorem InTime.poll (h : InTime config count now r) (hnow : now ≤ (count + 2) * size)
    (hshort : size * config.window * 2 < UInt32.size) :
    (r.pollTimeout (UInt32.ofNat now)).1 = false ∧
      InTime config count now (r.pollTimeout (UInt32.ofNat now)).2 := by
  have htimeout : r.decoder.timeoutTicks = config.timeoutTicks size :=
    congrArg Decoder.timeoutTicks h.ready.settings
  by_cases hbits : 0 < r.decoder.bitCount
  · obtain ⟨tick, htick, hpast, hrecent⟩ := h.lastBit hbits
    have hage : now - tick ≤ size * config.window * 2 := by
      have hvote := Nat.mul_le_mul_right size (Nat.succ_le_of_lt h.since_lt)
      have hone := Nat.mul_le_mul_right size (Nat.one_le_of_lt h.since_lt)
      rw [Nat.succ_mul] at hvote
      rw [Nat.add_mul] at hnow
      rw [Nat.mul_comm size]
      omega
    have hintime : UInt32.ofNat now - r.decoder.lastBitTick ≤ r.decoder.timeoutTicks := by
      rw [htick, htimeout, LinkConfig.timeoutTicks, ← UInt32.ofNat_sub hpast, UInt32.le_iff_toNat_le,
        UInt32.toNat_ofNat_of_lt' (Nat.lt_of_le_of_lt hage hshort), UInt32.toNat_ofNat_of_lt' hshort]
      exact hage
    rw [pollTimeout, Decoder.checkTimeout_of_le hintime]
    exact ⟨rfl, ⟨h.ready.sampleRate, h.ready.window, h.ready.settings, h.ready.holds⟩, h.since_lt,
      h.lastBit⟩
  · obtain ⟨bits, hholds⟩ := h.ready.holds
    have hnone : bits = [] :=
      List.eq_nil_of_length_eq_zero (hholds.count ▸ Nat.eq_zero_of_not_pos hbits)
    obtain ⟨hquiet, hempty⟩ := Decoder.checkTimeout_of_nil (hnone ▸ hholds) (UInt32.ofNat now)
    have hready : (r.pollTimeout (UInt32.ofNat now)).2.Ready config :=
      ready_perform h.ready (.poll (UInt32.ofNat now))
    refine ⟨hquiet, hready, h.since_lt, fun hpos => ?_⟩
    have hcount : (r.pollTimeout (UInt32.ofNat now)).2.decoder.bitCount = 0 := hempty.count
    exact absurd hpos (by omega)

end Receiver

end LightPilot
