import LightPilot.Proofs.Link.Decoder
import LightPilot.Proofs.Run

set_option autoImplicit false

/-! # A byte is assembled from the bits since the last break

A run of votes and pauses is recorded as a list of events. Three kinds of them break a byte off: a vote
for neither tone, the eighth bit, and a pause that is too long. The decoder keeps a byte, a count and a
tick; a reader of the events keeps the list of the bits accepted since the last break
(`bitsInProgress`). After any run the two agree, and the list alone decides what the next vote or pause
leads to (`assembles_run`): no bit gets from one frame into the next. -/

namespace LightPilot.Decoder

/-! ## Events -/

/-- A call on a decoder. -/
inductive Call
  | vote (elected : Option UInt16) (now : UInt32)
  | pause (now : UInt32)

/-- A call and its result. -/
inductive Event
  | voted (elected : Option UInt16) (outcome : FrameOutcome)
  /-- So many ticks passed since the last one noted, and a byte was dropped or not. -/
  | paused (elapsed : UInt32) (dropped : Bool)

/-- Makes one call. -/
def perform (d : Decoder) : Call → Event × Decoder
  | .vote elected now => (.voted elected (d.vote elected now).1, (d.vote elected now).2)
  | .pause now => (.paused (now - d.lastBitTick) (d.checkTimeout now).1, (d.checkTimeout now).2)

/-- Whether the bits before an event are of no use after it. -/
def Event.isBreak (config : LinkConfig) (size : Nat) : Event → Bool
  | .voted _ (.bitAccepted _) | .voted _ .pending => false
  | .voted _ .reset | .voted _ (.command _) | .voted _ (.discarded _) => true
  | .paused elapsed _ => config.timeoutTicks size < elapsed

/-- The bit that was accepted in an event. -/
def Event.accepted? (config : LinkConfig) : Event → Option Bool
  | .voted elected (.bitAccepted _) => some (elected == some config.tone1)
  | _ => none

/-- The bits accepted since the last break. -/
def bitsInProgress (config : LinkConfig) (size : Nat) (events : List Event) : List Bool :=
  (events.rtakeWhile fun event => !event.isBreak config size).filterMap (Event.accepted? config)

/-- The number with these binary digits, lowest first. -/
def value (bits : List Bool) : Nat :=
  Nat.ofDigits 2 (bits.map Bool.toNat)

/-- A decoder with these settings stands after these bits of a byte. -/
structure Assembles (config : LinkConfig) (size : Nat) (bits : List Bool) (d : Decoder) : Prop where
  count : d.bitCount = bits.length
  unfinished : bits.length ≤ 7
  byte : d.byte.toNat = value bits
  unset : ∀ i, bits.length ≤ i → d.byte.toNat.testBit i = false
  reset : ∀ elected now,
    (d.vote elected now).1 = .reset ↔ ∀ bit, elected ≠ some (config.tone bit)
  accepted : ∀ bit now, bits.length < 7 →
    (d.vote (some (config.tone bit)) now).1 = .bitAccepted (bits.length + 1)
  completed : ∀ bit now, bits.length = 7 →
    (d.vote (some (config.tone bit)) now).1
      = .ofByte (UInt8.ofNat (value (bits ++ [bit]))) config.unitId config.addressBits
  paused : ∀ now, (d.checkTimeout now).1 = true ↔
    config.timeoutTicks size < now - d.lastBitTick ∧ 0 < bits.length

/-! ## The value of bits -/

theorem value_cons (bit : Bool) (bits : List Bool) :
    value (bit :: bits) = bit.toNat + 2 * value bits := by
  simp [value, Nat.ofDigits_cons]

theorem testBit_value (bits : List Bool) (i : Nat) :
    (value bits).testBit i = bits.getD i false := by
  induction bits generalizing i with
  | nil => simp [value]
  | cons bit bits ih =>
      rw [value_cons]
      cases i with
      | zero => cases bit <;> simp [Nat.testBit_zero]
      | succ i =>
          have hhalf : (bit.toNat + 2 * value bits) / 2 = value bits := by
            have hbit := Bool.toNat_lt bit
            omega
          rw [Nat.testBit_succ, hhalf, ih, List.getD_cons_succ]

theorem toNat_eq_value {byte : UInt8} {bits : List Bool}
    (h : ∀ i, byte.toNat.testBit i = bits.getD i false) : byte.toNat = value bits :=
  Nat.eq_of_testBit_eq fun i => by rw [h, testBit_value]

/-! ## Bits after one more event -/

theorem bitsInProgress_snoc (config : LinkConfig) (size : Nat) (events : List Event)
    (event : Event) :
    bitsInProgress config size (events ++ [event])
      = if event.isBreak config size then []
        else bitsInProgress config size events ++ (event.accepted? config).toList := by
  rw [bitsInProgress, List.rtakeWhile_concat]
  cases event.isBreak config size with
  | true => simp
  | false => cases h : event.accepted? config <;> simp [bitsInProgress, h]

theorem isBreak_ofByte (config : LinkConfig) (size : Nat) (elected : Option UInt16)
    (byte unitId addressBits : UInt8) :
    (Event.voted elected (.ofByte byte unitId addressBits)).isBreak config size = true := by
  rw [FrameOutcome.ofByte]
  cases Frame.validate byte unitId addressBits <;> rfl

theorem accepted?_tone {config : LinkConfig} (htones : config.tone0 ≠ config.tone1) (bit : Bool)
    (count : Nat) :
    (Event.voted (some (config.tone bit)) (.bitAccepted count)).accepted? config = some bit := by
  cases bit with
  | false => simp [Event.accepted?, LinkConfig.tone, htones]
  | true => simp [Event.accepted?, LinkConfig.tone]

theorem bit?_elected_iff {d : Decoder} {config : LinkConfig} {size : Nat}
    (hsettings : d.settings = ofConfig config size) (htones : config.tone0 ≠ config.tone1)
    (elected : Option UInt16) (bit : Bool) :
    d.bit? elected = some bit ↔ elected = some (config.tone bit) := by
  cases elected with
  | none => simp [bit?]
  | some frequency => rw [bit?_eq_some_iff hsettings htones, Option.some_inj]

/-! ## Runs -/

/-- The decoder has its settings and holds the bits since the last break. -/
structure Follows (config : LinkConfig) (size : Nat) (events : List Event) (d : Decoder) : Prop where
  settings : d.settings = ofConfig config size
  holds : d.Holds (bitsInProgress config size events)

theorem Follows.timeoutTicks {config : LinkConfig} {size : Nat} {events : List Event} {d : Decoder}
    (h : Follows config size events d) : d.timeoutTicks = config.timeoutTicks size :=
  congrArg Decoder.timeoutTicks h.settings

theorem Follows.vote {config : LinkConfig} {size : Nat} {events : List Event} {d : Decoder}
    (h : Follows config size events d) (htones : config.tone0 ≠ config.tone1)
    (elected : Option UInt16) (now : UInt32) :
    Follows config size (events ++ [.voted elected (d.vote elected now).1])
      (d.vote elected now).2 := by
  refine ⟨by rw [settings_vote, h.settings], ?_⟩
  rw [bitsInProgress_snoc]
  cases hbit : d.bit? elected with
  | none =>
      rw [vote_of_none hbit]
      exact holds_clear d
  | some bit =>
      obtain rfl := (bit?_elected_iff h.settings htones elected bit).1 hbit
      by_cases hroom : (bitsInProgress config size events).length < 7
      · rw [vote_of_lt h.holds hbit hroom]
        dsimp only
        rw [accepted?_tone htones]
        exact holds_append h.holds bit hroom now
      · rw [vote_of_eq h.holds hbit (h.holds.length_eq hroom)]
        dsimp only
        rw [if_pos (isBreak_ofByte ..)]
        exact (holds_clear d).withTick now

theorem Follows.pause {config : LinkConfig} {size : Nat} {events : List Event} {d : Decoder}
    (h : Follows config size events d) (now : UInt32) :
    Follows config size
      (events ++ [.paused (now - d.lastBitTick) (d.checkTimeout now).1])
      (d.checkTimeout now).2 := by
  refine ⟨by rw [settings_checkTimeout, h.settings], ?_⟩
  rw [bitsInProgress_snoc, checkTimeout, h.timeoutTicks]
  by_cases hshort : now - d.lastBitTick ≤ config.timeoutTicks size
  · have hlong : ¬ config.timeoutTicks size < now - d.lastBitTick := UInt32.not_lt.2 hshort
    simp only [Event.isBreak, hshort, hlong, decide_false, Bool.false_eq_true, if_true, if_false,
      Event.accepted?, Option.toList_none, List.append_nil]
    exact h.holds
  · have hlong : config.timeoutTicks size < now - d.lastBitTick := UInt32.not_le.1 hshort
    simp only [Event.isBreak, hshort, hlong, decide_true, if_true, if_false]
    exact (holds_clear d).withTick now

theorem follows_run {config : LinkConfig} (htones : config.tone0 ≠ config.tone1) (size : Nat)
    (calls : List Call) :
    Follows config size (Run.answers perform (ofConfig config size) calls)
      (Run.final perform (ofConfig config size) calls) := by
  refine Run.induction (motive := fun _ events d => Follows config size events d) ?_ ?_ calls
  · exact ⟨rfl, holds_clear (ofConfig config size)⟩
  · intro _ events d call h
    cases call with
    | vote elected now => exact h.vote htones elected now
    | pause now => exact h.pause now

/-! ## What the bits decide -/

theorem Follows.vote_tone {config : LinkConfig} {size : Nat} {events : List Event} {d : Decoder}
    (h : Follows config size events d) (htones : config.tone0 ≠ config.tone1) (bit : Bool)
    (now : UInt32) :
    (d.vote (some (config.tone bit)) now).1
      = if (bitsInProgress config size events).length < 7
        then .bitAccepted ((bitsInProgress config size events).length + 1)
        else .ofByte (UInt8.ofNat (value (bitsInProgress config size events ++ [bit])))
          config.unitId config.addressBits := by
  have hbit := (bit?_elected_iff h.settings htones (some (config.tone bit)) bit).2 rfl
  split
  · next hroom => rw [vote_of_lt h.holds hbit hroom]
  · next hfull =>
      have hlast := h.holds.length_eq hfull
      have hbyte := toNat_eq_value (testBit_withBit_of_holds h.holds bit)
      have hunit : d.unitId = config.unitId := congrArg Decoder.unitId h.settings
      have haddress : d.addressBits = config.addressBits :=
        congrArg Decoder.addressBits h.settings
      rw [vote_of_eq h.holds hbit hlast, ← hbyte, UInt8.ofNat_toNat, hunit, haddress]

theorem Follows.vote_eq_reset_iff {config : LinkConfig} {size : Nat} {events : List Event}
    {d : Decoder} (h : Follows config size events d) (htones : config.tone0 ≠ config.tone1)
    (elected : Option UInt16) (now : UInt32) :
    (d.vote elected now).1 = .reset ↔ ∀ bit, elected ≠ some (config.tone bit) := by
  constructor
  · rintro hreset bit rfl
    rw [h.vote_tone htones] at hreset
    split at hreset
    · cases hreset
    · rw [FrameOutcome.ofByte] at hreset
      split at hreset <;> cases hreset
  · intro hother
    have hnone : d.bit? elected = none := by
      refine Option.eq_none_iff_forall_ne_some.2 fun bit hbit => ?_
      exact hother bit ((bit?_elected_iff h.settings htones elected bit).1 hbit)
    rw [vote_of_none hnone]

theorem Follows.checkTimeout_iff {config : LinkConfig} {size : Nat} {events : List Event}
    {d : Decoder} (h : Follows config size events d) (now : UInt32) :
    (d.checkTimeout now).1 = true ↔ config.timeoutTicks size < now - d.lastBitTick ∧
      0 < (bitsInProgress config size events).length := by
  rw [fst_checkTimeout_iff, h.timeoutTicks, h.holds.count]

/-- **Assembly.** After any votes and pauses on a new decoder the byte in progress is made of exactly the
bits since the last break, and they decide what comes next. -/
theorem assembles_run (config : LinkConfig) (htones : config.tone0 ≠ config.tone1) (size : Nat)
    (calls : List Call) :
    Assembles config size
      (bitsInProgress config size (Run.answers perform (ofConfig config size) calls))
      (Run.final perform (ofConfig config size) calls) := by
  have h := follows_run htones size calls
  refine ⟨h.holds.count, Nat.le_of_lt_succ h.holds.room, toNat_eq_value h.holds.testBit, ?_,
    h.vote_eq_reset_iff htones, ?_, ?_, h.checkTimeout_iff⟩
  · intro i hi
    rw [h.holds.testBit, List.getD_eq_default _ _ hi]
  · intro bit now hroom
    rw [h.vote_tone htones, if_pos hroom]
  · intro bit now hlast
    rw [h.vote_tone htones, if_neg (by omega)]

/-- Two bits, a pause that is too long, a vote for no tone, and then three bits with a pause. -/
def brokenCalls : List Call :=
  [.vote (some 187) 80, .vote (some 187) 160, .pause 500, .vote (some 125) 580, .vote none 660,
    .vote (some 187) 740, .vote (some 125) 820, .pause 980, .vote (some 187) 900]

/-- Only the last three bits are in progress. -/
theorem assembles_brokenCalls :
    ({} : LinkConfig).tone0 ≠ ({} : LinkConfig).tone1 ∧
      bitsInProgress {} 16 (Run.answers perform (ofConfig {} 16) brokenCalls)
        = [true, false, true] ∧
      Assembles {} 16 [true, false, true] (Run.final perform (ofConfig {} 16) brokenCalls) := by
  have htones : ({} : LinkConfig).tone0 ≠ ({} : LinkConfig).tone1 := by decide
  have hbits : bitsInProgress {} 16 (Run.answers perform (ofConfig {} 16) brokenCalls)
      = [true, false, true] := by decide +kernel
  have hrun := assembles_run {} htones 16 brokenCalls
  rw [hbits] at hrun
  exact ⟨htones, hbits, hrun⟩

end LightPilot.Decoder
