import LightPilot.Link.Decoder
import Mathlib

set_option autoImplicit false

/-! # The decoder holds the bits it accepted

The byte in progress is read as a list of bits, lowest first (`Decoder.Holds`): those bits are set as the
votes said, and no other bit is set. A vote for a tone appends its bit (`Decoder.vote_of_lt`), and the
eighth bit completes the byte (`Decoder.vote_of_eq`); any other vote and a pause that is too long leave no
bit. -/

namespace LightPilot

/-- The outcome of a complete byte. -/
def FrameOutcome.ofByte (byte unitId addressBits : UInt8) : FrameOutcome :=
  match Frame.validate byte unitId addressBits with
  | .ok code => .command code
  | .error error => .discarded error

/-- Whether a vote was accepted as a bit. -/
def FrameOutcome.isBit : FrameOutcome → Bool
  | .bitAccepted _ | .command _ | .discarded _ => true
  | .pending | .reset => false

namespace Decoder

/-! ## Writing a bit -/

theorem toNat_place {bit : Nat} (hbit : bit < 8) :
    ((1 : UInt8) <<< UInt8.ofNat bit).toNat = 2 ^ bit := by
  have hall : ∀ bit : Fin 8, ((1 : UInt8) <<< UInt8.ofNat bit.val).toNat = 2 ^ bit.val := by
    decide
  exact hall ⟨bit, hbit⟩

theorem testBit_of_le (byte : UInt8) {i : Nat} (hi : 8 ≤ i) : byte.toNat.testBit i = false :=
  Nat.testBit_lt_two_pow (Nat.lt_of_lt_of_le byte.toNat_lt (Nat.pow_le_pow_right (by decide) hi))

theorem testBit_withBit (d : Decoder) (hcount : d.bitCount < 8) (bit : Bool) (i : Nat) :
    (d.withBit bit).toNat.testBit i
      = if i = d.bitCount then bit else d.byte.toNat.testBit i := by
  have hplace := toNat_place hcount
  rw [withBit]
  cases bit with
  | true =>
      rw [if_pos rfl, UInt8.toNat_or, hplace, Nat.testBit_or, Nat.testBit_two_pow]
      by_cases hi : i = d.bitCount
      · simp [hi]
      · simp [hi, Ne.symm hi]
  | false =>
      have hnot : (~~~((1 : UInt8) <<< UInt8.ofNat d.bitCount)).toNat
          = 2 ^ 8 - (2 ^ d.bitCount + 1) := by
        have hsize : UInt8.size = 2 ^ 8 := rfl
        rw [UInt8.toNat_not, hplace, hsize]
        omega
      have hlt : 2 ^ d.bitCount < 2 ^ 8 := Nat.pow_lt_pow_right (by decide) hcount
      rw [if_neg Bool.false_ne_true, UInt8.toNat_and, hnot, Nat.testBit_and,
        Nat.testBit_two_pow_sub_succ hlt, Nat.testBit_two_pow]
      by_cases hi : i = d.bitCount
      · simp [hi]
      · by_cases hlarge : i < 8
        · simp [hi, Ne.symm hi, hlarge]
        · simp [hi, testBit_of_le d.byte (Nat.not_lt.1 hlarge)]

/-! ## The bits held -/

/-- The byte in progress is made of these bits, lowest first. -/
structure Holds (d : Decoder) (bits : List Bool) : Prop where
  count : d.bitCount = bits.length
  room : bits.length < 8
  testBit : ∀ i, d.byte.toNat.testBit i = bits.getD i false

theorem holds_clear (d : Decoder) : d.clear.Holds [] :=
  ⟨rfl, by decide, fun i => by simp [clear]⟩

theorem Holds.withTick {d : Decoder} {bits : List Bool} (h : d.Holds bits) (tick : UInt32) :
    ({ d with lastBitTick := tick } : Decoder).Holds bits :=
  ⟨h.count, h.room, h.testBit⟩

theorem testBit_withBit_of_holds {d : Decoder} {bits : List Bool} (h : d.Holds bits) (bit : Bool)
    (i : Nat) : (d.withBit bit).toNat.testBit i = (bits ++ [bit]).getD i false := by
  rw [testBit_withBit d (by rw [h.count]; exact h.room), h.count, h.testBit]
  rcases Nat.lt_trichotomy i bits.length with hlt | heq | hgt
  · rw [if_neg (Nat.ne_of_lt hlt), List.getD_append _ _ _ _ hlt]
  · rw [if_pos heq, heq, List.getD_append_right _ _ _ _ (Nat.le_refl _)]
    simp
  · rw [if_neg (Nat.ne_of_gt hgt), List.getD_append_right _ _ _ _ (Nat.le_of_lt hgt),
      List.getD_eq_default _ _ (Nat.le_of_lt hgt), List.getD_eq_default]
    simp only [List.length_singleton]
    omega

/-- A byte that has no room for one more bit to wait in lacks just that bit. -/
theorem Holds.length_eq {d : Decoder} {bits : List Bool} (h : d.Holds bits)
    (hfull : ¬ bits.length < 7) : bits.length = 7 := by
  have hroom := h.room
  omega

/-- The bits held tell the byte. -/
theorem Holds.byte_eq {d other : Decoder} {bits : List Bool} (h : d.Holds bits)
    (hother : other.Holds bits) : d.byte = other.byte :=
  UInt8.toNat_inj.1 <| Nat.eq_of_testBit_eq fun i => by rw [h.testBit, hother.testBit]

/-- The bits of a byte are its binary digits. -/
theorem getD_bits (byte : UInt8) (i : Nat) :
    (Binary.bits byte).getD i false = byte.toNat.testBit i := by
  by_cases hi : i < 8
  · rw [List.getD_eq_getElem _ _ (by simpa [Binary.bits] using hi)]
    simp [Binary.bits]
  · rw [testBit_of_le byte (Nat.not_lt.1 hi), List.getD_eq_default]
    simpa [Binary.bits] using hi

/-- Bytes with the same bits are the same. -/
theorem eq_of_bits {byte : UInt8} {other : UInt8}
    (h : ∀ i, byte.toNat.testBit i = (Binary.bits other).getD i false) : byte = other := by
  apply UInt8.toNat_inj.1
  apply Nat.eq_of_testBit_eq
  intro i
  rw [h i, getD_bits]

/-! ## Votes and pauses -/

theorem vote_of_none {d : Decoder} {elected : Option UInt16} (h : d.bit? elected = none)
    (now : UInt32) : d.vote elected now = (.reset, d.clear) := by
  rw [vote, h]

/-- A vote for a tone appends its bit while the byte is not complete. -/
theorem vote_of_lt {d : Decoder} {bits : List Bool} {elected : Option UInt16} {bit : Bool}
    (hbits : d.Holds bits) (hbit : d.bit? elected = some bit) (hroom : bits.length < 7)
    (now : UInt32) :
    d.vote elected now = (.bitAccepted (bits.length + 1), { d with
      byte := d.withBit bit
      bitCount := bits.length + 1
      lastBitTick := now }) := by
  have hlt : bits.length + 1 < 8 := by omega
  rw [vote, hbit]
  dsimp only
  rw [hbits.count, if_pos hlt]

theorem holds_append {d : Decoder} {bits : List Bool} (hbits : d.Holds bits) (bit : Bool)
    (hroom : bits.length < 7) (now : UInt32) :
    ({ d with
      byte := d.withBit bit
      bitCount := bits.length + 1
      lastBitTick := now } : Decoder).Holds (bits ++ [bit]) := by
  refine ⟨?_, ?_, testBit_withBit_of_holds hbits bit⟩
  · rw [List.length_append, List.length_singleton]
  · rw [List.length_append, List.length_singleton]
    omega

/-- The eighth bit completes the byte, which is checked as a frame. -/
theorem vote_of_eq {d : Decoder} {bits : List Bool} {elected : Option UInt16} {bit : Bool}
    (hbits : d.Holds bits) (hbit : d.bit? elected = some bit) (hlast : bits.length = 7)
    (now : UInt32) :
    d.vote elected now = (.ofByte (d.withBit bit) d.unitId d.addressBits,
      { d.clear with lastBitTick := now }) := by
  rw [vote, hbit]
  dsimp only
  rw [hbits.count, if_neg (by omega), FrameOutcome.ofByte]
  cases Frame.validate (d.withBit bit) d.unitId d.addressBits with
  | ok code => rfl
  | error error => rfl

theorem isBit_ofByte (byte unitId addressBits : UInt8) :
    (FrameOutcome.ofByte byte unitId addressBits).isBit = true := by
  rw [FrameOutcome.ofByte]
  cases Frame.validate byte unitId addressBits <;> rfl

/-- A vote is accepted as a bit if it stands for one. -/
theorem isBit_vote {d : Decoder} {bits : List Bool} (hbits : d.Holds bits)
    (elected : Option UInt16) (now : UInt32) :
    (d.vote elected now).1.isBit = (d.bit? elected).isSome := by
  cases hbit : d.bit? elected with
  | none =>
      rw [vote_of_none hbit]
      rfl
  | some bit =>
      by_cases hroom : bits.length < 7
      · rw [vote_of_lt hbits hbit hroom]
        rfl
      · rw [vote_of_eq hbits hbit (hbits.length_eq hroom)]
        exact isBit_ofByte ..

/-- The byte completed is the one with these bits. -/
theorem withBit_eq {d : Decoder} {bits : List Bool} {bit : Bool} {byte : UInt8}
    (hbits : d.Holds bits) (hbyte : bits ++ [bit] = Binary.bits byte) : d.withBit bit = byte :=
  eq_of_bits fun i => by rw [testBit_withBit_of_holds hbits bit, hbyte]

/-- Whatever the votes, the byte in progress is made of less than eight bits. -/
theorem exists_holds_vote {d : Decoder} (h : ∃ bits, d.Holds bits) (elected : Option UInt16)
    (now : UInt32) : ∃ bits, (d.vote elected now).2.Holds bits := by
  obtain ⟨bits, hbits⟩ := h
  cases hbit : d.bit? elected with
  | none =>
      rw [vote_of_none hbit]
      exact ⟨[], holds_clear d⟩
  | some bit =>
      by_cases hroom : bits.length < 7
      · rw [vote_of_lt hbits hbit hroom]
        exact ⟨bits ++ [bit], holds_append hbits bit hroom now⟩
      · rw [vote_of_eq hbits hbit (hbits.length_eq hroom)]
        exact ⟨[], (holds_clear d).withTick now⟩

/-- A pause that is short enough changes nothing. -/
theorem checkTimeout_of_le {d : Decoder} {now : UInt32} (h : now - d.lastBitTick ≤ d.timeoutTicks) :
    d.checkTimeout now = (false, d) := by
  rw [checkTimeout, if_pos h]

/-- A byte is dropped if there is one and its last bit is too long ago. -/
theorem fst_checkTimeout_iff (d : Decoder) (now : UInt32) :
    (d.checkTimeout now).1 = true ↔ d.timeoutTicks < now - d.lastBitTick ∧ 0 < d.bitCount := by
  rw [checkTimeout]
  split
  · next hshort => simp [UInt32.not_lt.2 hshort]
  · next hlong => simp [UInt32.not_le.1 hlong]

/-- A pause that drops a byte leaves no bit of it. -/
theorem holds_of_dropped {d : Decoder} {now : UInt32} (hdropped : (d.checkTimeout now).1 = true) :
    (d.checkTimeout now).2.Holds [] := by
  have hlong := UInt32.not_le.2 ((fst_checkTimeout_iff d now).1 hdropped).1
  rw [checkTimeout, if_neg hlong]
  exact (holds_clear d).withTick now

/-- A pause that drops nothing leaves the byte in progress. -/
theorem kept_checkTimeout {d : Decoder} {bits : List Bool} (hbits : d.Holds bits) {now : UInt32}
    (hkept : (d.checkTimeout now).1 = false) : (d.checkTimeout now).2.Holds bits := by
  rw [← Bool.not_eq_true, fst_checkTimeout_iff, not_and_or, UInt32.not_lt] at hkept
  rw [checkTimeout]
  split
  · exact hbits
  · next hlong =>
      have hnone : bits = [] := by
        refine List.eq_nil_of_length_eq_zero (hbits.count ▸ Nat.eq_zero_of_not_pos ?_)
        exact hkept.resolve_left hlong
      rw [hnone]
      exact (holds_clear d).withTick now

theorem exists_holds_checkTimeout {d : Decoder} (h : ∃ bits, d.Holds bits) (now : UInt32) :
    ∃ bits, (d.checkTimeout now).2.Holds bits := by
  obtain ⟨bits, hbits⟩ := h
  cases hdropped : (d.checkTimeout now).1 with
  | false => exact ⟨bits, kept_checkTimeout hbits hdropped⟩
  | true => exact ⟨[], holds_of_dropped hdropped⟩

/-- Without a byte in progress a pause is nothing to report. -/
theorem checkTimeout_of_nil {d : Decoder} (hbits : d.Holds []) (now : UInt32) :
    (d.checkTimeout now).1 = false ∧ (d.checkTimeout now).2.Holds [] := by
  have hcount : d.bitCount = 0 := hbits.count
  rw [checkTimeout]
  split
  · exact ⟨rfl, hbits⟩
  · refine ⟨?_, (holds_clear d).withTick now⟩
    rw [hcount]
    rfl

/-! ## Frames -/

theorem length_bits (byte : UInt8) : (Binary.bits byte).length = 8 := by
  simp [Binary.bits]

theorem take_bits_succ (byte : UInt8) {i : Nat} (hi : i < 8) :
    (Binary.bits byte).take i ++ [byte.toNat.testBit i] = (Binary.bits byte).take (i + 1) := by
  have hget : (Binary.bits byte)[i]? = some (byte.toNat.testBit i) := by
    rw [Binary.bits, List.getElem?_map, List.getElem?_range hi]
    rfl
  rw [List.take_add_one, hget]
  rfl

/-- A vote for the next bit of a frame: the bit is held, or the frame is complete. -/
theorem vote_frame {d : Decoder} {byte : UInt8} {i : Nat} (hi : i < 8)
    (hbits : d.Holds ((Binary.bits byte).take i)) {elected : Option UInt16}
    (hbit : d.bit? elected = some (byte.toNat.testBit i)) (now : UInt32) :
    ∃ next : Decoder,
      d.vote elected now
        = (if i + 1 < 8 then .bitAccepted (i + 1) else .ofByte byte d.unitId d.addressBits, next) ∧
      next.Holds ((Binary.bits byte).take ((i + 1) % 8)) ∧ next.lastBitTick = now := by
  have hlength : ((Binary.bits byte).take i).length = i := by
    rw [List.length_take, length_bits]
    omega
  have hsucc := take_bits_succ byte hi
  by_cases hroom : i < 7
  · have hheld := holds_append hbits (byte.toNat.testBit i) (by rwa [hlength]) now
    have hvote := vote_of_lt hbits hbit (by rwa [hlength]) now
    rw [hsucc, hlength] at hheld
    rw [hlength] at hvote
    rw [if_pos (by omega), Nat.mod_eq_of_lt (by omega)]
    exact ⟨_, hvote, hheld, rfl⟩
  · obtain rfl : i = 7 := by omega
    have hcomplete : d.withBit (byte.toNat.testBit 7) = byte := by
      refine withBit_eq hbits ?_
      rw [hsucc]
      exact List.take_of_length_le (Nat.le_of_eq (length_bits byte))
    have hvote := vote_of_eq hbits hbit hlength now
    rw [hcomplete] at hvote
    exact ⟨_, hvote, (holds_clear d).withTick now, rfl⟩

/-! ## Settings -/

/-- The decoder with the settings it has and nothing received. -/
def settings (d : Decoder) : Decoder :=
  { d with byte := 0, bitCount := 0, lastBitTick := 0 }

theorem settings_vote (d : Decoder) (elected : Option UInt16) (now : UInt32) :
    (d.vote elected now).2.settings = d.settings := by
  rw [vote]
  split
  · rfl
  · dsimp only
    split
    · rfl
    · split <;> rfl

theorem settings_checkTimeout (d : Decoder) (now : UInt32) :
    (d.checkTimeout now).2.settings = d.settings := by
  rw [checkTimeout]
  split <;> rfl

/-- The settings say which votes stand for a bit. -/
theorem bit?_settings (d : Decoder) (elected : Option UInt16) :
    d.settings.bit? elected = d.bit? elected := by
  cases elected <;> rfl

/-- A vote for the tone of a bit stands for that bit. -/
theorem bit?_tone {d : Decoder} {config : LinkConfig} {size : Nat}
    (hsettings : d.settings = ofConfig config size) (htones : config.tone0 ≠ config.tone1)
    (bit : Bool) : d.bit? (some (config.tone bit)) = some bit := by
  rw [← bit?_settings, hsettings]
  cases bit with
  | false => exact if_pos rfl
  | true => exact (if_neg htones.symm).trans (if_pos rfl)

theorem bit?_eq_some_iff {d : Decoder} {config : LinkConfig} {size : Nat}
    (hsettings : d.settings = ofConfig config size) (htones : config.tone0 ≠ config.tone1)
    (frequency : UInt16) (bit : Bool) :
    d.bit? (some frequency) = some bit ↔ frequency = config.tone bit := by
  constructor
  · intro hbit
    rw [← bit?_settings, hsettings, bit?] at hbit
    split at hbit
    · next hzero => rwa [← Option.some.inj hbit]
    · split at hbit
      · next hone => rwa [← Option.some.inj hbit]
      · contradiction
  · intro hfrequency
    rw [hfrequency, bit?_tone hsettings htones]

end Decoder

end LightPilot
