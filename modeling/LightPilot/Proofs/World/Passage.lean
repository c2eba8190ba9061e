import LightPilot.Proofs.Link.Frame
import LightPilot.Proofs.Link.Reception
import LightPilot.Proofs.World.Execution
import LightPilot.World.Projector

set_option autoImplicit false

/-! # A command on its way over the link

The projector puts a command into the lower bits of a frame, as far as it fits beside the address, and shows
the frame's bits as tones. A decoder that has no byte in progress takes the eight bits and completes the
frame, whatever is left in its byte from before (`answers_tell`). What arrives is always a command. It is
the one that was sent if its code fits, and every code fits if the address field is at most three bits wide
(`carriesCommands_of_create`). -/

namespace LightPilot

namespace Decoder

/-! ## Bits over an old byte -/

/-- The bits of the byte in progress are these, lowest first. The bits above them are anything. -/
structure HoldsLow (d : Decoder) (bits : List Bool) : Prop where
  count : d.bitCount = bits.length
  testBit : ∀ i, i < bits.length → d.byte.toNat.testBit i = bits.getD i false

theorem holdsLow_nil {d : Decoder} (hcount : d.bitCount = 0) : d.HoldsLow [] :=
  ⟨hcount, by simp⟩

theorem HoldsLow.testBit_withBit {d : Decoder} {bits : List Bool} (h : d.HoldsLow bits)
    (hroom : bits.length < 8) (bit : Bool) {i : Nat} (hi : i < bits.length + 1) :
    (d.withBit bit).toNat.testBit i = (bits ++ [bit]).getD i false := by
  rw [Decoder.testBit_withBit d (by rw [h.count]; exact hroom), h.count]
  rcases Nat.lt_or_eq_of_le (Nat.le_of_lt_succ hi) with hlt | rfl
  · rw [if_neg (Nat.ne_of_lt hlt), h.testBit i hlt, List.getD_append _ _ _ _ hlt]
  · rw [if_pos rfl, List.getD_append_right _ _ _ _ (Nat.le_refl _)]
    simp

/-- A vote for a tone, with room for more bits. -/
theorem HoldsLow.vote_of_lt {d : Decoder} {bits : List Bool} (h : d.HoldsLow bits)
    {elected : Option UInt16} {bit : Bool} (hbit : d.bit? elected = some bit)
    (hroom : bits.length < 7) (now : UInt32) :
    (d.vote elected now).1 = .bitAccepted (bits.length + 1) ∧
      (d.vote elected now).2.HoldsLow (bits ++ [bit]) := by
  have hlt : bits.length + 1 < 8 := by omega
  rw [vote, hbit]
  dsimp only
  rw [h.count, if_pos hlt]
  refine ⟨rfl, ?_, ?_⟩
  · simp
  · intro i hi
    rw [List.length_append, List.length_singleton] at hi
    exact h.testBit_withBit (by omega) bit hi

/-- The eighth vote completes the byte, of which nothing old is left. -/
theorem HoldsLow.vote_of_eq {d : Decoder} {bits : List Bool} (h : d.HoldsLow bits)
    {elected : Option UInt16} {bit : Bool} (hbit : d.bit? elected = some bit) {byte : UInt8}
    (hbyte : bits ++ [bit] = Binary.bits byte) (now : UInt32) :
    (d.vote elected now).1 = .ofByte byte d.unitId d.addressBits := by
  have hlength : bits.length = 7 := by
    have hsum := congrArg List.length hbyte
    rw [length_bits, List.length_append, List.length_singleton] at hsum
    omega
  have hcomplete : d.withBit bit = byte := by
    apply eq_of_bits
    intro i
    by_cases hi : i < 8
    · rw [h.testBit_withBit (by omega) bit (by omega), hbyte]
    · rw [testBit_of_le _ (Nat.not_lt.1 hi), List.getD_eq_default]
      rw [length_bits]
      exact Nat.not_lt.1 hi
  rw [vote, hbit]
  dsimp only
  rw [h.count, if_neg (by omega), hcomplete, FrameOutcome.ofByte]
  cases Frame.validate byte d.unitId d.addressBits with
  | ok code => rfl
  | error error => rfl

end Decoder

namespace LinkConfig

/-! ## A frame in tones -/

/-- A vote for the tone of a bit, at some tick. -/
def tell (config : LinkConfig) (d : Decoder) (sent : Bool × UInt32) : FrameOutcome × Decoder :=
  d.vote (some (config.tone sent.1)) sent.2

/-- The votes for what is left of a frame: each bit is accepted, and the last one completes the frame. -/
theorem answers_tell_of_holdsLow {config : LinkConfig} {size : Nat} (htones : config.tone0 ≠ config.tone1)
    {byte : UInt8} (sent : List (Bool × UInt32)) :
    ∀ (d : Decoder) (bits : List Bool), d.settings = Decoder.ofConfig config size →
      d.HoldsLow bits → bits ++ sent.map Prod.fst = Binary.bits byte → bits.length < 8 →
      Run.answers config.tell d sent
        = (List.range' bits.length (7 - bits.length)).map (fun i => .bitAccepted (i + 1))
          ++ [.ofByte byte config.unitId config.addressBits] := by
  induction sent with
  | nil =>
      intro d bits _ _ hbyte hroom
      have hlength := congrArg List.length hbyte
      simp [Decoder.length_bits] at hlength
      omega
  | cons first rest ih =>
      intro d bits hsettings hbits hbyte hroom
      have hbit := Decoder.bit?_tone hsettings htones first.1
      have hlength := congrArg List.length hbyte
      rw [Decoder.length_bits, List.length_append, List.length_map, List.length_cons] at hlength
      rw [Run.answers, tell]
      rcases Nat.lt_or_ge bits.length 7 with hmore | hlast
      · obtain ⟨houtcome, hnext⟩ := hbits.vote_of_lt hbit hmore first.2
        have hsplit : 7 - bits.length = 7 - (bits.length + 1) + 1 := by omega
        rw [houtcome, ih _ (bits ++ [first.1]) (by rw [Decoder.settings_vote, hsettings]) hnext
          (by rw [← hbyte]; simp) (by rw [List.length_append, List.length_singleton]; omega),
          List.length_append, List.length_singleton, hsplit, List.range'_succ]
        rfl
      · have hseven : bits.length = 7 := by omega
        have hrest : rest = [] := List.eq_nil_of_length_eq_zero (by omega)
        have hunit : d.unitId = config.unitId := congrArg Decoder.unitId hsettings
        have haddress : d.addressBits = config.addressBits := congrArg Decoder.addressBits hsettings
        subst hrest
        rw [hbits.vote_of_eq hbit hbyte, hunit, haddress, hseven]
        rfl

/-- The votes for a frame, from a decoder without a byte in progress. -/
theorem answers_tell {config : LinkConfig} {size : Nat} (htones : config.tone0 ≠ config.tone1)
    {d : Decoder} (hsettings : d.settings = Decoder.ofConfig config size) (hcount : d.bitCount = 0)
    {byte : UInt8} {sent : List (Bool × UInt32)} (hsent : sent.map Prod.fst = Frame.bits byte) :
    Run.answers config.tell d sent
      = (List.range 7).map (fun i => .bitAccepted (i + 1))
        ++ [.ofByte byte config.unitId config.addressBits] := by
  rw [List.range_eq_range']
  exact answers_tell_of_holdsLow htones sent d [] hsettings (Decoder.holdsLow_nil hcount) hsent
    (by decide)

end LinkConfig

/-! ## Codes -/

namespace Command

theorem code_lt (c : Command) : c.code.toNat < 15 := by
  cases c <;> decide

theorem ofCode?_eq_some_iff (byte : UInt8) (c : Command) : ofCode? byte = some c ↔ byte = c.code := by
  constructor
  · intro h
    exact (code_of_ofCode? h).symm
  · rintro rfl
    exact c.ofCode?_code

theorem exists_ofCode? {byte : UInt8} (h : byte.toNat < 15) : ∃ c, ofCode? byte = some c :=
  ⟨_, List.getElem?_eq_getElem (show byte.toNat < all.length from h)⟩

end Command

namespace LinkConfig

/-- The code that arrives when a command is sent: what fits into the bits that the address leaves. -/
def arriving (config : LinkConfig) (c : Command) : UInt8 :=
  UInt8.ofNat (c.code.toNat % 2 ^ (7 - config.addressBits.toNat))

theorem toNat_arriving (config : LinkConfig) (c : Command) :
    (config.arriving c).toNat = c.code.toNat % 2 ^ (7 - config.addressBits.toNat) :=
  UInt8.toNat_ofNat_of_lt' (Nat.lt_of_le_of_lt (Nat.mod_le ..) c.code.toNat_lt)

theorem ofCode?_arriving_iff (config : LinkConfig) (c : Command) :
    Command.ofCode? (config.arriving c) = some c
      ↔ c.code.toNat < 2 ^ (7 - config.addressBits.toNat) := by
  rw [Command.ofCode?_eq_some_iff, ← UInt8.toNat_inj, toNat_arriving]
  exact Nat.mod_eq_iff_lt (Nat.two_pow_pos _).ne'

theorem exists_ofCode?_arriving (config : LinkConfig) (c : Command) :
    ∃ heard, Command.ofCode? (config.arriving c) = some heard := by
  apply Command.exists_ofCode?
  rw [toNat_arriving]
  exact Nat.lt_of_le_of_lt (Nat.mod_le ..) c.code_lt

/-- Three bits of address are the most that leave room for all codes. -/
theorem forall_ofCode?_arriving_iff (config : LinkConfig) :
    (∀ c, Command.ofCode? (config.arriving c) = some c) ↔ config.addressBits ≤ 3 := by
  simp only [ofCode?_arriving_iff]
  rw [UInt8.le_iff_toNat_le]
  show _ ↔ config.addressBits.toNat ≤ 3
  constructor
  · intro hall
    by_contra hwide
    have htakeOff : 9 < 2 ^ (7 - config.addressBits.toNat) := hall .takeOff
    have hroom : 2 ^ (7 - config.addressBits.toNat) ≤ 2 ^ 3 :=
      Nat.pow_le_pow_right (by decide) (by omega)
    omega
  · intro hnarrow c
    have hcode := c.code_lt
    have hroom : 2 ^ 4 ≤ 2 ^ (7 - config.addressBits.toNat) :=
      Nat.pow_le_pow_right (by decide) (by omega)
    omega

/-! ## From the projector to the decoder -/

/-- How a link treats the commands that are sent over it. -/
structure CarriesCommands (config : LinkConfig) : Prop where
  /-- Each command completes a frame, at any ticks and over any old byte. -/
  heard : ∀ (d : Decoder), d.settings = Decoder.ofConfig config windowSize → d.bitCount = 0 →
    ∀ (c : Command) (sent : List (Bool × UInt32)),
      sent.map Prod.fst = Frame.bits (({ config } : Projector).frame config.unitId c) →
      Run.answers config.tell d sent
        = (List.range 7).map (fun i => .bitAccepted (i + 1)) ++ [.command (config.arriving c)]
  /-- What arrives is never an unknown code. -/
  known : ∀ c, ∃ heard, Command.ofCode? (config.arriving c) = some heard
  /-- A command arrives as itself if its code fits. -/
  same_iff : ∀ c, Command.ofCode? (config.arriving c) = some c
    ↔ c.code.toNat < 2 ^ (7 - config.addressBits.toNat)
  /-- All commands do, up to an address field of three bits. -/
  same_all_iff : (∀ c, Command.ofCode? (config.arriving c) = some c) ↔ config.addressBits ≤ 3

/-- A frame for this unit is taken as a command. -/
theorem ofByte_frame {config : LinkConfig} (hwidth : config.addressBits ≤ 6)
    (hunit : config.unitId.toNat < 2 ^ config.addressBits.toNat) (c : Command) :
    FrameOutcome.ofByte (({ config } : Projector).frame config.unitId c) config.unitId
      config.addressBits = .command (config.arriving c) := by
  have haddress : Frame.addressWidth config.addressBits = config.addressBits.toNat := by
    have hsix : config.addressBits.toNat ≤ 6 := UInt8.le_iff_toNat_le.1 hwidth
    rw [Frame.addressWidth]
    omega
  rw [FrameOutcome.ofByte, Projector.frame,
    Frame.validate_encode c.code config.addressBits (by rwa [haddress]), haddress]
  rfl

/-- **Every command that is sent is heard as a command**, and as itself unless the address leaves too few
bits. -/
theorem carriesCommands_of_create {config : LinkConfig} {r : Receiver windowSize historyCapacity}
    (hcreate : Receiver.create windowSize historyCapacity config = .ok r) : config.CarriesCommands := by
  obtain ⟨hvalid, -, -⟩ := Receiver.create_eq_ok_iff.1 hcreate
  obtain ⟨-, -, ⟨hwidth, hunit⟩, -, -, htones⟩ := (validate_eq_ok_iff config windowSize).1 hvalid
  constructor
  case heard =>
    intro d hsettings hcount c sent hsent
    rw [answers_tell htones hsettings hcount hsent, ofByte_frame hwidth hunit]
  case known => exact config.exists_ofCode?_arriving
  case same_iff => exact config.ofCode?_arriving_iff
  case same_all_iff => exact config.forall_ofCode?_arriving_iff

/-- One of eight units, the most that the commands leave room for. -/
def octetConfig : LinkConfig := { unitId := 5, addressBits := 3 }

theorem carriesCommands_octetConfig :
    ∃ r : Receiver windowSize historyCapacity,
      Receiver.create windowSize historyCapacity octetConfig = .ok r ∧ octetConfig.CarriesCommands ∧
        ∀ c, Command.ofCode? (octetConfig.arriving c) = some c := by
  have hvalid : octetConfig.validate windowSize = .ok () :=
    (validate_eq_ok_iff octetConfig windowSize).2 (by decide +kernel)
  have hcreate : Receiver.create windowSize historyCapacity octetConfig = .ok _ :=
    Receiver.create_eq_ok_iff.2 ⟨hvalid, by decide, rfl⟩
  have hcarries := carriesCommands_of_create hcreate
  exact ⟨_, hcreate, hcarries, hcarries.same_all_iff.2 (by decide)⟩

/-- One of sixteen units. -/
def wideConfig : LinkConfig := { unitId := 5, addressBits := 4 }

/-- The votes for a frame that tells one of sixteen units to take off. -/
def takeOffVotes : List (Bool × UInt32) :=
  (Frame.bits (({ config := wideConfig } : Projector).frame wideConfig.unitId .takeOff)).map
    fun bit => (bit, 80)

/-- A receiver accepts these settings, and is told to enable the flight instead. -/
theorem answers_takeOffVotes :
    (∃ r : Receiver windowSize historyCapacity,
      Receiver.create windowSize historyCapacity wideConfig = .ok r) ∧
    takeOffVotes.map Prod.fst
      = Frame.bits (({ config := wideConfig } : Projector).frame wideConfig.unitId .takeOff) ∧
    Run.answers wideConfig.tell (Decoder.ofConfig wideConfig windowSize) takeOffVotes
      = (List.range 7).map (fun i => .bitAccepted (i + 1)) ++ [.command 1] ∧
    Command.ofCode? 1 = some .flightEnable := by
  have hvalid : wideConfig.validate windowSize = .ok () :=
    (validate_eq_ok_iff wideConfig windowSize).2 (by decide +kernel)
  have hcreate : Receiver.create windowSize historyCapacity wideConfig = .ok _ :=
    Receiver.create_eq_ok_iff.2 ⟨hvalid, by decide, rfl⟩
  exact ⟨⟨_, hcreate⟩, by decide +kernel, by decide +kernel, by decide⟩

end LinkConfig

end LightPilot
