import LightPilot.Proofs.Link.Reception

set_option autoImplicit false

/-! # A byte takes eight votes

A vote completes a byte only if seven bits are held, and then leaves none. So after a command at least
eight more windows must be heard before the next one, even with votes of one window. -/

namespace LightPilot

/-- The command byte that came out of a window or a vote. -/
def FrameOutcome.byte? : FrameOutcome → Option UInt8
  | command code => some code
  | _ => none

namespace Decoder

variable {d : Decoder} {bits : List Bool}

/-- Before the eighth bit no byte comes out, and a bit at most is added. -/
theorem vote_of_room (hbits : d.Holds bits) (hroom : bits.length < 7) (elected : Option UInt16)
    (now : UInt32) :
    (d.vote elected now).1.byte? = none ∧
      ∃ next, (d.vote elected now).2.Holds next ∧ next.length ≤ bits.length + 1 := by
  cases hbit : d.bit? elected with
  | none =>
      rw [vote_of_none hbit]
      exact ⟨rfl, [], holds_clear d, Nat.zero_le _⟩
  | some bit =>
      rw [vote_of_lt hbits hbit hroom]
      exact ⟨rfl, bits ++ [bit], holds_append hbits bit hroom now, by simp⟩

/-- A byte that comes out leaves no bit. -/
theorem holds_nil_of_byte (hbits : d.Holds bits) {elected : Option UInt16} {now : UInt32}
    (h : (d.vote elected now).1.byte?.isSome) : (d.vote elected now).2.Holds [] := by
  cases hbit : d.bit? elected with
  | none =>
      rw [vote_of_none hbit]
      exact holds_clear d
  | some bit =>
      by_cases hroom : bits.length < 7
      · rw [(vote_of_room hbits hroom elected now).1] at h
        contradiction
      · rw [vote_of_eq hbits hbit (hbits.length_eq hroom)]
        exact (holds_clear d).withTick now

end Decoder

namespace Receiver

variable {size capacity : Nat} {r : Receiver size capacity} {bits : List Bool}

theorem hear_of_room (hbits : r.decoder.Holds bits) (hroom : bits.length < 7) (frequency : UInt16)
    (now : UInt32) :
    (r.hear frequency now).1.byte? = none ∧
      ∃ next, (r.hear frequency now).2.decoder.Holds next ∧ next.length ≤ bits.length + 1 := by
  rcases Nat.lt_or_ge (r.windowsSinceVote + 1) r.window with hlt | hge
  · rw [hear_of_lt hlt]
    exact ⟨rfl, bits, hbits, Nat.le_succ _⟩
  · rw [hear_of_le hge rfl]
    exact Decoder.vote_of_room hbits hroom _ now

theorem hear_of_byte (hbits : r.decoder.Holds bits) {frequency : UInt16} {now : UInt32}
    (h : (r.hear frequency now).1.byte?.isSome) : (r.hear frequency now).2.decoder.Holds [] := by
  rcases Nat.lt_or_ge (r.windowsSinceVote + 1) r.window with hlt | hge
  · rw [hear_of_lt hlt] at h
    contradiction
  · rw [hear_of_le hge rfl] at h ⊢
    exact Decoder.holds_nil_of_byte hbits h

/-- Each byte that comes out is counted. -/
theorem framesDecoded_hear (r : Receiver size capacity) (frequency : UInt16) (now : UInt32) :
    (r.hear frequency now).2.stats.framesDecoded
      = r.stats.framesDecoded + UInt32.ofNat (r.hear frequency now).1.byte?.toList.length := by
  have hrecord : ∀ (stats : LinkStats) (outcome : FrameOutcome),
      (stats.record outcome).framesDecoded
        = stats.framesDecoded + UInt32.ofNat outcome.byte?.toList.length := by
    intro stats outcome
    cases outcome <;> simp [LinkStats.record, FrameOutcome.byte?]
  rcases Nat.lt_or_ge (r.windowsSinceVote + 1) r.window with hlt | hge
  · rw [hear_of_lt hlt]
    exact (UInt32.add_zero _).symm
  · rw [hear_of_le hge rfl]
    exact hrecord _ _

/-- The bits held after a window: none after a byte, and one more at most before the eighth. -/
theorem exists_holds_hear (hbits : r.decoder.Holds bits) (frequency : UInt16) (now : UInt32) :
    ∃ next, (r.hear frequency now).2.decoder.Holds next ∧
      ((r.hear frequency now).1.byte?.isSome → next = [] ∧ bits.length = 7) ∧
      (bits.length < 7 → next.length ≤ bits.length + 1) := by
  by_cases hroom : bits.length < 7
  · obtain ⟨hnone, next, hnext, hle⟩ := hear_of_room hbits hroom frequency now
    exact ⟨next, hnext, fun hsome => by simp [hnone] at hsome, fun _ => hle⟩
  · by_cases hbyte : (r.hear frequency now).1.byte?.isSome
    · exact ⟨[], hear_of_byte hbits hbyte, fun _ => ⟨rfl, hbits.length_eq hroom⟩,
        fun hless => absurd hless hroom⟩
    · rcases Nat.lt_or_ge (r.windowsSinceVote + 1) r.window with hlt | hge
      · rw [hear_of_lt hlt] at hbyte ⊢
        exact ⟨bits, hbits, fun hsome => absurd hsome hbyte, fun hless => absurd hless hroom⟩
      · rw [hear_of_le hge rfl] at hbyte ⊢
        obtain ⟨next, hnext⟩ := Decoder.exists_holds_vote ⟨bits, hbits⟩ _ now
        exact ⟨next, hnext, fun hsome => absurd hsome hbyte, fun hless => absurd hless hroom⟩

end Receiver

end LightPilot
