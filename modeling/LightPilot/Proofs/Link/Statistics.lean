import LightPilot.Proofs.Link.Blocks

set_option autoImplicit false

/-! # The counts of a receiver balance

A receiver counts the windows it hears, the bytes it completes, the votes for no tone and the bytes it drops
after a pause. After any run these counts are those of its answers (`stats_eq_tally`). Every block of windows
ends in one vote, so the votes are all accounted for, and so is every bit accepted: it is part of a complete
byte, was lost with a byte that was broken off, or is still in progress (`balances_run`). -/

namespace LightPilot

/-! ## Counting answers -/

namespace FrameOutcome

/-- Whether a bit was written and the byte is not complete. -/
def isPartial : FrameOutcome → Bool
  | .bitAccepted _ => true
  | _ => false

/-- Whether a frame for this unit was complete. -/
def isCommand : FrameOutcome → Bool
  | .command _ => true
  | _ => false

/-- Whether a byte was complete that is not a frame for this unit. -/
def isDiscarded : FrameOutcome → Bool
  | .discarded _ => true
  | _ => false

/-- Whether no usable frequency was elected. -/
def isReset : FrameOutcome → Bool
  | .reset => true
  | _ => false

end FrameOutcome

namespace Receiver

variable {size capacity : Nat}

/-- The results of the polls among the answers, in order. -/
def polled (answers : List Answer) : List Bool :=
  answers.filterMap fun
    | .outcome _ => none
    | .polled dropped => some dropped

theorem polled_append (answers more : List Answer) :
    polled (answers ++ more) = polled answers ++ polled more :=
  List.filterMap_append ..

/-- The counts that belong to some answers. -/
def tally (answers : List Answer) : LinkStats where
  windows := UInt32.ofNat (outcomes answers).length
  framesDecoded := UInt32.ofNat ((outcomes answers).countP FrameOutcome.isCommand)
  framesDiscarded := UInt32.ofNat ((outcomes answers).countP FrameOutcome.isDiscarded)
  resets := UInt32.ofNat ((outcomes answers).countP FrameOutcome.isReset)
  timeouts := UInt32.ofNat ((polled answers).count true)

theorem tally_outcome (answers : List Answer) (outcome : FrameOutcome) :
    tally (answers ++ [.outcome outcome])
      = { tally answers with windows := (tally answers).windows + 1 }.record outcome := by
  have hpolled : polled (answers ++ [.outcome outcome]) = polled answers :=
    (polled_append ..).trans (List.append_nil _)
  rw [tally, outcomes_outcome, hpolled, List.length_append, UInt32.ofNat_add]
  cases outcome <;>
    simp [LinkStats.record, tally, List.countP_append, UInt32.ofNat_add, FrameOutcome.isCommand,
      FrameOutcome.isDiscarded, FrameOutcome.isReset]

theorem tally_polled (answers : List Answer) (dropped : Bool) :
    tally (answers ++ [.polled dropped])
      = { tally answers with
          timeouts := if dropped then (tally answers).timeouts + 1 else (tally answers).timeouts } := by
  have hpolled : polled (answers ++ [.polled dropped]) = polled answers ++ [dropped] :=
    polled_append ..
  rw [tally, outcomes_polled, hpolled]
  cases dropped <;> simp [tally, List.count_append, UInt32.ofNat_add]

/-- A receiver counts what it answers. -/
theorem stats_process (r : Receiver size capacity) (window : Window size) (now : UInt32) :
    (r.process window now).2.stats
      = { r.stats with windows := r.stats.windows + 1 }.record (r.process window now).1 := by
  rw [process]
  rcases Nat.lt_or_ge (r.windowsSinceVote + 1) r.window with hlt | hge
  · rw [hear_of_lt hlt]
    rfl
  · rw [hear_of_le hge rfl]
    rfl

theorem stats_eq_tally {config : LinkConfig} {start : Receiver size capacity}
    (hcreate : create size capacity config = .ok start) (calls : List (Call size)) :
    (Run.final perform start calls).stats = tally (Run.answers perform start calls) := by
  refine Run.induction (motive := fun _ answers (r : Receiver size capacity) =>
    r.stats = tally answers) ?_ ?_ calls
  · obtain ⟨-, -, rfl⟩ := create_eq_ok_iff.1 hcreate
    rfl
  · intro _ answers r call h
    cases call with
    | window window now =>
        rw [perform, tally_outcome, ← h]
        exact stats_process r window now
    | poll now =>
        rw [perform, tally_polled, ← h]
        rfl

/-! ## Bits in and out -/

/-- The bits of the byte in progress that an answer says are dropped. -/
def lost (r : Receiver size capacity) : Answer → Nat
  | .outcome .reset | .polled true => r.decoder.bitCount
  | _ => 0

/-- The bits lost in the votes for no tone and the pauses among some calls. -/
def lostBits (r : Receiver size capacity) : List (Call size) → Nat
  | [] => 0
  | call :: calls => r.lost (r.perform call).1 + lostBits (r.perform call).2 calls

theorem lostBits_snoc (r : Receiver size capacity) (calls : List (Call size)) (call : Call size) :
    lostBits r (calls ++ [call]) = lostBits r calls
      + (Run.final perform r calls).lost ((Run.final perform r calls).perform call).1 := by
  induction calls generalizing r with
  | nil => exact Nat.add_comm ..
  | cons first calls ih => rw [List.cons_append, lostBits, lostBits, ih, Run.final, Nat.add_assoc]

end Receiver

/-- The bits before a vote and in it are in a complete byte, lost or in progress. -/
theorem Decoder.bits_vote {d : Decoder} {bits : List Bool} (hbits : d.Holds bits)
    (elected : Option UInt16) (now : UInt32) :
    d.bitCount + [(d.vote elected now).1].countP FrameOutcome.isBit
      = 8 * ([(d.vote elected now).1].countP FrameOutcome.isCommand
          + [(d.vote elected now).1].countP FrameOutcome.isDiscarded)
        + (if (d.vote elected now).1.isReset then d.bitCount else 0)
        + (d.vote elected now).2.bitCount := by
  cases hbit : d.bit? elected with
  | none =>
      rw [vote_of_none hbit]
      exact (Nat.zero_add _).symm
  | some bit =>
      rw [hbits.count]
      by_cases hroom : bits.length < 7
      · rw [vote_of_lt hbits hbit hroom]
        exact (Nat.zero_add _).symm
      · -- the eighth bit takes the seven with it that were held
        have hlast := hbits.length_eq hroom
        rw [vote_of_eq hbits hbit hlast, hlast, FrameOutcome.ofByte]
        cases Frame.validate (d.withBit bit) d.unitId d.addressBits <;> rfl

/-- The bits before a check are dropped or stay in progress. -/
theorem Decoder.bits_checkTimeout {d : Decoder} {bits : List Bool} (hbits : d.Holds bits)
    (now : UInt32) :
    d.bitCount = (if (d.checkTimeout now).1 then d.bitCount else 0)
      + (d.checkTimeout now).2.bitCount := by
  cases hdropped : (d.checkTimeout now).1 with
  | false => rw [(kept_checkTimeout hbits hdropped).count, hbits.count, if_neg Bool.false_ne_true,
      Nat.zero_add]
  | true => rw [(holds_of_dropped hdropped).count, if_pos rfl, List.length_nil, Nat.add_zero]

namespace Receiver

variable {size capacity : Nat}

/-- The bits before a call and in it are in a complete byte, lost or in progress. -/
theorem bits_perform {r : Receiver size capacity} {bits : List Bool} (hbits : r.decoder.Holds bits)
    (call : Call size) :
    r.decoder.bitCount + (outcomes [(r.perform call).1]).countP FrameOutcome.isBit
      = 8 * ((outcomes [(r.perform call).1]).countP FrameOutcome.isCommand
          + (outcomes [(r.perform call).1]).countP FrameOutcome.isDiscarded)
        + r.lost (r.perform call).1 + (r.perform call).2.decoder.bitCount := by
  cases call with
  | poll now =>
      have hcheck := Decoder.bits_checkTimeout hbits now
      rw [perform, pollTimeout]
      cases hdropped : (r.decoder.checkTimeout now).1 with
      | false => simpa [outcomes, lost, hdropped] using hcheck
      | true => simpa [outcomes, lost, hdropped] using hcheck
  | window window now =>
      rw [perform, process]
      rcases Nat.lt_or_ge (r.windowsSinceVote + 1) r.window with hlt | hge
      · rw [hear_of_lt hlt]
        exact (Nat.zero_add _).symm
      · have hcount := Decoder.bits_vote hbits
          ((r.history.push (window.peakFrequency r.sampleRate)).majority? r.window) now
        generalize hvote : r.decoder.vote _ now = result at hcount
        obtain ⟨outcome, decoder⟩ := result
        rw [hear_of_le hge hvote]
        cases outcome <;> exact hcount

/-! ## Votes -/

/-- Whether a vote is for one of the tones. -/
def isForTone (config : LinkConfig) (elected : Option UInt16) : Bool :=
  elected == some config.tone0 || elected == some config.tone1

/-- The number of blocks of windows that vote for one of the tones. -/
def toneBlocks (config : LinkConfig) (calls : List (Call size)) : Nat :=
  (List.range ((heard calls).length / config.window)).countP fun j =>
    isForTone config (ballot config calls j)

theorem isSome_bit? {d : Decoder} {config : LinkConfig}
    (hsettings : d.settings = Decoder.ofConfig config size) (elected : Option UInt16) :
    (d.bit? elected).isSome = isForTone config elected := by
  rw [← Decoder.bit?_settings, hsettings]
  cases elected with
  | none => rfl
  | some frequency =>
      rw [Decoder.bit?, Decoder.ofConfig, isForTone]
      by_cases hzero : frequency = config.tone0
      · simp [hzero]
      · by_cases hone : frequency = config.tone1
        · subst hone
          simp [hzero]
        · simp [hzero, hone]

theorem blocks_le {window count j : Nat} (hj : j < count / window) : (j + 1) * window ≤ count :=
  (Nat.mul_le_mul_right window hj).trans (Nat.div_mul_le_self count window)

theorem toneBlocks_poll (config : LinkConfig) (calls : List (Call size)) (now : UInt32) :
    toneBlocks config (calls ++ [.poll now]) = toneBlocks config calls := by
  simp only [toneBlocks, ballot, frequencies, heard_poll]

/-- A window inside a block decides nothing. -/
theorem toneBlocks_of_ne {config : LinkConfig} {calls : List (Call size)} (window : Window size)
    (now : UInt32) (hinside : ((heard calls).length + 1) % config.window ≠ 0) :
    toneBlocks config (calls ++ [.window window now]) = toneBlocks config calls := by
  rw [toneBlocks, length_heard_snoc, Nat.succ_div_of_mod_ne_zero hinside]
  -- the blocks that are complete keep their votes
  refine List.countP_congr fun j hj => ?_
  rw [ballot_append (blocks_le (List.mem_range.1 hj))]

theorem toneBlocks_of_eq {config : LinkConfig} {calls : List (Call size)} (window : Window size)
    (now : UInt32) (hend : ((heard calls).length + 1) % config.window = 0) :
    toneBlocks config (calls ++ [.window window now]) = toneBlocks config calls
      + if isForTone config (ballot config (calls ++ [.window window now])
          ((heard calls).length / config.window)) then 1 else 0 := by
  rw [toneBlocks, length_heard_snoc, Nat.succ_div_of_mod_eq_zero hend, List.range_succ,
    List.countP_append, List.countP_singleton]
  congr 1
  refine List.countP_congr fun j hj => ?_
  rw [ballot_append (blocks_le (List.mem_range.1 hj))]

/-- The number of outcomes that come from a vote. -/
def decided (outcomes : List FrameOutcome) : Nat :=
  outcomes.countP FrameOutcome.isPartial + outcomes.countP FrameOutcome.isCommand
    + outcomes.countP FrameOutcome.isDiscarded + outcomes.countP FrameOutcome.isReset

theorem decided_append (outcomes more : List FrameOutcome) :
    decided (outcomes ++ more) = decided outcomes + decided more := by
  simp only [decided, List.countP_append]
  omega

theorem decided_of_ne_pending {outcome : FrameOutcome} (h : outcome ≠ .pending) :
    decided [outcome] = 1 := by
  cases outcome with
  | pending => exact absurd rfl h
  | bitAccepted _ | command _ | discarded _ | reset => rfl

/-- Each block of windows heard so far has one outcome other than waiting, a bit if its vote is for a tone. -/
structure Tallied (config : LinkConfig) (calls : List (Call size)) (answers : List Answer) : Prop where
  decided : decided (outcomes answers) = (heard calls).length / config.window
  accepted : (outcomes answers).countP FrameOutcome.isBit = toneBlocks config calls

variable {config : LinkConfig} {calls : List (Call size)} {answers : List Answer}
  {r : Receiver size capacity}

theorem Tallied.perform (h : Tallied config calls answers) (hpaced : Paced config calls r)
    (call : Call size) :
    Tallied config (calls ++ [call]) (answers ++ [(r.perform call).1]) := by
  cases call with
  | poll now =>
      rw [Receiver.perform]
      exact ⟨by rw [outcomes_polled, heard_poll, h.decided],
        by rw [outcomes_polled, toneBlocks_poll, h.accepted]⟩
  | window window now =>
      by_cases hend : ((heard calls).length + 1) % config.window = 0
      · obtain ⟨outcome, decoder, hdecided, hvote, hprocess⟩ := hpaced.process_of_eq hend window now
        rw [Receiver.perform, hprocess]
        refine ⟨?_, ?_⟩
        · rw [outcomes_outcome, decided_append, h.decided, decided_of_ne_pending hdecided,
            length_heard_snoc, Nat.succ_div_of_mod_eq_zero hend]
        · obtain ⟨bits, hbits⟩ := hpaced.ready.holds
          have hbit := Decoder.isBit_vote hbits
            (ballot config (calls ++ [.window window now]) ((heard calls).length / config.window)) now
          rw [hvote, isSome_bit? hpaced.ready.settings] at hbit
          rw [outcomes_outcome, List.countP_append, h.accepted, toneBlocks_of_eq window now hend,
            List.countP_singleton, hbit]
      · rw [Receiver.perform, hpaced.process_of_ne hend]
        refine ⟨?_, ?_⟩
        · rw [outcomes_outcome, decided_append, h.decided, length_heard_snoc,
            Nat.succ_div_of_mod_ne_zero hend]
          rfl
        · rw [outcomes_outcome, List.countP_append, h.accepted, toneBlocks_of_ne window now hend]
          rfl

/-! ## Runs -/

theorem tallied_run {start : Receiver size capacity}
    (hcreate : create size capacity config = .ok start) (calls : List (Call size)) :
    Tallied config calls (Run.answers Receiver.perform start calls) := by
  refine (Run.induction (motive := fun calls answers r =>
    Paced config calls r ∧ Tallied config calls answers) ?_ ?_ calls).2
  · have hnone : toneBlocks config ([] : List (Call size)) = 0 := by simp [toneBlocks, heard]
    exact ⟨paced_create hcreate, (Nat.zero_div _).symm, hnone.symm⟩
  · rintro calls answers r call ⟨hpaced, htallied⟩
    exact ⟨hpaced.perform call, htallied.perform hpaced call⟩

/-- The bits accepted are in complete bytes, lost or in progress. -/
theorem bits_run {start : Receiver size capacity}
    (hcreate : create size capacity config = .ok start) (calls : List (Call size)) :
    (outcomes (Run.answers perform start calls)).countP FrameOutcome.isBit
      = 8 * ((outcomes (Run.answers perform start calls)).countP FrameOutcome.isCommand
          + (outcomes (Run.answers perform start calls)).countP FrameOutcome.isDiscarded)
        + lostBits start calls + (Run.final perform start calls).decoder.bitCount := by
  induction calls using List.reverseRecOn with
  | nil =>
      obtain ⟨-, -, rfl⟩ := create_eq_ok_iff.1 hcreate
      rfl
  | append_singleton calls call ih =>
      obtain ⟨bits, hbits⟩ := (paced_run hcreate calls).ready.holds
      have hcall := bits_perform hbits call
      rw [Run.answers_snoc, Run.final_snoc, outcomes_append, lostBits_snoc]
      simp only [List.countP_append]
      omega

/-- The ticks of the polls among the calls, in order. -/
def polls (calls : List (Call size)) : List UInt32 :=
  calls.filterMap fun
    | .window _ _ => none
    | .poll now => some now

theorem length_polled (start : Receiver size capacity) (calls : List (Call size)) :
    (polled (Run.answers perform start calls)).length = (polls calls).length := by
  induction calls generalizing start with
  | nil => rfl
  | cons call calls ih =>
      cases call with
      | window window now => exact ih _
      | poll now => exact congrArg Nat.succ (ih _)

/-- The counts of the receiver that `start` is after the calls account for all of them. -/
structure Balances (config : LinkConfig) (start : Receiver size capacity) (calls : List (Call size)) :
    Prop where
  windows : (Run.final perform start calls).stats.windows.toNat = (heard calls).length
  framesDecoded : (Run.final perform start calls).stats.framesDecoded.toNat
    = (outcomes (Run.answers perform start calls)).countP FrameOutcome.isCommand
  framesDiscarded : (Run.final perform start calls).stats.framesDiscarded.toNat
    = (outcomes (Run.answers perform start calls)).countP FrameOutcome.isDiscarded
  resets : (Run.final perform start calls).stats.resets.toNat
    = (outcomes (Run.answers perform start calls)).countP FrameOutcome.isReset
  timeouts : (Run.final perform start calls).stats.timeouts.toNat
    = (polled (Run.answers perform start calls)).count true
  /-- There is a vote for each complete block of windows. -/
  votes : (Run.final perform start calls).stats.windows.toNat / config.window
    = (outcomes (Run.answers perform start calls)).countP FrameOutcome.isPartial
      + (Run.final perform start calls).stats.framesDecoded.toNat
      + (Run.final perform start calls).stats.framesDiscarded.toNat
      + (Run.final perform start calls).stats.resets.toNat
  /-- Each vote for a tone is accepted as a bit, and no other is. -/
  accepted : (outcomes (Run.answers perform start calls)).countP FrameOutcome.isBit
    = toneBlocks config calls
  bits : toneBlocks config calls
    = 8 * ((Run.final perform start calls).stats.framesDecoded.toNat
          + (Run.final perform start calls).stats.framesDiscarded.toNat)
      + lostBits start calls + (Run.final perform start calls).decoder.bitCount

theorem toNat_ofNat_countP {outcomes : List FrameOutcome} (h : outcomes.length < 2 ^ 32)
    (p : FrameOutcome → Bool) : (UInt32.ofNat (outcomes.countP p)).toNat = outcomes.countP p :=
  UInt32.toNat_ofNat_of_lt' (List.countP_le_length.trans_lt h)

/-- **The counts balance.** As long as they do not overflow, the counts of a receiver account for every window,
every vote and every bit of a run. -/
theorem balances_run {start : Receiver size capacity}
    (hcreate : create size capacity config = .ok start) {calls : List (Call size)}
    (hwindows : (heard calls).length < 2 ^ 32) (hpolls : (polls calls).length < 2 ^ 32) :
    Balances config start calls := by
  have hstats := stats_eq_tally hcreate calls
  have htallied := tallied_run hcreate calls
  have hbits := bits_run hcreate calls
  have hlength := (inCadence_run hcreate calls).length
  have hfew : (outcomes (Run.answers perform start calls)).length < 2 ^ 32 := hlength ▸ hwindows
  have hpolled : (polled (Run.answers perform start calls)).length < 2 ^ 32 :=
    (length_polled start calls) ▸ hpolls
  have hheard : (Run.final perform start calls).stats.windows.toNat = (heard calls).length := by
    rw [hstats, tally, UInt32.toNat_ofNat_of_lt' hfew, hlength]
  have hdecoded : (Run.final perform start calls).stats.framesDecoded.toNat
      = (outcomes (Run.answers perform start calls)).countP FrameOutcome.isCommand := by
    rw [hstats, tally, toNat_ofNat_countP hfew]
  have hdiscarded : (Run.final perform start calls).stats.framesDiscarded.toNat
      = (outcomes (Run.answers perform start calls)).countP FrameOutcome.isDiscarded := by
    rw [hstats, tally, toNat_ofNat_countP hfew]
  have hresets : (Run.final perform start calls).stats.resets.toNat
      = (outcomes (Run.answers perform start calls)).countP FrameOutcome.isReset := by
    rw [hstats, tally, toNat_ofNat_countP hfew]
  refine ⟨hheard, hdecoded, hdiscarded, hresets, ?_, ?_, htallied.accepted, ?_⟩
  · rw [hstats, tally, UInt32.toNat_ofNat_of_lt' (List.count_le_length.trans_lt hpolled)]
  · rw [hheard, hdecoded, hdiscarded, hresets, ← htallied.decided, decided]
  · rw [hdecoded, hdiscarded, ← htallied.accepted, hbits]

/-- A window without a tone. -/
def silence : Window 8 := Vector.replicate 8 0

/-- The windows of one bit at the trial settings. -/
def trialBit (bit : Bool) : List (Call 8) :=
  List.replicate 3 (.window (trialWindow bit) 200)

/-- A complete frame, two bits that a late poll drops, a bit that a block of silent windows breaks off, and a
bit and a window of the next one. -/
def brokenFrames : List (Call 8) :=
  trialFrame 6 ++ trialBit true ++ trialBit false ++ [.poll 100000] ++ trialBit true
    ++ List.replicate 3 (.window silence 200) ++ trialBit false ++ [.window (trialWindow true) 200]

/-- Of the twelve bits of these frames eight are in the complete byte, three are lost and one is in progress. -/
theorem balances_brokenFrames :
    ∃ start : Receiver 8 4, create 8 4 trialConfig = .ok start ∧
      Balances trialConfig start brokenFrames ∧
      toneBlocks trialConfig brokenFrames = 12 ∧
      (Run.final perform start brokenFrames).stats = ⟨40, 1, 0, 1, 1⟩ ∧
      lostBits start brokenFrames = 3 := by
  have hvalid : trialConfig.validate 8 = .ok () :=
    (LinkConfig.validate_eq_ok_iff trialConfig 8).2 (by decide +kernel)
  have hcreate : create 8 4 trialConfig = .ok _ := create_eq_ok_iff.2 ⟨hvalid, by decide, rfl⟩
  refine ⟨_, hcreate, balances_run hcreate (by decide +kernel) (by decide +kernel), ?_, ?_, ?_⟩ <;>
    decide +kernel

end Receiver

end LightPilot
