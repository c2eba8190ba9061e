import LightPilot.Proofs.Link.Assembly
import LightPilot.Proofs.Link.Reception

set_option autoImplicit false

/-! # Votes are taken over consecutive blocks of windows

A receiver keeps the latest frequencies in a history and counts the windows since the last vote. It could
as well work in one batch: find the frequency of every window, cut the list into blocks, let each block
vote, and hand the votes and the polls to the decoder in their order (`decoderCalls`). The two agree on
every run (`inBlocks_run`), so a vote depends on the windows of its own block alone: not on the capacity of the
history, on earlier windows, on ticks or on polls.

What holds after each call is that the counter is the number of windows heard, modulo the length of a
block, and that the history starts with the latest of them (`Paced`). -/

namespace LightPilot

/-- A vote over places that are all filled is the plain vote over their values. -/
theorem FrequencyHistory.majority?_of_take {capacity window : Nat}
    {history : FrequencyHistory capacity} {values : List UInt16} (hfits : window ≤ capacity)
    (hlength : values.length = window) (hrecent : history.recent.take window = values.reverse) :
    history.majority? window = Vote.majority? values := by
  ext value
  rw [majority?_eq_some_iff, Vote.majority?_eq_some_iff, Nat.min_eq_left hfits, hrecent,
    List.count_reverse, hlength]

theorem Decoder.vote_ne_pending (d : Decoder) (elected : Option UInt16) (now : UInt32) :
    (d.vote elected now).1 ≠ .pending := by
  rw [vote]
  split
  · simp
  · dsimp only
    split
    · simp
    · split <;> simp

namespace Receiver

variable {size capacity : Nat}

/-! ## The batch -/

/-- Block number `j` of the values, counted from zero. -/
def block (window : Nat) (values : List UInt16) (j : Nat) : List UInt16 :=
  (values.drop (j * window)).take window

/-- The peak frequencies of the windows among the calls. -/
def frequencies (config : LinkConfig) (calls : List (Call size)) : List UInt16 :=
  (heard calls).map fun entry => entry.1.peakFrequency config.sampleRate

/-- The vote of block number `j` of the windows among the calls. -/
def ballot (config : LinkConfig) (calls : List (Call size)) (j : Nat) : Option UInt16 :=
  Vote.majority? (block config.window (frequencies config calls) j)

/-- The calls on the decoder when `count` windows were heard before: the vote of each block at the tick
of its last window, and the polls. -/
def feed (config : LinkConfig) (ballot : Nat → Option UInt16) (count : Nat) :
    List (Call size) → List Decoder.Call
  | [] => []
  | .poll now :: calls => .pause now :: feed config ballot count calls
  | .window _ now :: calls =>
    if (count + 1) % config.window = 0 then
      .vote (ballot (count / config.window)) now :: feed config ballot (count + 1) calls
    else feed config ballot (count + 1) calls

/-- The calls on the decoder that a batch makes of the calls on the receiver. -/
def decoderCalls (config : LinkConfig) (calls : List (Call size)) : List Decoder.Call :=
  feed config (ballot config calls) 0 calls

/-- The answer of the receiver to a call that the decoder answers. -/
def Answer.ofEvent : Decoder.Event → Answer
  | .voted _ result => .outcome result
  | .paused _ dropped => .polled dropped

/-- Whether the decoder had a part in an answer. -/
def Answer.isDecoded : Answer → Bool
  | .outcome .pending => false
  | _ => true

theorem isDecoded_outcome {outcome : FrameOutcome} (h : outcome ≠ .pending) :
    (Answer.outcome outcome).isDecoded = true := by
  cases outcome <;> simp_all [Answer.isDecoded]

/-- The receiver `start` answers the calls like the batch. -/
structure InBlocks (config : LinkConfig) (start : Receiver size capacity)
    (calls : List (Call size)) : Prop where
  answered : (outcomes (Run.answers perform start calls)).length = (heard calls).length
  /-- Window number `k + 1` waits unless it ends a block. -/
  cadence : ∀ k outcome, (outcomes (Run.answers perform start calls))[k]? = some outcome →
    (outcome = .pending ↔ ¬ config.window ∣ k + 1)
  /-- The window that ends block `j` gives the vote of that block to the decoder. -/
  fed : ∀ earlier window now later j, calls = earlier ++ .window window now :: later →
    (heard earlier).length + 1 = (j + 1) * config.window →
    (((Run.final perform start earlier).process window now).1,
        ((Run.final perform start earlier).process window now).2.decoder)
      = (Run.final perform start earlier).decoder.vote (ballot config calls j) now
  answers : (Run.answers perform start calls).filter Answer.isDecoded
    = (Run.answers Decoder.perform (Decoder.ofConfig config size) (decoderCalls config calls)).map
        Answer.ofEvent
  decoder : (Run.final perform start calls).decoder
    = Run.final Decoder.perform (Decoder.ofConfig config size) (decoderCalls config calls)

/-! ## Blocks of a growing list -/

theorem block_append {window j : Nat} {values : List UInt16}
    (h : (j + 1) * window ≤ values.length) (more : List UInt16) :
    block window (values ++ more) j = block window values j := by
  rw [Nat.succ_mul] at h
  rw [block, block, List.drop_append_of_le_length (by omega), List.take_append_of_le_length]
  rw [List.length_drop]
  omega

theorem length_block {window j : Nat} {values : List UInt16}
    (h : (j + 1) * window ≤ values.length) : (block window values j).length = window := by
  rw [Nat.succ_mul] at h
  rw [block, List.length_take, List.length_drop]
  omega

theorem length_frequencies (config : LinkConfig) (calls : List (Call size)) :
    (frequencies config calls).length = (heard calls).length :=
  List.length_map ..

theorem frequencies_append (config : LinkConfig) (calls more : List (Call size)) :
    frequencies config (calls ++ more) = frequencies config calls ++ frequencies config more := by
  rw [frequencies, heard_append, List.map_append, frequencies, frequencies]

/-- The vote of a complete block stays as it is. -/
theorem ballot_append {config : LinkConfig} {calls : List (Call size)} {j : Nat}
    (h : (j + 1) * config.window ≤ (heard calls).length) (more : List (Call size)) :
    ballot config (calls ++ more) j = ballot config calls j := by
  rw [ballot, frequencies_append, block_append (by rwa [length_frequencies]), ballot]

/-- A window ends a block if no place of the block is left. -/
theorem succ_mod_eq_zero_iff {window : Nat} (hwindow : 0 < window) (count : Nat) :
    (count + 1) % window = 0 ↔ window ≤ count % window + 1 := by
  have hlt := Nat.mod_lt count hwindow
  rw [← Nat.mod_add_mod]
  rcases Nat.lt_or_ge (count % window + 1) window with hinside | hend
  · rw [Nat.mod_eq_of_lt hinside]
    omega
  · have hwhole : count % window + 1 = window := by omega
    rw [hwhole, Nat.mod_self]
    simp

theorem succ_mod_of_ne_zero {window count : Nat} (hwindow : 0 < window)
    (h : (count + 1) % window ≠ 0) : (count + 1) % window = count % window + 1 := by
  rw [Ne, succ_mod_eq_zero_iff hwindow] at h
  rw [← Nat.mod_add_mod, Nat.mod_eq_of_lt (by omega)]

theorem succ_eq_of_mod_eq_zero {window count : Nat} (hwindow : 0 < window)
    (h : (count + 1) % window = 0) : count + 1 = (count / window + 1) * window := by
  have hdiv := Nat.div_add_mod count window
  have hlt := Nat.mod_lt count hwindow
  rw [succ_mod_eq_zero_iff hwindow] at h
  rw [Nat.succ_mul, Nat.mul_comm]
  omega

/-! ## The history and the counter stay in step -/

/-- The receiver after the calls. -/
structure Paced (config : LinkConfig) (calls : List (Call size)) (r : Receiver size capacity) :
    Prop where
  ready : r.Ready config
  window_pos : 0 < config.window
  window_le : config.window ≤ capacity
  cadence : r.windowsSinceVote = (heard calls).length % config.window
  newest : (frequencies config calls).reverse.take capacity <+: r.history.recent

theorem paced_create {config : LinkConfig} {start : Receiver size capacity}
    (hcreate : create size capacity config = .ok start) : Paced config [] start := by
  obtain ⟨-, ⟨hpos, hle⟩, hstart⟩ := create_eq_ok_iff.1 hcreate
  refine ⟨ready_create hcreate, hpos, hle, ?_, ?_⟩
  · rw [hstart]
    exact (Nat.zero_mod _).symm
  · simp [frequencies, heard]

variable {config : LinkConfig} {calls : List (Call size)} {r : Receiver size capacity}

/-- The history ends with the block that a window completes. -/
theorem Paced.majority? (h : Paced config calls r) {j : Nat}
    (hend : (heard calls).length + 1 = (j + 1) * config.window) (window : Window size)
    (now : UInt32) :
    (r.history.push (window.peakFrequency config.sampleRate)).majority? config.window
      = ballot config (calls ++ [.window window now]) j := by
  have hlength : (frequencies config (calls ++ [.window window now])).length
      = (j + 1) * config.window := by
    rw [length_frequencies, length_heard_snoc, hend]
  refine FrequencyHistory.majority?_of_take h.window_le (length_block hlength.ge) ?_
  exact newest_eq h.window_le (newest_snoc h.newest window now) hlength

/-- A window inside a block waits for the others. -/
theorem Paced.process_of_ne (h : Paced config calls r)
    (hinside : ((heard calls).length + 1) % config.window ≠ 0) (window : Window size)
    (now : UInt32) :
    r.process window now
      = (.pending, { r.record (window.peakFrequency config.sampleRate) with
          windowsSinceVote := ((heard calls).length + 1) % config.window }) := by
  have hroom : r.windowsSinceVote + 1 < r.window := by
    rw [Ne, succ_mod_eq_zero_iff h.window_pos] at hinside
    rw [h.cadence, h.ready.window]
    exact Nat.not_le.1 hinside
  rw [process, h.ready.sampleRate, hear_of_lt hroom, h.cadence,
    succ_mod_of_ne_zero h.window_pos hinside]

/-- A window at the end of a block is followed by the vote of that block. -/
theorem Paced.process_of_eq (h : Paced config calls r)
    (hend : ((heard calls).length + 1) % config.window = 0) (window : Window size)
    (now : UInt32) :
    ∃ outcome decoder, outcome ≠ .pending ∧
      r.decoder.vote (ballot config (calls ++ [.window window now])
        ((heard calls).length / config.window)) now = (outcome, decoder) ∧
      r.process window now = (outcome, { r.record (window.peakFrequency config.sampleRate) with
        windowsSinceVote := 0
        decoder
        stats := (r.record (window.peakFrequency config.sampleRate)).stats.record outcome }) := by
  have hcount := succ_eq_of_mod_eq_zero h.window_pos hend
  have hdecided := r.decoder.vote_ne_pending (ballot config (calls ++ [.window window now])
    ((heard calls).length / config.window)) now
  rw [← h.majority? hcount window now] at hdecided ⊢
  generalize hvote : r.decoder.vote _ now = result at hdecided ⊢
  refine ⟨result.1, result.2, hdecided, rfl, ?_⟩
  rw [process, h.ready.sampleRate]
  refine hear_of_le ?_ ?_
  · rw [h.cadence, h.ready.window, ← succ_mod_eq_zero_iff h.window_pos, hend]
  · rw [h.ready.window, hvote]

theorem Paced.poll (h : Paced config calls r) (now : UInt32) :
    Paced config (calls ++ [.poll now]) (r.pollTimeout now).2 := by
  refine ⟨ready_perform h.ready (.poll now), h.window_pos, h.window_le, ?_, ?_⟩
  · rw [heard_poll]
    exact h.cadence
  · rw [frequencies, heard_poll]
    exact h.newest

theorem Paced.window (h : Paced config calls r) (window : Window size) (now : UInt32) :
    Paced config (calls ++ [.window window now]) (r.process window now).2 := by
  have hready : (r.process window now).2.Ready config := ready_perform h.ready (.window window now)
  have hnewest := newest_snoc h.newest window now
  by_cases hend : ((heard calls).length + 1) % config.window = 0
  · obtain ⟨outcome, decoder, -, -, hprocess⟩ := h.process_of_eq hend window now
    rw [hprocess] at hready ⊢
    refine ⟨hready, h.window_pos, h.window_le, ?_, hnewest⟩
    rw [length_heard_snoc, hend]
  · rw [h.process_of_ne hend] at hready ⊢
    refine ⟨hready, h.window_pos, h.window_le, ?_, hnewest⟩
    rw [length_heard_snoc]

theorem Paced.perform (h : Paced config calls r) (call : Call size) :
    Paced config (calls ++ [call]) (r.perform call).2 := by
  cases call with
  | poll now => exact h.poll now
  | window window now => exact h.window window now

/-! ## Runs -/

theorem paced_run {start : Receiver size capacity}
    (hcreate : create size capacity config = .ok start) (calls : List (Call size)) :
    Paced config calls (Run.final Receiver.perform start calls) :=
  Run.induction (motive := fun calls _ r => Paced config calls r) (paced_create hcreate)
    (fun _ _ _ call h => h.perform call) calls

/-- The outcomes so far came in the cadence of the blocks. -/
structure InCadence (config : LinkConfig) (calls : List (Call size)) (answers : List Answer) :
    Prop where
  length : (outcomes answers).length = (heard calls).length
  pending : ∀ k outcome, (outcomes answers)[k]? = some outcome →
    (outcome = .pending ↔ ¬ config.window ∣ k + 1)

theorem Paced.process_eq_pending_iff (h : Paced config calls r) (window : Window size)
    (now : UInt32) :
    (r.process window now).1 = .pending ↔ ¬ config.window ∣ (heard calls).length + 1 := by
  rw [Nat.dvd_iff_mod_eq_zero]
  by_cases hend : ((heard calls).length + 1) % config.window = 0
  · obtain ⟨outcome, decoder, hdecided, -, hprocess⟩ := h.process_of_eq hend window now
    rw [hprocess]
    simp [hend, hdecided]
  · rw [h.process_of_ne hend]
    simp [hend]

theorem InCadence.perform {answers : List Answer} (h : InCadence config calls answers)
    (hpaced : Paced config calls r) (call : Call size) :
    InCadence config (calls ++ [call]) (answers ++ [(r.perform call).1]) := by
  cases call with
  | poll now =>
      rw [Receiver.perform]
      exact ⟨by rw [heard_poll, outcomes_polled, h.length], by rw [outcomes_polled]; exact h.pending⟩
  | window window now =>
      rw [Receiver.perform]
      refine ⟨?_, fun k outcome hk => ?_⟩
      · rw [outcomes_outcome, length_heard_snoc, List.length_append, List.length_singleton, h.length]
      · rw [outcomes_outcome, List.getElem?_append] at hk
        split at hk
        · exact h.pending k outcome hk
        · next hge =>
            -- only the newest window is left
            obtain ⟨hlt, hlast⟩ := List.getElem?_eq_some_iff.1 hk
            rw [List.length_singleton] at hlt
            obtain rfl : k = (outcomes answers).length := by omega
            obtain rfl : (r.process window now).1 = outcome := by simpa using hlast
            rw [h.length]
            exact hpaced.process_eq_pending_iff window now

theorem inCadence_run {start : Receiver size capacity}
    (hcreate : create size capacity config = .ok start) (calls : List (Call size)) :
    InCadence config calls (Run.answers Receiver.perform start calls) := by
  refine (Run.induction (motive := fun calls answers r =>
    Paced config calls r ∧ InCadence config calls answers) ?_ ?_ calls).2
  · exact ⟨paced_create hcreate, rfl, fun k outcome hk => by simp [outcomes] at hk⟩
  · rintro calls answers r call ⟨hpaced, hcadence⟩
    exact ⟨hpaced.perform call, hcadence.perform hpaced call⟩

/-- From any point of a run on, the receiver answers like the batch. -/
theorem Paced.agrees (h : Paced config calls r) (later : List (Call size)) :
    (Run.answers Receiver.perform r later).filter Answer.isDecoded
        = (Run.answers Decoder.perform r.decoder (feed config (ballot config (calls ++ later))
            (heard calls).length later)).map Answer.ofEvent ∧
      (Run.final Receiver.perform r later).decoder
        = Run.final Decoder.perform r.decoder (feed config (ballot config (calls ++ later))
            (heard calls).length later) := by
  induction later generalizing calls r with
  | nil => exact ⟨rfl, rfl⟩
  | cons call later ih =>
      have hnext := ih (h.perform call)
      rw [List.append_assoc, List.singleton_append] at hnext
      cases call with
      | poll now =>
          rw [heard_poll] at hnext
          exact ⟨congrArg (Answer.polled (r.pollTimeout now).1 :: ·) hnext.1, hnext.2⟩
      | window window now =>
          rw [length_heard_snoc] at hnext
          rw [Run.answers, Run.final, feed]
          by_cases hend : ((heard calls).length + 1) % config.window = 0
          · obtain ⟨outcome, decoder, hdecided, hvote, hprocess⟩ := h.process_of_eq hend window now
            have hcount := succ_eq_of_mod_eq_zero h.window_pos hend
            have hballot : ballot config (calls ++ .window window now :: later)
                ((heard calls).length / config.window)
                  = ballot config (calls ++ [.window window now])
                      ((heard calls).length / config.window) := by
              rw [← List.singleton_append, ← List.append_assoc, ballot_append]
              rw [length_heard_snoc, ← hcount]
            rw [if_pos hend, hballot, Run.answers, Run.final, Decoder.perform, hvote]
            rw [Receiver.perform, hprocess] at hnext ⊢
            refine ⟨?_, hnext.2⟩
            rw [List.filter_cons_of_pos (isDecoded_outcome hdecided), hnext.1]
            rfl
          · have hprocess := h.process_of_ne hend window now
            rw [if_neg hend]
            rw [Receiver.perform, hprocess] at hnext ⊢
            exact hnext

/-- **Batches.** On every run a new receiver answers as a batch would that lets each block of windows
vote and hands the votes and polls to the decoder. -/
theorem inBlocks_run {start : Receiver size capacity}
    (hcreate : create size capacity config = .ok start) (calls : List (Call size)) :
    InBlocks config start calls := by
  have hcadence := inCadence_run hcreate calls
  have hbatch := (paced_create hcreate).agrees calls
  have hdecoder : start.decoder = Decoder.ofConfig config size := by
    obtain ⟨-, -, rfl⟩ := create_eq_ok_iff.1 hcreate
    rfl
  rw [List.nil_append, hdecoder] at hbatch
  refine ⟨hcadence.length, hcadence.pending, ?_, hbatch.1, hbatch.2⟩
  rintro earlier window now later j rfl hend
  have hpaced := paced_run hcreate earlier
  have hmod : ((heard earlier).length + 1) % config.window = 0 := by rw [hend, Nat.mul_mod_left]
  have hdiv : (heard earlier).length / config.window = j := by
    have hcount := succ_eq_of_mod_eq_zero hpaced.window_pos hmod
    have hblocks := Nat.eq_of_mul_eq_mul_right hpaced.window_pos (hcount.symm.trans hend)
    omega
  obtain ⟨outcome, decoder, -, hvote, hprocess⟩ := hpaced.process_of_eq hmod window now
  rw [hprocess, ← List.singleton_append, ← List.append_assoc, ballot_append, ← hdiv, hvote]
  rw [length_heard_snoc, hend]

/-- The history holds four frequencies and the blocks are of three, so they move against each other; the
blocks of a frame vote for its bits all the same. -/
theorem inBlocks_trialFrame :
    ∃ start : Receiver 8 4, create 8 4 trialConfig = .ok start ∧
      InBlocks trialConfig start (trialFrame 6) ∧
      (List.range 8).map (ballot trialConfig (trialFrame 6))
        = (Frame.bits 6).map fun bit => some (trialConfig.tone bit) := by
  have hvalid : trialConfig.validate 8 = .ok () :=
    (LinkConfig.validate_eq_ok_iff trialConfig 8).2 (by decide +kernel)
  have hcreate : create 8 4 trialConfig = .ok _ := create_eq_ok_iff.2 ⟨hvalid, by decide, rfl⟩
  exact ⟨_, hcreate, inBlocks_run hcreate (trialFrame 6), by decide +kernel⟩

end Receiver

end LightPilot
