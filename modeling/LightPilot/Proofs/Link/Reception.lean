import LightPilot.Link.Receiver
import LightPilot.Proofs.Link.Config
import LightPilot.Proofs.Link.Decoder
import LightPilot.Proofs.Link.Vote
import LightPilot.Proofs.Run

set_option autoImplicit false

/-! # A noisy frame is decoded whatever came before

A receiver that waits for a new byte hears eight groups of windows. If more than half of the windows of
each group are heard as the tone of its bit, the groups are decoded as that byte, whatever the other
windows are, whatever is left in the history from earlier traffic, and however often the receiver is
polled in between, as long as no poll comes too late.

The proof follows the calls one by one with an invariant (`Receiver.Midframe`): the counter of windows
runs with the windows heard, the history starts with them, newest first, and the decoder holds the bits of
the complete groups. At the end of a group the newest entries of the history are exactly the windows of
that group, so the vote elects its tone. -/

namespace LightPilot.Receiver

variable {size capacity : Nat}

/-! ## Calls -/

/-- A call on a receiver. -/
inductive Call (size : Nat)
  | window (window : Window size) (now : UInt32)
  | poll (now : UInt32)

/-- The answer to a call. -/
inductive Answer
  | outcome (outcome : FrameOutcome)
  | polled (dropped : Bool)

/-- Makes one call. -/
def perform (r : Receiver size capacity) : Call size → Answer × Receiver size capacity
  | .window window now => (.outcome (r.process window now).1, (r.process window now).2)
  | .poll now => (.polled (r.pollTimeout now).1, (r.pollTimeout now).2)

/-- The windows among the calls, in order, with their ticks. -/
def heard (calls : List (Call size)) : List (Window size × UInt32) :=
  calls.filterMap fun
    | .window window now => some (window, now)
    | .poll _ => none

/-- The outcomes among the answers, in order. -/
def outcomes (answers : List Answer) : List FrameOutcome :=
  answers.filterMap fun
    | .outcome outcome => some outcome
    | .polled _ => none

theorem heard_append (calls more : List (Call size)) :
    heard (calls ++ more) = heard calls ++ heard more :=
  List.filterMap_append ..

theorem heard_poll (calls : List (Call size)) (now : UInt32) :
    heard (calls ++ [.poll now]) = heard calls :=
  (heard_append ..).trans (List.append_nil _)

theorem outcomes_append (answers more : List Answer) :
    outcomes (answers ++ more) = outcomes answers ++ outcomes more :=
  List.filterMap_append ..

theorem outcomes_outcome (answers : List Answer) (outcome : FrameOutcome) :
    outcomes (answers ++ [.outcome outcome]) = outcomes answers ++ [outcome] :=
  outcomes_append ..

theorem outcomes_polled (answers : List Answer) (dropped : Bool) :
    outcomes (answers ++ [.polled dropped]) = outcomes answers :=
  (outcomes_append ..).trans (List.append_nil _)

/-! ## What one call does -/

theorem create_eq_ok_iff {config : LinkConfig} {r : Receiver size capacity} :
    create size capacity config = .ok r ↔
      config.validate size = .ok () ∧ (0 < config.window ∧ config.window ≤ capacity) ∧
      r = {
        sampleRate := config.sampleRate
        decoder := Decoder.ofConfig config size
        window := config.window } := by
  have hwindow : ¬ (config.window = 0 ∨ config.window > capacity) ↔
      0 < config.window ∧ config.window ≤ capacity := by omega
  rw [create, Check.bind_eq_ok_iff, Check.before_eq_ok_iff, hwindow]
  constructor
  · rintro ⟨hvalid, hfits, hr⟩
    exact ⟨hvalid, hfits, (Except.ok.inj hr).symm⟩
  · rintro ⟨hvalid, hfits, rfl⟩
    exact ⟨hvalid, hfits, rfl⟩

/-- A window that does not complete a group waits for the vote. -/
theorem hear_of_lt {r : Receiver size capacity} (h : r.windowsSinceVote + 1 < r.window)
    (frequency : UInt16) (now : UInt32) :
    r.hear frequency now
      = (.pending, { r.record frequency with windowsSinceVote := r.windowsSinceVote + 1 }) := by
  rw [hear]
  exact if_pos h

/-- A window that completes a group is followed by the vote. -/
theorem hear_of_le {r : Receiver size capacity} (h : r.window ≤ r.windowsSinceVote + 1)
    {frequency : UInt16} {now : UInt32} {outcome : FrameOutcome} {decoder : Decoder}
    (hvote : r.decoder.vote ((r.history.push frequency).majority? r.window) now
      = (outcome, decoder)) :
    r.hear frequency now = (outcome, { r.record frequency with
      windowsSinceVote := 0
      decoder
      stats := (r.record frequency).stats.record outcome }) := by
  have hvote' : (r.record frequency).decoder.vote
      ((r.record frequency).history.majority? (r.record frequency).window) now
        = (outcome, decoder) := hvote
  have hcomplete : ¬ (r.record frequency).windowsSinceVote + 1 < (r.record frequency).window :=
    Nat.not_lt.2 h
  rw [hear]
  dsimp only
  rw [if_neg hcomplete, hvote']

/-- The receiver has its settings and holds less than a byte. -/
structure Ready (config : LinkConfig) (r : Receiver size capacity) : Prop where
  sampleRate : r.sampleRate = config.sampleRate
  window : r.window = config.window
  settings : r.decoder.settings = Decoder.ofConfig config size
  holds : ∃ bits, r.decoder.Holds bits

theorem ready_create {config : LinkConfig} {r : Receiver size capacity}
    (h : create size capacity config = .ok r) : r.Ready config := by
  obtain ⟨-, -, rfl⟩ := create_eq_ok_iff.1 h
  exact ⟨rfl, rfl, rfl, [], Decoder.holds_clear (Decoder.ofConfig config size)⟩

theorem ready_hear {config : LinkConfig} {r : Receiver size capacity} (h : r.Ready config)
    (frequency : UInt16) (now : UInt32) : (r.hear frequency now).2.Ready config := by
  by_cases hlt : r.windowsSinceVote + 1 < r.window
  · rw [hear_of_lt hlt]
    exact ⟨h.sampleRate, h.window, h.settings, h.holds⟩
  · rw [hear_of_le (Nat.not_lt.1 hlt) rfl]
    refine ⟨h.sampleRate, h.window, ?_, Decoder.exists_holds_vote h.holds _ _⟩
    rw [← h.settings]
    exact Decoder.settings_vote ..

theorem ready_perform {config : LinkConfig} {r : Receiver size capacity} (h : r.Ready config)
    (call : Call size) : (r.perform call).2.Ready config := by
  cases call with
  | window window now => exact ready_hear h _ now
  | poll now =>
      refine ⟨h.sampleRate, h.window, ?_, Decoder.exists_holds_checkTimeout h.holds now⟩
      rw [← h.settings]
      exact Decoder.settings_checkTimeout ..

/-! ## Frames -/

/-- The number of complete groups of windows among the calls. -/
def groupCount (config : LinkConfig) (calls : List (Call size)) : Nat :=
  (heard calls).length / config.window

/-- The tick of the window that completed the last group. -/
def lastBitTick? (config : LinkConfig) (calls : List (Call size)) : Option UInt32 :=
  (((heard calls).take (groupCount config calls * config.window)).getLast?).map Prod.snd

/-- The calls carry the first bits of a byte. -/
structure Carries (config : LinkConfig) (byte : UInt8) (calls : List (Call size)) : Prop where
  /-- More than half of the windows of each group are heard as the tone of its bit. -/
  votes : ∀ i, (i + 1) * config.window ≤ (heard calls).length →
    (((heard calls).drop (i * config.window)).take config.window).countP
      (fun entry => entry.1.peakFrequency config.sampleRate
        == config.tone (byte.toNat.testBit i)) > config.window / 2
  /-- No poll comes too late after the last bit. -/
  polls : ∀ before now after tick, calls = before ++ .poll now :: after →
    lastBitTick? config before = some tick → now - tick ≤ config.timeoutTicks size

/-- The outcome of window number `k` of a frame, counted from zero. -/
def frameOutcome (config : LinkConfig) (byte : UInt8) (k : Nat) : FrameOutcome :=
  if (k + 1) % config.window ≠ 0 then .pending
  else if (k + 1) / config.window < 8 then .bitAccepted ((k + 1) / config.window)
  else .ofByte byte config.unitId config.addressBits

theorem frameOutcome_of_lt {config : LinkConfig} {k : Nat}
    (hinside : k % config.window + 1 < config.window) (byte : UInt8) :
    frameOutcome config byte k = .pending := by
  have hmod : (k + 1) % config.window = k % config.window + 1 := by
    rw [← Nat.mod_add_mod, Nat.mod_eq_of_lt hinside]
  rw [frameOutcome, hmod, if_pos (Nat.succ_ne_zero _)]

theorem frameOutcome_of_eq {config : LinkConfig} {k i : Nat} (hwindow : 0 < config.window)
    (htotal : k + 1 = (i + 1) * config.window) (byte : UInt8) :
    frameOutcome config byte k
      = if i + 1 < 8 then .bitAccepted (i + 1)
        else .ofByte byte config.unitId config.addressBits := by
  have hmod : ¬ (k + 1) % config.window ≠ 0 := by
    rw [htotal, Nat.mul_mod_left]
    exact fun hne => hne rfl
  have hdiv : (k + 1) / config.window = i + 1 := by
    rw [htotal, Nat.mul_div_cancel _ hwindow]
  rw [frameOutcome, if_neg hmod, hdiv]

theorem Carries.of_append {config : LinkConfig} {byte : UInt8} {calls more : List (Call size)}
    (h : Carries config byte (calls ++ more)) : Carries config byte calls := by
  constructor
  · intro i hi
    have hvotes := h.votes i
    have hadd : i * config.window + config.window = (i + 1) * config.window :=
      (Nat.succ_mul ..).symm
    rw [heard_append, List.length_append] at hvotes
    rw [List.drop_append_of_le_length (by omega), List.take_append_of_le_length] at hvotes
    · exact hvotes (by omega)
    · rw [List.length_drop]
      omega
  · intro before now after tick hcalls
    refine h.polls before now (after ++ more) tick ?_
    rw [hcalls, List.append_assoc, List.cons_append]

/-- The newest entries of the history after a group are the windows of that group. -/
theorem newest_eq {frequencies recent : List UInt16} {window i : Nat} (hfits : window ≤ capacity)
    (hrecent : frequencies.reverse.take capacity <+: recent)
    (hlength : frequencies.length = (i + 1) * window) :
    recent.take window = ((frequencies.drop (i * window)).take window).reverse := by
  have hadd : i * window + window = (i + 1) * window := (Nat.succ_mul ..).symm
  obtain ⟨older, rfl⟩ := hrecent
  have hplaces : window ≤ (frequencies.reverse.take capacity).length := by
    rw [List.length_take, List.length_reverse]
    exact Nat.le_min.2 ⟨hfits, by omega⟩
  -- older entries are out of reach
  rw [List.take_append_of_le_length hplaces, List.take_take, Nat.min_eq_left hfits,
    List.take_reverse, hlength]
  have hstart : (i + 1) * window - window = i * window := by omega
  rw [hstart, List.take_of_length_le]
  rw [List.length_drop]
  omega

theorem push_prefix {frequencies recent : List UInt16}
    (h : frequencies.reverse.take capacity <+: recent) (frequency : UInt16) :
    (frequencies ++ [frequency]).reverse.take capacity <+: (frequency :: recent).take capacity := by
  rw [List.reverse_append, List.reverse_singleton, List.singleton_append]
  cases capacity with
  | zero => simp
  | succ room =>
      rw [List.take_succ_cons, List.take_succ_cons, List.cons_prefix_cons]
      have hshorter : frequencies.reverse.take room <+: recent :=
        (List.take_prefix_take_left (Nat.le_succ room)).trans h
      exact ⟨rfl, List.prefix_take_iff.2 ⟨hshorter, List.length_take_le ..⟩⟩

/-- The bits of the complete groups; none once the byte is complete. -/
def groupBits (config : LinkConfig) (byte : UInt8) (calls : List (Call size)) : List Bool :=
  (Binary.bits byte).take (groupCount config calls % 8)

/-- The receiver in the middle of a frame, after `calls` were answered with `answers`. -/
structure Midframe (config : LinkConfig) (byte : UInt8) (calls : List (Call size))
    (answers : List Answer) (r : Receiver size capacity) : Prop where
  ready : r.Ready config
  answered : outcomes answers
    = (List.range (heard calls).length).map (frameOutcome config byte)
  quiet : ∀ answer ∈ answers, answer ≠ .polled true
  cadence : r.windowsSinceVote = (heard calls).length % config.window
  /-- The history starts with the windows heard. -/
  newest : ((heard calls).map fun entry =>
    entry.1.peakFrequency config.sampleRate).reverse.take capacity <+: r.history.recent
  bits : r.decoder.Holds (groupBits config byte calls)
  tick : groupCount config calls < 8 → ∀ tick, lastBitTick? config calls = some tick →
    r.decoder.lastBitTick = tick

theorem lastBitTick?_of_zero {config : LinkConfig} {calls : List (Call size)}
    (h : groupCount config calls = 0) : lastBitTick? config calls = none := by
  rw [lastBitTick?, h, Nat.zero_mul]
  rfl

theorem midframe_nil {config : LinkConfig} {byte : UInt8} {r : Receiver size capacity}
    (hready : r.Ready config) (hvote : r.windowsSinceVote = 0) (hcount : r.decoder.bitCount = 0) :
    Midframe config byte [] [] r := by
  have hnone : heard ([] : List (Call size)) = [] := rfl
  have hgroups : groupCount config ([] : List (Call size)) = 0 := Nat.zero_div _
  refine ⟨hready, rfl, by simp, ?_, ?_, ?_, ?_⟩
  · rw [hvote]
    exact (Nat.zero_mod _).symm
  · rw [hnone]
    simp
  · obtain ⟨bits, hholds⟩ := hready.holds
    have hempty : bits = [] := List.eq_nil_of_length_eq_zero (hholds.count ▸ hcount)
    rw [hempty] at hholds
    rw [groupBits, hgroups]
    exact hholds
  · intro _ tick htick
    rw [lastBitTick?_of_zero hgroups] at htick
    contradiction

theorem exists_lastBitTick {config : LinkConfig} {calls : List (Call size)}
    (h : 0 < groupCount config calls) : ∃ tick, lastBitTick? config calls = some tick := by
  have hle : groupCount config calls * config.window ≤ (heard calls).length := Nat.div_mul_le_self ..
  have hwindow : 0 < config.window := by
    refine Nat.pos_of_ne_zero fun hzero => ?_
    rw [groupCount, hzero, Nat.div_zero] at h
    contradiction
  have hpos : 0 < groupCount config calls * config.window := Nat.mul_pos h hwindow
  rw [lastBitTick?]
  cases hlast : ((heard calls).take (groupCount config calls * config.window)).getLast? with
  | none =>
      have hlength := congrArg List.length (List.getLast?_eq_none_iff.1 hlast)
      rw [List.length_take, List.length_nil] at hlength
      omega
  | some entry => exact ⟨entry.2, rfl⟩

/-- A poll in time leaves the decoder with its bits and the tick of the last one. -/
theorem Midframe.checkTimeout {config : LinkConfig} {byte : UInt8} {calls : List (Call size)}
    {answers : List Answer} {r : Receiver size capacity} (h : Midframe config byte calls answers r)
    (hlength : (heard calls).length ≤ 8 * config.window) {now : UInt32}
    (hcarries : Carries config byte (calls ++ [.poll now])) :
    (r.decoder.checkTimeout now).1 = false ∧
      (r.decoder.checkTimeout now).2.Holds (groupBits config byte calls) ∧
      (groupCount config calls < 8 → ∀ tick, lastBitTick? config calls = some tick →
        (r.decoder.checkTimeout now).2.lastBitTick = tick) := by
  have hle : groupCount config calls ≤ 8 := Nat.div_le_of_le_mul (by rwa [Nat.mul_comm])
  by_cases hnone : groupCount config calls % 8 = 0
  · -- no byte is in progress, so the poll finds nothing to drop
    have hempty : groupBits config byte calls = [] := by
      rw [groupBits, hnone]
      rfl
    have hholds := h.bits
    rw [hempty] at hholds ⊢
    obtain ⟨hquiet, hnext⟩ := Decoder.checkTimeout_of_nil hholds now
    refine ⟨hquiet, hnext, fun hlt tick htick => ?_⟩
    rw [lastBitTick?_of_zero (by omega)] at htick
    contradiction
  · have hpos : 0 < groupCount config calls := by omega
    obtain ⟨tick, htick⟩ := exists_lastBitTick hpos
    have hintime := hcarries.polls calls now [] tick rfl htick
    have hsame : r.decoder.lastBitTick = tick := h.tick (by omega) tick htick
    have htimeout : r.decoder.timeoutTicks = config.timeoutTicks size :=
      congrArg Decoder.timeoutTicks h.ready.settings
    rw [← hsame, ← htimeout] at hintime
    rw [Decoder.checkTimeout_of_le hintime]
    exact ⟨rfl, h.bits, h.tick⟩

/-- A poll in time drops nothing. -/
theorem midframe_poll {config : LinkConfig} {byte : UInt8} {calls : List (Call size)}
    {answers : List Answer} {r : Receiver size capacity} (h : Midframe config byte calls answers r)
    (hlength : (heard calls).length ≤ 8 * config.window) {now : UInt32}
    (hcarries : Carries config byte (calls ++ [.poll now])) :
    Midframe config byte (calls ++ [.poll now]) (answers ++ [.polled (r.pollTimeout now).1])
      (r.pollTimeout now).2 := by
  have hheard : heard (calls ++ [.poll now]) = heard calls :=
    (heard_append ..).trans (List.append_nil _)
  have hgroups : groupCount config (calls ++ [.poll now]) = groupCount config calls := by
    rw [groupCount, hheard, groupCount]
  have hbits : groupBits config byte (calls ++ [.poll now]) = groupBits config byte calls := by
    rw [groupBits, hgroups, groupBits]
  have hlast : lastBitTick? config (calls ++ [.poll now]) = lastBitTick? config calls := by
    rw [lastBitTick?, hheard, hgroups, lastBitTick?]
  obtain ⟨hquiet, hholds, htick⟩ := h.checkTimeout hlength hcarries
  refine ⟨ready_perform h.ready (.poll now), ?_, ?_, ?_, ?_, ?_, ?_⟩
  · rw [hheard, outcomes_polled, h.answered]
  · intro answer hanswer
    rcases List.mem_append.1 hanswer with hold | hnew
    · exact h.quiet answer hold
    · rw [List.mem_singleton.1 hnew]
      have hpolled : (r.pollTimeout now).1 = false := hquiet
      rw [hpolled]
      simp
  · rw [hheard]
    exact h.cadence
  · rw [hheard]
    exact h.newest
  · rw [hbits]
    exact hholds
  · rw [hgroups, hlast]
    exact htick

theorem heard_snoc (calls : List (Call size)) (window : Window size) (now : UInt32) :
    heard (calls ++ [.window window now]) = heard calls ++ [(window, now)] :=
  heard_append ..

theorem length_heard_snoc (calls : List (Call size)) (window : Window size) (now : UInt32) :
    (heard (calls ++ [.window window now])).length = (heard calls).length + 1 := by
  rw [heard_snoc, List.length_append, List.length_singleton]

/-- The history still starts with the windows heard after one more. -/
theorem newest_snoc {config : LinkConfig} {calls : List (Call size)} {r : Receiver size capacity}
    (h : ((heard calls).map fun entry =>
      entry.1.peakFrequency config.sampleRate).reverse.take capacity <+: r.history.recent)
    (window : Window size) (now : UInt32) :
    ((heard (calls ++ [.window window now])).map fun entry =>
      entry.1.peakFrequency config.sampleRate).reverse.take capacity
        <+: (r.history.push (window.peakFrequency config.sampleRate)).recent := by
  rw [heard_snoc, List.map_append]
  exact push_prefix h _

theorem answered_snoc {config : LinkConfig} {byte : UInt8} {calls : List (Call size)}
    {answers : List Answer}
    (h : outcomes answers = (List.range (heard calls).length).map (frameOutcome config byte))
    (window : Window size) (now : UInt32) :
    outcomes (answers ++ [.outcome (frameOutcome config byte (heard calls).length)])
      = (List.range (heard (calls ++ [.window window now])).length).map
          (frameOutcome config byte) := by
  rw [outcomes_outcome, h, length_heard_snoc, List.range_succ, List.map_append, List.map_singleton]

theorem quiet_snoc {answers : List Answer} (h : ∀ answer ∈ answers, answer ≠ .polled true)
    (outcome : FrameOutcome) :
    ∀ answer ∈ answers ++ [.outcome outcome], answer ≠ .polled true := by
  intro answer hanswer
  rcases List.mem_append.1 hanswer with hold | hnew
  · exact h answer hold
  · rw [List.mem_singleton.1 hnew]
    simp

/-- A window in the middle of a group waits for the vote. -/
theorem midframe_window_of_lt {config : LinkConfig} {byte : UInt8} {calls : List (Call size)}
    {answers : List Answer} {r : Receiver size capacity} (h : Midframe config byte calls answers r)
    (hinside : (heard calls).length % config.window + 1 < config.window)
    (window : Window size) (now : UInt32) :
    Midframe config byte (calls ++ [.window window now])
      (answers ++ [.outcome (r.process window now).1]) (r.process window now).2 := by
  have hlength := length_heard_snoc calls window now
  have hmod : ((heard calls).length + 1) % config.window
      = (heard calls).length % config.window + 1 := by
    rw [← Nat.mod_add_mod, Nat.mod_eq_of_lt hinside]
  have hgroups : groupCount config (calls ++ [.window window now]) = groupCount config calls := by
    rw [groupCount, groupCount, hlength]
    exact Nat.succ_div_of_mod_ne_zero (by omega)
  have hlast : lastBitTick? config (calls ++ [.window window now]) = lastBitTick? config calls := by
    rw [lastBitTick?, lastBitTick?, hgroups, heard_snoc, List.take_append_of_le_length]
    exact Nat.div_mul_le_self ..
  have hprocess : r.process window now
      = (frameOutcome config byte (heard calls).length,
        { r.record (window.peakFrequency config.sampleRate) with
          windowsSinceVote := r.windowsSinceVote + 1 }) := by
    rw [process, h.ready.sampleRate, frameOutcome_of_lt hinside]
    exact hear_of_lt (by rw [h.cadence, h.ready.window]; exact hinside) _ now
  rw [hprocess]
  refine ⟨⟨h.ready.sampleRate, h.ready.window, h.ready.settings, h.ready.holds⟩,
    answered_snoc h.answered window now, quiet_snoc h.quiet _, ?_, newest_snoc h.newest window now,
    ?_, ?_⟩
  · rw [hlength, hmod, ← h.cadence]
  · rw [groupBits, hgroups]
    exact h.bits
  · rw [hgroups, hlast]
    exact h.tick

/-- The vote after a group elects the tone of its bit. -/
theorem majority?_of_carries {config : LinkConfig} {byte : UInt8} {calls : List (Call size)}
    {history : FrequencyHistory capacity} {i : Nat} (hcarries : Carries config byte calls)
    (hfits : config.window ≤ capacity)
    (hnewest : ((heard calls).map fun entry =>
      entry.1.peakFrequency config.sampleRate).reverse.take capacity <+: history.recent)
    (hlength : (heard calls).length = (i + 1) * config.window) :
    history.majority? config.window = some (config.tone (byte.toNat.testBit i)) := by
  have hvotes := hcarries.votes i (Nat.le_of_eq hlength.symm)
  rw [FrequencyHistory.majority?_eq_some_iff, Nat.min_eq_left hfits,
    newest_eq hfits hnewest (by rwa [List.length_map]), List.count_reverse, ← List.map_drop,
    ← List.map_take, List.count_eq_countP, List.countP_map]
  exact hvotes

/-- A window that completes a group gives the bit of that group to the decoder. -/
theorem midframe_window_of_eq {config : LinkConfig} {byte : UInt8} {calls : List (Call size)}
    {answers : List Answer} {r : Receiver size capacity} (h : Midframe config byte calls answers r)
    (htones : config.tone0 ≠ config.tone1) (hfits : config.window ≤ capacity)
    (hcomplete : (heard calls).length % config.window + 1 = config.window)
    (hlength : (heard calls).length + 1 ≤ 8 * config.window) {window : Window size} {now : UInt32}
    (hcarries : Carries config byte (calls ++ [.window window now])) :
    Midframe config byte (calls ++ [.window window now])
      (answers ++ [.outcome (r.process window now).1]) (r.process window now).2 := by
  have hheard := length_heard_snoc calls window now
  have hwindow : 0 < config.window := by omega
  rcases hgroup : groupCount config calls with i
  have htotal : (heard calls).length + 1 = (i + 1) * config.window := by
    have hdiv := Nat.div_add_mod (heard calls).length config.window
    rw [groupCount] at hgroup
    rw [hgroup, Nat.mul_comm] at hdiv
    rw [Nat.succ_mul]
    omega
  have hi : i < 8 := by
    rw [htotal] at hlength
    exact Nat.lt_of_succ_le (Nat.le_of_mul_le_mul_right hlength hwindow)
  have hgroups : groupCount config (calls ++ [.window window now]) = i + 1 := by
    rw [groupCount, hheard, htotal, Nat.mul_div_cancel _ hwindow]
  have hnewest := newest_snoc h.newest window now
  have helected := majority?_of_carries hcarries hfits hnewest (hheard.trans htotal)
  have hbits := h.bits
  rw [groupBits, hgroup, Nat.mod_eq_of_lt hi] at hbits
  obtain ⟨next, hvote, hholds, htick⟩ := Decoder.vote_frame hi hbits
    (Decoder.bit?_tone h.ready.settings htones _) now
  have hunit : r.decoder.unitId = config.unitId := congrArg Decoder.unitId h.ready.settings
  have haddress : r.decoder.addressBits = config.addressBits :=
    congrArg Decoder.addressBits h.ready.settings
  have houtcome : frameOutcome config byte (heard calls).length
      = if i + 1 < 8 then .bitAccepted (i + 1)
        else .ofByte byte r.decoder.unitId r.decoder.addressBits := by
    rw [frameOutcome_of_eq hwindow htotal, hunit, haddress]
  have hready := ready_perform h.ready (.window window now)
  have hprocess : r.process window now = (frameOutcome config byte (heard calls).length,
      { r.record (window.peakFrequency config.sampleRate) with
        windowsSinceVote := 0
        decoder := next
        stats := (r.record (window.peakFrequency config.sampleRate)).stats.record
          (frameOutcome config byte (heard calls).length) }) := by
    rw [process, h.ready.sampleRate, houtcome]
    refine hear_of_le (by rw [h.cadence, h.ready.window]; omega) ?_
    rw [h.ready.window, helected]
    exact hvote
  rw [perform, hprocess] at hready
  rw [hprocess]
  refine ⟨hready, answered_snoc h.answered window now, quiet_snoc h.quiet _, ?_, hnewest, ?_, ?_⟩
  · rw [hheard, htotal, Nat.mul_mod_left]
  · rw [groupBits, hgroups]
    exact hholds
  · intro hlt tick hlast
    rw [lastBitTick?, hgroups, ← htotal, ← hheard, List.take_length, heard_snoc,
      List.getLast?_concat] at hlast
    rw [← Option.some.inj hlast]
    exact htick

/-- One more call keeps the receiver in the middle of the frame. -/
theorem midframe_perform {config : LinkConfig} {byte : UInt8} {calls : List (Call size)}
    {answers : List Answer} {r : Receiver size capacity} (h : Midframe config byte calls answers r)
    (htones : config.tone0 ≠ config.tone1) (hfits : config.window ≤ capacity)
    (hwindow : 0 < config.window) (call : Call size)
    (hlength : (heard (calls ++ [call])).length ≤ 8 * config.window)
    (hcarries : Carries config byte (calls ++ [call])) :
    Midframe config byte (calls ++ [call]) (answers ++ [(r.perform call).1])
      (r.perform call).2 := by
  cases call with
  | poll now =>
      refine midframe_poll h ?_ hcarries
      rwa [heard_append, List.length_append] at hlength
  | window window now =>
      rw [length_heard_snoc] at hlength
      have hplace := Nat.mod_lt (heard calls).length hwindow
      rcases Nat.lt_or_ge ((heard calls).length % config.window + 1) config.window with hlt | hge
      · exact midframe_window_of_lt h hlt window now
      · exact midframe_window_of_eq h htones hfits (by omega) hlength hcarries

/-- **A noisy frame is decoded whatever came before.** Whatever a new receiver was asked before, if no
group is begun and no byte is in progress, the windows of a frame are answered as its byte demands, no
poll drops anything, and the receiver waits for the next byte. -/
theorem decodes_frame {config : LinkConfig} {start : Receiver size capacity}
    (hcreate : create size capacity config = .ok start) (earlier : List (Call size))
    (hvote : (Run.final perform start earlier).windowsSinceVote = 0)
    (hcount : (Run.final perform start earlier).decoder.bitCount = 0)
    {byte : UInt8} {calls : List (Call size)} (hcarries : Carries config byte calls)
    (hlength : (heard calls).length = 8 * config.window) :
    outcomes (Run.answers perform (Run.final perform start earlier) calls)
        = (List.range (8 * config.window)).map (frameOutcome config byte) ∧
      (∀ answer ∈ Run.answers perform (Run.final perform start earlier) calls,
        answer ≠ .polled true) ∧
      (Run.final perform (Run.final perform start earlier) calls).windowsSinceVote = 0 ∧
      (Run.final perform (Run.final perform start earlier) calls).decoder.bitCount = 0 := by
  obtain ⟨hvalid, ⟨hwindow, hfits⟩, -⟩ := create_eq_ok_iff.1 hcreate
  obtain ⟨-, -, -, -, -, htones⟩ := (LinkConfig.validate_eq_ok_iff config size).1 hvalid
  have hready : (Run.final perform start earlier).Ready config :=
    Run.invariant (ready_create hcreate) (fun _ call h => ready_perform h call) earlier
  generalize Run.final perform start earlier = r at hvote hcount hready
  have hframe : (heard calls).length ≤ 8 * config.window → Carries config byte calls →
      Midframe config byte calls (Run.answers perform r calls) (Run.final perform r calls) := by
    refine Run.induction (motive := fun calls answers r => (heard calls).length ≤ 8 * config.window →
      Carries config byte calls → Midframe config byte calls answers r) ?_ ?_ calls
    · intro _ _
      exact midframe_nil hready hvote hcount
    · intro calls answers r call ih hlength hcarries
      have hshorter : (heard calls).length ≤ 8 * config.window := by
        rw [heard_append, List.length_append] at hlength
        omega
      exact midframe_perform (ih hshorter hcarries.of_append) htones hfits hwindow call hlength
        hcarries
  have hend := hframe (Nat.le_of_eq hlength) hcarries
  have hgroups : groupCount config calls = 8 := by
    rw [groupCount, hlength, Nat.mul_div_cancel _ hwindow]
  have hbits := hend.bits
  rw [groupBits, hgroups] at hbits
  refine ⟨hlength ▸ hend.answered, hend.quiet, ?_, hbits.count⟩
  rw [hend.cadence, hlength, Nat.mul_mod_left]

/-- Settings for windows of eight samples at 1 kHz. -/
def trialConfig : LinkConfig := { tone0 := 125, tone1 := 250, window := 3 }

/-- A window of the tone of a bit at these settings. -/
def trialWindow (bit : Bool) : Window 8 :=
  if bit then #v[1, 0, -1, 0, 1, 0, -1, 0] else #v[1, 1, 0, 0, -1, -1, 0, 0]

/-- A frame of three windows a bit, the second of them silent, with a poll after each bit. -/
def trialFrame (byte : UInt8) : List (Call 8) :=
  (Binary.bits byte).zipIdx.flatMap fun (bit, i) =>
    let start := UInt32.ofNat (24 * i)
    [.window (trialWindow bit) (start + 8), .window (Vector.replicate 8 0) (start + 16),
      .window (trialWindow bit) (start + 24), .poll (start + 40)]

/-- The frame of command 3 after three silent windows. -/
theorem decodes_trial :
    ∃ start : Receiver 8 4, create 8 4 trialConfig = .ok start ∧
      outcomes (Run.answers perform
          (Run.final perform start (List.replicate 3 (.window (Vector.replicate 8 0) 0)))
          (trialFrame 6))
        = (List.range 24).map (frameOutcome trialConfig 6) ∧
      frameOutcome trialConfig 6 23 = .command 3 := by
  have hvalid : trialConfig.validate 8 = .ok () :=
    (LinkConfig.validate_eq_ok_iff trialConfig 8).2 (by decide +kernel)
  have hcreate : create 8 4 trialConfig = .ok _ := create_eq_ok_iff.2 ⟨hvalid, by decide, rfl⟩
  have hcarries : Carries trialConfig 6 (trialFrame 6) := by
    constructor
    · intro i hi
      have hall : ∀ i < 8, (((heard (trialFrame 6)).drop (i * 3)).take 3).countP
          (fun entry => entry.1.peakFrequency 1000 == trialConfig.tone ((6 : UInt8).toNat.testBit i))
            > 1 := by
        decide +kernel
      have hlength : (heard (trialFrame 6)).length = 8 * 3 := by decide +kernel
      rw [hlength] at hi
      exact hall i (Nat.lt_of_succ_le (Nat.le_of_mul_le_mul_right hi (by decide)))
    · intro before now after tick hcalls hlast
      have hpoll : (trialFrame 6)[before.length]? = some (.poll now) := by
        rw [hcalls]
        simp
      have hbefore : (trialFrame 6).take before.length = before := by
        rw [hcalls]
        simp
      have hlt : before.length < 32 := by
        have hlength : (trialFrame 6).length = 32 := by decide +kernel
        rw [← hlength, hcalls]
        simp
      have hall : ∀ k < 32, (match (trialFrame 6)[k]?,
          lastBitTick? trialConfig ((trialFrame 6).take k) with
          | some (.poll now), some tick => decide (now - tick ≤ trialConfig.timeoutTicks 8)
          | _, _ => true) = true := by
        decide +kernel
      have hthis := hall before.length hlt
      rw [hbefore, hpoll, hlast] at hthis
      exact of_decide_eq_true hthis
  have hdecodes := decodes_frame hcreate (List.replicate 3 (.window (Vector.replicate 8 0) 0))
    (by decide +kernel) (by decide +kernel) hcarries (by decide +kernel)
  exact ⟨_, hcreate, hdecodes.1, by decide +kernel⟩

end LightPilot.Receiver
