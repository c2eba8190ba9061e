import LightPilot.Proofs.Link.Assembly

set_option autoImplicit false

/-! # A pause is measured exactly on a wrapping clock

A decoder gets the low 32 bits of a count of ticks that never wraps, and takes the wrapped difference of two
of them for the time between. It notes the tick of each bit, but also that of a check without a byte in
progress, so what it notes is the last bit only while a byte is in progress. The difference is the true one
as long as the checks are not too far apart: none of them leaves a bit behind that is older than the timeout,
so the next one comes before the clock has gone round (`Measures`). Then a check drops a byte exactly if its
last bit is too long ago (`timesOut_run`), whatever was voted and checked before and however long ago. -/

namespace LightPilot.Decoder

/-! ## Calls on an endless clock -/

/-- A call at a tick of a clock that never wraps. -/
inductive TimedCall
  | vote (elected : Option UInt16) (tick : Nat)
  | check (tick : Nat)

namespace TimedCall

/-- The tick of a call. -/
@[simp] def tick : TimedCall → Nat
  | .vote _ tick | .check tick => tick

/-- Whether a call is a check for the timeout. -/
@[simp] def isCheck : TimedCall → Bool
  | .vote .. => false
  | .check _ => true

/-- The call as the decoder gets it, with the low 32 bits of the tick. -/
def wrapped : TimedCall → Call
  | .vote elected tick => .vote elected (UInt32.ofNat tick)
  | .check tick => .pause (UInt32.ofNat tick)

end TimedCall

/-- Makes one timed call. -/
def performTimed (d : Decoder) (call : TimedCall) : Event × Decoder :=
  d.perform call.wrapped

/-- The calls go with a clock that stood at `start`. It never goes back, and from one check to the next, and
from the start to the first, it goes on by less than a turn of the 32 bits without the timeout. -/
structure OnClock (timeout : UInt32) (start : Nat) (calls : List TimedCall) : Prop where
  forward : (start :: calls.map TimedCall.tick).IsChain (· ≤ ·)
  checked : (start :: (calls.filter TimedCall.isCheck).map TimedCall.tick).IsChain
    fun tick next => next - tick < 2 ^ 32 - timeout.toNat

/-- The latest tick of some calls. -/
def latest (start : Nat) (calls : List TimedCall) : Nat :=
  (calls.map TimedCall.tick).getLastD start

/-- The tick of the latest check. -/
def lastCheck (start : Nat) (calls : List TimedCall) : Nat :=
  latest start (calls.filter TimedCall.isCheck)

@[simp] theorem latest_snoc (start : Nat) (calls : List TimedCall) (call : TimedCall) :
    latest start (calls ++ [call]) = call.tick := by
  rw [latest, List.map_append, List.map_singleton, List.getLastD_concat]

@[simp] theorem lastCheck_vote (start : Nat) (calls : List TimedCall) (elected : Option UInt16)
    (tick : Nat) : lastCheck start (calls ++ [.vote elected tick]) = lastCheck start calls := by
  rw [lastCheck, List.filter_append, lastCheck]
  exact congrArg (latest start) (List.append_nil _)

@[simp] theorem lastCheck_check (start : Nat) (calls : List TimedCall) (tick : Nat) :
    lastCheck start (calls ++ [.check tick]) = tick := by
  rw [lastCheck, List.filter_append]
  exact latest_snoc ..

theorem isChain_snoc {R : Nat → Nat → Prop} {start : Nat} {ticks : List Nat} {tick : Nat} :
    (start :: (ticks ++ [tick])).IsChain R ↔
      (start :: ticks).IsChain R ∧ R (ticks.getLastD start) tick := by
  rw [← List.cons_append, List.isChain_append, List.getLast?_cons, ← List.getLastD_eq_getLast?]
  simp

theorem OnClock.of_vote {timeout : UInt32} {start : Nat} {calls : List TimedCall}
    {elected : Option UInt16} {tick : Nat}
    (h : OnClock timeout start (calls ++ [.vote elected tick])) :
    OnClock timeout start calls ∧ latest start calls ≤ tick := by
  obtain ⟨hforward, hchecked⟩ := h
  rw [List.map_append, List.map_singleton, isChain_snoc] at hforward
  rw [List.filter_append, List.filter_cons_of_neg (by simp), List.filter_nil,
    List.append_nil] at hchecked
  exact ⟨⟨hforward.1, hchecked⟩, hforward.2⟩

theorem OnClock.of_check {timeout : UInt32} {start : Nat} {calls : List TimedCall} {tick : Nat}
    (h : OnClock timeout start (calls ++ [.check tick])) :
    OnClock timeout start calls ∧ latest start calls ≤ tick ∧
      tick - lastCheck start calls < 2 ^ 32 - timeout.toNat := by
  obtain ⟨hforward, hchecked⟩ := h
  rw [List.map_append, List.map_singleton, isChain_snoc] at hforward
  rw [List.filter_append, List.filter_cons_of_pos rfl, List.filter_nil, List.map_append,
    List.map_singleton, isChain_snoc] at hchecked
  exact ⟨⟨hforward.1, hchecked.1⟩, hforward.2, hchecked.2⟩

theorem OnClock.of_snoc {timeout : UInt32} {start : Nat} {calls : List TimedCall} {call : TimedCall}
    (h : OnClock timeout start (calls ++ [call])) : OnClock timeout start calls := by
  cases call with
  | vote elected tick => exact h.of_vote.1
  | check tick => exact h.of_check.1

/-- Two ticks less than a turn apart are as far apart when they are wrapped. -/
theorem toNat_ofNat_sub_ofNat {last tick : Nat} (hle : last ≤ tick) (hturn : tick - last < 2 ^ 32) :
    (UInt32.ofNat tick - UInt32.ofNat last).toNat = tick - last := by
  rw [← UInt32.ofNat_sub hle, UInt32.toNat_ofNat_of_lt' hturn]

/-! ## What the past says of the byte in progress -/

/-- Whether a bit was accepted. -/
def Event.isBit : Event → Bool
  | .voted _ outcome => outcome.isBit
  | .paused .. => false

/-- Whether a byte was completed or dropped. -/
def Event.endsByte : Event → Bool
  | .voted _ (.bitAccepted _) | .voted _ .pending => false
  | .voted _ _ => true
  | .paused _ dropped => dropped

/-- The tick of the last bit accepted. -/
def lastBit? (past : List (TimedCall × Event)) : Option Nat :=
  (past.filter fun entry => entry.2.isBit).getLast?.map fun entry => entry.1.tick

/-- The number of bits accepted since a byte was completed or dropped. -/
def partialBits (past : List (TimedCall × Event)) : Nat :=
  (past.rtakeWhile fun entry => !entry.2.endsByte).countP fun entry => entry.2.isBit

theorem lastBit?_snoc (past : List (TimedCall × Event)) (call : TimedCall) (event : Event) :
    lastBit? (past ++ [(call, event)]) = if event.isBit then some call.tick else lastBit? past := by
  rw [lastBit?, List.filter_append]
  cases h : event.isBit <;> simp [h, lastBit?]

theorem partialBits_snoc (past : List (TimedCall × Event)) (call : TimedCall) (event : Event) :
    partialBits (past ++ [(call, event)])
      = if event.endsByte then 0 else partialBits past + if event.isBit then 1 else 0 := by
  rw [partialBits, List.rtakeWhile_concat]
  cases h : event.endsByte <;> simp [partialBits, List.countP_append, List.countP_cons]

theorem lastBit?_check (past : List (TimedCall × Event)) (tick : Nat) (elapsed : UInt32)
    (dropped : Bool) : lastBit? (past ++ [(.check tick, .paused elapsed dropped)]) = lastBit? past :=
  lastBit?_snoc ..

theorem partialBits_check (past : List (TimedCall × Event)) (tick : Nat) (elapsed : UInt32)
    (dropped : Bool) :
    partialBits (past ++ [(.check tick, .paused elapsed dropped)])
      = if dropped then 0 else partialBits past :=
  partialBits_snoc ..

theorem endsByte_ofByte (elected : Option UInt16) (byte unitId addressBits : UInt8) :
    (Event.voted elected (.ofByte byte unitId addressBits)).endsByte = true := by
  rw [FrameOutcome.ofByte]
  cases Frame.validate byte unitId addressBits <;> rfl

/-! ## The tick noted -/

/-- The decoder after some calls holds the bits of the partial byte. While there is one the tick noted is
that of the last bit, which was not too old at the latest check. -/
structure Measures (timeout : UInt32) (start : Nat) (past : List (TimedCall × Event)) (d : Decoder) :
    Prop where
  timeoutTicks : d.timeoutTicks = timeout
  holds : ∃ bits, d.Holds bits ∧ bits.length = partialBits past
  checked : lastCheck start (past.map Prod.fst) ≤ latest start (past.map Prod.fst)
  noted : 0 < partialBits past → ∃ last, lastBit? past = some last ∧
    d.lastBitTick = UInt32.ofNat last ∧ last ≤ latest start (past.map Prod.fst) ∧
    lastCheck start (past.map Prod.fst) ≤ last + timeout.toNat

variable {timeout : UInt32} {start : Nat} {past : List (TimedCall × Event)} {d : Decoder}

/-- Without a partial byte the tick noted does not matter. -/
theorem measures_of_none (htimeout : d.timeoutTicks = timeout) (hholds : d.Holds [])
    (hnone : partialBits past = 0)
    (hchecked : lastCheck start (past.map Prod.fst) ≤ latest start (past.map Prod.fst)) :
    Measures timeout start past d :=
  ⟨htimeout, ⟨[], hholds, hnone.symm⟩, hchecked, fun hpos => absurd hnone (Nat.ne_of_gt hpos)⟩

theorem Measures.bitCount (h : Measures timeout start past d) : d.bitCount = partialBits past := by
  obtain ⟨bits, hholds, hlength⟩ := h.holds
  rw [hholds.count, hlength]

theorem Measures.vote (h : Measures timeout start past d) {elected : Option UInt16} {tick : Nat}
    (hforward : latest start (past.map Prod.fst) ≤ tick) :
    Measures timeout start
      (past ++ [(.vote elected tick, .voted elected (d.vote elected (UInt32.ofNat tick)).1)])
      (d.vote elected (UInt32.ofNat tick)).2 := by
  obtain ⟨bits, hholds, hlength⟩ := h.holds
  have hchecked := h.checked.trans hforward
  cases hbit : d.bit? elected with
  | none =>
      rw [vote_of_none hbit]
      refine measures_of_none h.timeoutTicks (holds_clear d) ?_ (by simpa using hchecked)
      exact partialBits_snoc ..
  | some bit =>
      by_cases hroom : bits.length < 7
      · rw [vote_of_lt hholds hbit hroom]
        refine ⟨h.timeoutTicks, ⟨_, holds_append hholds bit hroom _, ?_⟩, by simpa using hchecked, ?_⟩
        · rw [partialBits_snoc, List.length_append, hlength]
          rfl
        · intro _
          refine ⟨tick, by rw [lastBit?_snoc]; rfl, rfl, by simp, ?_⟩
          simpa using Nat.le_add_right_of_le hchecked
      · have hends := endsByte_ofByte elected (d.withBit bit) d.unitId d.addressBits
        rw [vote_of_eq hholds hbit (hholds.length_eq hroom)]
        refine measures_of_none h.timeoutTicks ((holds_clear d).withTick _) ?_
          (by simpa using hchecked)
        rw [partialBits_snoc, if_pos hends]

/-- The time since the last bit of a partial byte is measured exactly. -/
theorem Measures.elapsed (h : Measures timeout start past d) {tick : Nat}
    (hforward : latest start (past.map Prod.fst) ≤ tick)
    (hnear : tick - lastCheck start (past.map Prod.fst) < 2 ^ 32 - timeout.toNat)
    (hpartial : 0 < partialBits past) :
    ∃ last, lastBit? past = some last ∧
      (UInt32.ofNat tick - d.lastBitTick).toNat = tick - last := by
  obtain ⟨last, hlast, htick, hle, hold⟩ := h.noted hpartial
  refine ⟨last, hlast, ?_⟩
  have htimeout := timeout.toNat_lt
  rw [htick]
  exact toNat_ofNat_sub_ofNat (hle.trans hforward) (by omega)

theorem Measures.dropped_iff (h : Measures timeout start past d) {tick : Nat}
    (hforward : latest start (past.map Prod.fst) ≤ tick)
    (hnear : tick - lastCheck start (past.map Prod.fst) < 2 ^ 32 - timeout.toNat) :
    (d.checkTimeout (UInt32.ofNat tick)).1 = true ↔
      0 < partialBits past ∧ ∃ last, lastBit? past = some last ∧ timeout.toNat < tick - last := by
  rw [fst_checkTimeout_iff, h.timeoutTicks, h.bitCount, and_comm, UInt32.lt_iff_toNat_lt]
  refine and_congr_right fun hpartial => ?_
  obtain ⟨last, hlast, helapsed⟩ := h.elapsed hforward hnear hpartial
  rw [helapsed, hlast]
  simp

theorem Measures.check (h : Measures timeout start past d) {tick : Nat}
    (hforward : latest start (past.map Prod.fst) ≤ tick)
    (hnear : tick - lastCheck start (past.map Prod.fst) < 2 ^ 32 - timeout.toNat) :
    Measures timeout start
      (past ++ [(.check tick, .paused (UInt32.ofNat tick - d.lastBitTick)
        (d.checkTimeout (UInt32.ofNat tick)).1)])
      (d.checkTimeout (UInt32.ofNat tick)).2 := by
  have htimeout : (d.checkTimeout (UInt32.ofNat tick)).2.timeoutTicks = timeout :=
    (congrArg Decoder.timeoutTicks (settings_checkTimeout d _)).trans h.timeoutTicks
  cases hdropped : (d.checkTimeout (UInt32.ofNat tick)).1 with
  | true =>
      exact measures_of_none htimeout (holds_of_dropped hdropped) (partialBits_check ..) (by simp)
  | false =>
      obtain ⟨bits, hholds, hlength⟩ := h.holds
      refine ⟨htimeout, ⟨bits, kept_checkTimeout hholds hdropped, ?_⟩, by simp, ?_⟩
      · rw [partialBits_check, hlength]
        rfl
      · rw [partialBits_check, lastBit?_check]
        intro hpartial
        obtain ⟨last, hlast, htick, hle, -⟩ := h.noted hpartial
        have hrecent : tick - last ≤ timeout.toNat := by
          rw [← Bool.not_eq_true, h.dropped_iff hforward hnear] at hdropped
          exact Nat.not_lt.1 fun hold => hdropped ⟨hpartial, last, hlast, hold⟩
        have hshort : UInt32.ofNat tick - d.lastBitTick ≤ d.timeoutTicks := by
          rw [← Bool.not_eq_true, fst_checkTimeout_iff, h.bitCount] at hdropped
          exact UInt32.not_lt.1 fun hlong => hdropped ⟨hlong, hpartial⟩
        rw [checkTimeout_of_le hshort]
        refine ⟨last, hlast, htick, by simpa using hle.trans hforward, ?_⟩
        simpa [Nat.add_comm last] using hrecent

/-! ## Runs -/

/-- What timed calls on a new decoder led to. -/
def timedPast (config : LinkConfig) (size : Nat) (calls : List TimedCall) :
    List (TimedCall × Event) :=
  Run.history performTimed (ofConfig config size) calls

/-- A new decoder after timed calls. -/
def afterTimed (config : LinkConfig) (size : Nat) (calls : List TimedCall) : Decoder :=
  Run.final performTimed (ofConfig config size) calls

theorem timedPast_snoc (config : LinkConfig) (size : Nat) (calls : List TimedCall)
    (call : TimedCall) :
    timedPast config size (calls ++ [call]) = timedPast config size calls
      ++ [(call, ((afterTimed config size calls).performTimed call).1)] :=
  Run.history_snoc ..

theorem timedPast_check (config : LinkConfig) (size : Nat) (calls : List TimedCall) (tick : Nat) :
    timedPast config size (calls ++ [.check tick]) = timedPast config size calls
      ++ [(.check tick, .paused (UInt32.ofNat tick - (afterTimed config size calls).lastBitTick)
        ((afterTimed config size calls).checkTimeout (UInt32.ofNat tick)).1)] :=
  timedPast_snoc ..

theorem afterTimed_snoc (config : LinkConfig) (size : Nat) (calls : List TimedCall)
    (call : TimedCall) :
    afterTimed config size (calls ++ [call])
      = ((afterTimed config size calls).performTimed call).2 :=
  Run.final_snoc ..

theorem map_fst_timedPast (config : LinkConfig) (size : Nat) (calls : List TimedCall) :
    (timedPast config size calls).map Prod.fst = calls :=
  Run.map_fst_history ..

/-- On its clock, a new decoder measures its pauses. -/
theorem measures_run (config : LinkConfig) (size start : Nat) {calls : List TimedCall}
    (hclock : OnClock (config.timeoutTicks size) start calls) :
    Measures (config.timeoutTicks size) start (timedPast config size calls)
      (afterTimed config size calls) := by
  induction calls using List.reverseRecOn with
  | nil => exact measures_of_none rfl (holds_clear (ofConfig config size)) rfl (Nat.le_refl _)
  | append_singleton calls call ih =>
      have h := ih hclock.of_snoc
      rw [timedPast_snoc, afterTimed_snoc]
      cases call with
      | vote elected tick =>
          obtain ⟨-, hforward⟩ := hclock.of_vote
          exact h.vote (by rwa [map_fst_timedPast])
      | check tick =>
          obtain ⟨-, hforward, hnear⟩ := hclock.of_check
          exact h.check (by rwa [map_fst_timedPast]) (by rwa [map_fst_timedPast])

/-- The check that follows timed calls drops a partial byte whose last bit is too long ago. -/
theorem checkTimeout_afterTimed_iff {config : LinkConfig} {size start tick : Nat}
    {calls : List TimedCall}
    (hclock : OnClock (config.timeoutTicks size) start (calls ++ [.check tick])) :
    ((afterTimed config size calls).checkTimeout (UInt32.ofNat tick)).1 = true ↔
      0 < partialBits (timedPast config size calls) ∧
        ∃ last, lastBit? (timedPast config size calls) = some last ∧
          (config.timeoutTicks size).toNat < tick - last := by
  obtain ⟨hcalls, hforward, hnear⟩ := hclock.of_check
  refine (measures_run config size start hcalls).dropped_iff ?_ ?_ <;> rwa [map_fst_timedPast]

/-- Checks after a bit leave its byte as long as none of them finds it too old. -/
theorem partialBits_checks {config : LinkConfig} {size start last count : Nat}
    {elected : Option UInt16} {earlier checks : List TimedCall}
    (hbit : ((afterTimed config size earlier).vote elected (UInt32.ofNat last)).1
      = .bitAccepted count)
    (hchecks : ∀ call ∈ checks, call.isCheck = true)
    (hclock : OnClock (config.timeoutTicks size) start (earlier ++ .vote elected last :: checks)) :
    lastBit? (timedPast config size (earlier ++ .vote elected last :: checks)) = some last ∧
      (0 < partialBits (timedPast config size (earlier ++ .vote elected last :: checks)) ↔
        ∀ call ∈ checks, call.tick - last ≤ (config.timeoutTicks size).toNat) := by
  induction checks using List.reverseRecOn with
  | nil =>
      have hevent : ((afterTimed config size earlier).performTimed (.vote elected last)).1
          = .voted elected (.bitAccepted count) := congrArg (Event.voted elected) hbit
      rw [timedPast_snoc, hevent, lastBit?_snoc, partialBits_snoc]
      simp [Event.isBit, FrameOutcome.isBit, Event.endsByte]
  | append_singleton checks check ih =>
      cases check with
      | vote other tick => simpa using hchecks (.vote other tick) (by simp)
      | check tick =>
          rw [← List.cons_append, ← List.append_assoc] at hclock ⊢
          obtain ⟨hlast, hpending⟩ :=
            ih (fun call hcall => hchecks call (List.mem_append_left _ hcall)) hclock.of_snoc
          have hdropped := checkTimeout_afterTimed_iff hclock
          simp only [hlast, Option.some.injEq, exists_eq_left', hpending] at hdropped
          have hleft : (∀ call ∈ checks ++ [.check tick],
                call.tick - last ≤ (config.timeoutTicks size).toNat) ↔
              (∀ call ∈ checks, call.tick - last ≤ (config.timeoutTicks size).toNat) ∧
                tick - last ≤ (config.timeoutTicks size).toNat := by
            simp [or_imp, forall_and]
          rw [timedPast_check, lastBit?_check, partialBits_check, hleft, ← hpending]
          refine ⟨hlast, ?_⟩
          cases h : ((afterTimed config size (earlier ++ .vote elected last :: checks)).checkTimeout
            (UInt32.ofNat tick)).1 with
          | true =>
              have hold := (hdropped.1 h).2
              simp only [if_true, Nat.lt_irrefl, false_iff, not_and]
              omega
          | false =>
              rw [h, ← hpending] at hdropped
              simp only [Bool.false_eq_true, false_iff, not_and, Nat.not_lt] at hdropped
              simpa using hdropped

/-- What a check at `tick` has to do after timed calls on a new decoder. -/
structure TimesOut (config : LinkConfig) (size : Nat) (calls : List TimedCall) (tick : Nat) :
    Prop where
  /-- The partial byte is made of the bits accepted since a byte was completed or dropped. -/
  bitCount : (afterTimed config size calls).bitCount = partialBits (timedPast config size calls)
  /-- It is dropped if there is one and its last bit is too long ago on the endless clock. -/
  dropped_iff : ((afterTimed config size calls).checkTimeout (UInt32.ofNat tick)).1 = true ↔
    0 < partialBits (timedPast config size calls) ∧
      ∃ last, lastBit? (timedPast config size calls) = some last ∧
        (config.timeoutTicks size).toNat < tick - last
  cleared : ((afterTimed config size calls).checkTimeout (UInt32.ofNat tick)).1 = true →
    ((afterTimed config size calls).checkTimeout (UInt32.ofNat tick)).2.byte = 0 ∧
      ((afterTimed config size calls).checkTimeout (UInt32.ofNat tick)).2.bitCount = 0
  kept : ((afterTimed config size calls).checkTimeout (UInt32.ofNat tick)).1 = false →
    ((afterTimed config size calls).checkTimeout (UInt32.ofNat tick)).2.byte
        = (afterTimed config size calls).byte ∧
      ((afterTimed config size calls).checkTimeout (UInt32.ofNat tick)).2.bitCount
        = (afterTimed config size calls).bitCount
  /-- If only checks came since the last bit of a partial byte, it is dropped by the first of them that finds
  it too long ago. -/
  first : ∀ earlier elected last count checks,
    calls = earlier ++ .vote elected last :: checks → (∀ call ∈ checks, call.isCheck = true) →
    ((afterTimed config size earlier).vote elected (UInt32.ofNat last)).1 = .bitAccepted count →
    (((afterTimed config size calls).checkTimeout (UInt32.ofNat tick)).1 = true ↔
      (∀ call ∈ checks, call.tick - last ≤ (config.timeoutTicks size).toNat) ∧
        (config.timeoutTicks size).toNat < tick - last)

/-- **The byte timeout is exact.** On a clock that never wraps, whatever was voted and checked before, a check
drops the byte in progress if its last bit is longer ago than the timeout, and otherwise leaves it alone. -/
theorem timesOut_run (config : LinkConfig) (size start : Nat) {calls : List TimedCall} {tick : Nat}
    (hclock : OnClock (config.timeoutTicks size) start (calls ++ [.check tick])) :
    TimesOut config size calls tick := by
  have h := measures_run config size start hclock.of_snoc
  obtain ⟨bits, hholds, -⟩ := h.holds
  refine ⟨h.bitCount, checkTimeout_afterTimed_iff hclock, ?_, ?_, ?_⟩
  · intro hdropped
    have hnone := holds_of_dropped hdropped
    exact ⟨hnone.byte_eq (holds_clear (afterTimed config size calls)), hnone.count⟩
  · intro hkept
    have hsame := kept_checkTimeout hholds hkept
    exact ⟨hsame.byte_eq hholds, hsame.count.trans hholds.count.symm⟩
  · rintro earlier elected last count checks rfl hchecks hbit
    obtain ⟨hlast, hpending⟩ := partialBits_checks hbit hchecks hclock.of_snoc
    rw [checkTimeout_afterTimed_iff hclock, hpending, hlast]
    simp

/-- A bit just before the clock goes round, with a check in time after it, and an old pause before it. -/
def aroundCalls : List TimedCall :=
  [.vote (some 187) 80, .check 300, .check 4294966900, .vote (some 125) 4294967290,
    .check 4294967450]

/-- The first check after the clock went round that finds the bit too old is one tick later. -/
theorem timesOut_aroundCalls :
    OnClock (({} : LinkConfig).timeoutTicks 16) 0 (aroundCalls ++ [.check 4294967451]) ∧
      TimesOut {} 16 aroundCalls 4294967451 ∧
      ((afterTimed {} 16 aroundCalls).checkTimeout (UInt32.ofNat 4294967451)).1 = true := by
  have hclock : OnClock (({} : LinkConfig).timeoutTicks 16) 0
      (aroundCalls ++ [.check 4294967451]) := ⟨by decide +kernel, by decide +kernel⟩
  exact ⟨hclock, timesOut_run {} 16 0 hclock, by decide +kernel⟩

end LightPilot.Decoder
