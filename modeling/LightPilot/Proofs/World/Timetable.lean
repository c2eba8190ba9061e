import LightPilot.Proofs.World.Airing

set_option autoImplicit false

/-! # The timetable of the light

Which frame is on air can be planned when it is sent: it starts with the first multiple of the bit time from
then on at which the light has been steady for a bit time after the frame before (`Timetable.call`). Slots
given away in this way have room between them (`Spaced`), and each is the first one that was left
(`slot_of_send`). -/

namespace LightPilot.Projector

/-! ## The timetable -/

/-- A frame and the millisecond it starts in. -/
structure Slot where
  startMs : Nat
  frame : UInt8

/-- A bit is on air in millisecond `t`: the bits of a frame follow each other, lowest first, for a bit time
each. -/
def Slot.Carries (bitMs : Nat) (slot : Slot) (t : Nat) (bit : Bool) : Prop :=
  ∃ i < 8, slot.startMs + i * bitMs ≤ t ∧ t < slot.startMs + (i + 1) * bitMs ∧
    bit = slot.frame.toNat.testBit i

/-- The first multiple of the bit time from millisecond `t` on. -/
def boundary (bitMs t : Nat) : Nat :=
  (t + (bitMs - 1)) / bitMs * bitMs

/-- Slots for the frames sent. -/
structure Timetable where
  /-- The millisecond that comes next. -/
  now : Nat
  /-- From here on a further frame may start. -/
  free : Nat := 0
  slots : List Slot := []

/-- What is done with a projector. -/
inductive Call
  | send (address : UInt8) (command : Command)
  /-- The light is looked at, once in every millisecond. -/
  | look

/-- The time of a bit in milliseconds. -/
def bitTime (config : LinkConfig) : Nat :=
  ({ config } : Projector).bitMs.toNat

/-- The frame of a call, if it sends one. -/
def Call.frame? (config : LinkConfig) : Call → Option UInt8
  | .send address command => some (({ config } : Projector).frame address command)
  | .look => none

/-- A frame sent is given the first slot that is left. -/
def Timetable.call (config : LinkConfig) (table : Timetable) : Call → Timetable
  | .look => { table with now := table.now + 1 }
  | .send address command =>
    let startMs := boundary (bitTime config) (max table.now table.free)
    { table with
      free := startMs + 9 * bitTime config
      slots := table.slots ++ [⟨startMs, ({ config } : Projector).frame address command⟩] }

/-- The timetable after the calls, on a clock that starts at `first`. -/
def timetable (config : LinkConfig) (first : Nat) (calls : List Call) : Timetable :=
  calls.foldl (Timetable.call config) { now := first }

/-! ## Boundaries -/

variable {bitMs t : Nat}

theorem boundary_dvd (bitMs t : Nat) : bitMs ∣ boundary bitMs t :=
  Nat.dvd_mul_left ..

theorem le_boundary (hbit : 0 < bitMs) (t : Nat) : t ≤ boundary bitMs t := by
  have hlt := Nat.lt_div_mul_add (a := t + (bitMs - 1)) hbit
  rw [boundary]
  omega

theorem boundary_le (hbit : 0 < bitMs) {startMs : Nat} (hstart : bitMs ∣ startMs)
    (hle : t ≤ startMs) : boundary bitMs t ≤ startMs := by
  obtain ⟨count, rfl⟩ := hstart
  rw [boundary, Nat.mul_comm bitMs]
  refine Nat.mul_le_mul_right bitMs (Nat.le_of_lt_succ ?_)
  rw [Nat.div_lt_iff_lt_mul hbit, Nat.succ_mul, Nat.mul_comm]
  omega

theorem boundary_of_dvd (hbit : 0 < bitMs) (h : bitMs ∣ t) : boundary bitMs t = t :=
  Nat.le_antisymm (boundary_le hbit h (Nat.le_refl t)) (le_boundary hbit t)

theorem boundary_mono (hbit : 0 < bitMs) {later : Nat} (hle : t ≤ later) :
    boundary bitMs t ≤ boundary bitMs later :=
  boundary_le hbit (boundary_dvd ..) (hle.trans (le_boundary hbit later))

/-- Between two boundaries the next one stays the same. -/
theorem boundary_succ (hbit : 0 < bitMs) (h : ¬ bitMs ∣ t) :
    boundary bitMs (t + 1) = boundary bitMs t := by
  refine Nat.le_antisymm (boundary_le hbit (boundary_dvd ..) ?_) (boundary_mono hbit (Nat.le_succ t))
  refine Nat.lt_of_le_of_ne (le_boundary hbit t) fun hsame => h ?_
  rw [hsame]
  exact boundary_dvd ..

/-- From a boundary on it is a bit time to the next one. -/
theorem boundary_succ_of_dvd (hbit : 0 < bitMs) (h : bitMs ∣ t) :
    boundary bitMs (t + 1) = t + bitMs := by
  have hnext : t + 1 + (bitMs - 1) = t + bitMs := by omega
  rw [boundary, hnext, Nat.div_mul_cancel (Nat.dvd_add h (Nat.dvd_refl bitMs))]

theorem boundary_max (hbit : 0 < bitMs) {free : Nat} (hfree : bitMs ∣ free) :
    boundary bitMs (max t free) = max (boundary bitMs t) free := by
  apply Nat.le_antisymm
  · refine boundary_le hbit ?_ (max_le_max_right free (le_boundary hbit t))
    rcases max_choice (boundary bitMs t) free with hmax | hmax
    · rw [hmax]
      exact boundary_dvd ..
    · rwa [hmax]
  · exact max_le (boundary_mono hbit (le_max_left ..))
      ((le_max_right ..).trans (le_boundary hbit _))

/-! ## The slots of a timetable -/

variable {config : LinkConfig} {table : Timetable}

theorem timetable_snoc (config : LinkConfig) (first : Nat) (calls : List Call) (call : Call) :
    timetable config first (calls ++ [call]) = (timetable config first calls).call config call :=
  List.foldl_concat ..

theorem now_le_call (table : Timetable) (call : Call) : table.now ≤ (table.call config call).now := by
  cases call with
  | look => exact Nat.le_succ table.now
  | send address command => exact Nat.le_refl table.now

theorem slots_prefix_call (table : Timetable) (call : Call) :
    table.slots <+: (table.call config call).slots := by
  cases call with
  | look => exact List.prefix_rfl
  | send address command => exact List.prefix_append ..

theorem slots_prefix (config : LinkConfig) (first : Nat) (earlier later : List Call) :
    (timetable config first earlier).slots <+: (timetable config first (earlier ++ later)).slots := by
  induction later using List.reverseRecOn with
  | nil => rw [List.append_nil]
  | append_singleton later call ih =>
      rw [← List.append_assoc, timetable_snoc]
      exact ih.trans (slots_prefix_call ..)

/-- The slots are given away one after the other, with room between them. -/
structure Spaced (config : LinkConfig) (table : Timetable) : Prop where
  free_dvd : bitTime config ∣ table.free
  aligned : ∀ slot ∈ table.slots, bitTime config ∣ slot.startMs
  room : ∀ slot ∈ table.slots, slot.startMs + 9 * bitTime config ≤ table.free
  apart : table.slots.Pairwise fun slot next => slot.startMs + 9 * bitTime config ≤ next.startMs
  /-- No more room is left free than there has to be. -/
  tight : ∀ t, (∀ slot ∈ table.slots, slot.startMs + 9 * bitTime config ≤ t) → table.free ≤ t

theorem spaced_nil (config : LinkConfig) (first : Nat) : Spaced config { now := first } where
  free_dvd := Nat.dvd_zero _
  aligned _ h := by contradiction
  room _ h := by contradiction
  apart := List.Pairwise.nil
  tight _ _ := Nat.zero_le _

theorem Spaced.call (h : Spaced config table) (hbit : 0 < bitTime config) (call : Call) :
    Spaced config (table.call config call) := by
  cases call with
  | look => exact ⟨h.free_dvd, h.aligned, h.room, h.apart, h.tight⟩
  | send address command =>
      have hstart := boundary_dvd (bitTime config) (max table.now table.free)
      have hlater : table.free ≤ boundary (bitTime config) (max table.now table.free) :=
        (le_max_right ..).trans (le_boundary hbit _)
      rw [Timetable.call]
      constructor
      case free_dvd => exact Nat.dvd_add hstart (Nat.dvd_mul_left ..)
      case aligned => exact List.forall_mem_append.2 ⟨h.aligned, List.forall_mem_singleton.2 hstart⟩
      case room =>
        refine List.forall_mem_append.2 ⟨fun slot hslot => ?_, List.forall_mem_singleton.2 le_rfl⟩
        exact ((h.room slot hslot).trans hlater).trans (Nat.le_add_right ..)
      case apart =>
        refine List.pairwise_append.2 ⟨h.apart, List.pairwise_singleton .., fun slot hslot next hnext => ?_⟩
        rw [List.mem_singleton.1 hnext]
        exact (h.room slot hslot).trans hlater
      case tight =>
        intro t ht
        exact ht _ (List.mem_append_right _ (List.mem_singleton.2 rfl))

theorem spaced_timetable (hbit : 0 < bitTime config) (first : Nat) (calls : List Call) :
    Spaced config (timetable config first calls) := by
  induction calls using List.reverseRecOn with
  | nil => exact spaced_nil config first
  | append_singleton calls call ih =>
      rw [timetable_snoc]
      exact ih.call hbit call

theorem map_frame_timetable (config : LinkConfig) (first : Nat) (calls : List Call) :
    (timetable config first calls).slots.map Slot.frame = calls.filterMap (Call.frame? config) := by
  induction calls using List.reverseRecOn with
  | nil => rfl
  | append_singleton calls call ih =>
      rw [timetable_snoc, filterMap_snoc, ← ih]
      cases call with
      | look => exact (List.append_nil _).symm
      | send address command => exact List.map_append

/-- The slot of a frame is the first one left when it is sent. -/
theorem slot_of_send (hbit : 0 < bitTime config) (first : Nat) (earlier : List Call)
    (address : UInt8) (command : Command) (later : List Call) :
    ∃ slot, (timetable config first (earlier ++ .send address command :: later)).slots[
        (timetable config first earlier).slots.length]? = some slot ∧
      (timetable config first earlier).now ≤ slot.startMs ∧
      ∀ startMs, bitTime config ∣ startMs → (timetable config first earlier).now ≤ startMs →
        (∀ before ∈ (timetable config first earlier).slots,
          before.startMs + 9 * bitTime config ≤ startMs) → slot.startMs ≤ startMs := by
  have hspaced := spaced_timetable hbit first earlier
  obtain ⟨more, hmore⟩ := slots_prefix config first (earlier ++ [.send address command]) later
  rw [List.append_assoc, List.singleton_append, timetable_snoc, Timetable.call] at hmore
  rw [← hmore, List.append_assoc, List.getElem?_append_right (Nat.le_refl _), Nat.sub_self]
  refine ⟨_, rfl, ?_, ?_⟩
  · exact (le_max_left ..).trans (le_boundary hbit _)
  · intro startMs hstart hnow hbefore
    exact boundary_le hbit hstart (max_le hnow (hspaced.tight startMs hbefore))

/-! ## The bits of a slot -/

variable {slot : Slot}

theorem getElem?_frameBits {frame : UInt8} {i : Nat} {bit : Bool} :
    (Frame.bits frame)[i]? = some bit ↔ i < 8 ∧ bit = frame.toNat.testBit i := by
  rw [Frame.bits, Binary.bits, List.getElem?_map]
  by_cases hi : i < 8
  · simp [hi, eq_comm]
  · simp [hi]

/-- A slot carries the bit that the time since its start counts out. -/
theorem Slot.carries_iff (hbit : 0 < bitMs) {bit : Bool} :
    slot.Carries bitMs t bit ↔
      slot.startMs ≤ t ∧ (Frame.bits slot.frame)[(t - slot.startMs) / bitMs]? = some bit := by
  rw [getElem?_frameBits]
  constructor
  · rintro ⟨i, hi, hfrom, hto, rfl⟩
    have hindex : (t - slot.startMs) / bitMs = i :=
      Nat.div_eq_of_lt_le (by omega) (by omega)
    rw [hindex]
    exact ⟨(Nat.le_add_right ..).trans hfrom, hi, rfl⟩
  · rintro ⟨hle, hi, rfl⟩
    have hfrom := Nat.div_mul_le_self (t - slot.startMs) bitMs
    have hto := Nat.lt_div_mul_add (a := t - slot.startMs) hbit
    refine ⟨_, hi, by omega, ?_, rfl⟩
    rw [Nat.add_one_mul]
    omega

/-- A frame is on air for eight bit times. -/
theorem Slot.Carries.within {bit : Bool} (h : slot.Carries bitMs t bit) :
    slot.startMs ≤ t ∧ t < slot.startMs + 8 * bitMs := by
  obtain ⟨i, hi, hfrom, hto, -⟩ := h
  have hlast : (i + 1) * bitMs ≤ 8 * bitMs := Nat.mul_le_mul_right bitMs hi
  omega

end LightPilot.Projector
