import LightPilot.Proofs.Run
import LightPilot.Proofs.World.Timetable

set_option autoImplicit false

/-! # The projector keeps to the timetable

The projector plans nothing. It looks at its queue when the light is asked for, starts a frame, goes on with
it or takes it off the air, each in the one answer. A run with one look in every millisecond keeps to the
timetable all the same (`keepsTimetable_run`).

The invariant splits the timetable into the frames that have ended, the one on air and the ones that wait,
which are those of the queue, each nine bit times after the one before (`OnSchedule`). A call keeps it
(`OnSchedule.look`, `OnSchedule.send`), and a look finds one of four states (`OnSchedule.looked`). -/

namespace LightPilot.Projector

/-! ## The projector and its clock -/

/-- A projector and the clock it reads. -/
structure Clocked where
  projector : Projector
  now : UInt32

/-- A look is answered by what is shown, and takes a millisecond. -/
def Clocked.perform (clocked : Clocked) : Call → Option Light × Clocked
  | .send address command =>
    (none, { clocked with projector := clocked.projector.send address command })
  | .look =>
    (some (clocked.projector.light clocked.now),
      ⟨(clocked.projector.intensity clocked.now).2, clocked.now + 1⟩)

/-- A new projector when the clock stands at `first`. -/
def Clocked.new (config : LinkConfig) (first : UInt32) : Clocked :=
  ⟨{ config }, first⟩

/-- What was shown, one millisecond after the other. -/
def lights (config : LinkConfig) (first : UInt32) (calls : List Call) : List Light :=
  (Run.answers Clocked.perform (Clocked.new config first) calls).reduceOption

/-- The light level with a bit on air, or without. -/
def levelOf (config : LinkConfig) (now : UInt32) : Option Bool → Float32
  | none => steadyLevel
  | some bit =>
    steadyLevel - 500
      + 1000 * Tone.sample (({ config } : Projector).toneFrequency bit) config.sampleRate now 0

/-- The projector keeps to the timetable. -/
structure KeepsTimetable (config : LinkConfig) (first : UInt32) (calls : List Call) : Prop where
  /-- Every frame sent has one slot, in the order of sending. -/
  frames : (timetable config first.toNat calls).slots.map Slot.frame
    = calls.filterMap (Call.frame? config)
  /-- A frame starts with the first bit time from its sending on for which those sent before leave room. -/
  prompt : ∀ earlier address command later, calls = earlier ++ .send address command :: later →
    ∃ slot, (timetable config first.toNat calls).slots[
        (timetable config first.toNat earlier).slots.length]? = some slot ∧
      (timetable config first.toNat earlier).now ≤ slot.startMs ∧
      ∀ startMs, bitTime config ∣ startMs → (timetable config first.toNat earlier).now ≤ startMs →
        (∀ before ∈ (timetable config first.toNat earlier).slots,
          before.startMs + 9 * bitTime config ≤ startMs) → slot.startMs ≤ startMs
  aligned : ∀ slot ∈ (timetable config first.toNat calls).slots, bitTime config ∣ slot.startMs
  /-- Between the eight bit times of one frame and of the next is at least one more. -/
  apart : (timetable config first.toNat calls).slots.Pairwise fun slot next =>
    slot.startMs + 9 * bitTime config ≤ next.startMs
  looked : first.toNat + (lights config first calls).length
    = (timetable config first.toNat calls).now
  /-- Exactly the bits of the slots are on air. -/
  onAir : ∀ (k : Nat) (light : Light), (lights config first calls)[k]? = some light → ∀ bit,
    light.bit? = some bit ↔ ∃ slot ∈ (timetable config first.toNat calls).slots,
      slot.Carries (bitTime config) (first.toNat + k) bit
  /-- The tone of the bit is the light level, which is steady while there is none. -/
  level : ∀ (k : Nat) (light : Light), (lights config first calls)[k]? = some light →
    light.level = levelOf config (first + UInt32.ofNat k) light.bit?
  /-- Nothing is left iff the light was looked at after the end of every slot. -/
  idle : (Run.final Clocked.perform (Clocked.new config first) calls).projector.isIdle = true ↔
    ∀ slot ∈ (timetable config first.toNat calls).slots,
      slot.startMs + 8 * bitTime config < (timetable config first.toNat calls).now

variable {config : LinkConfig} {table : Timetable} {bitMs t : Nat}

/-! ## One call -/

/-- Frames that wait, the first of them until `startMs`. -/
def upcoming (bitMs : Nat) : (startMs : Nat) → List UInt8 → List Slot
  | _, [] => []
  | startMs, frame :: frames => ⟨startMs, frame⟩ :: upcoming bitMs (startMs + 9 * bitMs) frames

/-- The millisecond in which the next frame starts, if one waits. -/
def nextStart (bitMs now : Nat) : Option Slot → Nat
  | none => boundary bitMs now
  | some slot => slot.startMs + 9 * bitMs

theorem upcoming_snoc (bitMs startMs : Nat) (frames : List UInt8) (frame : UInt8) :
    upcoming bitMs startMs (frames ++ [frame])
      = upcoming bitMs startMs frames ++ [⟨startMs + frames.length * (9 * bitMs), frame⟩] := by
  induction frames generalizing startMs with
  | nil => simp [upcoming]
  | cons first frames ih =>
      have hlast : startMs + 9 * bitMs + frames.length * (9 * bitMs)
          = startMs + (frames.length + 1) * (9 * bitMs) := by
        rw [Nat.add_one_mul frames.length, Nat.add_assoc, Nat.add_comm (9 * bitMs)]
      rw [List.cons_append, upcoming, ih, upcoming, List.length_cons, List.cons_append, hlast]

theorem le_of_mem_upcoming {startMs : Nat} {frames : List UInt8} {slot : Slot}
    (h : slot ∈ upcoming bitMs startMs frames) : startMs ≤ slot.startMs := by
  induction frames generalizing startMs with
  | nil => contradiction
  | cons frame frames ih =>
      rcases List.mem_cons.1 h with rfl | hlater
      · exact Nat.le_refl startMs
      · exact (Nat.le_add_right ..).trans (ih hlater)

/-- The frames that have `ended`, the one on air and the ones in the queue are those of the timetable. -/
structure OnSchedule (config : LinkConfig) (table : Timetable) (clocked : Clocked)
    (ended : List Slot) (current? : Option Slot) : Prop where
  settings : clocked.projector.config = config
  clock : clocked.now = UInt32.ofNat table.now
  slots : table.slots = ended ++ (current?.toList ++ upcoming (bitTime config)
    (nextStart (bitTime config) table.now current?) clocked.projector.queue)
  past : ∀ slot ∈ ended, slot.startMs + 8 * bitTime config < table.now
  onAir : clocked.projector.onAir? = current?.map fun slot =>
    ⟨UInt32.ofNat slot.startMs, slot.frame⟩
  current : ∀ slot ∈ current?, bitTime config ∣ slot.startMs ∧ slot.startMs < table.now ∧
    table.now ≤ slot.startMs + 8 * bitTime config
  /-- A frame sent now would start after those that wait. -/
  free : max (boundary (bitTime config) table.now) table.free
    = nextStart (bitTime config) table.now current?
      + clocked.projector.queue.length * (9 * bitTime config)

variable {clocked : Clocked} {ended : List Slot} {current? : Option Slot} {slot : Slot}

theorem onSchedule_new (config : LinkConfig) (first : UInt32) :
    OnSchedule config { now := first.toNat } (Clocked.new config first) [] none where
  settings := rfl
  clock := (UInt32.ofNat_toNat).symm
  slots := rfl
  past _ h := by contradiction
  onAir := rfl
  current _ h := by contradiction
  free := by
    rw [nextStart, Clocked.new, List.length_nil, Nat.zero_mul]
    exact Nat.max_zero _

theorem OnSchedule.bitMs_eq (h : OnSchedule config table clocked ended current?) :
    clocked.projector.bitMs.toNat = bitTime config := by
  have hsame : clocked.projector.bitMs = ({ config } : Projector).bitMs := bitMs_of_config h.settings
  rw [bitTime, hsame]

/-- The next frame starts no earlier than with the next bit time. -/
theorem OnSchedule.boundary_le_next (h : OnSchedule config table clocked ended current?)
    (hbit : 0 < bitTime config) :
    boundary (bitTime config) table.now ≤ nextStart (bitTime config) table.now current? := by
  cases current? with
  | none => exact Nat.le_refl _
  | some slot =>
      obtain ⟨hstart, -, hlast⟩ := h.current slot rfl
      rw [nextStart]
      refine boundary_le hbit (Nat.dvd_add hstart (Nat.dvd_mul_left ..)) (hlast.trans ?_)
      omega

theorem OnSchedule.send (h : OnSchedule config table clocked ended current?)
    (hbit : 0 < bitTime config) (hfree : bitTime config ∣ table.free) (address : UInt8)
    (command : Command) :
    OnSchedule config (table.call config (.send address command))
      (clocked.perform (.send address command)).2 ended current? := by
  have hstart : boundary (bitTime config) (max table.now table.free)
      = nextStart (bitTime config) table.now current?
        + clocked.projector.queue.length * (9 * bitTime config) := by
    rw [boundary_max hbit hfree, h.free]
  have hnext := h.boundary_le_next hbit
  rw [Timetable.call, Clocked.perform, Projector.send]
  constructor
  case settings => exact h.settings
  case clock => exact h.clock
  case slots =>
    dsimp only
    rw [upcoming_snoc, hstart, h.slots, List.append_assoc, List.append_assoc, frame, frame, h.settings]
  case past => exact h.past
  case onAir => exact h.onAir
  case current => exact h.current
  case free =>
    dsimp only
    rw [hstart, List.length_append, List.length_singleton,
      Nat.add_one_mul clocked.projector.queue.length, ← Nat.add_assoc]
    exact max_eq_right ((hnext.trans (Nat.le_add_right ..)).trans (Nat.le_add_right ..))

/-- While a frame is on air, the frames sent from now on start after those that wait. -/
theorem OnSchedule.free_eq (h : OnSchedule config table clocked ended (some slot))
    (hbit : 0 < bitTime config) :
    table.free = slot.startMs + 9 * bitTime config
      + clocked.projector.queue.length * (9 * bitTime config) := by
  obtain ⟨hstart, -, hlast⟩ := h.current slot rfl
  have hnow := boundary_le hbit (Nat.dvd_add hstart (Nat.dvd_mul_left ..)) hlast
  have hfree := h.free
  rw [nextStart] at hfree
  omega

/-! ## One look -/

/-- The bit that a look finds on air. -/
def bitIn? (bitMs : Nat) (current? : Option Slot) (t : Nat) : Option Bool :=
  current?.bind fun slot => (Frame.bits slot.frame)[(t - slot.startMs) / bitMs]?

/-- The index of the bit on air in millisecond `t`. -/
theorem toNat_passed {startMs : Nat} (hle : startMs ≤ t) (ht : t < UInt32.size) (bitMs : UInt32) :
    ((UInt32.ofNat t - UInt32.ofNat startMs) / bitMs).toNat = (t - startMs) / bitMs.toNat := by
  rw [← UInt32.ofNat_sub hle, UInt32.toNat_div,
    UInt32.toNat_ofNat_of_lt' (Nat.lt_of_le_of_lt (Nat.sub_le ..) ht)]

/-- A look that leaves the projector `q` and finds `bit?` on air keeps to the timetable. -/
structure Looked (config : LinkConfig) (table : Timetable) (clocked : Clocked) (bit? : Option Bool)
    (q : Projector) : Prop where
  bitAt : clocked.projector.bitAt clocked.now = (bit?, q)
  after : ∃ ended current?, OnSchedule config { table with now := table.now + 1 }
    ⟨q, clocked.now + 1⟩ ended current? ∧ bit? = bitIn? (bitTime config) current? table.now

theorem OnSchedule.clock_succ (h : OnSchedule config table clocked ended current?) :
    clocked.now + 1 = UInt32.ofNat (table.now + 1) := by
  rw [h.clock, UInt32.ofNat_add]
  rfl

theorem OnSchedule.past_succ (h : OnSchedule config table clocked ended current?) :
    ∀ slot ∈ ended, slot.startMs + 8 * bitTime config < table.now + 1 :=
  fun slot hslot => (h.past slot hslot).trans (Nat.lt_succ_self _)

/-- Whether the clock stands on a multiple of the bit time. -/
theorem OnSchedule.mod_eq_zero_iff (h : OnSchedule config table clocked ended current?)
    (hnow : table.now < UInt32.size) :
    clocked.now % clocked.projector.bitMs = 0 ↔ bitTime config ∣ table.now := by
  rw [← UInt32.toNat_inj, UInt32.toNat_mod, h.clock, UInt32.toNat_ofNat_of_lt' hnow,
    UInt32.toNat_zero, h.bitMs_eq, Nat.dvd_iff_mod_eq_zero]

/-- Nothing is on air, and no frame starts. -/
theorem OnSchedule.look_pause (h : OnSchedule config table clocked ended none)
    (hbit : 0 < bitTime config) (hnow : table.now < UInt32.size)
    (hwaits : clocked.projector.queue = [] ∨ ¬ bitTime config ∣ table.now) :
    Looked config table clocked none clocked.projector where
  bitAt := bitAt_of_idle h.onAir (hwaits.imp_right fun hdvd => mt (h.mod_eq_zero_iff hnow).1 hdvd)
  after := by
    have hfree := h.free
    have hslots := h.slots
    rw [nextStart] at hfree hslots
    refine ⟨ended, none, ?_, rfl⟩
    constructor
    case settings => exact h.settings
    case clock => exact h.clock_succ
    case slots =>
      rw [nextStart]
      dsimp only
      rcases hwaits with hempty | hbetween
      · rw [hslots, hempty]
        rfl
      · rw [boundary_succ hbit hbetween, hslots]
    case past => exact h.past_succ
    case onAir => exact h.onAir
    case current => exact fun slot hslot => by contradiction
    case free =>
      rw [nextStart]
      dsimp only
      rcases hwaits with hempty | hbetween
      · have hgrows := boundary_mono hbit (Nat.le_succ table.now)
        rw [hempty, List.length_nil, Nat.zero_mul, Nat.add_zero] at hfree ⊢
        exact max_eq_left ((max_eq_left_iff.1 hfree).trans hgrows)
      · rw [boundary_succ hbit hbetween, hfree]

/-- A frame starts. -/
theorem OnSchedule.look_start (h : OnSchedule config table clocked ended none)
    (hbit : 0 < bitTime config) (hnow : table.now < UInt32.size) {frame : UInt8} {queue : List UInt8}
    (hqueue : clocked.projector.queue = frame :: queue) (hdvd : bitTime config ∣ table.now) :
    Looked config table clocked (Frame.bits frame)[0]?
      { clocked.projector with queue, onAir? := some ⟨clocked.now, frame⟩ } where
  bitAt := by
    have hfirst : 0 < (Frame.bits frame).length := by
      rw [length_frameBits]
      decide
    rw [bitAt_of_start h.onAir hqueue ((h.mod_eq_zero_iff hnow).2 hdvd), bitAt_of_onAir rfl]
    dsimp only
    rw [UInt32.sub_self, UInt32.zero_div, UInt32.toNat_zero, List.getElem?_eq_getElem hfirst]
  after := by
    have hfree := h.free
    have hslots := h.slots
    rw [nextStart, boundary_of_dvd hbit hdvd, hqueue] at hfree hslots
    rw [List.length_cons, Nat.add_one_mul queue.length] at hfree
    have hbound : boundary (bitTime config) (table.now + 1) ≤ table.now + 9 * bitTime config :=
      boundary_le hbit (Nat.dvd_add hdvd (Nat.dvd_mul_left ..)) (by omega)
    refine ⟨ended, some ⟨table.now, frame⟩, ?_, ?_⟩
    · constructor
      case settings => exact h.settings
      case clock => exact h.clock_succ
      case slots =>
        rw [nextStart, hslots]
        rfl
      case past => exact h.past_succ
      case onAir =>
        rw [h.clock]
        rfl
      case current =>
        intro slot hslot
        cases hslot
        refine ⟨hdvd, Nat.lt_succ_self _, ?_⟩
        dsimp only
        omega
      case free =>
        rw [nextStart]
        dsimp only
        omega
    · rw [bitIn?, Option.bind_some, Nat.sub_self, Nat.zero_div]

/-- The frame on air goes on. -/
theorem OnSchedule.look_on (h : OnSchedule config table clocked ended (some slot))
    (hbit : 0 < bitTime config) (hnow : table.now < UInt32.size)
    (hmore : table.now < slot.startMs + 8 * bitTime config) :
    Looked config table clocked (bitIn? (bitTime config) (some slot) table.now)
      clocked.projector where
  bitAt := by
    obtain ⟨-, hstarted, -⟩ := h.current slot rfl
    have hindex : (table.now - slot.startMs) / bitTime config < (Frame.bits slot.frame).length := by
      rw [length_frameBits, Nat.div_lt_iff_lt_mul hbit]
      omega
    rw [h.clock, bitAt_of_onAir h.onAir]
    dsimp only
    rw [toNat_passed hstarted.le hnow, h.bitMs_eq, bitIn?, Option.bind_some,
      List.getElem?_eq_getElem hindex]
  after := by
    obtain ⟨hdvd, hstarted, -⟩ := h.current slot rfl
    have hfree := h.free_eq hbit
    have hbound : boundary (bitTime config) (table.now + 1) ≤ slot.startMs + 9 * bitTime config :=
      boundary_le hbit (Nat.dvd_add hdvd (Nat.dvd_mul_left ..)) (by omega)
    refine ⟨ended, some slot, ?_, rfl⟩
    constructor
    case settings => exact h.settings
    case clock => exact h.clock_succ
    case slots => exact h.slots
    case past => exact h.past_succ
    case onAir => exact h.onAir
    case current =>
      intro other hother
      cases hother
      exact ⟨hdvd, hstarted.trans (Nat.lt_succ_self _), hmore⟩
    case free =>
      rw [nextStart, hfree]
      exact max_eq_right (hbound.trans (Nat.le_add_right ..))

/-- The frame on air has ended, and leaves the air. -/
theorem OnSchedule.look_end (h : OnSchedule config table clocked ended (some slot))
    (hbit : 0 < bitTime config) (hnow : table.now < UInt32.size)
    (hend : table.now = slot.startMs + 8 * bitTime config) :
    Looked config table clocked none { clocked.projector with onAir? := none } where
  bitAt := by
    obtain ⟨-, hstarted, -⟩ := h.current slot rfl
    have hindex : (table.now - slot.startMs) / bitTime config = 8 := by
      rw [hend, Nat.add_sub_cancel_left, Nat.mul_div_cancel _ hbit]
    rw [h.clock, bitAt_of_onAir h.onAir]
    dsimp only
    rw [toNat_passed hstarted.le hnow, h.bitMs_eq, hindex,
      List.getElem?_eq_none (Nat.le_of_eq (length_frameBits slot.frame))]
  after := by
    obtain ⟨hdvd, -, -⟩ := h.current slot rfl
    have hfree := h.free_eq hbit
    have hnext : boundary (bitTime config) (table.now + 1) = slot.startMs + 9 * bitTime config := by
      rw [boundary_succ_of_dvd hbit (hend ▸ Nat.dvd_add hdvd (Nat.dvd_mul_left ..)), hend,
        Nat.add_assoc, ← Nat.add_one_mul 8]
    refine ⟨ended ++ [slot], none, ?_, rfl⟩
    constructor
    case settings => exact h.settings
    case clock => exact h.clock_succ
    case slots =>
      rw [nextStart]
      dsimp only
      rw [hnext, h.slots, List.append_assoc]
      rfl
    case past =>
      refine List.forall_mem_append.2 ⟨h.past_succ, List.forall_mem_singleton.2 ?_⟩
      exact hend ▸ Nat.lt_succ_self _
    case onAir => rfl
    case current => exact fun slot hslot => by contradiction
    case free =>
      rw [nextStart]
      dsimp only
      rw [hnext, hfree]
      exact max_eq_right (Nat.le_add_right ..)

/-- A look finds the projector in one of four states. -/
theorem OnSchedule.looked (h : OnSchedule config table clocked ended current?)
    (hbit : 0 < bitTime config) (hnow : table.now < UInt32.size) :
    ∃ bit? q, Looked config table clocked bit? q := by
  cases current? with
  | none =>
      by_cases hwaits : clocked.projector.queue = [] ∨ ¬ bitTime config ∣ table.now
      · exact ⟨_, _, h.look_pause hbit hnow hwaits⟩
      · obtain ⟨hqueue, hdvd⟩ := not_or.1 hwaits
        obtain ⟨frame, queue, hcons⟩ := List.exists_cons_of_ne_nil hqueue
        exact ⟨_, _, h.look_start hbit hnow hcons (not_not.1 hdvd)⟩
  | some slot =>
      obtain ⟨-, -, hlast⟩ := h.current slot rfl
      rcases Nat.lt_or_eq_of_le hlast with hmore | hend
      · exact ⟨_, _, h.look_on hbit hnow hmore⟩
      · exact ⟨_, _, h.look_end hbit hnow hend⟩

/-- A look finds the bit of the frame that the timetable has on air. -/
theorem OnSchedule.look (h : OnSchedule config table clocked ended current?)
    (hbit : 0 < bitTime config) (hnow : table.now < UInt32.size) :
    ∃ ended current?, OnSchedule config (table.call config .look) (clocked.perform .look).2
        ended current? ∧
      (clocked.projector.light clocked.now).bit? = bitIn? (bitTime config) current? table.now := by
  obtain ⟨bit?, q, hbitAt, ended, current?, hafter, hfound⟩ := h.looked hbit hnow
  refine ⟨ended, current?, ?_, ?_⟩
  · rw [Timetable.call, Clocked.perform, snd_intensity, hbitAt]
    exact hafter
  · rw [light, hbitAt]
    exact hfound

/-! ## What is on air -/

/-- The slot of the frame on air is the only one that carries a bit. -/
theorem OnSchedule.carries_iff (h : OnSchedule config table clocked ended current?)
    (hbit : 0 < bitTime config) (ht : table.now = t + 1) (bit : Bool) :
    bitIn? (bitTime config) current? t = some bit ↔
      ∃ slot ∈ table.slots, slot.Carries (bitTime config) t bit := by
  rw [bitIn?, Option.bind_eq_some_iff]
  constructor
  · rintro ⟨slot, hslot, hfound⟩
    obtain ⟨-, hstarted, -⟩ := h.current slot hslot
    refine ⟨slot, ?_, (Slot.carries_iff hbit).2 ⟨by omega, hfound⟩⟩
    rw [h.slots, hslot]
    exact List.mem_append_right _ (List.mem_append_left _ (List.mem_singleton.2 rfl))
  · rintro ⟨slot, hslot, hcarries⟩
    obtain ⟨hfrom, hto⟩ := hcarries.within
    rw [h.slots, List.mem_append, List.mem_append] at hslot
    rcases hslot with hended | hcurrent | hwaits
    · have hpast := h.past slot hended
      omega
    · exact ⟨slot, Option.mem_toList.1 hcurrent, ((Slot.carries_iff hbit).1 hcarries).2⟩
    · -- a frame that waits starts later than `t`
      have hnext := (h.boundary_le_next hbit).trans (le_of_mem_upcoming hwaits)
      have hlater := le_boundary hbit table.now
      omega

/-- Nothing is left once every slot has ended. -/
theorem OnSchedule.isIdle_iff (h : OnSchedule config table clocked ended current?)
    (hbit : 0 < bitTime config) :
    clocked.projector.isIdle = true ↔
      ∀ slot ∈ table.slots, slot.startMs + 8 * bitTime config < table.now := by
  rw [isIdle, Bool.and_eq_true, Option.isNone_iff_eq_none, List.isEmpty_iff, h.onAir,
    Option.map_eq_none_iff, h.slots]
  constructor
  · rintro ⟨hair, hqueue⟩
    rw [hair, hqueue]
    simpa [upcoming] using h.past
  · intro hslots
    constructor
    · by_contra hair
      obtain ⟨slot, hslot⟩ := Option.ne_none_iff_exists'.1 hair
      obtain ⟨-, -, hlast⟩ := h.current slot hslot
      have hover := hslots slot (by simp [hslot])
      omega
    · by_contra hqueue
      obtain ⟨frame, queue, hcons⟩ := List.exists_cons_of_ne_nil hqueue
      have hover := hslots ⟨nextStart (bitTime config) table.now current?, frame⟩
        (by simp [hcons, upcoming])
      have hnext := (le_boundary hbit table.now).trans (h.boundary_le_next hbit)
      dsimp only at hover
      omega

/-- The level follows from the bit found on air. -/
theorem level_light {p : Projector} (h : p.config = config) (now : UInt32) :
    (p.light now).level = levelOf config now (p.light now).bit? := by
  have hconfig : (p.bitAt now).2.config = config := by
    rw [← snd_intensity, config_intensity, h]
  rw [light, intensity]
  dsimp only
  generalize p.bitAt now = found at hconfig ⊢
  obtain ⟨bit?, q⟩ := found
  subst hconfig
  cases bit? <;> rfl

/-! ## A run -/

/-- The projector has kept to the timetable so far. -/
structure Kept (config : LinkConfig) (first : UInt32) (table : Timetable) (seen : List Light)
    (clocked : Clocked) : Prop where
  onSchedule : ∃ ended current?, OnSchedule config table clocked ended current?
  spaced : Spaced config table
  looked : first.toNat + seen.length = table.now
  onAir : ∀ (k : Nat) (light : Light), seen[k]? = some light → ∀ bit,
    light.bit? = some bit ↔ ∃ slot ∈ table.slots,
      slot.Carries (bitTime config) (first.toNat + k) bit
  level : ∀ (k : Nat) (light : Light), seen[k]? = some light →
    light.level = levelOf config (first + UInt32.ofNat k) light.bit?

variable {first : UInt32} {seen : List Light}

theorem kept_new (config : LinkConfig) (first : UInt32) :
    Kept config first { now := first.toNat } [] (Clocked.new config first) where
  onSchedule := ⟨[], none, onSchedule_new config first⟩
  spaced := spaced_nil config first.toNat
  looked := rfl
  onAir _ _ h := by contradiction
  level _ _ h := by contradiction

/-- What was shown before a frame was sent, it does not change. -/
theorem Kept.send (h : Kept config first table seen clocked) (hbit : 0 < bitTime config)
    (address : UInt8) (command : Command) :
    Kept config first (table.call config (.send address command)) seen
      (clocked.perform (.send address command)).2 where
  onSchedule := by
    obtain ⟨ended, current?, hon⟩ := h.onSchedule
    exact ⟨ended, current?, hon.send hbit h.spaced.free_dvd address command⟩
  spaced := h.spaced.call hbit (.send address command)
  looked := h.looked
  onAir := by
    intro k light hlight bit
    have hk := (List.getElem?_eq_some_iff.1 hlight).1
    rw [h.onAir k light hlight bit]
    refine ⟨fun ⟨slot, hslot, hcarries⟩ => ⟨slot, List.mem_append_left _ hslot, hcarries⟩, ?_⟩
    rintro ⟨slot, hslot, hcarries⟩
    refine ⟨slot, (List.mem_append.1 hslot).resolve_right fun hnew => ?_, hcarries⟩
    have hstart := (le_max_left ..).trans (le_boundary hbit (max table.now table.free))
    have hfrom := hcarries.within.1
    have hlooked := h.looked
    rw [List.mem_singleton.1 hnew] at hfrom
    dsimp only at hfrom
    omega
  level := h.level

theorem forall_snoc {P : Nat → Light → Prop} {last : Light}
    (h : ∀ (k : Nat) (light : Light), seen[k]? = some light → P k light)
    (hlast : P seen.length last) (k : Nat) (light : Light)
    (hlight : (seen ++ [last])[k]? = some light) : P k light := by
  rcases Nat.lt_trichotomy k seen.length with hlt | rfl | hgt
  · rw [List.getElem?_append_left hlt] at hlight
    exact h k light hlight
  · rw [List.getElem?_concat_length] at hlight
    cases hlight
    exact hlast
  · rw [List.getElem?_eq_none (by simpa using hgt)] at hlight
    contradiction

/-- What is shown in one more millisecond. -/
theorem Kept.look (h : Kept config first table seen clocked) (hbit : 0 < bitTime config)
    (hnow : table.now < UInt32.size) :
    Kept config first (table.call config .look) (seen ++ [clocked.projector.light clocked.now])
      (clocked.perform .look).2 := by
  obtain ⟨ended, current?, hon⟩ := h.onSchedule
  obtain ⟨ended', current?', hafter, hfound⟩ := hon.look hbit hnow
  have hclock : clocked.now = first + UInt32.ofNat seen.length := by
    rw [hon.clock, ← h.looked, UInt32.ofNat_add, UInt32.ofNat_toNat]
  constructor
  case onSchedule => exact ⟨ended', current?', hafter⟩
  case spaced => exact h.spaced.call hbit .look
  case looked =>
    rw [List.length_append, List.length_singleton, ← Nat.add_assoc, h.looked]
    rfl
  case onAir =>
    refine forall_snoc h.onAir fun bit => ?_
    rw [hfound, h.looked]
    exact hafter.carries_iff hbit rfl bit
  case level =>
    refine forall_snoc h.level ?_
    rw [← hclock]
    exact level_light hon.settings clocked.now

theorem Kept.call (h : Kept config first table seen clocked) (hbit : 0 < bitTime config)
    (call : Call) (hclock : (table.call config call).now ≤ UInt32.size) :
    Kept config first (table.call config call) (seen ++ (clocked.perform call).1.toList)
      (clocked.perform call).2 := by
  cases call with
  | look => exact h.look hbit hclock
  | send address command =>
      rw [Clocked.perform, Option.toList_none, List.append_nil]
      exact h.send hbit address command

theorem kept_lights (hbit : 0 < bitTime config) (first : UInt32) (calls : List Call)
    (hclock : (timetable config first.toNat calls).now ≤ UInt32.size) :
    Kept config first (timetable config first.toNat calls) (lights config first calls)
      (Run.final Clocked.perform (Clocked.new config first) calls) := by
  refine Run.induction (motive := fun calls answers clocked =>
    (timetable config first.toNat calls).now ≤ UInt32.size →
      Kept config first (timetable config first.toNat calls) answers.reduceOption clocked)
    ?_ ?_ calls hclock
  · intro _
    exact kept_new config first
  · intro calls answers clocked call ih hclock
    rw [timetable_snoc] at hclock ⊢
    rw [List.reduceOption_append, List.reduceOption_singleton]
    exact (ih ((now_le_call ..).trans hclock)).call hbit call hclock

/-- **The projector keeps to the timetable**: each frame sent is on air once, in the order of sending and
bit by bit, from a multiple of the bit time on, with a steady bit time at least before the next one. -/
theorem keepsTimetable_run (hbit : 0 < bitTime config) (first : UInt32) (calls : List Call)
    (hclock : (timetable config first.toNat calls).now ≤ UInt32.size) :
    KeepsTimetable config first calls := by
  have hspaced := spaced_timetable hbit first.toNat calls
  have hkept := kept_lights hbit first calls hclock
  obtain ⟨ended, current?, hon⟩ := hkept.onSchedule
  constructor
  case frames => exact map_frame_timetable config first.toNat calls
  case prompt =>
    rintro earlier address command later rfl
    exact slot_of_send hbit first.toNat earlier address command later
  case aligned => exact hspaced.aligned
  case apart => exact hspaced.apart
  case looked => exact hkept.looked
  case onAir => exact hkept.onAir
  case level => exact hkept.level
  case idle => exact hon.isIdle_iff hbit

/-- Two frames on a clock that starts at 3, the second sent while the first is on air. -/
def overlappingCalls : List Call :=
  .look :: .send 2 .up :: List.replicate 20 .look ++ .send 1 .land :: List.replicate 300 .look

/-- The second frame waits for the first, and a bit time longer. -/
theorem keepsTimetable_overlappingCalls :
    (timetable { window := 1 } 3 overlappingCalls).slots.map Slot.startMs = [16, 160] ∧
      (timetable { window := 1 } 3 overlappingCalls).now = 324 ∧
      KeepsTimetable { window := 1 } 3 overlappingCalls :=
  ⟨by decide +kernel, by decide +kernel,
    keepsTimetable_run (by decide) 3 overlappingCalls (by decide +kernel)⟩

end LightPilot.Projector
