import LightPilot.Proofs.Run
import LightPilot.Proofs.World.Creation

set_option autoImplicit false

/-! # Division in the simulation

A step divides by the periods of the tasks, by the bit time of the projector and by the integration time
of the color sensors. `step?` is the step with these divisions checked. All its other divisors are
literals, but for the bound of a draw, by which `Generator.unbiased` divides only if it is above some
word. The periods were checked on creation and the integration time is a constant, so a step is
undefined only if it reads a light whose bits have no time (`step?_eq`). Nothing checks that they have
one: a vote of so few windows at so high a rate takes less than a millisecond, and the first step, in
which all tasks are due, divides by zero (`arithmetic_create`). -/

namespace LightPilot

/-! ## The projector -/

namespace Projector

/-- The projector with the next frame started. -/
def start? (p : Projector) (now : UInt32) : Option Projector :=
  match p.onAir? with
  | some _ => some p
  | none =>
    -- divided even if no frame waits
    (remainder? now p.bitMs).map fun (rest : UInt32) =>
      match p.queue with
      | [] => p
      | frame :: queue => if rest = 0 then { p with queue, onAir? := some ⟨now, frame⟩ } else p

def bitAt? (p : Projector) (now : UInt32) : Option (Option Bool × Projector) :=
  (p.start? now).bind fun p =>
    match p.onAir? with
    | none => some (none, p)
    | some transmission =>
      (quotient? (now - transmission.startMs) p.bitMs).map fun (index : UInt32) =>
        match (Frame.bits transmission.frame)[index.toNat]? with
        | some bit => (some bit, p)
        | none => (none, { p with onAir? := none })

def intensity? (p : Projector) (now : UInt32) : Option (Float32 × Projector) :=
  (p.bitAt? now).map fun (bit?, p) =>
    match bit? with
    | none => (steadyLevel, p)
    | some bit =>
      let sample := Tone.sample (p.toneFrequency bit) p.config.sampleRate now 0
      (steadyLevel - 500 + 1000 * sample, p)

variable {p : Projector} (now : UInt32)

theorem config_start : (p.start now).config = p.config := by
  rw [start]
  split
  · split <;> rfl
  · rfl

theorem config_intensity : (p.intensity now).2.config = p.config := by
  have hbit : (p.bitAt now).2.config = p.config := by
    rw [bitAt]
    dsimp only
    split
    · exact config_start now
    · split
      · exact config_start now
      · exact config_start now
  rw [intensity]
  split
  next hresult =>
    rw [hresult] at hbit
    split <;> exact hbit

theorem bitMs_of_config {other : Projector} (h : p.config = other.config) : p.bitMs = other.bitMs := by
  rw [bitMs, bitMs, h]

theorem start?_of_ne_zero (h : p.bitMs ≠ 0) : p.start? now = some (p.start now) := by
  rw [start?, start]
  split
  · next hair => rw [hair]
  · next hair =>
      rw [hair, remainder?_of_ne_zero h, Option.map_some]
      cases p.queue <;> rfl

theorem bitAt?_of_ne_zero (h : p.bitMs ≠ 0) : p.bitAt? now = some (p.bitAt now) := by
  have hstart : (p.start now).bitMs ≠ 0 := by rwa [bitMs_of_config (config_start now)]
  rw [bitAt?, start?_of_ne_zero now h, Option.bind_some, bitAt]
  dsimp only
  cases (p.start now).onAir? with
  | none => rfl
  | some transmission =>
      dsimp only
      refine Option.map_eq_some_iff.2 ⟨_, quotient?_of_ne_zero hstart _, ?_⟩
      cases (Frame.bits transmission.frame)[((now - transmission.startMs)
        / (p.start now).bitMs).toNat]? <;> rfl

theorem bitAt?_of_eq_zero (h : p.bitMs = 0) : p.bitAt? now = none := by
  rw [bitAt?, start?]
  -- a frame on air is divided into bits; without one the time is divided for the next to start
  split
  · next hair => simp only [Option.bind_some, hair, h, quotient?, if_true, Option.map_none]
  · next hair => simp only [h, remainder?, if_true, Option.map_none, Option.bind_none]

theorem intensity?_eq :
    p.intensity? now = if p.isTimed then some (p.intensity now) else none := by
  rw [isTimed]
  by_cases h : p.bitMs = 0
  · rw [intensity?, bitAt?_of_eq_zero now h, h]
    rfl
  · rw [if_pos (bne_iff_ne.2 h), intensity?, bitAt?_of_ne_zero now h]
    rfl

end Projector

/-! ## The data-ready lines -/

namespace ReadyLine

/-- The edge since the last poll. -/
def poll? (line : ReadyLine) (now : UInt32) : Option (Option Edge × ReadyLine) :=
  -- divided before it is known whether the phase is over
  let elapsed := if now < line.phaseMs then 0 else now - line.phaseMs
  (quotient? elapsed line.integrationMs).map fun period =>
    if now < line.phaseMs ∨ line.lastPulse? = some period then (none, line)
    else (some .falling, { line with lastPulse? := some period })

theorem poll?_eq {line : ReadyLine} (h : line.integrationMs ≠ 0) (now : UInt32) :
    line.poll? now = some (line.poll now) := by
  rw [poll?, poll]
  dsimp only
  rw [quotient?_of_ne_zero h, Option.map_some]
  by_cases hphase : now < line.phaseMs
  · rw [if_pos (.inl hphase), if_pos hphase]
  · simp only [hphase, false_or, if_false]

theorem integrationMs_poll (line : ReadyLine) (now : UInt32) :
    (line.poll now).2.integrationMs = line.integrationMs := by
  rw [poll]
  split
  · rfl
  · dsimp only
    split <;> rfl

end ReadyLine

namespace Simulation

/-! ## A step

The parts of a step with their divisions checked; what a part reports is left out. -/

def isDue? (s : Simulation) (periodMs : UInt32) : Option Bool :=
  (remainder? s.now periodMs).map (· == 0)

def runSampling? (s : Simulation) : Option Simulation := do
  if ← s.isDue? s.config.periods.sampleMs then
    let (level, projector) ← s.projector.intensity? s.now
    return { s with projector, vehicle := (s.vehicle.sample (some level)).2 }
  else return s

def runLink? (s : Simulation) : Option Simulation := do
  if ← s.isDue? s.config.periods.linkMs then return { s with vehicle := s.vehicle.decode.2 }
  else return s

def runMotion? (s : Simulation) : Option Simulation := do
  if ← s.isDue? s.config.periods.motionMs then
    let sample? := (s.craft.inertialSensor sensorBias).read
    return { s with vehicle := (s.vehicle.move sample? s.now).2 }
  else return s

def runFilter? (s : Simulation) : Option Simulation := do
  if ← s.isDue? s.config.periods.filterMs then
    let (left, leftLine) ← s.leftLine.poll? s.now
    let (right, rightLine) ← s.rightLine.poll? s.now
    return { s with leftLine, rightLine, vehicle := (s.vehicle.observe left right s.trueColor s.now).2 }
  else return s

/-- One step with its divisions checked. -/
def step? (s : Simulation) : Option Simulation := do
  let s ← s.moveCraft.2.runSampling?
  let s ← s.runLink?
  let s ← s.runExecutor.2.runMotion?
  let s ← s.runFilter?
  return { s with now := s.now + 1 }

variable {config : VehicleConfig} {s : Simulation}

theorem isDue?_eq {periodMs : UInt32} (h : periodMs ≠ 0) :
    s.isDue? periodMs = some (s.isDue periodMs) := by
  rw [isDue?, remainder?_of_ne_zero h, Option.map_some, isDue]

theorem runSampling?_eq (h : s.config.periods.sampleMs ≠ 0) :
    s.runSampling? = if s.lacksBitTime then none else some s.runSampling.2 := by
  rw [runSampling?, isDue?_eq h, lacksBitTime, runSampling, Projector.intensity?_eq]
  cases s.isDue s.config.periods.sampleMs with
  | false => rfl
  | true =>
      cases s.projector.isTimed with
      | false => rfl
      | true => rfl

theorem runLink?_eq (h : s.config.periods.linkMs ≠ 0) :
    s.runLink? = some (s.runLinkAs .peak).2 := by
  rw [runLink?, isDue?_eq h, runLinkAs]
  cases s.isDue s.config.periods.linkMs <;> rfl

theorem runMotion?_eq (h : s.config.periods.motionMs ≠ 0) : s.runMotion? = some s.runMotion.2 := by
  rw [runMotion?, isDue?_eq h, runMotion]
  cases s.isDue s.config.periods.motionMs <;> rfl

theorem runFilter?_eq (h : s.config.periods.filterMs ≠ 0) (hleft : s.leftLine.integrationMs ≠ 0)
    (hright : s.rightLine.integrationMs ≠ 0) : s.runFilter? = some s.runFilter.2 := by
  rw [runFilter?, isDue?_eq h, runFilter, ReadyLine.poll?_eq hleft, ReadyLine.poll?_eq hright]
  cases s.isDue s.config.periods.filterMs <;> rfl

/-- The divisors of a simulation are as they were on its creation. -/
structure IsOf (config : VehicleConfig) (s : Simulation) : Prop where
  settings : s.config = config
  light : s.projector.config = config.link
  leftLine : s.leftLine.integrationMs = colorIntegrationMs
  rightLine : s.rightLine.integrationMs = colorIntegrationMs

theorem IsOf.transmit (h : s.IsOf config) (command : Command) : (s.transmit command).IsOf config :=
  ⟨h.settings, h.light, h.leftLine, h.rightLine⟩

theorem IsOf.moveCraft (h : s.IsOf config) : s.moveCraft.2.IsOf config :=
  ⟨h.settings, h.light, h.leftLine, h.rightLine⟩

theorem IsOf.runSampling (h : s.IsOf config) : s.runSampling.2.IsOf config := by
  rw [Simulation.runSampling]
  split
  · exact ⟨h.settings, (Projector.config_intensity s.now).trans h.light, h.leftLine, h.rightLine⟩
  · exact h

theorem IsOf.runLinkAs (h : s.IsOf config) (classify : Classifier) :
    (s.runLinkAs classify).2.IsOf config := by
  rw [Simulation.runLinkAs]
  split
  · exact ⟨h.settings, h.light, h.leftLine, h.rightLine⟩
  · exact h

theorem IsOf.runExecutor (h : s.IsOf config) : s.runExecutor.2.IsOf config :=
  ⟨h.settings, h.light, h.leftLine, h.rightLine⟩

theorem IsOf.runMotion (h : s.IsOf config) : s.runMotion.2.IsOf config := by
  rw [Simulation.runMotion]
  split
  · exact ⟨h.settings, h.light, h.leftLine, h.rightLine⟩
  · exact h

theorem IsOf.runFilter (h : s.IsOf config) : s.runFilter.2.IsOf config := by
  rw [Simulation.runFilter]
  split
  · exact ⟨h.settings, h.light, (s.leftLine.integrationMs_poll s.now).trans h.leftLine,
      (s.rightLine.integrationMs_poll s.now).trans h.rightLine⟩
  · exact h

/-- The state in which the link task of a step finds the vehicle. -/
def beforeLink (s : Simulation) : Simulation :=
  s.moveCraft.2.runSampling.2

/-- The state in which the executor of a step finds the vehicle. -/
def beforeExecutor (classify : Classifier) (s : Simulation) : Simulation :=
  (s.beforeLink.runLinkAs classify).2

/-- The state in which the motion task of a step finds the vehicle. -/
def beforeMotion (classify : Classifier) (s : Simulation) : Simulation :=
  (s.beforeExecutor classify).runExecutor.2

/-- What a step does before the clock moves. -/
def runTasksAs (classify : Classifier) (s : Simulation) : Simulation :=
  (s.beforeMotion classify).runMotion.2.runFilter.2

theorem stepAs_eq (classify : Classifier) (s : Simulation) :
    s.stepAs classify = { s.runTasksAs classify with now := (s.runTasksAs classify).now + 1 } := by
  rw [stepAs, stepReportingAs, runTasksAs, beforeMotion, beforeExecutor, beforeLink]

theorem IsOf.stepAs (h : s.IsOf config) (classify : Classifier) : (s.stepAs classify).IsOf config := by
  have htasks : (s.runTasksAs classify).IsOf config :=
    (h.moveCraft.runSampling.runLinkAs classify).runExecutor.runMotion.runFilter
  rw [stepAs_eq]
  exact ⟨htasks.settings, htasks.light, htasks.leftLine, htasks.rightLine⟩

/-- A step is defined, and is `step`, unless it reads a light whose bits have no time. -/
theorem step?_eq (h : s.IsOf config) (hperiods : config.periods.validate = .ok ()) :
    s.step? = if s.lacksBitTime then none else some s.step := by
  obtain ⟨⟨hsample, hlink, hmotion, hfilter⟩, -⟩ := config.periods.validate_eq_ok_iff.1 hperiods
  -- each part finds the divisors that the parts before it kept
  have hmoved := h.moveCraft
  have hsampled := hmoved.runSampling
  have hexecuted := (hsampled.runLinkAs .peak).runExecutor
  have hlast := hexecuted.runMotion
  have hintegration : colorIntegrationMs ≠ 0 := by decide
  rw [step?, runSampling?_eq (by rwa [hmoved.settings])]
  have hsame : s.moveCraft.2.lacksBitTime = s.lacksBitTime := rfl
  rw [hsame]
  cases s.lacksBitTime with
  | true => rfl
  | false =>
      simp only [Bool.false_eq_true, if_false, Option.bind_eq_bind, Option.bind_some]
      rw [runLink?_eq (by rwa [hsampled.settings]), Option.bind_some,
        runMotion?_eq (by rwa [hexecuted.settings]), Option.bind_some,
        runFilter?_eq (by rwa [hlast.settings]) (by rwa [hlast.leftLine]) (by rwa [hlast.rightLine]),
        Option.bind_some, step, stepAs_eq, runTasksAs]
      rfl

theorem isOf_create (h : create config = .ok s) : s.IsOf config ∧ s.now = 0 := by
  obtain ⟨vehicle, -, hs⟩ := Check.exists_of_bind_eq_ok h
  cases hs
  exact ⟨⟨rfl, rfl, rfl, rfl⟩, rfl⟩

/-! ## Runs -/

/-- What is asked of a simulation. -/
inductive Call
  | transmit (command : Command)
  | step
  deriving DecidableEq

/-- One call with some ear; a step answers with what it did. -/
def performAs (classify : Classifier) (s : Simulation) : Call → Option StepReport × Simulation
  | .transmit command => (none, s.transmit command)
  | .step => (some (s.stepReportingAs classify).1, s.stepAs classify)

/-- One call. -/
def perform (s : Simulation) (call : Call) : Option StepReport × Simulation :=
  s.performAs .peak call

/-- One call with its divisions checked. -/
def perform? (s : Simulation) : Call → Option Simulation
  | .transmit command => some (s.transmit command)
  | .step => s.step?

/-- A list of calls with their divisions checked. -/
def run? : Simulation → List Call → Option Simulation
  | s, [] => some s
  | s, call :: calls => (s.perform? call).bind fun s => s.run? calls

theorem IsOf.perform (h : s.IsOf config) (call : Call) : (s.perform call).2.IsOf config := by
  cases call with
  | transmit command => exact h.transmit command
  | step => exact h.stepAs .peak

theorem perform?_agrees (h : s.IsOf config) (hperiods : config.periods.validate = .ok ())
    {call : Call} {next : Simulation} (hnext : s.perform? call = some next) :
    next = (s.perform call).2 := by
  cases call with
  | transmit command => exact (Option.some.inj hnext).symm
  | step =>
      rw [perform?, step?_eq h hperiods] at hnext
      split at hnext
      · contradiction
      · exact (Option.some.inj hnext).symm

/-- Calls that are defined lead where the same calls lead unchecked. -/
theorem run?_agrees (h : s.IsOf config) (hperiods : config.periods.validate = .ok ())
    {calls : List Call} {last : Simulation} (hlast : s.run? calls = some last) :
    last = Run.final perform s calls := by
  induction calls generalizing s with
  | nil => exact (Option.some.inj hlast).symm
  | cons call calls ih =>
      obtain ⟨next, hnext, hrest⟩ := Option.bind_eq_some_iff.1 hlast
      rw [perform?_agrees h hperiods hnext] at hrest
      exact ih (h.perform call) hrest

theorem IsOf.bitMs (h : s.IsOf config) :
    s.projector.bitMs = ({ config := config.link } : Projector).bitMs :=
  Projector.bitMs_of_config h.light

/-- With a bit time no call is undefined. -/
theorem run?_isSome (h : s.IsOf config) (hperiods : config.periods.validate = .ok ())
    (hbit : ({ config := config.link } : Projector).bitMs ≠ 0) (calls : List Call) :
    (s.run? calls).isSome := by
  induction calls generalizing s with
  | nil => rfl
  | cons call calls ih =>
      have hcall : s.perform? call = some (s.perform call).2 := by
        cases call with
        | transmit command => rfl
        | step =>
            have htimed : s.lacksBitTime = false := by
              rw [lacksBitTime, Projector.isTimed, h.bitMs, bne_iff_ne.2 hbit, Bool.not_true,
                Bool.and_false]
            rw [perform?, step?_eq h hperiods, htimed]
            rfl
      rw [run?, hcall, Option.bind_some]
      exact ih (h.perform call)

/-- Without a bit time the first step at the start of time is undefined. -/
theorem run?_eq_none_iff (h : s.IsOf config) (hperiods : config.periods.validate = .ok ())
    (hbit : ({ config := config.link } : Projector).bitMs = 0) (hstart : s.now = 0)
    (calls : List Call) : s.run? calls = none ↔ .step ∈ calls := by
  induction calls generalizing s with
  | nil => simp [run?]
  | cons call calls ih =>
      cases call with
      | transmit command =>
          -- the clock stays at its start
          rw [run?, perform?, Option.bind_some, ih (h.transmit command) hstart]
          simp
      | step =>
          -- every period divides zero, so sampling is due
          have huntimed : s.lacksBitTime = true := by
            rw [lacksBitTime, Projector.isTimed, h.bitMs, hbit, isDue, hstart, UInt32.zero_mod]
            rfl
          rw [run?, perform?, step?_eq h hperiods, huntimed]
          simp

/-- What the arithmetic on words does in the life of a simulation with these settings. -/
structure Arithmetic (config : VehicleConfig) : Prop where
  /-- The creation is undefined for accepted settings with too long a window or bit, and no others. -/
  creation : create? config = none ↔
    config.validate = .ok () ∧
      (UInt32.size ≤ windowSize * config.periods.sampleMs.toNat ∨ config.link.IsTooLong)
  created : ∀ result, create? config = some result → result = create config
  periods : ∀ s, create? config = some (.ok s) →
    s.config.periods.sampleMs ≠ 0 ∧ s.config.periods.linkMs ≠ 0 ∧ s.config.periods.motionMs ≠ 0 ∧
      s.config.periods.filterMs ≠ 0
  bitTime : ∀ s, create? config = some (.ok s) → config.link.bitMs? = some s.projector.bitMs
  /-- Bits have no time if a vote takes less than a millisecond. -/
  untimed : ∀ s, create? config = some (.ok s) →
    (s.projector.bitMs = 0 ↔ windowSize * config.link.window * 1000 < config.link.sampleRate.toNat)
  /-- Calls are undefined if bits have no time and the clock moves. -/
  undefined : ∀ s, create? config = some (.ok s) → ∀ calls,
    (s.run? calls = none ↔ s.projector.bitMs = 0 ∧ Call.step ∈ calls)
  final : ∀ s, create? config = some (.ok s) → ∀ calls last,
    s.run? calls = some last → last = Run.final perform s calls

theorem of_create? (h : create? config = some (.ok s)) :
    config.validate = .ok () ∧ config.link.window ≤ historyCapacity ∧ s.IsOf config ∧ s.now = 0 := by
  have hcreate := (create?_agrees h).symm
  obtain ⟨hvalid, -, hwindow⟩ := (exists_create_eq_ok_iff config).1 ⟨s, hcreate⟩
  exact ⟨hvalid, hwindow, isOf_create hcreate⟩

theorem bitMs?_of_create? (h : create? config = some (.ok s)) :
    config.link.bitMs? = some s.projector.bitMs := by
  obtain ⟨hvalid, -, hof, -⟩ := of_create? h
  have hshort : ¬ config.link.IsTooLong := by
    intro hlong
    have hnone := (create?_eq_none_iff config).2 ⟨hvalid, .inr hlong⟩
    rw [h] at hnone
    contradiction
  cases hbit : config.link.bitMs? with
  | none =>
      have hrate := VehicleConfig.sampleRate_ne_zero hvalid
      exact absurd ((LinkConfig.bitMs?_eq_none_iff hrate).1 hbit) hshort
  | some bitMs => rw [hof.bitMs, ← LinkConfig.bitMs?_eq_some hbit]

theorem bitMs_eq_zero_iff (hrate : config.link.sampleRate ≠ 0)
    (hwindow : config.link.window ≤ historyCapacity) :
    ({ config := config.link } : Projector).bitMs = 0 ↔
      windowSize * config.link.window * 1000 < config.link.sampleRate.toNat := by
  have hword : windowSize * config.link.window * 1000 < UInt32.size := by
    have hfive : config.link.window ≤ 5 := hwindow
    change 16 * config.link.window * 1000 < 4294967296
    omega
  have hpos : 0 < config.link.sampleRate.toNat :=
    Nat.pos_of_ne_zero fun hzero => hrate (UInt32.toNat_inj.1 hzero)
  rw [Projector.bitMs, ← UInt32.toNat_inj, UInt32.toNat_div, UInt32.toNat_ofNat_of_lt' hword,
    UInt32.toNat_zero, Nat.div_eq_zero_iff, or_iff_right hpos.ne']

/-- **Where the arithmetic of a simulation is defined.** Settings that a check refuses are refused
without a fault. Settings that pass the checks cause one on creation if the time of a window or of a bit
does not fit a word; otherwise no call ever causes one, unless bits have no time: then the first step
divides by zero. -/
theorem arithmetic_create (config : VehicleConfig) : Arithmetic config where
  creation := create?_eq_none_iff config
  created := fun _ => create?_agrees
  periods := by
    intro s h
    obtain ⟨hvalid, -, hof, -⟩ := of_create? h
    rw [hof.settings]
    exact (config.periods.validate_eq_ok_iff.1 (config.validate_eq_ok_iff.1 hvalid).2.2.2).1
  bitTime := fun _ => bitMs?_of_create?
  untimed := by
    intro s h
    obtain ⟨hvalid, hwindow, hof, -⟩ := of_create? h
    rw [hof.bitMs]
    exact bitMs_eq_zero_iff (VehicleConfig.sampleRate_ne_zero hvalid) hwindow
  undefined := by
    intro s h calls
    obtain ⟨hvalid, -, hof, hstart⟩ := of_create? h
    have hperiods := (config.validate_eq_ok_iff.1 hvalid).2.2.2
    by_cases hbit : s.projector.bitMs = 0
    · rw [run?_eq_none_iff hof hperiods (hof.bitMs ▸ hbit) hstart, and_iff_right hbit]
    · have hsome := run?_isSome hof hperiods (hof.bitMs ▸ hbit) calls
      simp only [hbit, false_and, iff_false]
      exact Option.isSome_iff_ne_none.1 hsome
  final := by
    intro s h calls last
    obtain ⟨hvalid, -, hof, -⟩ := of_create? h
    exact run?_agrees hof (config.validate_eq_ok_iff.1 hvalid).2.2.2

theorem exists_create? (hvalid : config.validate = .ok ())
    (hwindow : 0 < config.link.window ∧ config.link.window ≤ historyCapacity)
    (hspan : windowSize * config.periods.sampleMs.toNat < UInt32.size)
    (hbit : ¬ config.link.IsTooLong) : ∃ s, create? config = some (.ok s) := by
  obtain ⟨s, hcreate⟩ := (exists_create_eq_ok_iff config).2 ⟨hvalid, hwindow⟩
  refine ⟨s, ?_⟩
  cases h : create? config with
  | none =>
      obtain ⟨-, hlong⟩ := (create?_eq_none_iff config).1 h
      exact absurd hlong (not_or.2 ⟨Nat.not_le.2 hspan, hbit⟩)
  | some result => rw [create?_agrees h, hcreate]

/-- The default settings are accepted with every link that is. -/
theorem validate_link {link : LinkConfig} (hlink : link.validate windowSize = .ok ()) :
    ({ link } : VehicleConfig).validate = .ok () := by
  have hfilter : ({} : FilterConfig).validate = .ok () :=
    (FilterConfig.validate_eq_ok_iff {}).2 (by decide +kernel)
  have hmotion : ({} : MotionConfig).fault? = none := by decide +kernel
  have hperiods : ({} : TaskPeriods).validate = .ok () :=
    (TaskPeriods.validate_eq_ok_iff {}).2 (by decide)
  exact (VehicleConfig.validate_eq_ok_iff { link }).2
    ⟨hfilter, by rw [MotionConfig.validate, hmotion], hlink, hperiods⟩

/-- With the default settings every run is defined. -/
theorem arithmetic_default :
    ∃ s, create? {} = some (.ok s) ∧ s.projector.bitMs ≠ 0 ∧
      ∀ calls, s.run? calls = some (Run.final perform s calls) := by
  have hlink : ({} : LinkConfig).validate windowSize = .ok () :=
    (LinkConfig.validate_eq_ok_iff {} windowSize).2 (by decide +kernel)
  obtain ⟨s, hs⟩ := exists_create? (validate_link hlink) (by decide) (by decide) (by decide)
  have harithmetic := arithmetic_create {}
  have hbit : s.projector.bitMs ≠ 0 := by
    rw [Ne, harithmetic.untimed s hs]
    decide
  refine ⟨s, hs, hbit, fun calls => ?_⟩
  cases hrun : s.run? calls with
  | none => exact absurd ((harithmetic.undefined s hs calls).1 hrun).1 hbit
  | some last => rw [harithmetic.final s hs calls last hrun]

/-- Settings for the highest rate, with one window a vote. -/
def fastConfig : VehicleConfig :=
  { link := { sampleRate := 131071, tone0 := 8191, tone1 := 16383, window := 1 } }

/-- Settings with a vote that is too long for the history, and for the bit time. -/
def longConfig : VehicleConfig := { link := { window := 268436 } }

/-- Settings that pass all checks lead to a division by zero in the first step, and a vote that would
be refused to a product that is no word. -/
theorem undefined_fastConfig :
    (∃ s, create? fastConfig = some (.ok s) ∧ s.projector.bitMs = 0 ∧ s.run? [.step] = none) ∧
      create? longConfig = none := by
  have hfast : fastConfig.validate = .ok () :=
    validate_link ((LinkConfig.validate_eq_ok_iff fastConfig.link windowSize).2 (by decide +kernel))
  have hlong : longConfig.validate = .ok () :=
    validate_link ((LinkConfig.validate_eq_ok_iff longConfig.link windowSize).2 (by decide +kernel))
  constructor
  · obtain ⟨s, hs⟩ := exists_create? hfast (by decide) (by decide) (by decide)
    obtain ⟨-, -, hof, hstart⟩ := of_create? hs
    have hbit : ({ config := fastConfig.link } : Projector).bitMs = 0 := by decide +kernel
    have hperiods := (fastConfig.validate_eq_ok_iff.1 hfast).2.2.2
    exact ⟨s, hs, hof.bitMs.trans hbit,
      (run?_eq_none_iff hof hperiods hbit hstart [.step]).2 List.mem_cons_self⟩
  · exact (create?_eq_none_iff longConfig).2 ⟨hlong, .inr (.inr (by decide))⟩

end Simulation

end LightPilot
