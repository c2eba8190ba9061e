import LightPilot.Proofs.Link.Pace
import LightPilot.Proofs.World.Hearing
import LightPilot.Proofs.World.Tuning

set_option autoImplicit false

/-! # The link task follows the projector

Suppose that the windows are heard right (`Classifier.Knows`): as the tone of a bit if it was on air all the
while, as no tone if the light was steady all the while. With frames that start on multiples of the bit
time (`Broadcast`) there are no other windows. So each window has the outcome that what was on air calls
for (`outcomeAt`), and the commands that come out are those of the frames completed in the windows heard
(`heardIn`), whenever the link task runs, as long as no sample is lost. -/

namespace LightPilot

open Projector

/-! ## What is heard -/

/-- What a receiver asks of its link. -/
structure LinkConfig.Usable (config : LinkConfig) : Prop where
  tones : config.tone0 ≠ config.tone1
  window_pos : 0 < config.window
  window_le : config.window ≤ historyCapacity

/-- The samples taken of the light, conditioned. -/
def conditioned (config : LinkConfig) (lights : List Light) : List Float32 :=
  Run.answers Conditioner.condition (Conditioner.ofConfig config) (lights.map Light.level)

/-- The lights of one window. -/
def lightsOf (lights : List Light) (index : Nat) : List Light :=
  (lights.drop (index * windowSize)).take windowSize

/-- A window of the conditioned samples. -/
def IsWindow (config : LinkConfig) (lights : List Light) (index : Nat)
    (window : Window windowSize) : Prop :=
  window.toList = ((conditioned config lights).drop (index * windowSize)).take windowSize

/-- The windows of these lights are heard right: a tone if it was on air all the while, and no tone if the
light was steady all the while. -/
structure Classifier.Knows (classify : Classifier) (config : LinkConfig) (lights : List Light) :
    Prop where
  tone : ∀ index window bit, IsWindow config lights index window →
    (∀ light ∈ lightsOf lights index, light.bit? = some bit) →
    classify (UInt32.ofNat index) config.sampleRate window = config.tone bit
  steady : ∀ index window bit, IsWindow config lights index window →
    (∀ light ∈ lightsOf lights index, light.bit? = none) →
    classify (UInt32.ofNat index) config.sampleRate window ≠ config.tone bit

variable {classify : Classifier} {config : LinkConfig} {lights more : List Light} {index : Nat}
  {window : Window windowSize}

theorem length_conditioned (config : LinkConfig) (lights : List Light) :
    (conditioned config lights).length = lights.length := by
  rw [conditioned, Run.length_answers, List.length_map]

theorem IsWindow.le_length (h : IsWindow config lights index window) :
    (index + 1) * windowSize ≤ lights.length := by
  have hlength := congrArg List.length h
  have hsize : 0 < windowSize := by decide
  rw [Vector.length_toList, List.length_take, List.length_drop, length_conditioned] at hlength
  rw [Nat.succ_mul]
  omega

theorem drop_take_append {Item : Type} {list rest : List Item} {start count : Nat}
    (h : start + count ≤ list.length) :
    ((list ++ rest).drop start).take count = (list.drop start).take count := by
  rw [List.drop_append_of_le_length (by omega), List.take_append_of_le_length]
  rw [List.length_drop]
  omega

/-- What is heard right in all windows is heard right in the first ones. -/
theorem Classifier.Knows.of_append (h : classify.Knows config (lights ++ more)) :
    classify.Knows config lights := by
  have hwindow : ∀ index window, IsWindow config lights index window →
      IsWindow config (lights ++ more) index window ∧
        lightsOf (lights ++ more) index = lightsOf lights index := by
    intro index window hwindow
    have hle := hwindow.le_length
    rw [Nat.succ_mul] at hle
    refine ⟨?_, drop_take_append hle⟩
    rw [IsWindow, conditioned, List.map_append, Run.answers_append, drop_take_append]
    · exact hwindow
    · exact hle.trans (Nat.le_of_eq (length_conditioned config lights).symm)
  constructor
  · intro index window bit hlights hbit
    obtain ⟨hlonger, hsame⟩ := hwindow index window hlights
    exact h.tone index window bit hlonger (by rwa [hsame])
  · intro index window bit hlights hbit
    obtain ⟨hlonger, hsame⟩ := hwindow index window hlights
    exact h.steady index window bit hlonger (by rwa [hsame])

/-- An ear that remembers what was on air when each window began. -/
def Classifier.recalling (config : LinkConfig) (lights : List Light) (quiet : UInt16) : Classifier :=
  fun heard _ _ =>
    match lights[heard.toNat * windowSize]?.bind Light.bit? with
    | some bit => config.tone bit
    | none => quiet

theorem exists_ne_tone (config : LinkConfig) : ∃ quiet, ∀ bit, quiet ≠ config.tone bit := by
  have hthird : ∀ first second : UInt16, ∃ quiet, quiet ≠ first ∧ quiet ≠ second := by
    intro first second
    by_cases hsame : first + 1 = second
    · refine ⟨first + 2, ?_, ?_⟩ <;> grind
    · refine ⟨first + 1, ?_, hsame⟩
      grind
  obtain ⟨quiet, hzero, hone⟩ := hthird (config.tone false) (config.tone true)
  exact ⟨quiet, fun bit => by cases bit <;> assumption⟩

/-- Any lights can be heard right. -/
theorem Classifier.exists_knows (config : LinkConfig) {lights : List Light}
    (hshort : lights.length < UInt32.size) :
    ∃ classify : Classifier, classify.Knows config lights := by
  obtain ⟨quiet, hquiet⟩ := exists_ne_tone config
  -- a window has a first light, and its number is no larger than the clock can be
  have hfirst : ∀ index window, IsWindow config lights index window →
      ∃ light ∈ lightsOf lights index,
        lights[(UInt32.ofNat index).toNat * windowSize]? = some light := by
    intro index window hwindow
    have hle := hwindow.le_length
    rw [Nat.succ_mul] at hle
    have hlt : index * windowSize < lights.length := Nat.lt_of_lt_of_le
      (Nat.lt_add_of_pos_right (by decide)) hle
    have hindex : index ≤ index * windowSize := Nat.le_mul_of_pos_right index (by decide)
    rw [UInt32.toNat_ofNat_of_lt' (by omega)]
    refine ⟨lights[index * windowSize], ?_, List.getElem?_eq_getElem hlt⟩
    refine List.mem_of_getElem? (i := 0) ?_
    rw [lightsOf, List.getElem?_take_of_lt (by decide), List.getElem?_drop, Nat.add_zero,
      List.getElem?_eq_getElem hlt]
  refine ⟨recalling config lights quiet, ?_, ?_⟩
  · intro index window bit hwindow hbit
    obtain ⟨light, hmem, hlight⟩ := hfirst index window hwindow
    simp only [recalling, hlight, Option.bind_some, hbit light hmem]
  · intro index window bit hwindow hbit
    obtain ⟨light, hmem, hlight⟩ := hfirst index window hwindow
    simp only [recalling, hlight, Option.bind_some, hbit light hmem]
    exact hquiet bit

/-- What holds of the lights of a projector in step with the votes. -/
structure Broadcast (config : LinkConfig) (lights : List Light) : Prop where
  regular : Regular (Receiver.bitSamples config) (lights.map Light.shown)
  bits : ∀ light ∈ lights, light.bit? = bitOf? (Receiver.bitSamples config) light.shown
  /-- The frames are for this unit. -/
  frames : ∀ frame ∈ started (lights.map Light.shown),
    FrameOutcome.ofByte frame config.unitId config.addressBits
      = .command (Frame.command frame config.addressBits)

/-- The lights of a window have the bit of its bit time. -/
theorem Broadcast.bit?_eq (h : Broadcast config lights) (hpos : 0 < config.window) (index : Nat) :
    ∀ light ∈ lightsOf lights index, light.bit? = (shownIn (Receiver.bitSamples config)
      (lights.map Light.shown) (index / config.window)).map fun entry =>
        entry.1.toNat.testBit entry.2 := by
  intro light hlight
  have hbit : 0 < Receiver.bitSamples config := Nat.mul_pos (by decide) hpos
  obtain ⟨place, hplace⟩ := List.mem_iff_getElem?.1 hlight
  obtain ⟨hlt, -⟩ := List.getElem?_eq_some_iff.1 hplace
  have hinside : place < windowSize := Nat.lt_of_lt_of_le hlt (List.length_take_le ..)
  rw [lightsOf, List.getElem?_take_of_lt hinside, List.getElem?_drop] at hplace
  have hshown : (lights.map Light.shown)[index * windowSize + place]? = some light.shown := by
    rw [List.getElem?_map, hplace]
    rfl
  have hdiv : (index * windowSize + place) / Receiver.bitSamples config = index / config.window := by
    rw [Receiver.bitSamples, ← Nat.div_div_eq_div_mul, Nat.mul_comm, Nat.mul_add_div (by decide),
      Nat.div_eq_of_lt hinside, Nat.add_zero]
  rw [h.bits light (List.mem_of_getElem? hplace), h.regular.bitOf?_eq hbit hshown, hdiv]

/-- So what is heard in the window is right for its bit time. -/
theorem Broadcast.sounds (h : Broadcast config lights) (hpos : 0 < config.window)
    (hknows : classify.Knows config lights) (hwindow : IsWindow config lights index window) :
    config.Sounds (shownIn (Receiver.bitSamples config) (lights.map Light.shown) (index / config.window))
      (classify (UInt32.ofNat index) config.sampleRate window) := by
  have hbits := h.bit?_eq hpos index
  cases hshownIn : shownIn (Receiver.bitSamples config) (lights.map Light.shown)
      (index / config.window) with
  | none =>
      rw [hshownIn] at hbits
      exact fun bit => hknows.steady index window bit hwindow hbits
  | some entry =>
      rw [hshownIn] at hbits
      exact hknows.tone index window _ hwindow hbits

/-- The outcome of a window, counted from zero. -/
def outcomeAt (config : LinkConfig) (air : List Shown) (index : Nat) : FrameOutcome :=
  if config.window ∣ index + 1
    then Receiver.outcomeOf config (shownIn (Receiver.bitSamples config) air (index / config.window))
    else .pending

/-- The commands of the frames that are complete in the first windows. -/
def heardIn (config : LinkConfig) (air : List Shown) (count : Nat) : List UInt8 :=
  (completed (Receiver.bitSamples config) (air.take (count * windowSize))).map fun frame =>
    Frame.command frame config.addressBits

theorem heardIn_append {air : List Shown} {count : Nat} (h : count * windowSize ≤ air.length)
    (more : List Shown) : heardIn config (air ++ more) count = heardIn config air count := by
  rw [heardIn, heardIn, List.take_append_of_le_length h]

/-- What is on air in the bit time of a window follows what was on air before. -/
theorem Broadcast.follows (h : Broadcast config lights) (hpos : 0 < config.window)
    (hindex : (index + 1) * windowSize ≤ lights.length) :
    Follows 1 (index / config.window)
      (earlierShown (Receiver.bitSamples config) (lights.map Light.shown) (index / config.window))
      (shownIn (Receiver.bitSamples config) (lights.map Light.shown) (index / config.window)) := by
  have hsize : 0 < windowSize := by decide
  refine h.regular.follows_shownIn (Nat.mul_pos hsize hpos) ?_
  have hle := Nat.mul_le_mul_right windowSize (Nat.div_mul_le_self index config.window)
  rw [Nat.succ_mul] at hindex
  rw [List.length_map, Receiver.bitSamples, Nat.mul_comm windowSize, ← Nat.mul_assoc]
  omega

/-- A frame that was completed was started. -/
theorem mem_started_of_mem_completed {bitMs : Nat} {air : List Shown} (h : Regular bitMs air)
    (hbit : 0 < bitMs) {count : Nat} {frame : UInt8}
    (hframe : frame ∈ completed bitMs (air.take count)) : frame ∈ started air := by
  have hpart := List.take_prefix count air
  have hstarted := (h.of_prefix hpart).started_eq hbit
  have hmem : frame ∈ started (air.take count) := by
    rw [hstarted]
    exact List.mem_append_left _ hframe
  exact (hpart.sublist.filterMap starts?).subset hmem

theorem outcomeOf_ends (config : LinkConfig) {shown earlier : Shown}
    (hfollows : Follows 1 index earlier shown)
    (hframe : ∀ frame, ends? 1 shown = some frame →
      FrameOutcome.ofByte frame config.unitId config.addressBits
        = .command (Frame.command frame config.addressBits)) :
    (Receiver.outcomeOf config shown).byte?
        = (ends? 1 shown).map (fun frame => Frame.command frame config.addressBits) ∧
      ∀ error, Receiver.outcomeOf config shown ≠ .discarded error := by
  cases shown with
  | none => exact ⟨rfl, fun error h => by contradiction⟩
  | some entry =>
      obtain ⟨frame, bit⟩ := entry
      obtain ⟨hlt, -⟩ := Receiver.held_of_follows hfollows
      by_cases hroom : bit + 1 < 8
      · have hends : ends? 1 (some (frame, bit)) = none := if_neg (by omega)
        rw [Receiver.outcomeOf, if_pos hroom, hends]
        exact ⟨rfl, fun error h => by contradiction⟩
      · have hends : ends? 1 (some (frame, bit)) = some frame := if_pos (by omega)
        rw [Receiver.outcomeOf, if_neg hroom, hframe frame hends, hends]
        exact ⟨rfl, fun error h => by contradiction⟩

/-- The next window completes what its outcome says. -/
theorem Broadcast.heardIn_succ (h : Broadcast config lights) (hpos : 0 < config.window)
    (hindex : (index + 1) * windowSize ≤ lights.length) :
    heardIn config (lights.map Light.shown) (index + 1)
        = heardIn config (lights.map Light.shown) index
          ++ (outcomeAt config (lights.map Light.shown) index).byte?.toList ∧
      ∀ error, outcomeAt config (lights.map Light.shown) index ≠ .discarded error := by
  have hbit : 0 < Receiver.bitSamples config := Nat.mul_pos (by decide) hpos
  have hparts : Receiver.bitSamples config = windowSize * config.window := rfl
  have htake := h.regular.completed_take (by decide) hpos hparts (by rwa [List.length_map])
  by_cases hend : config.window ∣ index + 1
  · rw [if_pos hend] at htake
    obtain ⟨hbyte, hkept⟩ := outcomeOf_ends config (h.follows hpos hindex)
      fun frame hframe => h.frames frame (mem_started_of_mem_completed h.regular hbit (by
        rw [htake, hframe]
        exact List.mem_append_right _ (List.mem_singleton_self frame)))
    rw [outcomeAt, if_pos hend, hbyte, heardIn, htake, List.map_append]
    refine ⟨?_, hkept⟩
    cases ends? 1 (shownIn (Receiver.bitSamples config) (lights.map Light.shown)
      (index / config.window)) <;> rfl
  · rw [if_neg hend] at htake
    rw [outcomeAt, if_neg hend, heardIn, htake]
    refine ⟨?_, fun error h => by contradiction⟩
    simp [heardIn, FrameOutcome.byte?]

/-! ## The link task -/

/-- The link task has heard these windows of the lights, and the buffers hold the rest. -/
structure InStep (config : LinkConfig) (lights : List Light) (windows : List (Window windowSize))
    (task : LinkTask) (shared : SharedState) : Prop where
  ordered : shared.samples.Ordered
  kept : conditioned config lights
    = SampleBuffers.samples (windows ++ shared.samples.waiting) ++ shared.samples.begun
  ticks : shared.samples.ticks = UInt32.ofNat lights.length
  tuned : Receiver.Tuned config (lights.map Light.shown) windows.length lights.length task.receiver
  discarded : task.receiver.stats.framesDiscarded = 0

variable {windows : List (Window windowSize)} {task : LinkTask} {shared : SharedState}

theorem framesDiscarded_hear {r : Receiver windowSize historyCapacity} {frequency : UInt16}
    {now : UInt32} (h : ∀ error, (r.hear frequency now).1 ≠ .discarded error) :
    (r.hear frequency now).2.stats.framesDiscarded = r.stats.framesDiscarded := by
  have hrecord : ∀ (stats : LinkStats) (outcome : FrameOutcome),
      (∀ error, outcome ≠ .discarded error) →
        (stats.record outcome).framesDiscarded = stats.framesDiscarded := by
    intro stats outcome hkept
    cases outcome with
    | discarded error => exact absurd rfl (hkept error)
    | _ => rfl
  rcases Nat.lt_or_ge (r.windowsSinceVote + 1) r.window with hlt | hge
  · rw [Receiver.hear_of_lt hlt]
    rfl
  · rw [Receiver.hear_of_le hge rfl] at h ⊢
    exact hrecord _ _ h

/-- The oldest window that waits comes next. -/
theorem InStep.isWindow (h : InStep config lights windows task shared)
    {rest : List (Window windowSize)} (hwaiting : shared.samples.waiting = window :: rest) :
    IsWindow config lights windows.length window := by
  have hstream : conditioned config lights = SampleBuffers.samples windows
      ++ (window.toList ++ (SampleBuffers.samples rest ++ shared.samples.begun)) := by
    rw [h.kept, hwaiting]
    simp [SampleBuffers.samples]
  rw [IsWindow, hstream, ← SampleBuffers.length_samples, List.drop_left, List.take_left' Vector.length_toList]

/-- One window. -/
theorem InStep.hear (h : InStep config lights windows task shared) (husable : config.Usable)
    (hlights : Broadcast config lights) (hknows : classify.Knows config lights)
    {samples : SampleBuffers windowSize} (hordered : samples.Ordered)
    (hwaiting : shared.samples.waiting = window :: samples.waiting)
    (hbegun : samples.begun = shared.samples.begun) (hticks : samples.ticks = shared.samples.ticks) :
    let heard := task.hear (classify task.receiver.stats.windows task.receiver.sampleRate window)
      { shared with samples }
    heard.1.outcome = outcomeAt config (lights.map Light.shown) windows.length ∧
      InStep config lights (windows ++ [window]) heard.2.1 heard.2.2 := by
  intro heard
  have hwindow := h.isWindow hwaiting
  have hle := hwindow.le_length
  have hfrequency : classify task.receiver.stats.windows task.receiver.sampleRate window
      = classify (UInt32.ofNat windows.length) config.sampleRate window := by
    rw [h.tuned.windows, h.tuned.inTime.ready.sampleRate]
  have hnow : samples.ticks = UInt32.ofNat lights.length := hticks.trans h.ticks
  obtain ⟨houtcome, htuned⟩ := h.tuned.hear husable.tones husable.window_pos husable.window_le
    (hlights.follows husable.window_pos hle) hle
    (hlights.sounds husable.window_pos hknows hwindow)
  rw [← hfrequency, ← hnow] at houtcome htuned
  obtain ⟨-, hkept⟩ := hlights.heardIn_succ husable.window_pos hle
  have hsamples : heard.2.2.samples = samples := LinkTask.samples_hear ..
  refine ⟨houtcome, ?_, ?_, ?_, ?_, ?_⟩
  · rw [hsamples]
    exact hordered
  · rw [hsamples, hbegun, h.kept, hwaiting, List.append_assoc]
    rfl
  · rw [hsamples, hnow]
  · rw [List.length_append, List.length_singleton]
    exact htuned
  · rw [← h.discarded]
    exact framesDiscarded_hear fun error => by
      rw [houtcome]
      exact hkept error

/-- All windows that wait. -/
theorem InStep.takeWindowsAs (h : InStep config lights windows task shared) (husable : config.Usable)
    (hlights : Broadcast config lights) (hknows : classify.Knows config lights) {count : Nat}
    (hcount : shared.samples.waiting.length ≤ count) :
    ∃ more, InStep config lights (windows ++ more)
        (LinkTask.takeWindowsAs classify count task shared).2.1
        (LinkTask.takeWindowsAs classify count task shared).2.2 ∧
      (LinkTask.takeWindowsAs classify count task shared).2.2.samples.waiting = [] ∧
      (LinkTask.takeWindowsAs classify count task shared).1.map WindowReport.outcome
        = (List.range' windows.length more.length).map
          (outcomeAt config (lights.map Light.shown)) := by
  induction count generalizing windows task shared with
  | zero =>
      refine ⟨[], ?_, List.eq_nil_of_length_eq_zero (Nat.le_zero.1 hcount), rfl⟩
      rw [List.append_nil]
      exact h
  | succ count ih =>
      rw [LinkTask.takeWindowsAs]
      rcases task.takeWindowAs_cases classify h.ordered with ⟨hwaiting, -, hnone⟩ |
        ⟨window, samples, -, hsome, hordered, hwaiting, hbegun, hticks, -⟩
      · rw [hnone]
        refine ⟨[], ?_, hwaiting, rfl⟩
        rw [List.append_nil]
        exact h
      · obtain ⟨houtcome, hnext⟩ :=
          h.hear husable hlights hknows hordered hwaiting hbegun hticks
        have hsamples := task.samples_hear
          (classify task.receiver.stats.windows task.receiver.sampleRate window)
          { shared with samples }
        rw [hsome]
        generalize task.hear (classify task.receiver.stats.windows task.receiver.sampleRate window)
          { shared with samples } = heard at houtcome hnext hsamples
        obtain ⟨report, middle, between⟩ := heard
        dsimp only at houtcome hnext hsamples ⊢
        rw [hwaiting, List.length_cons] at hcount
        obtain ⟨more, hlast, hempty, houtcomes⟩ :=
          ih hnext (by rw [hsamples]; exact Nat.le_of_succ_le_succ hcount)
        rw [List.length_append, List.length_singleton] at houtcomes
        refine ⟨window :: more, ?_, hempty, ?_⟩
        · rw [List.append_cons]
          exact hlast
        · rw [List.map_cons, houtcome, houtcomes, List.length_cons, List.range'_succ, List.map_cons]

theorem InStep.length (h : InStep config lights windows task shared) :
    lights.length = windows.length * windowSize + shared.samples.backlog := by
  have hlength := congrArg List.length h.kept
  rw [length_conditioned, List.length_append, SampleBuffers.length_samples, List.length_append,
    Nat.add_mul] at hlength
  rw [hlength, SampleBuffers.backlog, Nat.add_assoc]

/-- One run: all windows that wait are heard, and nothing times out. -/
theorem InStep.runAs (h : InStep config lights windows task shared) (husable : config.Usable)
    (hlights : Broadcast config lights) (hknows : classify.Knows config lights) :
    ∃ more, InStep config lights (windows ++ more) (task.runAs classify shared).2.1
        (task.runAs classify shared).2.2 ∧
      (task.runAs classify shared).1.windows.map WindowReport.outcome
        = (List.range' windows.length more.length).map
          (outcomeAt config (lights.map Light.shown)) ∧
      (task.runAs classify shared).1.timedOut = false := by
  obtain ⟨more, hlast, hempty, houtcomes⟩ := h.takeWindowsAs husable hlights hknows
    (SampleBuffers.length_waiting_le shared.samples)
  have hnow := hlast.length
  rw [SampleBuffers.backlog_of_waiting_nil hempty] at hnow
  have hfew := hlast.ordered.length_begun_lt (by decide)
  obtain ⟨hquiet, htuned⟩ := hlast.tuned.poll husable.window_le (by rw [Nat.add_mul]; omega)
  rw [← hlast.ticks] at hquiet htuned
  exact ⟨more, ⟨hlast.ordered, hlast.kept, hlast.ticks, htuned, hlast.discarded⟩, houtcomes, hquiet⟩

/-- The outcomes of windows complete what was on air in them. -/
theorem Broadcast.heardIn_add (h : Broadcast config lights) (hpos : 0 < config.window)
    {start count : Nat} (hle : (start + count) * windowSize ≤ lights.length) :
    heardIn config (lights.map Light.shown) (start + count)
        = heardIn config (lights.map Light.shown) start
          ++ ((List.range' start count).map (outcomeAt config (lights.map Light.shown))).filterMap
            FrameOutcome.byte? ∧
      ∀ outcome ∈ (List.range' start count).map (outcomeAt config (lights.map Light.shown)),
        ∀ error, outcome ≠ .discarded error := by
  induction count with
  | zero => simp
  | succ count ih =>
      rw [← Nat.add_assoc] at hle
      obtain ⟨hbytes, hkept⟩ := ih (by rw [Nat.succ_mul] at hle; omega)
      obtain ⟨hnext, hlast⟩ := h.heardIn_succ hpos hle
      rw [List.range'_concat, Nat.one_mul, List.map_append, List.map_singleton, filterMap_snoc,
        ← List.append_assoc, ← hbytes]
      exact ⟨hnext, List.forall_mem_append.2 ⟨hkept, List.forall_mem_singleton.2 hlast⟩⟩

/-- One more light, with its sample stored. -/
theorem InStep.sample (h : InStep config lights windows task shared) (hpos : 0 < config.window)
    {light : Light} {value : Float32} {conditioner : Conditioner}
    (hcondition : (Run.final Conditioner.condition (Conditioner.ofConfig config)
      (lights.map Light.level)).condition light.level = (value, conditioner))
    (hkept : (shared.samples.push value).1 ≠ .dropped) :
    InStep config (lights ++ [light]) windows task
      { shared with samples := (shared.samples.push value).2 } := by
  have hstream : conditioned config (lights ++ [light]) = conditioned config lights ++ [value] := by
    rw [conditioned, List.map_append, Run.answers_append]
    simp only [List.map_cons, List.map_nil, Run.answers, hcondition]
    rfl
  have hlength := h.length
  have hheard : windows.length * windowSize ≤ (lights.map Light.shown).length := by
    rw [List.length_map, hlength]
    exact Nat.le_add_right ..
  obtain ⟨hordered, hqueue⟩ := SampleBuffers.queue_push (by decide) shared.samples h.ordered value
  refine ⟨hordered, ?_, ?_, ?_, h.discarded⟩
  · rw [hstream, h.kept]
    rcases hqueue with ⟨hdropped, -⟩ | ⟨-, hwaiting, hbegun⟩ | ⟨-, hbegun, window, hwindow, hwaiting⟩
    · exact absurd hdropped hkept
    · simp [hwaiting, hbegun]
    · simp [hwaiting, hbegun, SampleBuffers.samples, hwindow]
  · rw [List.length_append, List.length_singleton, UInt32.ofNat_add, ← h.ticks]
    exact SampleBuffers.ticks_push ..
  · rw [List.map_append, List.length_append]
    exact (h.tuned.append hpos hheard _).later (Nat.le_add_right ..)

end LightPilot
