import LightPilot.Proofs.Motion.Coherence

set_option autoImplicit false

/-! # Where the bias comes from

Two calls feed readings to the model, `calibrate` and `step`, and share one counter. Up to the number that the
settings ask for, each stationary reading goes into the bias, the first as its seed (`average`). From then on
a reading moves the bias in one situation only (`followed?`): a step of a model that is switched on, flies
nothing and waits for nothing, while the craft stands still, if the settings let the bias follow at all.

`learns_perform` says what one call does; by induction over the calls the bias is the average of the
calibration, moved by the readings followed since (`Learned`). -/

namespace LightPilot.MotionModel

/-! ## Readings -/

/-- The acceleration of a stationary reading that a call feeds to the model. A step that is refused for its
time feeds none. -/
def Call.rested? : Call → Option Vec3
  | .calibrate sample => if sample.stationary then some sample.acceleration else none
  | .step sample dt _ =>
    if (dt > 0 ∧ Single.isFinite dt = true) ∧ sample.stationary then some sample.acceleration else none
  | _ => none

/-- The accelerations of the stationary readings in a list of calls, in order. -/
def rested (calls : List Call) : List Vec3 :=
  calls.filterMap Call.rested?

/-- The acceleration by which a call moves the bias of a calibrated model. -/
def followed? (m : MotionModel) : Call → Option Vec3
  | .step sample dt _ =>
    if (dt > 0 ∧ Single.isFinite dt = true) ∧ m.state.calibrated = true ∧ m.state.active = true ∧
        m.state.stage = .idle ∧ m.config.recalibrateWhenIdle ∧ sample.stationary then
      some sample.acceleration
    else none
  | _ => none

/-- The accelerations by which a list of calls moves the bias once the model is calibrated, in order. -/
def follows : MotionModel → List Call → List Vec3
  | _, [] => []
  | m, call :: calls => (m.followed? call).toList ++ follows (m.perform call).2 calls

/-- A moving average after one more reading. -/
def drift (alpha : Float32) (bias acceleration : Vec3) : Vec3 :=
  bias * (1 - alpha) + acceleration * alpha

/-- The moving average of readings, with the first as its seed. -/
def average (alpha : Float32) : List Vec3 → Vec3
  | [] => Vec3.zero
  | first :: later => later.foldl (drift alpha) first

theorem rested_snoc (calls : List Call) (call : Call) :
    rested (calls ++ [call]) = rested calls ++ call.rested?.toList := by
  rw [rested, List.filterMap_append]
  cases hrested : call.rested? with
  | none => exact congrArg (_ ++ ·) (List.filterMap_cons_none hrested)
  | some acceleration => exact congrArg (_ ++ ·) (List.filterMap_cons_some hrested)

theorem follows_snoc (m : MotionModel) (calls : List Call) (call : Call) :
    follows m (calls ++ [call])
      = follows m calls ++ ((Run.final perform m calls).followed? call).toList := by
  induction calls generalizing m with
  | nil => exact List.append_nil _
  | cons first calls ih => rw [List.cons_append, follows, ih, follows, List.append_assoc, Run.final]

theorem average_snoc {alpha : Float32} {readings : List Vec3} (hne : readings ≠ []) (acceleration : Vec3) :
    average alpha (readings ++ [acceleration]) = drift alpha (average alpha readings) acceleration := by
  cases readings with
  | nil => contradiction
  | cons first later => exact List.foldl_concat ..

/-! ## One call -/

/-- The calibration and the bias are as they were. -/
def Keeps (m next : MotionModel) : Prop :=
  next.state.bias = m.state.bias ∧ next.state.calibrationCount = m.state.calibrationCount

/-- What one call does to the calibration and the bias. -/
inductive Learns (m : MotionModel) (call : Call) (next : MotionModel) : Prop
  | counted (acceleration : Vec3) (hfresh : m.state.calibrated = false)
      (hrested : call.rested? = some acceleration)
      (hbias : next.state.bias = (m.updateBias acceleration).state.bias)
      (hcount : next.state.calibrationCount = m.state.calibrationCount + 1)
  | followed (acceleration : Vec3) (hcalibrated : m.state.calibrated = true)
      (hrested : call.rested? = some acceleration) (hfollowed : m.followed? call = some acceleration)
      (hbias : next.state.bias = drift m.config.biasAlpha m.state.bias acceleration)
      (hcount : next.state.calibrationCount = m.state.calibrationCount)
  | kept (hrested : m.state.calibrated = false → call.rested? = none)
      (hfollowed : m.followed? call = none) (hkeeps : Keeps m next)

variable {config : MotionConfig} {m next : MotionModel} {call : Call} {sample : InertialSample}
  {dt : Float32} {now : UInt32}

theorem keeps_setActive (m : MotionModel) (active : Bool) : Keeps m (m.setActive active) := by
  unfold setActive
  split
  · exact ⟨rfl, rfl⟩
  · split <;> exact ⟨rfl, rfl⟩

theorem keeps_begin {command : Command} {started : Bool}
    (hbegin : m.begin command now = .ok (started, next)) : Keeps m next := by
  rcases begin_cases hbegin with ⟨-, -, -, -, axis, -, rfl⟩ | ⟨-, rfl⟩ <;> exact ⟨rfl, rfl⟩

theorem keeps_takeDelta {delta : Vec3} (htake : m.takeDelta = some (delta, next)) : Keeps m next := by
  unfold MotionModel.takeDelta at htake
  split at htake
  · cases htake
    exact ⟨rfl, rfl⟩
  · contradiction

theorem followed?_eq_none_of_fresh (hfresh : m.state.calibrated = false) : m.followed? call = none := by
  cases call with
  | step sample dt now => exact if_neg fun hgate => absurd hgate.2.1 (Bool.eq_false_iff.1 hfresh)
  | _ => rfl

theorem followed?_eq_none_of_stage (hstage : m.state.stage ≠ .idle) : m.followed? call = none := by
  cases call with
  | step sample dt now => exact if_neg fun hgate => hstage hgate.2.2.2.1
  | _ => rfl

/-- A calibrated model that does not follow a reading drops it. -/
theorem learns_of_calibrated (hcalibrated : m.state.calibrated = true) (hfollowed : m.followed? call = none)
    (hkeeps : Keeps m next) : Learns m call next :=
  .kept (fun hfresh => absurd hcalibrated (Bool.eq_false_iff.1 hfresh)) hfollowed hkeeps

/-- What the calibration makes of a reading. -/
theorem learns_calibrate (hrested : call.rested? = if sample.stationary then some sample.acceleration else none)
    (hfollowed : m.followed? call = none) : Learns m call (m.calibrate sample) := by
  unfold calibrate
  split
  · next hidle =>
      refine .kept (fun hfresh => ?_) hfollowed ⟨rfl, rfl⟩
      rw [hrested, if_neg (hidle.resolve_left (by rw [hfresh]; simp))]
  · next hcounts =>
      rw [not_or, Classical.not_not, Bool.not_eq_true] at hcounts
      exact .counted sample.acceleration hcounts.1 (hrested.trans (if_pos hcounts.2)) rfl rfl

theorem calibrationCount_ne_zero (h : Coherent config m) (hsamples : config.calibrationSamples ≠ 0)
    (hcalibrated : m.state.calibrated = true) : m.state.calibrationCount ≠ 0 := by
  intro hzero
  have hdone := h.calibrated.1 hcalibrated
  rw [hzero] at hdone
  exact hsamples (UInt32.le_zero_iff.1 hdone)

/-- What a step makes of a reading. -/
theorem learns_step (h : Coherent config m) (hsamples : config.calibrationSamples ≠ 0)
    {event : MotionEvent} (hstep : m.step sample dt now = .ok (event, next)) :
    Learns m (.step sample dt now) next := by
  obtain ⟨htime, hsteps⟩ := steps_of_step hstep
  have hrested : (Call.step sample dt now).rested?
      = if sample.stationary then some sample.acceleration else none := by
    simp only [Call.rested?, htime, true_and, and_self]
  cases hsteps with
  | calibrating hfresh =>
      have hlearns : Learns (m.read sample) (.step sample dt now) ((m.read sample).calibrate sample) :=
        learns_calibrate hrested (followed?_eq_none_of_fresh hfresh)
      cases hlearns with
      | counted acceleration hfresh hrested hbias hcount => exact .counted acceleration hfresh hrested hbias hcount
      | followed _ hcalibrated => exact absurd hcalibrated (Bool.eq_false_iff.1 hfresh)
      | kept hrested _ hkeeps => exact .kept hrested (followed?_eq_none_of_fresh hfresh) hkeeps
  | following hcalibrated hactive hstage hfollow =>
      have hcount := calibrationCount_ne_zero h hsamples hcalibrated
      refine .followed sample.acceleration hcalibrated (hrested.trans (if_pos hfollow.2))
        (if_pos ⟨htime, hcalibrated, hactive, hstage, hfollow⟩) (if_neg hcount) rfl
  | resting hcalibrated _ _ hkeep =>
      exact learns_of_calibrated hcalibrated (if_neg fun hgate => hkeep hgate.2.2.2.2) ⟨rfl, rfl⟩
  | inactive hcalibrated hoff =>
      refine learns_of_calibrated hcalibrated (if_neg fun hgate => ?_) ⟨rfl, rfl⟩
      exact absurd hgate.2.2.1 (Bool.eq_false_iff.1 hoff)
  | cooling since hcalibrated _ hstage =>
      exact learns_of_calibrated hcalibrated (followed?_eq_none_of_stage (by simp [hstage])) ⟨rfl, rfl⟩
  | cooled since hcalibrated _ hstage =>
      exact learns_of_calibrated hcalibrated (followed?_eq_none_of_stage (by simp [hstage])) ⟨rfl, rfl⟩
  | finished command axis started tilted timedOut hcalibrated _ hstage =>
      exact learns_of_calibrated hcalibrated (followed?_eq_none_of_stage (by simp [hstage])) ⟨rfl, rfl⟩
  | underway command axis started tilted tilted' hcalibrated _ hstage =>
      exact learns_of_calibrated hcalibrated (followed?_eq_none_of_stage (by simp [hstage])) ⟨rfl, rfl⟩

theorem learns_perform (h : Coherent config m) (hsamples : config.calibrationSamples ≠ 0) (call : Call) :
    Learns m call (m.perform call).2 := by
  unfold perform
  cases call with
  | calibrate sample => exact learns_calibrate rfl rfl
  | setActive active => exact .kept (fun _ => rfl) rfl (keeps_setActive m active)
  | begin command now =>
      dsimp only
      split
      · next hbegin => exact .kept (fun _ => rfl) rfl (keeps_begin hbegin)
      · exact .kept (fun _ => rfl) rfl ⟨rfl, rfl⟩
  | step sample dt now =>
      dsimp only
      split
      · next hstep => exact learns_step h hsamples hstep
      · next hstep =>
          have htime := not_of_step_error hstep
          exact .kept (fun _ => if_neg fun hgate => htime hgate.1) (if_neg fun hgate => htime hgate.1) ⟨rfl, rfl⟩
  | takeDelta =>
      dsimp only
      split
      · next htake => exact .kept (fun _ => rfl) rfl (keeps_takeDelta htake)
      · exact .kept (fun _ => rfl) rfl ⟨rfl, rfl⟩
  | flush population =>
      dsimp only
      split
      · next hflush => exact .kept (fun _ => rfl) rfl (keeps_takeDelta (takeDelta_of_flush hflush))
      · exact .kept (fun _ => rfl) rfl ⟨rfl, rfl⟩

/-! ## Runs -/

/-- What a model has learned from a list of calls. -/
structure Learned (config : MotionConfig) (start : MotionModel) (calls : List Call) (m : MotionModel) :
    Prop where
  count : m.state.calibrationCount.toNat
    = min config.calibrationSamples.toNat (rested calls).length
  bias : m.state.bias = (follows start calls).foldl (drift config.biasAlpha)
    (average config.biasAlpha ((rested calls).take config.calibrationSamples.toNat))
  /-- What the bias follows is none of the calibration. -/
  late : (follows start calls).length ≤ (rested calls).length - config.calibrationSamples.toNat

variable {start : MotionModel} {calls : List Call}

theorem Learned.calibrated_iff (h : Learned config start calls m) (hcoherent : Coherent config m) :
    m.state.calibrated = true ↔ config.calibrationSamples.toNat ≤ (rested calls).length := by
  rw [hcoherent.calibrated, ge_iff_le, UInt32.le_iff_toNat_le, h.count]
  omega

/-- The calibration counts one more reading. -/
theorem Learned.counted (h : Learned config start calls m) (hcoherent : Coherent config m)
    (hfresh : m.state.calibrated = false) {acceleration : Vec3}
    (hrested : rested (calls ++ [call]) = rested calls ++ [acceleration])
    (hsame : follows start (calls ++ [call]) = follows start calls)
    (hbias : next.state.bias = (m.updateBias acceleration).state.bias)
    (hcount : next.state.calibrationCount = m.state.calibrationCount + 1) :
    Learned config start (calls ++ [call]) next := by
  have hfew : (rested calls).length < config.calibrationSamples.toNat := by
    rw [← Nat.not_le, ← h.calibrated_iff hcoherent, hfresh]
    exact Bool.false_ne_true
  have hnone : follows start calls = [] := List.length_eq_zero_iff.1 (by have := h.late; omega)
  have hbefore : m.state.bias = average config.biasAlpha (rested calls) := by
    rw [h.bias, hnone, List.take_of_length_le hfew.le, List.foldl_nil]
  have hall : (rested calls ++ [acceleration]).take config.calibrationSamples.toNat
      = rested calls ++ [acceleration] :=
    List.take_of_length_le (by simpa using hfew)
  refine ⟨?_, ?_, ?_⟩
  · have hlimit := config.calibrationSamples.toNat_lt
    have hone : (1 : UInt32).toNat = 1 := rfl
    rw [hcount, hrested, List.length_append, UInt32.toNat_add, h.count, List.length_singleton]
    omega
  · rw [hbias, hsame, hrested, hnone, List.foldl_nil, hall, updateBias]
    dsimp only
    -- the counter is at zero as long as the list is empty
    by_cases hfirst : rested calls = []
    · have hzero : m.state.calibrationCount = 0 := by
        rw [← UInt32.toNat_inj, h.count, hfirst]
        exact Nat.min_zero _
      rw [if_pos hzero, hfirst]
      rfl
    · have hlong := List.length_pos_iff.2 hfirst
      have hcounted : m.state.calibrationCount ≠ 0 := by
        intro hzero
        have hnat := h.count
        rw [hzero, show (0 : UInt32).toNat = 0 from rfl] at hnat
        omega
      rw [if_neg hcounted, average_snoc hfirst, hcoherent.settings, hbefore]
      rfl
  · rw [hsame, hnone]
    exact Nat.zero_le _

/-- The bias of a calibrated model follows one more reading. -/
theorem Learned.followed (h : Learned config start calls m) (hcoherent : Coherent config m)
    (hcalibrated : m.state.calibrated = true) {acceleration : Vec3}
    (hrested : rested (calls ++ [call]) = rested calls ++ [acceleration])
    (hmore : follows start (calls ++ [call]) = follows start calls ++ [acceleration])
    (hbias : next.state.bias = drift m.config.biasAlpha m.state.bias acceleration)
    (hcount : next.state.calibrationCount = m.state.calibrationCount) :
    Learned config start (calls ++ [call]) next := by
  have hdone := (h.calibrated_iff hcoherent).1 hcalibrated
  refine ⟨?_, ?_, ?_⟩
  · rw [hcount, h.count, hrested, List.length_append]
    omega
  · rw [hbias, hcoherent.settings, h.bias, hrested, hmore, List.foldl_concat,
      List.take_append_of_le_length hdone]
  · have hlate := h.late
    rw [hrested, hmore, List.length_append, List.length_append, List.length_singleton]
    omega

/-- A call that feeds no reading, or one that a calibrated model drops. -/
theorem Learned.kept (h : Learned config start calls m) (hcoherent : Coherent config m)
    (hrested : m.state.calibrated = false → call.rested? = none)
    (hsame : follows start (calls ++ [call]) = follows start calls) (hkeeps : Keeps m next) :
    Learned config start (calls ++ [call]) next := by
  obtain ⟨hcount, hbias, hlate⟩ := h
  -- a reading that is dropped comes after the calibration
  have hcalibration : (rested (calls ++ [call])).take config.calibrationSamples.toNat
        = (rested calls).take config.calibrationSamples.toNat ∧
      min config.calibrationSamples.toNat (rested (calls ++ [call])).length
        = min config.calibrationSamples.toNat (rested calls).length := by
    cases hcalibrated : m.state.calibrated with
    | false =>
        rw [rested_snoc, hrested hcalibrated, Option.toList_none, List.append_nil]
        exact ⟨rfl, rfl⟩
    | true =>
        have hdone := (Learned.calibrated_iff ⟨hcount, hbias, hlate⟩ hcoherent).1 hcalibrated
        rw [rested_snoc, List.take_append_of_le_length hdone, List.length_append]
        exact ⟨rfl, by omega⟩
  refine ⟨?_, ?_, ?_⟩
  · rw [hkeeps.2, hcount, hcalibration.2]
  · rw [hkeeps.1, hbias, hsame, hcalibration.1]
  · rw [hsame, rested_snoc, List.length_append]
    omega

/-- One more call. -/
theorem Learned.learns (h : Learned config start calls (Run.final perform start calls))
    (hcoherent : Coherent config (Run.final perform start calls))
    (hlearns : Learns (Run.final perform start calls) call next) :
    Learned config start (calls ++ [call]) next := by
  have hrest := rested_snoc calls call
  have hfollow := follows_snoc start calls call
  cases hlearns with
  | counted acceleration hfresh hrested hbias hcount =>
      rw [hrested] at hrest
      rw [followed?_eq_none_of_fresh hfresh, Option.toList_none, List.append_nil] at hfollow
      exact h.counted hcoherent hfresh hrest hfollow hbias hcount
  | followed acceleration hcalibrated hrested hfollowed hbias hcount =>
      rw [hrested] at hrest
      rw [hfollowed] at hfollow
      exact h.followed hcoherent hcalibrated hrest hfollow hbias hcount
  | kept hrested hfollowed hkeeps =>
      rw [hfollowed, Option.toList_none, List.append_nil] at hfollow
      exact h.kept hcoherent hrested hfollow hkeeps

/-- Where the bias of a model comes from, and when it is calibrated. -/
structure LearnsBias (config : MotionConfig) (start : MotionModel) (calls : List Call) : Prop where
  /-- The last of the stationary readings that are asked for completes the calibration, for good. -/
  latch : (Run.final perform start calls).state.calibrated = true ↔
    config.calibrationSamples.toNat ≤ (rested calls).length
  /-- Up to there the bias is the average of all of them. -/
  learned : (rested calls).length ≤ config.calibrationSamples.toNat →
    (Run.final perform start calls).state.bias = average config.biasAlpha (rested calls)
  /-- From there a call moves the bias by the reading that it follows, if it does. -/
  afterwards : config.calibrationSamples.toNat ≤ (rested calls).length → ∀ call,
    ((Run.final perform start calls).perform call).2.state.bias
      = ((Run.final perform start calls).followed? call).elim
        (Run.final perform start calls).state.bias
        (drift config.biasAlpha (Run.final perform start calls).state.bias)
  /-- So no other reading ever enters it. -/
  provenance : (Run.final perform start calls).state.bias
    = (follows start calls).foldl (drift config.biasAlpha)
      (average config.biasAlpha ((rested calls).take config.calibrationSamples.toNat))
  /-- The calibration takes place on the ground. -/
  grounded : (rested calls).length < config.calibrationSamples.toNat →
    (Run.final perform start calls).state.stage = .idle

theorem learned_run (hcreate : create config = .ok start) (calls : List Call) :
    Learned config start calls (Run.final perform start calls) := by
  have hsamples := MotionConfig.calibrationSamples_ne_zero (create_eq_ok_iff.1 hcreate).1
  induction calls using List.reverseRecOn with
  | nil =>
      obtain ⟨-, rfl⟩ := create_eq_ok_iff.1 hcreate
      exact ⟨(Nat.min_zero _).symm, by simp [rested, follows, average, Run.final], Nat.zero_le _⟩
  | append_singleton calls call ih =>
      have hcoherent := (coherent_create hcreate).run calls
      have hlearns := learns_perform hcoherent hsamples call
      rw [← Run.final_snoc] at hlearns
      exact ih.learns hcoherent hlearns

/-- **The bias comes from stationary readings.** Whatever is called on a new model, its bias is the moving
average of the stationary readings that the settings ask for, in order, moved by those that were followed
since, and the model is calibrated from the last one asked for on. -/
theorem learnsBias_run (hcreate : create config = .ok start) (calls : List Call) :
    LearnsBias config start calls := by
  have hcoherent := (coherent_create hcreate).run calls
  have hlearned := learned_run hcreate calls
  have hiff := hlearned.calibrated_iff hcoherent
  have hsamples := MotionConfig.calibrationSamples_ne_zero (create_eq_ok_iff.1 hcreate).1
  refine ⟨hiff, ?_, ?_, hlearned.bias, ?_⟩
  · intro hfew
    have hnone : follows start calls = [] := List.length_eq_zero_iff.1 (by have := hlearned.late; omega)
    rw [hlearned.bias, hnone, List.take_of_length_le hfew, List.foldl_nil]
  · intro hdone call
    have hcalibrated := hiff.2 hdone
    cases learns_perform hcoherent hsamples call with
    | counted _ hfresh => exact absurd hcalibrated (Bool.eq_false_iff.1 hfresh)
    | followed acceleration _ _ hfollowed hbias =>
        rw [hfollowed, hbias, hcoherent.settings]
        rfl
    | kept _ hfollowed hkeeps =>
        rw [hfollowed, hkeeps.1]
        rfl
  · intro hfew
    have hfresh : (Run.final perform start calls).state.calibrated = false := by
      rw [← Bool.not_eq_true, hiff]
      omega
    exact (hcoherent.fresh hfresh).1

/-- The steps after a climb: the pause ends, and the craft rests. -/
def landed : List Call :=
  [.step climbReading 0.5 1600, .step climbReading 0.5 1700]

/-- Of five stationary readings one makes up the calibration, and the last one moves the bias. The others
were taken in flight and during the pause. -/
theorem learnsBias_landed :
    create climbConfig = .ok { config := climbConfig, state := {} } ∧
      LearnsBias climbConfig { config := climbConfig, state := {} } (climb ++ landed) ∧
      (rested (climb ++ landed)).length = 5 ∧
      (follows { config := climbConfig, state := {} } (climb ++ landed)).length = 1 :=
  ⟨create_climbConfig, learnsBias_run create_climbConfig (climb ++ landed), by decide +kernel,
    by decide +kernel⟩

end LightPilot.MotionModel
