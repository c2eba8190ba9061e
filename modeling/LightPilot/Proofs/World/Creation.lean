import LightPilot.Proofs.Link.Reception
import LightPilot.Proofs.Motion.Step
import LightPilot.World.Simulation

set_option autoImplicit false

/-! # Creating a simulation in 32 bits

The settings are checked and the bit time of the projector is computed in 32-bit words, where a product
may be too long. `create?` is the creation with these operations checked, in the order in which they
are made: it has no result when one of them has none. The remaining creation computes with the constants
of the vehicle only. It is defined, and is `Simulation.create`, for all settings that are refused, and
for accepted ones unless the time of a window or of a bit is too long (`create?_eq_none_iff`). -/

namespace LightPilot

/-! ## Checked operations -/

/-- The product of two words, if it is a word. -/
def product? (a b : UInt32) : Option UInt32 :=
  if a.toNat * b.toNat < UInt32.size then some (a * b) else none

/-- The quotient of two words, if there is one. -/
def quotient? (a b : UInt32) : Option UInt32 :=
  if b = 0 then none else some (a / b)

/-- The remainder of two words, if there is one. -/
def remainder? (a b : UInt32) : Option UInt32 :=
  if b = 0 then none else some (a % b)

theorem quotient?_of_ne_zero {b : UInt32} (h : b ≠ 0) (a : UInt32) : quotient? a b = some (a / b) :=
  if_neg h

theorem remainder?_of_ne_zero {b : UInt32} (h : b ≠ 0) (a : UInt32) : remainder? a b = some (a % b) :=
  if_neg h

/-- A check before the rest of a computation that may be undefined. -/
def before? {Fault Value : Type} (check : Except Fault Unit) (rest : Option (Except Fault Value)) :
    Option (Except Fault Value) :=
  match check with
  | .error fault => some (.error fault)
  | .ok () => rest

section

variable {Fault Value : Type} {check : Except Fault Unit} {rest : Option (Except Fault Value)}

theorem before?_eq_none_iff : before? check rest = none ↔ check = .ok () ∧ rest = none := by
  cases check with
  | error fault => simp [before?]
  | ok checked => simp [before?]

theorem before?_agrees {result total : Except Fault Value}
    (hrest : ∀ result, rest = some result → result = total)
    (h : before? check rest = some result) : result = (do check; total) := by
  cases check with
  | error fault => exact (Option.some.inj h).symm
  | ok checked => exact hrest result h

end

/-! ## Periods -/

namespace TaskPeriods

theorem validate_eq_ok_iff (periods : TaskPeriods) :
    periods.validate = .ok () ↔
      (periods.sampleMs ≠ 0 ∧ periods.linkMs ≠ 0 ∧ periods.motionMs ≠ 0 ∧ periods.filterMs ≠ 0) ∧
      (periods.sampleMs ≤ periods.linkMs ∧ periods.linkMs ≤ periods.filterMs) ∧
      periods.linkMs.toNat < windowSize * periods.sampleMs.toNat := by
  have hok : periods.validate = .ok () ↔ periods.fault? = none := by
    rw [validate]
    cases periods.fault? <;> simp
  rw [hok, fault?]
  grind

/-- The check of the periods with the time of a window in 32 bits. -/
def validate? (periods : TaskPeriods) : Option (Except VehicleError Unit) :=
  if periods.sampleMs = 0 ∨ periods.linkMs = 0 ∨ periods.motionMs = 0 ∨ periods.filterMs = 0 then
    some (.error (.periods .zero))
  else if periods.sampleMs > periods.linkMs ∨ periods.linkMs > periods.filterMs then
    some (.error (.periods .order))
  else
    (product? (UInt32.ofNat windowSize) periods.sampleMs).map fun span =>
      if periods.linkMs ≥ span then .error (.periods .linkTooSlow) else .ok ()

theorem validate?_eq_none_iff (periods : TaskPeriods) :
    periods.validate? = none ↔
      periods.validate = .ok () ∧ UInt32.size ≤ windowSize * periods.sampleMs.toNat := by
  have hlink : periods.linkMs.toNat < UInt32.size := periods.linkMs.toNat_lt
  have hwindow : (UInt32.ofNat windowSize).toNat = windowSize := rfl
  rw [validate_eq_ok_iff, validate?, product?, hwindow]
  grind

theorem validate?_agrees {periods : TaskPeriods} {result : Except VehicleError Unit}
    (h : periods.validate? = some result) : result = periods.validate := by
  have hwindow : (UInt32.ofNat windowSize).toNat = windowSize := rfl
  rw [validate?, product?, hwindow] at h
  rw [validate, fault?]
  split at h
  · next hzero =>
      rw [if_pos hzero]
      exact (Option.some.inj h).symm
  · next hzero =>
      rw [if_neg hzero]
      split at h
      · next horder =>
          rw [if_pos horder]
          exact (Option.some.inj h).symm
      · next horder =>
          rw [if_neg horder]
          split at h
          · next hword =>
              have hspan : (UInt32.ofNat windowSize * periods.sampleMs).toNat
                  = windowSize * periods.sampleMs.toNat := by
                rw [UInt32.toNat_mul, hwindow, Nat.mod_eq_of_lt hword]
              rw [Option.map_some] at h
              rw [← Option.some.inj h]
              simp only [ge_iff_le, UInt32.le_iff_toNat_le, hspan]
              split <;> rfl
          · contradiction

end TaskPeriods

/-! ## Settings -/

namespace VehicleConfig

theorem validate_eq_ok_iff (config : VehicleConfig) :
    config.validate = .ok () ↔
      config.filter.validate = .ok () ∧ config.motion.validate = .ok () ∧
      config.link.validate windowSize = .ok () ∧ config.periods.validate = .ok () := by
  rw [validate, Check.bind_eq_ok_iff, Check.bind_eq_ok_iff, Check.bind_eq_ok_iff,
    Check.mapError_eq_ok_iff, Check.mapError_eq_ok_iff, Check.mapError_eq_ok_iff]

theorem sampleRate_ne_zero {config : VehicleConfig} (hvalid : config.validate = .ok ()) :
    config.link.sampleRate ≠ 0 := by
  obtain ⟨-, -, hlink, -⟩ := config.validate_eq_ok_iff.1 hvalid
  exact ((LinkConfig.validate_eq_ok_iff _ _).1 hlink).2.1.1

/-- The check of the settings with the time of a window in 32 bits. -/
def validate? (config : VehicleConfig) : Option (Except VehicleError Unit) :=
  before? (config.filter.validate.mapError .navigation) <|
  before? (config.motion.validate.mapError .navigation) <|
  before? ((config.link.validate windowSize).mapError .link) <|
  config.periods.validate?

theorem validate?_eq_none_iff (config : VehicleConfig) :
    config.validate? = none ↔
      config.validate = .ok () ∧ UInt32.size ≤ windowSize * config.periods.sampleMs.toNat := by
  rw [validate?, before?_eq_none_iff, before?_eq_none_iff, before?_eq_none_iff,
    TaskPeriods.validate?_eq_none_iff, Check.mapError_eq_ok_iff, Check.mapError_eq_ok_iff,
    Check.mapError_eq_ok_iff, validate_eq_ok_iff, and_assoc, and_assoc, and_assoc]

theorem validate?_agrees {config : VehicleConfig} {result : Except VehicleError Unit}
    (h : config.validate? = some result) : result = config.validate :=
  before?_agrees
    (fun _ => before?_agrees fun _ => before?_agrees fun _ => TaskPeriods.validate?_agrees) h

end VehicleConfig

/-! ## The projector's bit time -/

/-- The time of a bit, from a product in 64 bits that is cut to 32, and one in 32 bits. -/
def LinkConfig.bitMs? (config : LinkConfig) : Option UInt32 :=
  -- the receiver, which refuses long votes, is created later
  if windowSize * config.window < UInt64.size then
    (product? (UInt32.ofNat (windowSize * config.window)) 1000).bind fun samples =>
      quotient? samples config.sampleRate
  else none

/-- A vote of so many windows is too long for the bit time. -/
def LinkConfig.IsTooLong (config : LinkConfig) : Prop :=
  UInt64.size ≤ windowSize * config.window ∨
    UInt32.size ≤ windowSize * config.window % UInt32.size * 1000

instance (config : LinkConfig) : Decidable config.IsTooLong :=
  inferInstanceAs (Decidable (_ ∨ _))

theorem LinkConfig.bitMs?_eq_none_iff {config : LinkConfig} (hrate : config.sampleRate ≠ 0) :
    config.bitMs? = none ↔ config.IsTooLong := by
  have hword : (UInt32.ofNat (windowSize * config.window)).toNat
      = windowSize * config.window % UInt32.size := UInt32.toNat_ofNat
  have hthousand : (1000 : UInt32).toNat = 1000 := rfl
  rw [bitMs?, IsTooLong, product?, hword, hthousand]
  split
  · next hlong =>
      split
      · next hshort =>
          rw [Option.bind_some, quotient?_of_ne_zero hrate]
          simp only [reduceCtorEq, false_iff]
          omega
      · next hshort =>
          simp only [Option.bind_none, true_iff]
          omega
  · next hlong =>
      simp only [true_iff]
      omega

theorem LinkConfig.bitMs?_eq_some {config : LinkConfig} {bitMs : UInt32}
    (h : config.bitMs? = some bitMs) : bitMs = ({ config } : Projector).bitMs := by
  rw [bitMs?, product?] at h
  split at h
  · split at h
    · rw [Option.bind_some, quotient?] at h
      split at h
      · contradiction
      · rw [← Option.some.inj h, Projector.bitMs, UInt32.ofNat_mul]
        simp
    · contradiction
  · contradiction

/-! ## The vehicle and its simulation -/

/-- The link of a new vehicle. -/
theorem Vehicle.link_create {config : VehicleConfig} {vehicle : Vehicle}
    (h : create config = .ok vehicle) :
    LinkTask.create config.link = .ok vehicle.link ∧
      vehicle.sampling = SamplingTask.ofConfig config.link ∧ vehicle.shared.samples = .empty := by
  obtain ⟨shared, hshared, hlink⟩ := Check.exists_of_bind_eq_ok h
  obtain ⟨link, htask, hmotion⟩ := Check.exists_of_bind_eq_ok hlink
  obtain ⟨motion, -, hbuilt⟩ := Check.exists_of_bind_eq_ok hmotion
  obtain ⟨population, -, hnew⟩ := Check.exists_of_bind_eq_ok (Check.bind_eq_ok_iff.1 hshared).2
  cases hbuilt
  cases hnew
  exact ⟨htask, rfl, rfl⟩

namespace Simulation

/-- The creation checks its settings first. -/
theorem validate_bind_create (config : VehicleConfig) :
    (do config.validate; create config) = create config := by
  cases hvalid : config.validate with
  | error fault =>
      rw [create, Vehicle.create, SharedState.create, hvalid]
      rfl
  | ok checked => rfl

/-- A simulation is created from settings that are valid, with a vote that fits the history. -/
theorem exists_create_eq_ok_iff (config : VehicleConfig) :
    (∃ s, create config = .ok s) ↔
      config.validate = .ok () ∧ 0 < config.link.window ∧ config.link.window ≤ historyCapacity := by
  constructor
  · rintro ⟨s, hcreate⟩
    have hvalid : config.validate = .ok () := by
      rw [← validate_bind_create] at hcreate
      exact (Check.bind_eq_ok_iff.1 hcreate).1
    obtain ⟨vehicle, hvehicle, -⟩ := Check.exists_of_bind_eq_ok hcreate
    obtain ⟨shared, -, hlink⟩ := Check.exists_of_bind_eq_ok hvehicle
    obtain ⟨link, htask, -⟩ := Check.exists_of_bind_eq_ok hlink
    obtain ⟨receiver, hreceiver, -⟩ := Check.exists_of_bind_eq_ok htask
    exact ⟨hvalid, (Receiver.create_eq_ok_iff.1 (Check.mapError_eq_ok_iff.1 hreceiver)).2.1⟩
  · rintro ⟨hvalid, hwindow⟩
    obtain ⟨hfilter, hmotion, hlink, -⟩ := config.validate_eq_ok_iff.1 hvalid
    have hpopulation : ∃ population,
        Population.create particleCount config.filter config.map = .ok population := by
      rw [Population.create]
      exact ⟨_, Check.bind_eq_ok_iff.2 ⟨hfilter, Check.before_eq_ok_iff.2 ⟨by decide, rfl⟩⟩⟩
    obtain ⟨population, hpopulation⟩ := hpopulation
    have hreceiver : Receiver.create windowSize historyCapacity config.link = .ok _ :=
      Receiver.create_eq_ok_iff.2 ⟨hlink, hwindow, rfl⟩
    have hmodel : MotionModel.create config.motion = .ok _ :=
      MotionModel.create_eq_ok_iff.2 ⟨hmotion, rfl⟩
    rw [create, Vehicle.create, SharedState.create, hvalid, hpopulation, LinkTask.create, hreceiver,
      MotionTask.create, hmodel]
    exact ⟨_, rfl⟩

/-- The creation of a simulation with its operations on words checked. -/
def create? (config : VehicleConfig) : Option (Except VehicleError Simulation) :=
  config.validate?.bind fun checked =>
    before? checked <| config.link.bitMs?.map fun _bitMs => create config

/-- Creation is undefined only for accepted settings: a window or a bit takes too long. -/
theorem create?_eq_none_iff (config : VehicleConfig) :
    create? config = none ↔
      config.validate = .ok () ∧
        (UInt32.size ≤ windowSize * config.periods.sampleMs.toNat ∨ config.link.IsTooLong) := by
  rw [create?]
  cases hvalid : config.validate? with
  | none =>
      obtain ⟨hok, hlong⟩ := config.validate?_eq_none_iff.1 hvalid
      exact iff_of_true rfl ⟨hok, .inl hlong⟩
  | some checked =>
      -- the periods were not too long, so only the bit time can be
      have hshort : ¬ (config.validate = .ok () ∧
          UInt32.size ≤ windowSize * config.periods.sampleMs.toNat) := by
        rw [← config.validate?_eq_none_iff, hvalid]
        exact Option.some_ne_none checked
      rw [Option.bind_some, before?_eq_none_iff, Option.map_eq_none_iff,
        VehicleConfig.validate?_agrees hvalid]
      refine and_congr_right fun hok => ?_
      rw [LinkConfig.bitMs?_eq_none_iff (VehicleConfig.sampleRate_ne_zero hok),
        or_iff_right fun hlong => hshort ⟨hok, hlong⟩]

/-- A creation that refuses its settings or succeeds is the creation of the simulation. -/
theorem create?_agrees {config : VehicleConfig} {result : Except VehicleError Simulation}
    (h : create? config = some result) : result = create config := by
  rw [create?] at h
  cases hvalid : config.validate? with
  | none =>
      rw [hvalid] at h
      contradiction
  | some checked =>
      rw [hvalid, Option.bind_some] at h
      have hresult : result = (do checked; create config) := by
        refine before?_agrees (fun later hlater => ?_) h
        obtain ⟨bitMs, -, hcreate⟩ := Option.map_eq_some_iff.1 hlater
        exact hcreate.symm
      rw [hresult, VehicleConfig.validate?_agrees hvalid]
      exact validate_bind_create config

end Simulation

end LightPilot
