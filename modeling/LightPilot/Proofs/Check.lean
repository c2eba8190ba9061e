set_option autoImplicit false

/-! # Checks in sequence

Settings are checked one after the other, and the first check that fails ends the computation. These
lemmas read off what such a sequence accepts. -/

namespace LightPilot.Check

variable {Fault Value : Type} {condition : Prop} [Decidable condition] {fault : Fault}

/-- A check before the rest of a computation. -/
theorem before_eq_ok_iff {rest : Except Fault Value} {value : Value} :
    (do if condition then throw fault
        rest) = Except.ok value ↔ ¬ condition ∧ rest = .ok value := by
  by_cases h : condition
  · rw [if_pos h]
    simp only [h, not_true_eq_false, false_and, iff_false]
    intro hok
    cases hok
  · rw [if_neg h]
    exact ⟨fun hrest => ⟨h, hrest⟩, fun hrest => hrest.2⟩

/-- A check at the end. -/
theorem last_eq_ok_iff :
    (if condition then throw fault else pure () : Except Fault Unit) = .ok () ↔ ¬ condition := by
  by_cases h : condition
  · rw [if_pos h]
    simp only [h, not_true_eq_false, iff_false]
    intro hok
    cases hok
  · rw [if_neg h]
    exact iff_of_true rfl h

/-- The checks of a part before the rest of a computation. -/
theorem bind_eq_ok_iff {check : Except Fault Unit} {rest : Except Fault Value} {value : Value} :
    (do check; rest) = Except.ok value ↔ check = .ok () ∧ rest = .ok value := by
  cases check with
  | error fault =>
      constructor
      · intro hok
        cases hok
      · rintro ⟨hok, -⟩
        cases hok
  | ok checked => exact ⟨fun hrest => ⟨rfl, hrest⟩, fun hrest => hrest.2⟩

/-- The checks of a part, whose faults are faults of the whole. -/
theorem mapError_eq_ok_iff {Inner : Type} {check : Except Inner Value} {wrap : Inner → Fault}
    {value : Value} : check.mapError wrap = .ok value ↔ check = .ok value := by
  cases check with
  | error fault => exact iff_of_false (fun hok => by cases hok) (fun hok => by cases hok)
  | ok checked =>
      exact ⟨fun hok => congrArg Except.ok (Except.ok.inj hok),
        fun hok => congrArg Except.ok (Except.ok.inj hok)⟩

/-- A part that must be built before the rest of a computation. -/
theorem exists_of_bind_eq_ok {Part : Type} {part : Except Fault Part}
    {rest : Part → Except Fault Value} {value : Value} (h : part >>= rest = .ok value) :
    ∃ built, part = .ok built ∧ rest built = .ok value := by
  cases part with
  | error fault => cases h
  | ok built => exact ⟨built, rfl, h⟩

end LightPilot.Check
