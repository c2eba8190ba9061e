import LightPilot.Vehicle.Parameters
import Mathlib

set_option autoImplicit false

/-! # Reading a parameter after one was set

A name that is known can always be set: it then has the new value, and every other name keeps its own
(`get?_set`). The store of a vehicle knows two names from the start, so what the ground and the tasks tell
each other through it is a pair of values (`Tells`). -/

namespace LightPilot.Parameters

theorem lookup_replace (name other : String) (value : Int32) (entries : List (String × Int32)) :
    (replace name value entries).lookup other
      = if other = name then (entries.lookup name).map fun _ => value else entries.lookup other := by
  induction entries with
  | nil => simp [replace]
  | cons entry entries ih =>
      unfold replace at ih ⊢
      rw [List.map_cons, List.lookup_cons, ih, List.lookup_cons, List.lookup_cons]
      by_cases hother : other = name
      · subst hother
        by_cases hname : entry.1 = other
        · simp [hname]
        · have hne : (other == entry.1) = false := beq_eq_false_iff_ne.2 (Ne.symm hname)
          simp [hname, hne]
      · by_cases hname : entry.1 = name
        · have hne : (other == name) = false := beq_eq_false_iff_ne.2 hother
          simp [hname, hother, hne]
        · simp [hname, hother]

/-- A name that is known can be set. -/
theorem get?_set {p : Parameters} {name : String} (h : (p.get? name).isSome) (value : Int32)
    (other : String) :
    (p.set name value).2.get? other = if other = name then some value else p.get? other := by
  rw [set, if_pos h]
  unfold get? at h ⊢
  rw [lookup_replace]
  obtain ⟨old, hold⟩ := Option.isSome_iff_exists.1 h
  rw [hold, Option.map_some]

/-- The store knows the names of the vehicle: the switch of the motion model and the command that waits
for it have these values. -/
structure Tells (p : Parameters) (switch order : Int32) : Prop where
  switch : p.get? motionActive = some switch
  order : p.get? lastCommand = some order

variable {p : Parameters} {switch order : Int32}

theorem tells_initial : initial.Tells 0 0 :=
  ⟨by decide, by decide⟩

theorem Tells.setSwitch (h : p.Tells switch order) (value : Int32) :
    (p.set motionActive value).2.Tells value order := by
  have hknown : (p.get? motionActive).isSome := by simp [h.switch]
  have hother : lastCommand ≠ motionActive := by decide
  exact ⟨by simp [get?_set hknown], by simp [get?_set hknown, hother, h.order]⟩

theorem Tells.setOrder (h : p.Tells switch order) (value : Int32) :
    (p.set lastCommand value).2.Tells switch value := by
  have hknown : (p.get? lastCommand).isSome := by simp [h.order]
  have hother : motionActive ≠ lastCommand := by decide
  exact ⟨by simp [get?_set hknown, hother, h.switch], by simp [get?_set hknown]⟩

theorem Tells.flag (h : p.Tells switch order) : p.flag motionActive = (switch != 0) := by
  simp [Parameters.flag, h.switch]

end LightPilot.Parameters
