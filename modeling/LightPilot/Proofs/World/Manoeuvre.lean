import LightPilot.Proofs.Run
import LightPilot.World.Craft

set_option autoImplicit false

/-! # A move accelerates, then brakes

A craft is stepped a millisecond at a time and may be asked for moves at any point. While it flies one it
refuses all others, so the only state of a move is the number of steps made (`Manoeuvre.Lasts`). Each step
pushes along the heading if the first half was not over before it, and ends the move if the second half is
over after it. Both halves therefore have the same number of steps, and a run through the whole move is
`Craft.Completes` with that number twice.

The two tests do not agree on a move without halves, of less than two milliseconds: it is over only after a
step, and that step brakes (`Craft.completes_of_axis?`). -/

namespace LightPilot

theorem Command.exists_heading? {command : Command} {axis : Axis} (haxis : command.axis? = some axis) :
    ∃ direction, command.heading? = some (axis, direction) := by
  cases command with
  | forward | backward | left | right | up | down | takeOff | land =>
      cases haxis
      exact ⟨_, rfl⟩
  | idle | flightEnable | flightDisable | motionModelEnable | motionModelDisable | linkEnable
  | linkDisable => contradiction

/-! ## A step of a move -/

namespace Manoeuvre

/-- The acceleration of a push along an axis. -/
def thrust (axis : Axis) (direction : Float32) : Vec3 :=
  Vec3.single (direction * strength axis) axis

/-- A move after a number of steps. -/
structure Lasts (m : Manoeuvre) (steps : ℕ) (now : Manoeuvre) : Prop where
  elapsed : now.elapsedMs.toNat = steps
  command : now.command = m.command
  axis : now.axis = m.axis
  direction : now.direction = m.direction
  halfMs : now.halfMs = m.halfMs

variable {m now : Manoeuvre} {steps : ℕ}

theorem Lasts.later (h : m.Lasts steps now) (hsteps : steps + 1 < 2 ^ 32) :
    m.Lasts (steps + 1) (now.later 1) := by
  have hone : (1 : UInt32).toNat = 1 := rfl
  refine ⟨?_, h.command, h.axis, h.direction, h.halfMs⟩
  show (now.elapsedMs + 1).toNat = steps + 1
  rw [UInt32.toNat_add, h.elapsed, hone, Nat.mod_eq_of_lt hsteps]

/-- The push of a step, counted from zero: along the heading during the first half, then against it. -/
def pushAt (m : Manoeuvre) (step : ℕ) : Vec3 :=
  if step < m.halfMs.toNat then thrust m.axis m.direction else thrust m.axis (-m.direction)

theorem Lasts.acceleration (h : m.Lasts steps now) : now.acceleration = m.pushAt steps := by
  have hbraking : now.isBraking = decide (m.halfMs.toNat ≤ steps) := by
    rw [isBraking, h.halfMs, ← h.elapsed]
    exact decide_eq_decide.2 UInt32.le_iff_toNat_le
  rw [Manoeuvre.acceleration, push, hbraking, h.axis, h.direction, pushAt]
  by_cases hfirst : steps < m.halfMs.toNat
  · rw [if_pos hfirst, decide_eq_false (Nat.not_le.2 hfirst)]
    rfl
  · rw [if_neg hfirst, decide_eq_true (Nat.not_lt.1 hfirst)]
    rfl

theorem Lasts.isOver (h : m.Lasts steps now) (hhalf : 2 * m.halfMs.toNat < 2 ^ 32) :
    now.isOver = decide (2 * m.halfMs.toNat ≤ steps) := by
  have hwhole : (2 * now.halfMs).toNat = 2 * m.halfMs.toNat := by
    have htwo : (2 : UInt32).toNat = 2 := rfl
    rw [UInt32.toNat_mul, h.halfMs, htwo, Nat.mod_eq_of_lt hhalf]
  rw [Manoeuvre.isOver, ← h.elapsed, ← hwhole]
  exact decide_eq_decide.2 UInt32.le_iff_toNat_le

end Manoeuvre

/-! ## Calls on a craft -/

namespace Craft

/-- A call on a craft. -/
inductive Call
  | begin (command : Command)
  /-- A millisecond passes. -/
  | step

/-- What a craft answers. -/
inductive Answer
  | begun (accepted : Bool)
  /-- The command that just ended, if one did, and the acceleration during the step. -/
  | stepped (finished? : Option Command) (acceleration : Vec3)

namespace Answer

/-- The acceleration of a step. -/
def push? : Answer → Option Vec3
  | .begun _ => none
  | .stepped _ acceleration => some acceleration

/-- The report of a step. -/
def report? : Answer → Option (Option Command)
  | .begun _ => none
  | .stepped finished? _ => some finished?

end Answer

/-- Makes one call. A craft that refuses a move stays as it is. -/
def perform (craft : Craft) : Call → Answer × Craft
  | .begin command =>
    match craft.begin? command with
    | some begun => (.begun true, begun)
    | none => (.begun false, craft)
  | .step => (.stepped (craft.step 1).1 (craft.step 1).2.acceleration, (craft.step 1).2)

/-- Whether a call is a step. -/
def Call.isStep : Call → Bool
  | .begin _ => false
  | .step => true

/-- The number of steps among some calls. -/
def stepsIn (calls : List Call) : ℕ :=
  calls.countP Call.isStep

/-- The time of a move along an axis. -/
def durationMs (craft : Craft) (axis : Axis) : UInt32 :=
  if axis.isLateral then craft.lateralMs else craft.verticalMs

variable {craft : Craft} {m : Manoeuvre} {steps : ℕ}

/-! ### One step -/

/-- Idle and without velocity. -/
structure IsResting (craft : Craft) : Prop where
  idle : craft.isBusy = false
  still : craft.velocity = Vec3.zero

theorem acceleration_step (craft : Craft) : (craft.step 1).2.acceleration = craft.force := by
  unfold step
  dsimp only
  split
  · split
    · rfl
    · rfl
  · rfl

/-- A move goes on while its second half is not over. -/
theorem step_of_underway {now : Manoeuvre} (hflown : craft.manoeuvre? = some now)
    (hunderway : (now.later 1).isOver = false) :
    (craft.step 1).1 = none ∧ (craft.step 1).2.manoeuvre? = some (now.later 1) := by
  unfold step
  simp only [hflown, Option.map_some, hunderway]
  exact ⟨rfl, rfl⟩

theorem step_of_over {now : Manoeuvre} (hflown : craft.manoeuvre? = some now)
    (hover : (now.later 1).isOver = true) :
    (craft.step 1).1 = some now.command ∧ (craft.step 1).2.IsResting := by
  unfold step
  simp only [hflown, Option.map_some, hover]
  exact ⟨rfl, rfl, rfl⟩

/-- A craft at rest stays so. -/
theorem IsResting.step (h : craft.IsResting) :
    (craft.step 1).1 = none ∧ (craft.step 1).2.IsResting := by
  have hnone := Option.not_isSome_iff_eq_none.1 (ne_true_of_eq_false h.idle)
  have hforce : craft.force = Vec3.zero := by rw [force, hnone]
  unfold Craft.step
  simp only [hnone, Option.map_none]
  refine ⟨trivial, rfl, ?_⟩
  rw [h.still, hforce]
  rfl

/-! ### One call during a move -/

/-- A craft that has flown a move for a number of steps. -/
def Flies (craft : Craft) (m : Manoeuvre) (steps : ℕ) : Prop :=
  ∃ now, craft.manoeuvre? = some now ∧ m.Lasts steps now

/-- A flying craft refuses every move and stays as it is. -/
theorem Flies.refuses (h : craft.Flies m steps) (other : Command) :
    craft.perform (.begin other) = (.begun false, craft) := by
  obtain ⟨now, hflown, -⟩ := h
  have hbusy : craft.isBusy = true := by rw [isBusy, hflown, Option.isSome_some]
  rw [perform, begin?, if_pos hbusy]

theorem Flies.push (h : craft.Flies m steps) :
    (craft.perform .step).1 = .stepped (craft.step 1).1 (m.pushAt steps) := by
  obtain ⟨now, hflown, hlasts⟩ := h
  rw [perform, acceleration_step, force, hflown]
  exact congrArg (Answer.stepped _) hlasts.acceleration

theorem Flies.goesOn (h : craft.Flies m steps) (hhalf : 2 * m.halfMs.toNat < 2 ^ 32)
    (hunderway : steps + 1 < 2 * m.halfMs.toNat) :
    (craft.perform .step).1 = .stepped none (m.pushAt steps) ∧
      (craft.perform .step).2.Flies m (steps + 1) := by
  have hpush := h.push
  obtain ⟨now, hflown, hlasts⟩ := h
  have hlater := hlasts.later (by omega)
  obtain ⟨hnone, hflown'⟩ := step_of_underway hflown
    ((hlater.isOver hhalf).trans (decide_eq_false (by omega)))
  rw [hnone] at hpush
  exact ⟨hpush, now.later 1, hflown', hlater⟩

theorem Flies.ends (h : craft.Flies m steps) (hhalf : 2 * m.halfMs.toNat < 2 ^ 32)
    (hsteps : steps + 1 < 2 ^ 32) (hover : 2 * m.halfMs.toNat ≤ steps + 1) :
    (craft.perform .step).1 = .stepped (some m.command) (m.pushAt steps) ∧
      (craft.perform .step).2.IsResting := by
  have hpush := h.push
  obtain ⟨now, hflown, hlasts⟩ := h
  have hlater := hlasts.later hsteps
  obtain ⟨hsome, hrests⟩ := step_of_over hflown
    ((hlater.isOver hhalf).trans (decide_eq_true hover))
  rw [hsome, hlasts.command] at hpush
  exact ⟨hpush, hrests⟩

/-! ## A whole move -/

/-- The steps that a move brakes for: half of its time, but at least one. -/
def brakingSteps (half : ℕ) : ℕ :=
  max 1 half

/-- What a move has come to after some calls that did not end it. -/
structure Underway (m : Manoeuvre) (calls : List Call) (answers : List Answer) (craft : Craft) :
    Prop where
  flies : craft.Flies m (stepsIn calls)
  pushes : answers.filterMap Answer.push? = (List.range (stepsIn calls)).map m.pushAt
  reports : answers.filterMap Answer.report? = List.replicate (stepsIn calls) none

theorem Underway.call {calls : List Call} {answers : List Answer} (h : Underway m calls answers craft)
    (hhalf : 2 * m.halfMs.toNat < 2 ^ 32) (call : Call)
    (hsteps : stepsIn (calls ++ [call]) < m.halfMs.toNat + brakingSteps m.halfMs.toNat) :
    Underway m (calls ++ [call]) (answers ++ [(craft.perform call).1]) (craft.perform call).2 := by
  cases call with
  | begin other =>
      have hsame : stepsIn (calls ++ [.begin other]) = stepsIn calls := by
        simp [stepsIn, Call.isStep]
      rw [h.flies.refuses other]
      refine ⟨hsame ▸ h.flies, ?_, ?_⟩
      · rw [hsame, List.filterMap_append, h.pushes]
        exact List.append_nil _
      · rw [hsame, List.filterMap_append, h.reports]
        exact List.append_nil _
  | step =>
      have hnext : stepsIn (calls ++ [.step]) = stepsIn calls + 1 := by
        simp [stepsIn, Call.isStep]
      rw [hnext, brakingSteps] at hsteps
      obtain ⟨hanswer, hflies⟩ := h.flies.goesOn hhalf (by omega)
      refine ⟨hnext ▸ hflies, ?_, ?_⟩
      · rw [hnext, hanswer, List.filterMap_append, h.pushes, List.range_succ, List.map_append]
        rfl
      · rw [hnext, hanswer, List.filterMap_append, h.reports, List.replicate_succ']
        rfl

/-- Until its last step a move is underway, whatever else is asked of the craft. -/
theorem underway_run {begun : Craft} (hbegun : begun.Flies m 0) (hhalf : 2 * m.halfMs.toNat < 2 ^ 32)
    (calls : List Call) (hsteps : stepsIn calls < m.halfMs.toNat + brakingSteps m.halfMs.toNat) :
    Underway m calls (Run.answers perform begun calls) (Run.final perform begun calls) := by
  refine Run.induction (motive := fun calls answers craft =>
    stepsIn calls < m.halfMs.toNat + brakingSteps m.halfMs.toNat → Underway m calls answers craft)
    (fun _ => ⟨hbegun, rfl, rfl⟩) (fun calls answers craft call ih hsteps => ?_) calls hsteps
  have hfewer : stepsIn calls ≤ stepsIn (calls ++ [call]) := by
    rw [stepsIn, stepsIn, List.countP_append]
    exact Nat.le_add_right ..
  exact (ih (by omega)).call hhalf call hsteps

/-- All pushes of a move. -/
theorem map_pushAt (m : Manoeuvre) (astern : ℕ) :
    (List.range (m.halfMs.toNat + astern)).map m.pushAt
      = List.replicate m.halfMs.toNat (Manoeuvre.thrust m.axis m.direction)
        ++ List.replicate astern (Manoeuvre.thrust m.axis (-m.direction)) := by
  have hahead : (List.range m.halfMs.toNat).map m.pushAt
      = List.replicate m.halfMs.toNat (Manoeuvre.thrust m.axis m.direction) := by
    refine List.eq_replicate_iff.2 ⟨by simp, List.forall_mem_map.2 fun step hstep => ?_⟩
    exact if_pos (List.mem_range.1 hstep)
  have hastern : (List.range astern).map (m.pushAt ∘ (m.halfMs.toNat + ·))
      = List.replicate astern (Manoeuvre.thrust m.axis (-m.direction)) := by
    refine List.eq_replicate_iff.2 ⟨by simp, List.forall_mem_map.2 fun step _ => ?_⟩
    exact if_neg (Nat.not_lt.2 (Nat.le_add_right ..))
  rw [List.range_add, List.map_append, List.map_map, hahead, hastern]

/-- A craft that began a move, was called and is stepped once more has flown it: with `ahead` steps along
the heading and `astern` steps against it. -/
structure Completes (begun : Craft) (command : Command) (axis : Axis) (direction : Float32)
    (ahead astern : ℕ) (calls : List Call) : Prop where
  /-- Up to the last step every other move is refused and changes nothing. -/
  refuses : ∀ early, early <+: calls → ∀ other,
    (Run.final perform begun early).perform (.begin other) = (.begun false, Run.final perform begun early)
  pushes : (Run.answers perform begun (calls ++ [.step])).filterMap Answer.push?
    = List.replicate ahead (Manoeuvre.thrust axis direction)
      ++ List.replicate astern (Manoeuvre.thrust axis (-direction))
  /-- Only the last step reports the command. -/
  reports : (Run.answers perform begun (calls ++ [.step])).filterMap Answer.report?
    = List.replicate (stepsIn calls) none ++ [some command]
  rests : (Run.final perform begun (calls ++ [.step])).IsResting
  /-- It is not reported again later. -/
  silent : ∀ later, Run.answers perform (Run.final perform begun (calls ++ [.step]))
    (List.replicate later .step) = List.replicate later (.stepped none Vec3.zero)

theorem IsResting.answers (h : craft.IsResting) (later : ℕ) :
    Run.answers perform craft (List.replicate later .step)
      = List.replicate later (.stepped none Vec3.zero) := by
  induction later generalizing craft with
  | zero => rfl
  | succ later ih =>
      obtain ⟨hnone, hrests⟩ := h.step
      have hpush : (craft.step 1).2.acceleration = Vec3.zero := by
        rw [acceleration_step, force, Option.not_isSome_iff_eq_none.1 (ne_true_of_eq_false h.idle)]
      have hcall : craft.perform .step = (.stepped none Vec3.zero, (craft.step 1).2) := by
        rw [perform, hnone, hpush]
      rw [List.replicate_succ, Run.answers, hcall, ih hrests, List.replicate_succ]

theorem stepsIn_le_of_prefix {early calls : List Call} (h : early <+: calls) :
    stepsIn early ≤ stepsIn calls :=
  h.sublist.countP_le

/-- The last step of a move completes it. -/
theorem completes_of_flies {begun : Craft} (hbegun : begun.Flies m 0)
    (hhalf : 2 * m.halfMs.toNat < 2 ^ 32) {calls : List Call}
    (hsteps : stepsIn calls + 1 = m.halfMs.toNat + brakingSteps m.halfMs.toNat) :
    Completes begun m.command m.axis m.direction m.halfMs.toNat (brakingSteps m.halfMs.toNat) calls := by
  have hunderway := underway_run hbegun hhalf calls (by omega)
  have hlast : 2 * m.halfMs.toNat ≤ stepsIn calls + 1 ∧ stepsIn calls + 1 < 2 ^ 32 := by
    rw [brakingSteps] at hsteps
    omega
  obtain ⟨hanswer, hrests⟩ := hunderway.flies.ends hhalf hlast.2 hlast.1
  rw [← Run.final_snoc] at hrests
  have hanswers := Run.answers_snoc perform begun calls .step
  rw [hanswer] at hanswers
  constructor
  case refuses =>
    intro early hearly other
    have hfewer := stepsIn_le_of_prefix hearly
    exact (underway_run hbegun hhalf early (by omega)).flies.refuses other
  case pushes =>
    rw [hanswers, List.filterMap_append, hunderway.pushes, ← map_pushAt, ← hsteps, List.range_succ,
      List.map_append]
    rfl
  case reports =>
    rw [hanswers, List.filterMap_append, hunderway.reports]
    rfl
  case rests => exact hrests
  case silent => exact hrests.answers

/-! ## Every command with an axis -/

/-- A craft at rest accepts every command with an axis. -/
theorem begin?_of_heading? {command : Command} {axis : Axis} {direction : Float32}
    (hidle : craft.isBusy = false) (hheading : command.heading? = some (axis, direction)) :
    ∃ begun, craft.begin? command = some begun ∧
      begun.Flies ⟨command, axis, direction, 0, craft.durationMs axis / 2⟩ 0 := by
  rw [begin?, hidle, hheading]
  exact ⟨_, rfl, _, rfl, rfl, rfl, rfl, rfl, rfl⟩

/-- **A move accelerates, then brakes.** Whatever the times of its moves, an idle craft begins every command
with an axis, refuses all others until the move is over, and reports it once, at its end, at rest. Half of the
time in milliseconds, rounded down, is the number of steps along the heading, and the steps against it are as
many, or one if that is none. -/
theorem completes_of_axis? {command : Command} {axis : Axis} (hidle : craft.isBusy = false)
    (haxis : command.axis? = some axis) :
    ∃ direction begun, command.heading? = some (axis, direction) ∧ craft.begin? command = some begun ∧
      ∀ calls, stepsIn calls + 1
          = (craft.durationMs axis).toNat / 2 + brakingSteps ((craft.durationMs axis).toNat / 2) →
        Completes begun command axis direction ((craft.durationMs axis).toNat / 2)
          (brakingSteps ((craft.durationMs axis).toNat / 2)) calls := by
  obtain ⟨direction, hheading⟩ := Command.exists_heading? haxis
  obtain ⟨begun, hbegun, hflies⟩ := begin?_of_heading? hidle hheading
  have hhalf : (craft.durationMs axis / 2).toNat = (craft.durationMs axis).toNat / 2 :=
    UInt32.toNat_div ..
  have hshort : 2 * (craft.durationMs axis / 2).toNat < 2 ^ 32 := by
    have hword := (craft.durationMs axis).toNat_lt
    rw [hhalf]
    omega
  refine ⟨direction, begun, hheading, hbegun, fun calls hsteps => ?_⟩
  rw [← hhalf] at hsteps ⊢
  exact completes_of_flies hflies hshort hsteps

/-- Moves across the map take five milliseconds, an odd number, and vertical ones a single one. -/
def briskCraft : Craft :=
  { position := Vec3.zero, lateralMs := 5, verticalMs := 1 }

theorem completes_briskCraft :
    briskCraft.isBusy = false ∧ Command.left.axis? = some .y ∧
      ∃ direction begun, Command.left.heading? = some (.y, direction) ∧
        briskCraft.begin? .left = some begun ∧
        Completes begun .left .y direction 2 2 [.step, .begin .up, .step, .step] := by
  have hidle : briskCraft.isBusy = false := rfl
  have haxis : Command.left.axis? = some .y := rfl
  obtain ⟨direction, begun, hheading, hbegun, hcompletes⟩ := completes_of_axis? hidle haxis
  exact ⟨hidle, haxis, direction, begun, hheading, hbegun, hcompletes _ rfl⟩

/-- A move of a millisecond has no halves, but it brakes. -/
theorem brakes_briskCraft :
    briskCraft.IsResting ∧ Command.up.axis? = some .z ∧
      ∃ begun, briskCraft.begin? .up = some begun ∧
        Run.answers perform begun [.step] = [.stepped (some .up) (Manoeuvre.thrust .z (-1))] ∧
        (Manoeuvre.thrust .z (-1)).z < 0 ∧
        (Run.answers perform begun [.step]).filterMap Answer.push?
          ≠ List.replicate ((briskCraft.durationMs .z).toNat / 2) (Manoeuvre.thrust .z 1)
            ++ List.replicate ((briskCraft.durationMs .z).toNat / 2) (Manoeuvre.thrust .z (-1)) := by
  refine ⟨⟨rfl, rfl⟩, rfl, _, rfl, rfl, by decide +kernel, ?_⟩
  exact List.cons_ne_nil _ _

end Craft

end LightPilot
