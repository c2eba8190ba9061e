import LightPilot.Proofs.Vehicle.Parameters
import LightPilot.World.Executor

set_option autoImplicit false

/-! # What a poll of the executor does

`Executor.Polls` lists the four things that a poll can do, with their guards. A poll takes the oldest
byte that waits, counts it as executed or rejected, and changes parameters and craft only when it executes
a command. What it tells the motion model through the parameters is the switch or the move that it executes
(`Executor.Polls.tells`). -/

namespace LightPilot

theorem Command.code_of_ofCode? {byte : UInt8} {command : Command} (h : ofCode? byte = some command) :
    command.code = byte := by
  have hall : ∀ index : Fin all.length, (all[index]).code = UInt8.ofNat index := by
    decide
  obtain ⟨hlt, hcommand⟩ := List.getElem?_eq_some_iff.1 h
  rw [← hcommand]
  exact (hall ⟨byte.toNat, hlt⟩).trans byte.ofNat_toNat

/-- The value that a command gives to the switch of the motion model. -/
def Command.switch? : Command → Option Int32
  | motionModelEnable => some 1
  | motionModelDisable => some 0
  | _ => none

/-- The command, if it is a move. -/
def Command.move? (command : Command) : Option Command :=
  if command.axis?.isSome then some command else none

theorem Command.isSome_axis?_of_move? {command move : Command} (h : command.move? = some move) :
    move.axis?.isSome = true := by
  unfold move? at h
  split at h
  · next hmoves => exact Option.some.inj h ▸ hmoves
  · contradiction

theorem Command.move?_of_move? {command move : Command} (h : command.move? = some move) :
    move.move? = some move :=
  if_pos (isSome_axis?_of_move? h)

theorem Command.ofParameter?_toParameter (command : Command) :
    ofParameter? command.toParameter = some command := by
  cases command <;> decide

/-- The byte that a poll took. -/
def ExecutorReport.byte? : ExecutorReport → Option UInt8
  | nothing => none
  | unknown byte => some byte
  | busy command => some command.code
  | executed command => some command.code

namespace Executor

variable {executor : Executor} {shared : SharedState} {params : Parameters} {craft : Craft}

/-- What a poll can do: what it reports, and the executor, queue, parameters and craft afterwards. -/
inductive Polls (executor : Executor) (shared : SharedState) (params : Parameters) (craft : Craft) :
    ExecutorReport → Executor → SharedState → Parameters → Craft → Prop
  | nothing (hqueue : shared.commands.bytes = []) :
      Polls executor shared params craft .nothing executor shared params craft
  | unknown {byte : UInt8} {commands : CommandQueue}
      (hqueue : shared.commands.bytes = byte :: commands.bytes) (hbyte : Command.ofCode? byte = none) :
      Polls executor shared params craft (.unknown byte)
        { executor with rejected := executor.rejected + 1 } { shared with commands } params craft
  | busy {command : Command} {commands : CommandQueue}
      (hqueue : shared.commands.bytes = command.code :: commands.bytes)
      (hrefused : carryOut? command params craft = none) :
      Polls executor shared params craft (.busy command)
        { executor with rejected := executor.rejected + 1 } { shared with commands } params craft
  | executed {command : Command} {commands : CommandQueue} {params' : Parameters} {craft' : Craft}
      (hqueue : shared.commands.bytes = command.code :: commands.bytes)
      (hdone : carryOut? command params craft = some (params', craft')) :
      Polls executor shared params craft (.executed command)
        { executor with executed := executor.executed + 1 } { shared with commands } params' craft'

/-- A poll does one of the things listed. -/
theorem polls_poll (executor : Executor) (shared : SharedState) (params : Parameters)
    (craft : Craft) :
    let polled := executor.poll shared params craft
    Polls executor shared params craft polled.1 polled.2.1 polled.2.2.1 polled.2.2.2.1
      polled.2.2.2.2 := by
  intro polled
  cases hbytes : shared.commands.bytes with
  | nil =>
      have hnone : shared.nextCommand? = none := by
        unfold SharedState.nextCommand? CommandQueue.pop?
        split
        · rfl
        · next hcons => simp [hbytes] at hcons
      have hpolled : polled = (.nothing, executor, shared, params, craft) := by
        simp [polled, poll, hnone]
      rw [hpolled]
      exact .nothing hbytes
  | cons byte bytes =>
      obtain ⟨commands, hnext, rfl⟩ : ∃ commands : CommandQueue,
          shared.nextCommand? = some (byte, { shared with commands }) ∧ commands.bytes = bytes := by
        unfold SharedState.nextCommand? CommandQueue.pop?
        split
        · next hnil => simp [hbytes] at hnil
        · next other others hcons =>
            obtain ⟨rfl, rfl⟩ := List.cons.inj (hbytes.symm.trans hcons)
            exact ⟨_, rfl, rfl⟩
      cases hbyte : Command.ofCode? byte with
      | none =>
          have hpolled : polled = (.unknown byte, { executor with rejected := executor.rejected + 1 },
              { shared with commands }, params, craft) := by
            simp [polled, poll, hnext, hbyte]
          rw [hpolled]
          exact .unknown hbytes hbyte
      | some command =>
          have hqueue : shared.commands.bytes = command.code :: commands.bytes := by
            rw [hbytes, Command.code_of_ofCode? hbyte]
          cases hdone : carryOut? command params craft with
          | none =>
              have hpolled : polled = (.busy command, { executor with rejected := executor.rejected + 1 },
                  { shared with commands }, params, craft) := by
                simp [polled, poll, hnext, hbyte, hdone]
              rw [hpolled]
              exact .busy hqueue hdone
          | some done =>
              have hpolled : polled = (.executed command,
                  { executor with executed := executor.executed + 1 },
                  { shared with commands }, done.1, done.2) := by
                simp [polled, poll, hnext, hbyte, hdone]
              rw [hpolled]
              exact .executed hqueue hdone

section

variable {report : ExecutorReport} {executor' : Executor} {shared' : SharedState}
  {params' : Parameters} {craft' : Craft}

/-- A poll takes the oldest byte. -/
theorem Polls.bytes (h : Polls executor shared params craft report executor' shared' params' craft') :
    report.byte? = shared.commands.bytes.head? ∧
      shared'.commands.bytes = shared.commands.bytes.tail := by
  cases h with
  | nothing hqueue => simp [ExecutorReport.byte?, hqueue]
  | unknown hqueue => simp [ExecutorReport.byte?, hqueue]
  | busy hqueue => simp [ExecutorReport.byte?, hqueue]
  | executed hqueue => simp [ExecutorReport.byte?, hqueue]

/-- Each byte taken is counted once. -/
theorem Polls.counts (h : Polls executor shared params craft report executor' shared' params' craft') :
    executor'.executed = executor.executed + UInt32.ofNat report.command?.toList.length ∧
      executor'.rejected = executor.rejected
        + UInt32.ofNat (report.byte?.toList.length - report.command?.toList.length) := by
  cases h <;> simp [ExecutorReport.byte?, ExecutorReport.command?]

/-- A poll that executes nothing leaves the craft alone. -/
theorem Polls.craft_eq (h : Polls executor shared params craft report executor' shared' params' craft')
    (hquiet : report.command? = none) : craft' = craft := by
  cases h with
  | executed => contradiction
  | _ => rfl

theorem length_command?_le (report : ExecutorReport) :
    report.command?.toList.length ≤ report.byte?.toList.length := by
  cases report <;> simp [ExecutorReport.byte?, ExecutorReport.command?]

end

/-! ## What the motion model is told -/

section

variable {report : ExecutorReport} {executor' : Executor} {shared' : SharedState}
  {params' : Parameters} {craft' : Craft} {switch order : Int32}

theorem carryOut?_of_move {command : Command} (hmoves : command.axis?.isSome = true)
    (params : Parameters) (craft : Craft) :
    carryOut? command params craft = (craft.begin? command).map fun craft =>
      ((params.set Parameters.lastCommand command.toParameter).2, craft) := by
  cases command with
  | up | down | left | right | forward | backward | takeOff | land => rfl
  | _ => contradiction

theorem tells_carryOut? (h : params.Tells switch order) {command : Command}
    (hdone : carryOut? command params craft = some (params', craft')) :
    params'.Tells (command.switch?.getD switch)
      ((command.move?.map Command.toParameter).getD order) := by
  unfold carryOut? at hdone
  split at hdone
  · cases hdone
    exact h.setSwitch 1
  · cases hdone
    exact h.setSwitch 0
  · next hon hoff =>
      have hswitch : command.switch? = none := by
        cases command with
        | motionModelEnable => exact absurd rfl hon
        | motionModelDisable => exact absurd rfl hoff
        | _ => rfl
      rw [hswitch, Option.getD_none, Command.move?]
      by_cases hmoves : command.axis?.isSome = true
      · rw [if_pos hmoves, Option.map_eq_some_iff] at hdone
        obtain ⟨begun, -, hsame⟩ := hdone
        cases hsame
        rw [if_pos hmoves]
        exact h.setOrder _
      · rw [if_neg hmoves] at hdone
        cases hdone
        rw [if_neg hmoves]
        exact h

/-- A poll writes the switch or the move that it executes. -/
theorem Polls.tells (hpolls : Polls executor shared params craft report executor' shared' params' craft')
    (h : params.Tells switch order) :
    params'.Tells ((report.command?.bind Command.switch?).getD switch)
      (((report.command?.bind Command.move?).map Command.toParameter).getD order) := by
  cases hpolls with
  | executed hqueue hdone => exact tells_carryOut? h hdone
  | _ => exact h

end

end Executor

/-! ## A craft whose vertical moves end at once -/

/-- Whether a command moves the craft across the map. -/
def Command.isLateral (command : Command) : Bool :=
  command.axis?.any Axis.isLateral

/-- Vertical moves take no time, and no other is flown. -/
structure Craft.Hops (craft : Craft) : Prop where
  short : craft.verticalMs / 2 = 0
  hop : ∀ m, craft.manoeuvre? = some m → m.halfMs = 0

variable {craft : Craft}

/-- A move that takes no time is over after a step. -/
theorem Craft.Hops.step (h : craft.Hops) (dtMs : UInt32) :
    (craft.step dtMs).2.Hops ∧ (craft.step dtMs).2.isBusy = false := by
  have hfree : (craft.step dtMs).2.verticalMs = craft.verticalMs ∧
      (craft.step dtMs).2.manoeuvre? = none := by
    unfold Craft.step
    cases hmanoeuvre : craft.manoeuvre? with
    | none => exact ⟨rfl, rfl⟩
    | some m =>
        have hover : (m.later dtMs).isOver = true := by
          simp [Manoeuvre.isOver, Manoeuvre.later, h.hop m hmanoeuvre]
        simp [hover]
  obtain ⟨hshort, hnone⟩ := hfree
  refine ⟨⟨by rw [hshort]; exact h.short, fun m hm => ?_⟩, by rw [Craft.isBusy, hnone]; rfl⟩
  rw [hnone] at hm
  contradiction

/-- A free craft begins a vertical move. -/
theorem Craft.Hops.begin? (h : craft.Hops) (hfree : craft.isBusy = false) {command : Command}
    {direction : Float32} (hheading : command.heading? = some (.z, direction)) :
    ∃ craft', craft.begin? command = some craft' ∧ craft'.Hops := by
  rw [Craft.begin?, hfree, hheading]
  refine ⟨_, rfl, h.short, fun m hm => ?_⟩
  cases hm
  exact h.short

theorem Executor.exists_carryOut? (h : craft.Hops) (hfree : craft.isBusy = false) {command : Command}
    (hstraight : command.isLateral = false) (params : Parameters) :
    ∃ params' craft', carryOut? command params craft = some (params', craft') ∧ craft'.Hops := by
  by_cases hmoves : command.axis?.isSome = true
  · obtain ⟨direction, hheading⟩ : ∃ direction, command.heading? = some (.z, direction) := by
      cases command with
      | up | down | takeOff | land => exact ⟨_, rfl⟩
      | left | right | forward | backward => contradiction
      | _ => contradiction
    obtain ⟨craft', hbegun, hhops⟩ := h.begin? hfree hheading
    refine ⟨(params.set Parameters.lastCommand command.toParameter).2, craft', ?_, hhops⟩
    rw [carryOut?_of_move hmoves, hbegun, Option.map_some]
  · cases command with
    | motionModelEnable | motionModelDisable => exact ⟨_, craft, rfl, h⟩
    | idle | flightEnable | flightDisable | linkEnable | linkDisable => exact ⟨params, craft, rfl, h⟩
    | _ => exact absurd rfl hmoves

/-- Such a craft is never busy, so what is taken is executed. -/
theorem Executor.Polls.executed_of_hops {executor executor' : Executor} {shared shared' : SharedState}
    {params params' : Parameters} {craft' : Craft} {report : ExecutorReport}
    (hpolls : Polls executor shared params craft report executor' shared' params' craft')
    (h : craft.Hops) (hfree : craft.isBusy = false)
    (hstraight : ∀ command, report.byte?.bind Command.ofCode? = some command →
      command.isLateral = false) :
    craft'.Hops ∧ report.command? = report.byte?.bind Command.ofCode? := by
  cases hpolls with
  | nothing => exact ⟨h, rfl⟩
  | unknown hqueue hbyte => exact ⟨h, hbyte.symm⟩
  | @busy command commands hqueue hrefused =>
      obtain ⟨params', craft', hdone, -⟩ :=
        exists_carryOut? h hfree (hstraight command command.ofCode?_code) params
      rw [hrefused] at hdone
      contradiction
  | @executed command commands params' craft' hqueue hdone =>
      obtain ⟨params'', craft'', hsame, hhops⟩ :=
        exists_carryOut? h hfree (hstraight command command.ofCode?_code) params
      obtain ⟨-, rfl⟩ := Prod.mk.inj (Option.some.inj (hdone.symm.trans hsame))
      exact ⟨hhops, command.ofCode?_code.symm⟩

end LightPilot
