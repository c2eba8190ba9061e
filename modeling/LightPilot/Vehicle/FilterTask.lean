import LightPilot.Filter.Population
import LightPilot.Filter.Schedule
import LightPilot.Vehicle.ColorIntake

set_option autoImplicit false

/-! # Observing colors

A run polls the color sensors, and when there is a color that is worth it resamples the swarm. -/

namespace LightPilot

/-- The filter task. -/
structure FilterTask where
  intake : ColorIntake := {}
  schedule : ResampleSchedule
  /-- The last color taken. -/
  detectedColor : UInt8 := ambient

namespace FilterTask

/-- The filter task of a vehicle. -/
def ofConfig (config : FilterConfig) : FilterTask where
  schedule := ResampleSchedule.ofInterval config.resampleIntervalMs

/-- One run, with the edges on both lines and the color there is to see. The result is what a resample
did, if one was made. -/
def run {n : Nat} (task : FilterTask) (left right : Option Edge) (color : UInt8) (now : UInt32)
    (population : Population n) : Option ResampleOutcome × FilterTask × Population n :=
  let (taken, intake) := task.intake.poll left right color
  let task := { task with intake }
  match taken with
  | none => (none, task, population)
  | some color =>
    let task := { task with detectedColor := color }
    if task.schedule.isDue color now then
      let (outcome, population) := population.observe color
      (some outcome, { task with schedule := task.schedule.mark color now }, population)
    else (none, task, population)

end FilterTask

end LightPilot
