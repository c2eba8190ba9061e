import LightPilot.Filter.Config
import LightPilot.Filter.Particle
import LightPilot.Filter.Population
import LightPilot.Filter.Schedule
import LightPilot.Filter.Systematic
import LightPilot.Flight.Command
import LightPilot.Flight.Inertia
import LightPilot.Journal.Notice
import LightPilot.Journal.Report
import LightPilot.Journal.Selection
import LightPilot.Journal.Wording
import LightPilot.Link.Conditioner
import LightPilot.Link.Config
import LightPilot.Link.Decoder
import LightPilot.Link.Frame
import LightPilot.Link.Peak
import LightPilot.Link.Receiver
import LightPilot.Link.SampleBuffers
import LightPilot.Link.Spectrum
import LightPilot.Link.Tone
import LightPilot.Link.Vote
import LightPilot.Main
import LightPilot.Map.ColorMap
import LightPilot.Map.ColorModel
import LightPilot.Mission
import LightPilot.Motion.Config
import LightPilot.Motion.Model
import LightPilot.Motion.State
import LightPilot.Navigation.Error
import LightPilot.Number.Binary
import LightPilot.Number.Decimal
import LightPilot.Number.Logarithm
import LightPilot.Number.Single
import LightPilot.Pattern.Bracket
import LightPilot.Pattern.CharSet
import LightPilot.Pattern.Cursor
import LightPilot.Pattern.Escape
import LightPilot.Pattern.Excerpt
import LightPilot.Pattern.Extent
import LightPilot.Pattern.Fault
import LightPilot.Pattern.Find
import LightPilot.Pattern.Meaning
import LightPilot.Pattern.Place
import LightPilot.Pattern.Reader
import LightPilot.Pattern.Search
import LightPilot.Pattern.Shape
import LightPilot.Pattern.Tree
import LightPilot.Proofs.Check
import LightPilot.Proofs.Filter.Resampling
import LightPilot.Proofs.Filter.Systematic
import LightPilot.Proofs.Filter.Unbiased
import LightPilot.Proofs.Filter.Upkeep
import LightPilot.Proofs.Link.Assembly
import LightPilot.Proofs.Link.Backlog
import LightPilot.Proofs.Link.Blocks
import LightPilot.Proofs.Link.Config
import LightPilot.Proofs.Link.Decoder
import LightPilot.Proofs.Link.Frame
import LightPilot.Proofs.Link.Pace
import LightPilot.Proofs.Link.Peak
import LightPilot.Proofs.Link.Promptness
import LightPilot.Proofs.Link.Reception
import LightPilot.Proofs.Link.SampleBuffers
import LightPilot.Proofs.Link.Tones
import LightPilot.Proofs.Link.Vote
import LightPilot.Proofs.Motion.Coherence
import LightPilot.Proofs.Motion.HandOver
import LightPilot.Proofs.Motion.LifeCycle
import LightPilot.Proofs.Vehicle.Calibration
import LightPilot.Proofs.Vehicle.CommandSlot
import LightPilot.Proofs.Vehicle.Course
import LightPilot.Proofs.Vehicle.FilterTask
import LightPilot.Proofs.Vehicle.LinkTask
import LightPilot.Proofs.Vehicle.MotionTask
import LightPilot.Proofs.Vehicle.Parameters
import LightPilot.Proofs.Vehicle.Pipeline
import LightPilot.Proofs.World.Accounting
import LightPilot.Proofs.World.Airing
import LightPilot.Proofs.World.Arithmetic
import LightPilot.Proofs.World.Creation
import LightPilot.Proofs.World.Delivery
import LightPilot.Proofs.World.Execution
import LightPilot.Proofs.World.Hearing
import LightPilot.Proofs.World.Listening
import LightPilot.Proofs.World.Moves
import LightPilot.Proofs.World.Overrun
import LightPilot.Proofs.World.Schedule
import LightPilot.Proofs.World.Tuning
import LightPilot.Proofs.World.Turns
import LightPilot.Random.Gaussian
import LightPilot.Random.Generator
import LightPilot.Text.Blank
import LightPilot.Text.CodeRange
import LightPilot.Text.Letter
import LightPilot.Text.Lines
import LightPilot.Vec3
import LightPilot.Vehicle.ColorIntake
import LightPilot.Vehicle.Config
import LightPilot.Vehicle.FilterTask
import LightPilot.Vehicle.LinkTask
import LightPilot.Vehicle.MotionTask
import LightPilot.Vehicle.Parameters
import LightPilot.Vehicle.SamplingTask
import LightPilot.Vehicle.SharedState
import LightPilot.Vehicle.Telemetry
import LightPilot.Vehicle.Vehicle
import LightPilot.World.Craft
import LightPilot.World.Executor
import LightPilot.World.Projector
import LightPilot.World.ReadyLine
import LightPilot.World.Simulation
import LightPilot.Proofs.Filter.WordWalk
import LightPilot.Proofs.Filter.Drawing
import LightPilot.Proofs.Filter.Observation
import LightPilot.Proofs.Filter.Grid
import LightPilot.Proofs.Filter.Layout
import LightPilot.Proofs.World.Passage
import LightPilot.Proofs.Link.Codec
import LightPilot.Proofs.Link.Timeout
import LightPilot.Proofs.Link.Statistics
import LightPilot.Proofs.Filter.Freshness
import LightPilot.Proofs.Link.History
import LightPilot.Proofs.World.Pitch
import LightPilot.Proofs.World.Timetable
import LightPilot.Proofs.World.Broadcast
import LightPilot.Proofs.Map.Cells
import LightPilot.Proofs.Motion.OneAxis
import LightPilot.Proofs.Motion.Bias
import LightPilot.Proofs.Vehicle.Charging
import LightPilot.Proofs.World.Manoeuvre
import LightPilot.Proofs.Number.Order
import LightPilot.Proofs.Link.Strongest
import LightPilot.Proofs.Random.Rejection
