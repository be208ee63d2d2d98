import HeaterHost.Autotune.Identification
import HeaterHost.Autotune.Record
import HeaterHost.Autotune.Relay
import HeaterHost.Config.Basic
import HeaterHost.Config.Error
import HeaterHost.Config.Reading
import HeaterHost.Config.Validate
import HeaterHost.Control.Hysteresis
import HeaterHost.Control.Pid
import HeaterHost.Control.Smoothing
import HeaterHost.Decimal.Binary
import HeaterHost.Decimal.Notation
import HeaterHost.Decimal.Reading
import HeaterHost.Decimal.Shortest
import HeaterHost.Fault
import HeaterHost.Gains
import HeaterHost.Gcode.Line
import HeaterHost.Gcode.Tracker
import HeaterHost.Heater.Basic
import HeaterHost.Heater.Board
import HeaterHost.Heater.Description
import HeaterHost.Heater.Settings
import HeaterHost.Heater.Stock
import HeaterHost.Host.Answer
import HeaterHost.Host.Basic
import HeaterHost.Host.Bench
import HeaterHost.Host.Dispatch
import HeaterHost.Host.FaultLog
import HeaterHost.Host.Schedule
import HeaterHost.Host.Setup
import HeaterHost.IoError
import HeaterHost.Link.Basic
import HeaterHost.Link.Session
import HeaterHost.Link.Transport
import HeaterHost.NameMap
import HeaterHost.Sample
import HeaterHost.Scalar
import HeaterHost.Sensor.Basic
import HeaterHost.Sensor.Status
import HeaterHost.Simulator.Board
import HeaterHost.Simulator.Line
import HeaterHost.Simulator.Script
import HeaterHost.Simulator.Thermal
import HeaterHost.TemperatureStore
import HeaterHost.Text.Blank
import HeaterHost.Text.Numeral
import HeaterHost.Text.Quoted
import HeaterHost.Text.Utf8
import HeaterHost.Time
import HeaterHost.Toml.Datetime
import HeaterHost.Toml.Document
import HeaterHost.Toml.Literal
import HeaterHost.Toml.Quoted
import HeaterHost.Toml.Value
import HeaterHost.Value
import HeaterHost.Web.Body
import HeaterHost.Web.Form
import HeaterHost.Web.Json
import HeaterHost.Web.MediaType
import HeaterHost.Web.Request
import HeaterHost.Web.Serve
import HeaterHost.Window
import HeaterHost.Wire.Command
import HeaterHost.Wire.Flags
import HeaterHost.Wire.Frame
import HeaterHost.Wire.Telemetry
import HeaterHost.Main
import HeaterHost.Proofs.Heater.Operations
import HeaterHost.Proofs.Heater.Run
import HeaterHost.Proofs.Heater.Experiment
import HeaterHost.Proofs.Heater.Queue
import HeaterHost.Proofs.Heater.ExperimentEnd
import HeaterHost.Proofs.NameMap
import HeaterHost.Proofs.Sensor.Acceptance
import HeaterHost.Proofs.Host.RecentReading
import HeaterHost.Proofs.Text.Bytes
import HeaterHost.Proofs.Wire.FrameStream
import HeaterHost.Proofs.Decimal.Characters
import HeaterHost.Proofs.Link.Answers
import HeaterHost.Proofs.Sensor.Books
import HeaterHost.Proofs.Sensor.Delivery
import HeaterHost.Proofs.Heater.Shutdown
import HeaterHost.Proofs.Heater.AcceptedTarget
import HeaterHost.Proofs.Heater.GainsInForce
import HeaterHost.Proofs.Wire.ReadSplits
import HeaterHost.Proofs.Link.SlowLine
import HeaterHost.Proofs.Link.OwnAnswer
import HeaterHost.Proofs.Heater.ExperimentBooks
import HeaterHost.Proofs.Double.NotANumber
import HeaterHost.Proofs.Config.Accepted
import HeaterHost.Proofs.Config.Documented
import HeaterHost.Proofs.Heater.Orders
import HeaterHost.Proofs.Heater.RelayInCharge
import HeaterHost.Proofs.Heater.LegalPower
import HeaterHost.Proofs.Host.CommandLines
import HeaterHost.Proofs.Heater.SafeTarget
import HeaterHost.Proofs.Sensor.Waiting
import HeaterHost.Proofs.Host.SafeTargets
import HeaterHost.Proofs.Link.OpenSession
import HeaterHost.Proofs.Link.Tap
import HeaterHost.Proofs.Sensor.History
import HeaterHost.Proofs.Sensor.Publication
import HeaterHost.Proofs.Sensor.Writes
import HeaterHost.Proofs.Sensor.Parking
import HeaterHost.Proofs.Link.QuestionLine
import HeaterHost.Proofs.Link.AnswerOrder
import HeaterHost.Proofs.Sensor.Questions
import HeaterHost.Proofs.Link.Outcomes
import HeaterHost.Proofs.Link.StreamSorting
import HeaterHost.Proofs.Text.Numeral
import HeaterHost.Proofs.Text.Search
import HeaterHost.Proofs.Wire.TelemetryFields
import HeaterHost.Proofs.Decimal.Value
import HeaterHost.Proofs.Simulator.TelemetryReply
import HeaterHost.Proofs.Double.Parts
import HeaterHost.Proofs.Double.Nearest
import HeaterHost.Proofs.Decimal.Conversion
import HeaterHost.Proofs.Decimal.Shortest
import HeaterHost.Proofs.Decimal.Reading
import HeaterHost.Proofs.Decimal.RoundTrip
import HeaterHost.Proofs.Simulator.Obedience
import HeaterHost.Proofs.Simulator.Serving
import HeaterHost.Proofs.Host.FaultHistory
import HeaterHost.Proofs.Heater.FaultMoves
import HeaterHost.Proofs.Host.FaultReports
import HeaterHost.Proofs.Host.Startup
import HeaterHost.Proofs.Host.Stimuli
import HeaterHost.Proofs.Double.NonNegative
import HeaterHost.Proofs.Double.Hundredths
import HeaterHost.Proofs.Double.Seconds
import HeaterHost.Proofs.Heater.Ranges
import HeaterHost.Proofs.Sensor.Timeout
import HeaterHost.Proofs.Host.AcceptedNumbers
import HeaterHost.Proofs.Gcode.Bookkeeping
import HeaterHost.Proofs.Gcode.Batches
import HeaterHost.Proofs.Gcode.Capture
import HeaterHost.Proofs.Gcode.CaptureDirectory
import HeaterHost.Proofs.Gcode.Layout
import HeaterHost.Proofs.Gcode.PrintStarts
import HeaterHost.Proofs.Sensor.Outages
import HeaterHost.Proofs.Autotune.LimitCycle
import HeaterHost.Proofs.Autotune.RelayPhases
import HeaterHost.Proofs.Heater.SwitchingOff
import HeaterHost.Proofs.Control.Integral
import HeaterHost.Proofs.Double.Sums
import HeaterHost.Proofs.Heater.RepeatedTicks
import HeaterHost.Proofs.Heater.ResumedPid
import HeaterHost.Proofs.Heater.PowerLog
import HeaterHost.Proofs.Heater.PowerRefresh
import HeaterHost.Proofs.Heater.ReportTimes
import HeaterHost.Proofs.Sensor.FreshSamples
import HeaterHost.Proofs.Control.Smoothing
import HeaterHost.Proofs.Simulator.Thermal
import HeaterHost.Proofs.Heater.FreshTicks
import HeaterHost.Proofs.Link.Course
import HeaterHost.Proofs.Link.HeldBytes
