import HeaterHost.Gcode.Line
import HeaterHost.Host.Basic

/-!
Running command lines. Every line with a command is noted by the tracker first; then it is done at
once, or it waits for a board to answer on its console.
-/

namespace HeaterHost

open Gcode Wire

inductive Reply where
  | text (text : String)
  | awaiting (heater : String) (command : DeviceCommand Float)

def Reply.answered (heater line : String) : String :=
  s!"{heater}: {line}"

/-- The text for a query without an answer. -/
def Reply.unanswered (heater : String) (command : DeviceCommand Float) : String :=
  s!"{heater}: sent '{command.text}', no reply"

namespace Host

variable {ω : Type}

/-- What a command line does with the host. A line that is refused halfway leaves the host as it is
by then. -/
abbrev Action (ω : Type) := ExceptT CommandError (StateM (Host ω))

/-- The host after an action, and how the action ended. -/
def Action.outcome {α : Type} (x : Action ω α) (h : Host ω) : Host ω × Except CommandError α :=
  let (result, h) := (ExceptT.run x).run h
  (h, result)

def addressed (h : Host ω) (line : Line) : Except CommandError (String × Station ω) := do
  let name ← line.heaterName
  match h.stations.get? name with
  | some station => return (name, station)
  | none => throw (.unknownHeater name)

def addressedBoard (h : Host ω) (line : Line) :
    Except CommandError (String × Station ω × BoardHeater Float) := do
  let (name, station) ← h.addressed line
  match station.heater.board? with
  | .ok heater => return (name, station, heater)
  | .error error => throw (.heater error)

/-- Takes over what an operation has made of the heater of a station, also if it was refused. -/
def conclude (name : String) (station : Station ω)
    (outcome : Heater Float × Except (HeaterError Float) Unit) (text : String) :
    Action ω Reply := do
  modify fun h => h.settle name { station with heater := outcome.1 }
  match outcome.2 with
  | .ok () => return .text text
  | .error error => throw (.heater error)

def changeBoard (line : Line)
    (change : BoardHeater Float → BoardHeater Float × Except (HeaterError Float) Unit)
    (text : String → String) : Action ω Reply := do
  let (name, station, heater) ← (← get).addressedBoard line
  conclude name station ((change heater).map Heater.board id) (text name)

def commandBoard (line : Line) (command : DeviceCommand Float) : Action ω String := do
  let (name, station, _) ← (← get).addressedBoard line
  match station.sensor with
  | none => throw (.unknownHeater name)
  | some sensor =>
      modify fun h => h.settle name { station with sensor := some (sensor.push command) }
      return name

def sendBoard (line : Line) (command : DeviceCommand Float) : Action ω Reply := do
  let name ← commandBoard line command
  return .text s!"{name}: sent '{command.text}'"

def queryBoard (line : Line) (command : DeviceCommand Float) : Action ω Reply := do
  let name ← commandBoard line command
  return .awaiting name command

def setTemperature (line : Line) : Action ω Reply := do
  let target ← line.number "TARGET" (some 0.0)
  let (name, station) ← (← get).addressed line
  conclude name station (station.heater.setTemp target)
    s!"{name}: target {Decimal.fixed 1 target}"

def tune (line : Line) (time : Float) : Action ω Reply := do
  let target ← line.number "PID" none
  changeBoard line (fun heater => heater.startAutotune target time) fun name =>
    s!"Autotune of {name} started towards {Decimal.fixed 1 target}"

/-- Changes the gains of a heater. They are not held to the bounds of a configuration, so that
tuned gains can be applied as they are. -/
def setGains (line : Line) : Action ω Reply := do
  let kp ← line.nonNegative "KP"
  let ki ← line.nonNegative "KI"
  let kd ← line.nonNegative "KD"
  let gains : Gains Float := { kp, ki, kd }
  changeBoard line (fun heater => (heater.setGains gains, .ok ())) fun name =>
    s!"{name}: PID set to {gains.text}"

def readTuned (line : Line) : Action ω Reply := do
  let (name, _, heater) ← (← get).addressedBoard line
  let text := match heater.record.tuned with
    | some gains => gains.text
    | none => "no successful run"
  return .text s!"{name}: {text}"

/-- Shows the newest telemetry of a board. -/
def debugOutput (line : Line) : Action ω Reply := do
  let (name, station, _) ← (← get).addressedBoard line
  match station.sensor with
  | none => throw (.unknownHeater name)
  | some sensor =>
      return .text (sensor.view.debugOutput.getD "INO debug output:\nno telemetry received yet")

def run (line : Line) (time : Float) : Action ω Reply :=
  match line.name with
  | "TUNE" | "INO_PID_TUNE" => tune line time
  | "TUNE_ABORT" =>
      changeBoard line (fun heater => heater.abortAutotune time) fun name =>
        s!"Autotune of {name} aborted"
  | "READ_TUNED_VALUES" => readTuned line
  | "SET_PID_VALUES" | "INO_SET_PID_VALUES" => setGains line
  | "SET_HEATER_TEMPERATURE" => setTemperature line
  | "INO_FREQUENCY" => do sendBoard line (.setFrequency (← line.count "F"))
  | "INO_RESET_ERROR_FLAGS" => sendBoard line .resetErrorFlags
  | "INO_FIRMWARE_VERSION" => queryBoard line .firmwareVersion
  | "INO_READ_PID_VALUES" => queryBoard line .readPidValues
  | "INO_DEBUG_OUT" => debugOutput line
  | name => throw (.unknown name)

/-- Notes a command line and runs it. A line without a command does nothing. -/
def execute (h : Host ω) (line : String) (time : Float) :
    Host ω × Except CommandError Reply :=
  match Line.parse? line with
  | none => (h, .ok (.text ""))
  | some command =>
      (run command time).outcome { h with tracker := h.tracker.record (Text.trim line) time }

end Host

end HeaterHost
