import HeaterHost.Gains
import HeaterHost.NameMap
import HeaterHost.Value

/-!
The host's configuration: one section per heater, and sections for the printer, the command
tracker and the web server.
-/

namespace HeaterHost

def boardSensorType : String := "PLA_INO_SENSOR"

def boardHeaterType : String := "PLA_INO_HEATER"

/-- The shortest time between two telemetry queries that a board can answer. -/
def minReportTime : Float := 0.1

inductive ControlKind where
  | pid
  | watermark
deriving Repr, DecidableEq

def ControlKind.name : ControlKind → String
  | .pid => "pid"
  | .watermark => "watermark"

def ControlKind.ofName? (name : String) : Option ControlKind :=
  [ControlKind.pid, .watermark].find? fun kind => kind.name == name

inductive HeaterPath where
  | board
  | stock
deriving Repr, DecidableEq

def HeaterPath.name : HeaterPath → String
  | .board => "ino"
  | .stock => "stock"

structure HeaterConfig where
  sensorType : String
  heaterType : Option String := none
  control : ControlKind := .pid
  pidKp : Float := 13.41
  pidKi : Float := 30.91
  pidKd : Float := 1.46
  minTemp : Float
  maxTemp : Float
  serial : Option String := none
  baud : Nat := 115200
  reportTime : Float := minReportTime
  maxPower : Float := 1.0
  smoothTime : Float := 1.0
  minExtrudeTemp : Option Float := none
  maxDelta : Float := 2.0
  tuneDelta : Float := 5.0
  tuneTimeout : Float := 1200.0

namespace HeaterConfig

def onBoard (serial : String) (minTemp maxTemp : Float) : HeaterConfig :=
  { sensorType := boardSensorType
    heaterType := some boardHeaterType
    serial := some serial
    minTemp
    maxTemp }

def gains (c : HeaterConfig) : Gains Float :=
  { kp := c.pidKp, ki := c.pidKi, kd := c.pidKd }

/-- The temperature from which on extruding is allowed; 170 degrees if it is not set. -/
def extrudeTemp (c : HeaterConfig) : Float :=
  c.minExtrudeTemp.getD 170.0

def hasBoardSensor (c : HeaterConfig) : Bool :=
  c.sensorType == boardSensorType

def wantsBoard (c : HeaterConfig) : Bool :=
  c.heaterType == some boardHeaterType

def value (c : HeaterConfig) : Value :=
  .record [
    ("sensor_type", .text c.sensorType),
    ("heater_type", .ofText? c.heaterType),
    ("control", .text c.control.name),
    ("pid_Kp", .number c.pidKp),
    ("pid_Ki", .number c.pidKi),
    ("pid_Kd", .number c.pidKd),
    ("min_temp", .number c.minTemp),
    ("max_temp", .number c.maxTemp),
    ("serial", .ofText? c.serial),
    ("baud", .count c.baud),
    ("report_time", .number c.reportTime),
    ("max_power", .number c.maxPower),
    ("smooth_time", .number c.smoothTime),
    ("min_extrude_temp", .ofNumber? c.minExtrudeTemp),
    ("max_delta", .number c.maxDelta),
    ("tune_delta", .number c.tuneDelta),
    ("tune_timeout", .number c.tuneTimeout)]

end HeaterConfig

/-- What the command tracker writes: the directory of its captures, if any, and how many lines
make a batch. -/
structure TrackerConfig where
  outputDir : Option String := none
  batchSize : Nat := 1000

structure Config where
  printerName : Option String := none
  heaters : NameMap HeaterConfig := .empty
  tracker : TrackerConfig := {}
  webListen : Option String := none

def Config.value (c : Config) : Value :=
  .record [
    ("printer", .record [("name", .ofText? c.printerName)]),
    ("heaters", .record (c.heaters.mapValues fun _ heater => heater.value).entries),
    ("gcode_tracker", .record [
      ("output_dir", .ofText? c.tracker.outputDir),
      ("batch_size", .count c.tracker.batchSize)]),
    ("web", .record [("listen", .ofText? c.webListen)])]

end HeaterHost
