import HeaterHost.Config.Error
import HeaterHost.Sample

/-!
Checking a configuration. The checks of a section are made in a fixed order and the first that
fails is reported; the pairing of heater and sensor is settled before anything touches a serial
port.
-/

namespace HeaterHost

namespace HeaterConfig

/-- The implementation that a section selects. An INO heater needs the INO sensor and PID
control. -/
def path (c : HeaterConfig) (heater : String) : Except ConfigError HeaterPath :=
  if c.wantsBoard then
    if !c.hasBoardSensor then .error (.incompatiblePairing heater boardHeaterType c.sensorType)
    else if c.control != .pid then .error (.unsupportedControl heater c.control)
    else .ok .board
  else .ok .stock

/-- The options that must be finite where they are set. -/
def numericOptions (c : HeaterConfig) : List (String × Option Float) :=
  [("pid_Kp", some c.pidKp), ("pid_Ki", some c.pidKi), ("pid_Kd", some c.pidKd),
    ("min_temp", some c.minTemp), ("max_temp", some c.maxTemp),
    ("report_time", some c.reportTime), ("max_power", some c.maxPower),
    ("smooth_time", some c.smoothTime), ("min_extrude_temp", c.minExtrudeTemp),
    ("max_delta", some c.maxDelta), ("tune_delta", some c.tuneDelta),
    ("tune_timeout", some c.tuneTimeout)]

/-- Refuses a value unless it lies within its bound. -/
def require (heater option : String) (value : Float) (bound : String) (within : Bool) :
    Except ConfigError Unit :=
  if within then .ok () else .error (.outOfBounds heater option value bound)

/-- Refuses the first option that is set and not finite. -/
def checkFinite (heater : String) : List (String × Option Float) → Except ConfigError Unit
  | [] => .ok ()
  | (_, none) :: rest => checkFinite heater rest
  | (option, some value) :: rest =>
      if Decimal.isFinite value then checkFinite heater rest
      else .error (.outOfBounds heater option value "finite")

/-- The bounds of the gains and of the report time: those of the board where the section
selects it, and the host's own otherwise. -/
def checkPath (c : HeaterConfig) (heater : String) : HeaterPath → Except ConfigError Unit
  | .board => do
      require heater "pid_Kp" c.pidKp "0..=40" (0.0 ≤ c.pidKp && c.pidKp ≤ 40.0)
      require heater "pid_Ki" c.pidKi "0..=80" (0.0 ≤ c.pidKi && c.pidKi ≤ 80.0)
      require heater "pid_Kd" c.pidKd "0..=10" (0.0 ≤ c.pidKd && c.pidKd ≤ 10.0)
      require heater "report_time" c.reportTime ">= 0.1" (!(c.reportTime < minReportTime))
  | .stock => do
      require heater "pid_Kp" c.pidKp ">= 0" (!(c.pidKp < 0.0))
      require heater "pid_Ki" c.pidKi ">= 0" (!(c.pidKi < 0.0))
      require heater "pid_Kd" c.pidKd ">= 0" (!(c.pidKd < 0.0))
      require heater "report_time" c.reportTime "> 0" (!(c.reportTime ≤ 0.0))

def checkExtrude (c : HeaterConfig) (heater : String) : Except ConfigError Unit :=
  match c.minExtrudeTemp with
  | none => .ok ()
  | some temp =>
      if temp < c.minTemp || c.maxTemp < temp then
        .error (.extrudeOutside heater temp c.minTemp c.maxTemp)
      else .ok ()

def checkSerial (c : HeaterConfig) (heater : String) : Except ConfigError Unit :=
  if c.hasBoardSensor && c.serial.all String.isEmpty then .error (.missingSerial heater)
  else .ok ()

def validate (c : HeaterConfig) (heater : String) : Except ConfigError Unit := do
  checkFinite heater c.numericOptions
  require heater "min_temp" c.minTemp ">= -273.15" (!(c.minTemp < absoluteZero))
  if c.maxTemp ≤ c.minTemp then
    throw (.emptyRange heater c.minTemp c.maxTemp)
  c.checkPath heater (← c.path heater)
  require heater "max_power" c.maxPower "0 < x <= 1" (0.0 < c.maxPower && c.maxPower ≤ 1.0)
  require heater "smooth_time" c.smoothTime "> 0" (!(c.smoothTime ≤ 0.0))
  c.checkExtrude heater
  require heater "max_delta" c.maxDelta "> 0" (!(c.maxDelta ≤ 0.0))
  require heater "tune_delta" c.tuneDelta "> 0" (!(c.tuneDelta ≤ 0.0))
  require heater "tune_timeout" c.tuneTimeout "> 0" (!(c.tuneTimeout ≤ 0.0))
  require heater "baud" 0.0 ">= 1" (c.baud != 0)
  c.checkSerial heater

end HeaterConfig

def Config.validateHeaters : List (String × HeaterConfig) → Except ConfigError Unit
  | [] => .ok ()
  | (heater, options) :: rest => do
      options.validate heater
      Config.validateHeaters rest

def Config.validate (c : Config) : Except ConfigError Unit := do
  Config.validateHeaters c.heaters.entries
  if c.tracker.batchSize == 0 then
    throw (.outOfBounds "gcode_tracker" "batch_size" 0.0 ">= 1")

end HeaterHost
