import HeaterHost.Config.Basic
import HeaterHost.IoError

/-!
Why a configuration is refused.
-/

namespace HeaterHost

inductive ConfigError where
  | io (error : IoError)
  | syntaxError
  | emptyRange (heater : String) (minTemp maxTemp : Float)
  | extrudeOutside (heater : String) (temp minTemp maxTemp : Float)
  | outOfBounds (heater option : String) (value : Float) (bound : String)
  | incompatiblePairing (heater heaterType sensorType : String)
  | unsupportedControl (heater : String) (control : ControlKind)
  | missingSerial (heater : String)
deriving Repr

def ConfigError.message : ConfigError → String
  | .io error => "IO error: " ++ error.message
  | .syntaxError => "TOML parse error"
  | .emptyRange heater minTemp maxTemp =>
      let low := Decimal.plain minTemp
      let high := Decimal.plain maxTemp
      s!"[heaters.{heater}] invalid range: min_temp {low} must be below max_temp {high}"
  | .extrudeOutside heater temp minTemp maxTemp =>
      let value := Decimal.plain temp
      let range := s!"{Decimal.plain minTemp}..={Decimal.plain maxTemp}"
      s!"[heaters.{heater}] invalid range: min_extrude_temp {value} must lie within {range}"
  | .outOfBounds heater option value bound =>
      s!"[heaters.{heater}] {option} = {Decimal.plain value} is out of bounds ({bound})"
  | .incompatiblePairing heater heaterType sensorType =>
      let pairing := s!"requires sensor_type {boardSensorType}, found {sensorType}"
      s!"[heaters.{heater}] heater_type {heaterType} {pairing}"
  | .unsupportedControl heater control =>
      s!"[heaters.{heater}] control '{control.name}' is not supported by {boardHeaterType}"
  | .missingSerial heater =>
      s!"[heaters.{heater}] sensor_type {boardSensorType} requires a serial port"

end HeaterHost
