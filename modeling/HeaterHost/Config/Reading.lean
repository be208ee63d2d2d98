import HeaterHost.Config.Validate
import HeaterHost.Toml.Document

/-!
Reading a configuration from a TOML document. Unknown keys are passed over, keys left out have
their defaults, and a section may also be written as the list of its options in their order.
-/

namespace HeaterHost

namespace Config.Reading

inductive Options where
  | named (entries : List (String × Toml.Value))
  | listed (items : List Toml.Value)

/-- The options of a value. A date has no options of any name. -/
def Options.of? : Toml.Value → Option Options
  | .table entries => some (.named entries)
  | .array items => some (.listed items)
  | .datetime => some (.named [])
  | _ => none

def Options.get? (options : Options) (name : String) (position : Nat) : Option Toml.Value :=
  match options with
  | .named entries => (entries.find? fun (other, _) => other == name).map (·.2)
  | .listed items => items[position]?

def Options.withDefault {α : Type} (options : Options) (name : String) (position : Nat)
    (read? : Toml.Value → Option α) (default : α) : Option α :=
  match options.get? name position with
  | none => some default
  | some value => read? value

def Options.required {α : Type} (options : Options) (name : String) (position : Nat)
    (read? : Toml.Value → Option α) : Option α :=
  (options.get? name position).bind read?

def text? : Toml.Value → Option String
  | .text s => some s
  | _ => none

/-- A number; whole numbers may be written without a point. -/
def number? : Toml.Value → Option Float
  | .float x => some x
  | .integer n =>
      if -0x8000000000000000 ≤ n && n < 0x10000000000000000 then some (Float.ofInt n) else none
  | _ => none

def count? (bound : Nat) : Toml.Value → Option Nat
  | .integer n => if 0 ≤ n && n < bound then some n.toNat else none
  | _ => none

def control? : Toml.Value → Option ControlKind
  | .text name => ControlKind.ofName? name
  | .table [(name, .table [])] | .table [(name, .array [])] => ControlKind.ofName? name
  | _ => none

def heater? (value : Toml.Value) : Option HeaterConfig := do
  let options ← Options.of? value
  let base := HeaterConfig.onBoard "" 0.0 0.0
  return {
    sensorType := ← options.required "sensor_type" 0 text?
    heaterType := ← options.withDefault "heater_type" 1 (fun v => (text? v).map some) none
    control := ← options.withDefault "control" 2 control? base.control
    pidKp := ← options.withDefault "pid_Kp" 3 number? base.pidKp
    pidKi := ← options.withDefault "pid_Ki" 4 number? base.pidKi
    pidKd := ← options.withDefault "pid_Kd" 5 number? base.pidKd
    minTemp := ← options.required "min_temp" 6 number?
    maxTemp := ← options.required "max_temp" 7 number?
    serial := ← options.withDefault "serial" 8 (fun v => (text? v).map some) none
    baud := ← options.withDefault "baud" 9 (count? 0x100000000) base.baud
    reportTime := ← options.withDefault "report_time" 10 number? base.reportTime
    maxPower := ← options.withDefault "max_power" 11 number? base.maxPower
    smoothTime := ← options.withDefault "smooth_time" 12 number? base.smoothTime
    minExtrudeTemp := ← options.withDefault "min_extrude_temp" 13
      (fun v => (number? v).map some) none
    maxDelta := ← options.withDefault "max_delta" 14 number? base.maxDelta
    tuneDelta := ← options.withDefault "tune_delta" 15 number? base.tuneDelta
    tuneTimeout := ← options.withDefault "tune_timeout" 16 number? base.tuneTimeout }

def heaters? : Toml.Value → Option (NameMap HeaterConfig)
  | .table entries =>
      (entries.mapM fun entry => (heater? entry.2).map fun heater => (entry.1, heater)).map
        NameMap.ofList
  | _ => none

def onlyText? (name : String) (value : Toml.Value) : Option (Option String) := do
  (← Options.of? value).withDefault name 0 (fun v => (text? v).map some) none

def tracker? (value : Toml.Value) : Option TrackerConfig := do
  let options ← Options.of? value
  return {
    outputDir := ← options.withDefault "output_dir" 0 (fun v => (text? v).map some) none
    batchSize := ← options.withDefault "batch_size" 1 (count? 0x10000000000000000) 1000 }

def config? (entries : List (String × Toml.Value)) : Option Config := do
  let options := Options.named entries
  return {
    printerName := ← options.withDefault "printer" 0 (onlyText? "name") none
    heaters := ← options.withDefault "heaters" 1 heaters? .empty
    tracker := ← options.withDefault "gcode_tracker" 2 tracker? {}
    webListen := ← options.withDefault "web" 3 (onlyText? "listen") none }

end Config.Reading

def Config.parse (document : String) : Except ConfigError Config := do
  match (Toml.parse? document).bind Config.Reading.config? with
  | none => throw .syntaxError
  | some config =>
      config.validate
      return config

/-- Reads and checks a configuration from what the system gave for its file: the bytes, or why
there are none. -/
def Config.load (file : Except IoError ByteArray) : Except ConfigError Config := do
  match file with
  | .error error => throw (.io error)
  | .ok bytes =>
      match String.fromUTF8? bytes with
      | none => throw (.io .notText)
      | some document => Config.parse document

end HeaterHost
