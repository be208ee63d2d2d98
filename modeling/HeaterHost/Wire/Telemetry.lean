import HeaterHost.Text.Numeral
import HeaterHost.Wire.Flags

/-!
Telemetry: the line of named fields with which a board answers a query, and the sorting of lines
into telemetry, device errors and console output.
-/

namespace HeaterHost.Wire

inductive TelemetryError where
  | badField (field : String)
  | missingTemperature
  | badTemperature (value : String)
  | badTick (value : String)
deriving Repr, DecidableEq

def TelemetryError.message : TelemetryError → String
  | .badField field => s!"telemetry field '{field}' is not a key:value pair"
  | .missingTemperature => "telemetry frame has no T_a field"
  | .badTemperature value => s!"telemetry temperature '{value}' is not an integer"
  | .badTick value => s!"telemetry tick '{value}' is not an integer"

structure Telemetry where
  tick : Nat
  /-- The temperature in hundredths of a degree. -/
  hundredths : Int
  flags : DeviceFlags
  fields : List (String × String)
deriving Repr, DecidableEq

namespace Telemetry

def temperature (t : Telemetry) : Float :=
  Float.ofInt t.hundredths / 100.0

def valuesLine (t : Telemetry) : String :=
  Text.commaJoined (t.fields.map (·.2))

def report (t : Telemetry) : String :=
  let fields := t.fields.map fun (name, value) => name ++ ": " ++ value
  "INO debug output:\n\x7b" ++ String.intercalate ", " fields ++ "\x7d\n" ++ t.flags.text

def field? (part : List Char) : Except TelemetryError (String × String) :=
  match Text.cutAt ':' part with
  | none => .error (.badField (String.ofList part))
  | some (name, value) =>
      .ok (String.ofList (Text.trimmed name), String.ofList (Text.trimmed value))

/-- The fields of a line. Empty ones are passed over. -/
def fields? (line : String) : Except TelemetryError (List (String × String)) :=
  let parts := (line.toList.splitOn ',').map Text.trimmed
  (parts.filter fun part => !part.isEmpty).mapM field?

def lookup (name : String) (fields : List (String × String)) : Option String :=
  (fields.find? fun (other, _) => other == name).map (·.2)

def parse (line : String) : Except TelemetryError Telemetry := do
  let fields ← fields? line
  let tickText := (lookup "tick" fields).getD ""
  let tick ← match Text.unsigned64? tickText with
    | some tick => .ok tick
    | none => .error (.badTick tickText)
  let temperatureText ← match lookup "T_a" fields with
    | some value => .ok value
    | none => .error .missingTemperature
  let hundredths ← match Text.signed64? temperatureText with
    | some hundredths => .ok hundredths
    | none => .error (.badTemperature temperatureText)
  let flags := ((lookup "err" fields).map DeviceFlags.parse).getD DeviceFlags.none
  return { tick, hundredths, flags, fields }

end Telemetry

inductive Inbound where
  | telemetry (t : Telemetry)
  | deviceError (line : String)
  | console (line : String)
deriving Repr

def isTelemetry (line : String) : Bool :=
  (Text.afterStart "tick:".toList line.toList).isSome

def isDeviceError (line : String) : Bool :=
  (Text.afterStart "ERROR".toList line.toList).isSome

def classify (line : String) : Except TelemetryError Inbound :=
  if isTelemetry line then (Telemetry.parse line).map .telemetry
  else if isDeviceError line then .ok (.deviceError line)
  else .ok (.console line)

end HeaterHost.Wire
