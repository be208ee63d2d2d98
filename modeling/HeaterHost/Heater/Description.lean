import HeaterHost.Heater.Board
import HeaterHost.Text.Quoted

/-!
The one-line description of a heater on an INO board, for logs.
-/

namespace HeaterHost

def describeRecord (name : String) (fields : List (String × String)) (more : List String) :
    String :=
  let parts := fields.map (fun (field, value) => field ++ ": " ++ value) ++ more
  name ++ " \x7b " ++ String.intercalate ", " parts ++ " \x7d"

def Fault.description : Fault Float → String
  | .sensorLost age => describeRecord "SensorLost" [("age", Decimal.precise age)] []
  | .overTemperature temp maxTemp =>
      describeRecord "OverTemperature"
        [("temp", Decimal.precise temp), ("max_temp", Decimal.precise maxTemp)] []
  | .linkAbandoned endpoint attempts =>
      describeRecord "LinkAbandoned"
        [("port", Text.quoted endpoint), ("attempts", Nat.repr attempts)] []

def HeaterState.description (state : HeaterState) : String :=
  state.name.capitalize

def BoardHeater.description (h : BoardHeater Float) : String :=
  let fault := match h.fault with
    | none => "None"
    | some fault => s!"Some({fault.description})"
  describeRecord "InoHeater"
    [("name", Text.quoted h.name), ("state", h.state.description),
      ("control", Text.quoted h.control.name), ("target", Decimal.precise h.target),
      ("last_power", Decimal.precise h.lastPower), ("fault", fault)] [".."]

end HeaterHost
