import HeaterHost.Value
import HeaterHost.Gains

/-!
Runtime safety faults: what a heater or a sensor reports to the host, how it is worded, and
what is kept of it.
-/

namespace HeaterHost

inductive Fault (α : Type) where
  /-- No valid reading for too long; the age of the last one in seconds. -/
  | sensorLost (age : α)
  | overTemperature (temp maxTemp : α)
  | linkAbandoned (endpoint : String) (attempts : Nat)
deriving Repr

inductive FaultKind where
  | sensorLost
  | overTemperature
  | linkAbandoned
deriving Repr, DecidableEq

namespace Fault

def kind {α : Type} : Fault α → FaultKind
  | sensorLost .. => .sensorLost
  | overTemperature .. => .overTemperature
  | linkAbandoned .. => .linkAbandoned

def message : Fault Float → String
  | sensorLost age => s!"sensor lost: last valid reading is {Decimal.fixed 2 age}s old"
  | overTemperature temp maxTemp =>
      s!"temperature {Decimal.fixed 1 temp} exceeds max_temp {Decimal.fixed 1 maxTemp}"
  | linkAbandoned endpoint attempts =>
      s!"link to {endpoint} abandoned after {attempts} failed connection attempts"

def value : Fault Float → Value
  | sensorLost age => .record [("kind", .text "sensor_lost"), ("age", .number age)]
  | overTemperature temp maxTemp =>
      .record [("kind", .text "over_temperature"), ("temp", .number temp),
        ("max_temp", .number maxTemp)]
  | linkAbandoned endpoint attempts =>
      .record [("kind", .text "link_abandoned"), ("port", .text endpoint),
        ("attempts", .count attempts)]

/-- A fault or `null`. -/
def value? (fault : Option (Fault Float)) : Value :=
  (fault.map value).getD .null

end Fault

def Gains.value (g : Gains Float) : Value :=
  .record [("kp", .number g.kp), ("ki", .number g.ki), ("kd", .number g.kd)]

/-- Gains or `null`. -/
def Gains.value? (g : Option (Gains Float)) : Value :=
  (g.map Gains.value).getD .null

inductive FaultSignal (α : Type) where
  | raised (fault : Fault α)
  | cleared
deriving Repr

end HeaterHost
