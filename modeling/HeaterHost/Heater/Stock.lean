import HeaterHost.Control.Hysteresis
import HeaterHost.Control.Pid
import HeaterHost.Control.Smoothing
import HeaterHost.Heater.Settings

/-!
The host's own heater, for sections that do not select an INO board. It runs its controller on
fresh valid samples; supervising the sensor is left to the rest of the host.
-/

namespace HeaterHost

inductive StockControl (α : Type) where
  | pid (law : Pid α)
  | watermark (law : Hysteresis α)
deriving Repr

structure StockHeater (α : Type) where
  name : String
  minTemp : α
  maxTemp : α
  maxPower : α
  control : StockControl α
  smoothing : Smoothing α
  target : α
  lastPower : α
  lastSample : Option α
deriving Repr

namespace StockControl

variable {α : Type} [Scalar α]

def create (kind : ControlKind) (s : HeaterSettings α) : StockControl α :=
  match kind with
  | .pid => .pid (Pid.create s.gains s.maxPower s.smoothTime)
  | .watermark => .watermark (Hysteresis.create s.maxPower s.maxDelta)

def update (control : StockControl α) (time temp target : α) : StockControl α × α :=
  match control with
  | .pid law => (.pid (law.update time temp target), law.output time temp target)
  | .watermark law =>
      let law := law.update temp target
      (.watermark law, law.power)

def isBusy (control : StockControl α) (smoothed target : α) : Bool :=
  match control with
  | .pid law => law.isBusy smoothed target
  | .watermark law => law.isBusy smoothed target

end StockControl

namespace StockHeater

variable {α : Type} [Scalar α]

def create (name : String) (kind : ControlKind) (s : HeaterSettings α) : StockHeater α :=
  { name
    minTemp := s.minTemp
    maxTemp := s.maxTemp
    maxPower := s.maxPower
    control := StockControl.create kind s
    smoothing := Smoothing.create s.smoothTime s.extrudeTemp
    target := 0.0
    lastPower := 0.0
    lastSample := none }

def setTemp (h : StockHeater α) (degrees : α) : StockHeater α × Except (HeaterError α) Unit :=
  match checkTarget degrees h.minTemp h.maxTemp with
  | .error error => (h, .error error)
  | .ok () => ({ h with target := degrees }, .ok ())

def consume (h : StockHeater α) (sample : Sample α) (target : α) : StockHeater α :=
  let (control, power) := h.control.update sample.timestamp sample.value target
  { h with
    control
    smoothing := h.smoothing.update sample.timestamp sample.value
    lastSample := some sample.timestamp
    lastPower := if target ≤ 0.0 then 0.0 else Scalar.clamp 0.0 h.maxPower power }

/-- One control tick; `lastPower` is the power it comes to. -/
def tick (h : StockHeater α) (sample : Sample α) (target : α) : StockHeater α :=
  if !sample.valid then { h with lastPower := 0.0 }
  else if sample.isConsumed h.lastSample then h
  else h.consume sample target

def isBusy (h : StockHeater α) : Bool :=
  h.control.isBusy h.smoothing.smoothed h.target

def hasRanges (h : StockHeater α) : Bool :=
  match h.control with
  | .pid law => law.hasIntegralRange
  | .watermark _ => true

/-- Whether a tick finds every limit in order. A heater made for a checked section always does. -/
def admits (h : StockHeater α) (sample : Sample α) (target : α) : Bool :=
  !sample.valid || sample.isConsumed h.lastSample || (0.0 : α) ≤ h.maxPower ||
    match h.control with
    | .pid _ => false
    | .watermark _ => target ≤ 0.0

def status (h : StockHeater Float) : Value :=
  .record [
    ("temperature", .hundredths h.smoothing.smoothed),
    ("target", .number h.target),
    ("power", .number h.lastPower),
    ("can_extrude", .flag h.smoothing.canExtrude)]

end StockHeater

end HeaterHost
