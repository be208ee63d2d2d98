import HeaterHost.Config.Validate
import HeaterHost.Control.Pid
import HeaterHost.Control.Smoothing
import HeaterHost.Heater.Settings
import HeaterHost.Wire.Command

/-!
The heater on an INO board. The host runs the PID on the samples of the board's sensor, switches
the power off when the samples stop or get too hot, and lets an autotune experiment take over the
control for a while. What the heater has to say to the board and to the fault log waits in its
outbox and among its signals until the host collects it. An operation that can be refused tells so
beside the heater it leaves.
-/

namespace HeaterHost

open Autotune Wire

inductive HeaterState where
  | validated
  | active
  | faulted
  | shutdown
deriving Repr, DecidableEq

def HeaterState.name : HeaterState → String
  | .validated => "validated"
  | .active => "active"
  | .faulted => "faulted"
  | .shutdown => "shutdown"

inductive ActiveControl (α : Type) where
  | pid (law : Pid α)
  /-- An experiment. The PID and the target from before it come back when it ends. -/
  | autotune (relay : Relay α) (resume : Pid α) (priorTarget : α)
deriving Repr

namespace ActiveControl

variable {α : Type}

def name : ActiveControl α → String
  | pid _ => "pid"
  | autotune .. => "autotune"

def resting : ActiveControl α → Pid α
  | pid law => law
  | autotune _ resume _ => resume

def mapResting (f : Pid α → Pid α) : ActiveControl α → ActiveControl α
  | pid law => .pid (f law)
  | autotune relay resume priorTarget => .autotune relay (f resume) priorTarget

def isAutotune : ActiveControl α → Bool
  | pid _ => false
  | autotune .. => true

end ActiveControl

structure BoardHeater (α : Type) where
  name : String
  settings : HeaterSettings α
  state : HeaterState
  control : ActiveControl α
  record : Record α
  fault : Option (Fault α)
  smoothing : Smoothing α
  target : α
  lastPower : α
  refreshTime : α
  lastSample : Option α
  activeSince : α
  seenValid : Bool
  /-- Commands that wait to be collected, newest first. -/
  outbox : List (DeviceCommand α)
  /-- Faults and recoveries that wait to be collected, newest first. -/
  signals : List (FaultSignal α)
deriving Repr

namespace BoardHeater

variable {α : Type} [Scalar α]

def maxHeatTime : α := 5.0

def deadband : α := 0.05

def create (name : String) (s : HeaterSettings α) : BoardHeater α :=
  { name
    settings := s
    state := .validated
    control := .pid (Pid.create s.gains s.maxPower s.smoothTime)
    record := {}
    fault := none
    smoothing := Smoothing.create s.smoothTime s.extrudeTemp
    target := 0.0
    lastPower := 0.0
    refreshTime := 0.0
    lastSample := none
    activeSince := 0.0
    seenValid := false
    outbox := []
    signals := [] }

def send (h : BoardHeater α) (command : DeviceCommand α) : BoardHeater α :=
  { h with outbox := command :: h.outbox }

def gains (h : BoardHeater α) : Gains α :=
  h.control.resting.gains

/-- Starts the control. The time that the first sample may take runs from here. -/
def activate (h : BoardHeater α) (time : α) : BoardHeater α :=
  if h.state = .validated then { h with state := .active, activeSince := time } else h

def setTemp (h : BoardHeater α) (degrees : α) : BoardHeater α × Except (HeaterError α) Unit :=
  match checkTarget degrees h.settings.minTemp h.settings.maxTemp with
  | .error error => (h, .error error)
  | .ok () => ({ h with target := degrees }.send (.setTarget degrees), .ok ())

def setGains (h : BoardHeater α) (gains : Gains α) : BoardHeater α :=
  { h with control := h.control.mapResting fun law => law.setGains gains }.send (.setGains gains)

/-- Sets the power. Small changes are held back until the power has to be sent again anyway, or
while the heater is off; a forced power is always sent. -/
def setPower (h : BoardHeater α) (time power : α) (force : Bool) : BoardHeater α :=
  let small := decide (Scalar.abs (power - h.lastPower) < deadband)
  let early := decide (time < h.refreshTime) || h.lastPower == 0.0
  if !force && early && small then h
  else
    { h with refreshTime := time + 0.75 * maxHeatTime, lastPower := power }.send (.setPower power)

def startAutotune (h : BoardHeater α) (target time : α) :
    BoardHeater α × Except (HeaterError α) Unit :=
  match h.record.start target h.settings.minTemp h.settings.tuneLimits time with
  | (record, .error error) => ({ h with record }, .error (.autotune error))
  | (record, .ok relay) =>
      ({ h with
        record
        control := .autotune relay h.control.resting h.target
        target }.send (.setTarget target), .ok ())

/-- Ends the experiment that is under way: the power goes to zero, and the PID and the target
from before it come back. -/
def endAutotune (h : BoardHeater α) (result : Except (FailReason α) (Gains α)) (time : α) :
    BoardHeater α :=
  match h.control with
  | .pid _ => h
  | .autotune relay resume priorTarget =>
      let stopped := { h with
        record := h.record.finish relay result time
        control := .pid resume.reset }.setPower time 0.0 true
      { stopped with target := priorTarget }.send (.setTarget priorTarget)

def abortAutotune (h : BoardHeater α) (time : α) : BoardHeater α × Except (HeaterError α) Unit :=
  if h.control.isAutotune then (h.endAutotune (.error .aborted) time, .ok ())
  else (h, .error (.autotune .notRunning))

def shutdown (h : BoardHeater α) (time : α) : BoardHeater α :=
  if h.state = .shutdown then h
  else
    let ended := h.endAutotune (.error .aborted) time
    let parked := { ended with state := .shutdown, target := 0.0, lastPower := 0.0 }
    (parked.send (.setTarget 0.0)).send (.setPower 0.0)

/-- Whether the heater already has a fault of the kind of `fault`. -/
def hasFaultLike (h : BoardHeater α) (fault : Fault α) : Bool :=
  h.fault.any fun current => current.kind == fault.kind

/-- Takes a fault on. A further fault of the same kind changes nothing. -/
def raise (h : BoardHeater α) (fault : Fault α) : BoardHeater α :=
  if h.hasFaultLike fault then h
  else
    { h with
      fault := some fault
      state := .faulted
      signals := .raised fault :: h.signals }

def recover (h : BoardHeater α) : BoardHeater α :=
  if h.state = .faulted then
    { h with
      state := .active
      fault := none
      signals := if h.fault.isSome then .cleared :: h.signals else h.signals }
  else h

def cutPower (h : BoardHeater α) (fault : Fault α) (time : α) : BoardHeater α :=
  (h.raise fault).setPower time 0.0 (!h.hasFaultLike fault)

def staleAfter (h : BoardHeater α) : α :=
  2.0 * h.settings.reportTime

def isStale (h : BoardHeater α) (sample : Sample α) (time : α) : Bool :=
  !sample.valid || decide (h.staleAfter < sample.age time)

def awaitsFirst (h : BoardHeater α) (time : α) : Bool :=
  !h.seenValid && decide (time - h.activeSince ≤ h.staleAfter)

def expire (h : BoardHeater α) (time : α) : BoardHeater α :=
  match h.control with
  | .pid _ => h
  | .autotune relay _ _ =>
      match relay.expired? time with
      | none => h
      | some reason => h.endAutotune (.error reason) time

/-- Runs the control on a sample that has not been consumed yet. A target of zero or less means
no power. -/
def consume (h : BoardHeater α) (sample : Sample α) (target time : α) : BoardHeater α :=
  let h := { h with
    lastSample := some sample.timestamp
    smoothing := h.smoothing.update sample.timestamp sample.value }
  match h.control with
  | .pid law =>
      let output := law.output sample.timestamp sample.value target
      let power := if target ≤ 0.0 then 0.0 else output
      { h with control := .pid (law.update sample.timestamp sample.value target) }.setPower time
        (Scalar.clamp 0.0 h.settings.maxPower power) false
  | .autotune relay resume priorTarget =>
      let (relay, step) := relay.feed sample time
      let h := { h with control := .autotune relay resume priorTarget }
      match step with
      | .carryOn power => h.setPower time (Scalar.clamp 0.0 h.settings.maxPower power) false
      | .finished result => h.endAutotune result time

def regulate (h : BoardHeater α) (sample : Sample α) (target time : α) : BoardHeater α :=
  if h.isStale sample time then
    if h.awaitsFirst time then h.setPower time 0.0 false
    else h.cutPower (.sensorLost (sample.age time)) time
  else if h.settings.maxTemp < sample.value then
    (h.endAutotune (.error (.overTemperature sample.value)) time).cutPower
      (.overTemperature sample.value h.settings.maxTemp) time
  else
    let h := { h.recover with seenValid := true }
    if sample.isConsumed h.lastSample then h else h.consume sample target time

/-- One control tick; `lastPower` is the power it comes to. -/
def tick (h : BoardHeater α) (sample : Sample α) (target time : α) : BoardHeater α :=
  if h.state = .shutdown then h
  else ((h.activate time).expire time).regulate sample target time

def collected (h : BoardHeater α) : BoardHeater α :=
  { h with outbox := [], signals := [] }

def status (h : BoardHeater Float) : Value :=
  .record [
    ("temperature", .hundredths h.smoothing.smoothed),
    ("target", .number h.target),
    ("power", .number h.lastPower),
    ("state", .text h.state.name),
    ("can_extrude", .flag h.smoothing.canExtrude),
    ("fault", Fault.value? h.fault),
    ("control", .text h.control.name),
    ("pid", h.gains.value),
    ("autotune", h.record.value)]

end BoardHeater

def HeaterConfig.boardHeater (c : HeaterConfig) (name : String) :
    Except ConfigError (BoardHeater Float) := do
  c.validate name
  match (← c.path name) with
  | .board => return BoardHeater.create name c.settings
  | .stock => throw (.incompatiblePairing name (c.heaterType.getD "") c.sensorType)

end HeaterHost
