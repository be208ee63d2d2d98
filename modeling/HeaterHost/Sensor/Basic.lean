import HeaterHost.Fault
import HeaterHost.TemperatureStore
import HeaterHost.Link.Session

/-!
The sensor on an INO board. Once in every report time it connects if it has to, delivers the
commands that wait, and asks for telemetry; each of these steps publishes exactly one sample, over
a channel and to everybody who has asked for all samples. A command waits until a write of it has
succeeded, and no longer.
-/

namespace HeaterHost

open Wire

/-- Somebody who is given every sample of a sensor. -/
inductive Consumer where
  | store (store : TemperatureStore Float)
  /-- Keeps all samples, oldest first. -/
  | collector (samples : List (Sample Float))

def Consumer.take (sample : Sample Float) : Consumer → Consumer
  | store temperatures => store (temperatures.add sample)
  | collector samples => collector (samples ++ [sample])

def Consumer.store? : Consumer → Option (TemperatureStore Float)
  | store temperatures => some temperatures
  | collector _ => none

/-- What others have from a sensor. -/
structure SensorView where
  /-- The samples that were sent over the channel, newest first. -/
  channel : List (Sample Float) := []
  consumers : List Consumer := []
  /-- The newest sample, as a status query shows it. -/
  last : Sample Float := Sample.missing
  debugTime : Option Float := none
  debugLine : String := ""
  flags : DeviceFlags := DeviceFlags.none
  linkState : SessionState := .closed
  stats : LinkStats := {}
  /-- The newest telemetry, oldest first. -/
  history : List Telemetry := []

/-- What is found on the channel: the newest sample. -/
def SensorView.sample (v : SensorView) : Sample Float :=
  v.channel.headD Sample.missing

def SensorView.store? (v : SensorView) : Option (TemperatureStore Float) :=
  v.consumers.findSome? Consumer.store?

structure Sensor (ω : Type) where
  name : String
  /-- The gains that the board is given when it is first reached. -/
  gains : Gains Float
  session : Session ω
  uploaded : Bool := false
  /-- Attempts to connect that have failed in a row. -/
  failedConnects : Nat := 0
  abandoned : Bool := false
  lastGood : Sample Float := Sample.missing
  /-- Commands that came since the last step, oldest first. -/
  queue : List (DeviceCommand Float) := []
  /-- Commands taken off the queue and not yet delivered, oldest first. -/
  pending : List (DeviceCommand Float) := []
  view : SensorView
  /-- Faults and recoveries that wait to be collected, newest first. -/
  signals : List (FaultSignal Float) := []
  stopped : Bool := false

namespace Sensor

def abandonAfter : Nat := 5

def historyLimit : Nat := 100

/-- The highest temperature that is believed. -/
def maxSaneTemp : Float := 1000.0

variable {ω : Type}

def create (name endpoint : String) (gains : Gains Float) (reportTime : Span) (capacity : Nat)
    (wire : ω) : Sensor ω :=
  { name
    gains
    session := { link := { endpoint, timeout := reportTime }, wire }
    view := { consumers := [.store { capacity }] } }

def addConsumer (s : Sensor ω) (consumer : Consumer) : Sensor ω :=
  { s with view := { s.view with consumers := s.view.consumers ++ [consumer] } }

def faultSource (s : Sensor ω) : String :=
  "ino_sensor " ++ s.name

/-- Queues a command, unless the sensor has been shut down. -/
def push (s : Sensor ω) (command : DeviceCommand Float) : Sensor ω :=
  if s.stopped then s else { s with queue := s.queue ++ [command] }

/-- Sends a sample over the channel and gives it to every consumer. The sample is handed back. -/
def publish (s : Sensor ω) (sample : Sample Float) : Sensor ω × Sample Float :=
  ({ s with view := { s.view with
      channel := sample :: s.view.channel
      consumers := s.view.consumers.map (Consumer.take sample)
      last := sample
      linkState := s.session.link.state
      stats := s.session.link.stats } }, sample)

def publishFailure (s : Sensor ω) : Sensor ω × Sample Float :=
  s.publish s.lastGood.lost

def takeQueue (s : Sensor ω) : Sensor ω :=
  { s with pending := s.pending ++ s.queue, queue := [] }

def connected (s : Sensor ω) : Sensor ω :=
  { s with
    failedConnects := 0
    abandoned := false
    signals := if s.abandoned then .cleared :: s.signals else s.signals }

/-- A connection could not be made. An outage is reported once. -/
def connectFailed (s : Sensor ω) : Sensor ω :=
  let failures := s.failedConnects + 1
  if abandonAfter ≤ failures ∧ s.abandoned = false then
    { s with
      failedConnects := failures
      abandoned := true
      signals := .raised (.linkAbandoned s.session.link.endpoint failures) :: s.signals }
  else { s with failedConnects := failures }

def uploadText (s : Sensor ω) : String :=
  (DeviceCommand.setGains s.gains).text ++ ";" ++ DeviceCommand.text .resetErrorFlags

def noteTelemetry (s : Sensor ω) (time : Float) (t : Telemetry) : Sensor ω :=
  { s with view := { s.view with
    debugTime := some time
    debugLine := t.valuesLine
    flags := t.flags
    history := pushWithin historyLimit s.view.history t } }

def isCredible (t : Telemetry) : Bool :=
  !t.flags.invalidatesReading && decide (absoluteZero ≤ t.temperature) &&
    decide (t.temperature ≤ maxSaneTemp)

def accept (s : Sensor ω) (time : Float) (t : Telemetry) : Sensor ω × Sample Float :=
  let s := s.noteTelemetry time t
  if isCredible t then
    let sample := Sample.reading time t.temperature
    { s with lastGood := sample }.publish sample
  else s.publishFailure

variable [Transport ω]

def now (s : Sensor ω) : Instant :=
  s.session.now

def elapse (s : Sensor ω) (time : Instant) : Sensor ω :=
  { s with session := { s.session with wire := Transport.elapse s.session.wire time } }

/-- Gives the board its gains, unless it has them. -/
def upload (s : Sensor ω) : Sensor ω × Bool :=
  if s.uploaded then (s, true)
  else match s.session.send s.uploadText with
    | (session, .ok ()) => ({ s with session, uploaded := true }, true)
    | (session, .error _) => ({ s with session }, false)

def connect (s : Sensor ω) : Sensor ω × Bool :=
  match s.session.reopen with
  | (session, .ok ()) => { s with session }.connected.upload
  | (session, .error _) => ({ s with session }.connectFailed, false)

/-- Opens the session unless it is open. -/
def ensureConnected (s : Sensor ω) : Sensor ω × Bool :=
  if s.session.link.isOpen then (s, true) else s.connect

/-- Writes commands in order. What has not been written stays pending. -/
def deliver (s : Sensor ω) : List (DeviceCommand Float) → Sensor ω × Bool
  | [] => ({ s with pending := [] }, true)
  | command :: rest =>
      match s.session.send command.text with
      | (session, .ok ()) => deliver { s with session } rest
      | (session, .error _) => ({ s with session, pending := command :: rest }, false)

/-- Writes the query and tells when it must have been answered. -/
def ask (s : Sensor ω) : Sensor ω × Except (Sample Float) Instant :=
  match s.session.ask with
  | (session, .ok ()) => ({ s with session }, .ok session.deadline)
  | (session, .error _) => { s with session }.publishFailure.map id .error

/-- The first half of a step, up to the query. If it fails the step is over, with its sample; else
it tells when the answer must have come. -/
def begin (s : Sensor ω) : Sensor ω × Except (Sample Float) Instant :=
  match s.takeQueue.ensureConnected with
  | (s, false) => s.publishFailure.map id .error
  | (s, true) =>
      match s.deliver s.pending with
      | (s, false) => s.publishFailure.map id .error
      | (s, true) => s.ask

def finish (s : Sensor ω) (deadline : Instant) : Sensor ω × Sample Float :=
  match s.session.await deadline with
  | (session, .ok telemetry) => { s with session }.accept session.now.seconds telemetry
  | (session, .error _) => { s with session }.publishFailure

/-- One step, and the sample that it has published. -/
def step (s : Sensor ω) : Sensor ω × Sample Float :=
  match s.begin with
  | (s, .error sample) => (s, sample)
  | (s, .ok deadline) => s.finish deadline

/-- Whether there is an instant at which the wait for an answer ends. -/
def canWait (s : Sensor ω) : Bool :=
  s.now.hasAfter s.session.link.timeout

def parkCommands : List (DeviceCommand Float) :=
  [.setTarget 0.0, .setPower 0.0]

def sendWhilePossible (session : Session ω) : List (DeviceCommand Float) → Session ω
  | [] => session
  | command :: rest =>
      match session.send command.text with
      | (session, .ok ()) => sendWhilePossible session rest
      | (session, .error _) => session

/-- Shuts the sensor down. A board that is connected is parked first. -/
def park (s : Sensor ω) : Sensor ω :=
  let parked :=
    if s.session.link.isOpen then sendWhilePossible s.session parkCommands else s.session
  let session := parked.close
  { s with session, stopped := true, view := { s.view with linkState := session.link.state } }

end Sensor

end HeaterHost
