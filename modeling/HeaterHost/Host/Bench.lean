import HeaterHost.Host.Schedule

/-!
A host on the bench, where nothing runs by itself: sensors are stepped and heaters ticked one at a
time, and all lines keep one clock.
-/

namespace HeaterHost

open Gcode (CommandError)

structure Bench (ω : Type) where
  host : Host ω
  now : Instant := 0
  /-- How long the answer to a query may take. -/
  patience : Span := replyTimeout

namespace Bench

variable {ω : Type} [Transport ω]

def sensor? (b : Bench ω) (name : String) : Option (Sensor ω) :=
  (b.host.sensor? name).filter fun sensor => !sensor.stopped

def stationAt (time : Instant) (station : Station ω) : Station ω :=
  { station with sensor := station.sensor.map fun sensor => sensor.elapse time }

/-- Lets time pass until an instant. An instant that is over changes nothing. -/
def wait (b : Bench ω) (time : Instant) : Bench ω :=
  let now := max b.now time
  { b with
    now
    host := { b.host with stations := b.host.stations.mapValues fun _ => stationAt now } }

def canStep (b : Bench ω) (name : String) : Bool :=
  match b.sensor? name with
  | none => true
  | some sensor =>
      match sensor.begin with
      | (_, .error _) => true
      | (sensor, .ok _) => sensor.canWait

def step (b : Bench ω) (name : String) : Bench ω :=
  match b.sensor? name with
  | none => b
  | some sensor =>
      let (stepped, _) := sensor.step
      { b with host := b.host.withSensor name fun _ => stepped }.wait stepped.now

def tick (b : Bench ω) (name : String) (sample : Option (Sample Float)) (time : Float) :
    Bench ω :=
  match sample with
  | some sample => { b with host := b.host.tickOn name sample time }
  | none => { b with host := b.host.tick name time }

/-- Waits for the answer to a query which came, if at all, after the first `seen` lines. -/
def awaitAnswer (b : Bench ω) (name : String) (command : Wire.DeviceCommand Float) (seen : Nat)
    (deadline : Instant) : Bench ω × String :=
  match (b.host.sensor? name).bind fun sensor =>
      sensor.session.link.answer? seen command deadline with
  | some line => (b.wait line.time, Reply.answered name line.text)
  | none => (b.wait deadline, Reply.unanswered name command)

def consoleSize (b : Bench ω) (name : String) : Nat :=
  ((b.host.sensor? name).map fun sensor => sensor.session.link.console.length).getD 0

/-- Runs a command line. Once it is under way, one sensor may make a step. -/
def execute (b : Bench ω) (line : String) (stepping : Option String) :
    Bench ω × Except CommandError String :=
  let (host, outcome) := b.host.execute line (Instant.seconds b.now)
  let started := { b with host }
  let stepped := (stepping.map started.step).getD started
  match outcome with
  | .error error => (stepped, .error error)
  | .ok (.text text) => (stepped, .ok text)
  | .ok (.awaiting name command) =>
      let (ended, text) :=
        stepped.awaitAnswer name command (started.consoleSize name) (b.now + b.patience)
      (ended, .ok text)

/-- Lets the sampler of a heater run by itself for a span, and shuts it down. -/
def sampleFor (b : Bench ω) (name : String) (span : Span) : Bench ω :=
  if (b.sensor? name).isSome then
    let ended := ((Schedule.startSampler b.host name b.now).advanceTo (b.now + span)).stop
    { b with host := ended.host }.wait ended.now
  else b.wait (b.now + span)

end Bench

end HeaterHost
