import HeaterHost.Host.Answer
import HeaterHost.Host.Dispatch

/-!
The running host: a control loop and a sampler for every heater on an INO board, each once in a
report time. The schedule moves from one instant at which something happens to the next. At an
instant the control loops come first, on the samples from before it, and the samplers after them.
-/

namespace HeaterHost

open Gcode Wire

structure Timers where
  period : Span
  /-- The next control tick; none without a control loop. -/
  control : Option Instant
  /-- The next step of the sampler; none without a sampler. -/
  sample : Option Instant
  waiting : Option Instant := none
deriving Repr

namespace Timers

def lateness : Span := Span.ofMillis 5

/-- How far off a tick is put that would lie after the end of time. -/
def farOff : Span := 30 * 365 * 86400 * Span.second

/-- The tick after one that was due at a time and took place at another. Ticks that were missed
are left out. After a tick that is late there is none if the period has no end. -/
def following (period : Span) (due now : Instant) : Option Instant :=
  if due + lateness < now then
    if now.hasAfter period then some (now + period - (now - due) % period) else none
  else if due.hasAfter period then some (due + period)
  else some (now + farOff)

def isDue (tick : Option Instant) (now : Instant) : Bool :=
  tick.any fun tick => Instant.timer tick ≤ now

def next (t : Timers) (tick : Option Instant) (now : Instant) : Option Instant :=
  tick.bind fun due => following t.period due now

end Timers

structure Schedule (ω : Type) where
  host : Host ω
  now : Instant
  timers : NameMap Timers

namespace Schedule

variable {ω : Type} [Transport ω]

def start (host : Host ω) (now : Instant) : Schedule ω :=
  { host
    now
    timers := NameMap.ofList (host.stations.entries.filterMap fun (name, station) =>
      station.sensor.map fun sensor => (name, {
        period := sensor.session.link.timeout
        control := some now
        sample := some now })) }

def startSampler (host : Host ω) (name : String) (now : Instant) : Schedule ω :=
  { host
    now
    timers := NameMap.ofList ((host.sensor? name).toList.map fun sensor => (name, {
      period := sensor.session.link.timeout
      control := none
      sample := some now })) }

/-- A control loop that has no next tick has ended, and leaves its heater as it is. -/
def runControl (s : Schedule ω) (name : String) (t : Timers) : Schedule ω :=
  if Timers.isDue t.control s.now then
    match t.next t.control s.now with
    | none => { s with timers := s.timers.insert name { t with control := none } }
    | next =>
        { s with
          host := s.host.tick name (Instant.seconds s.now)
          timers := s.timers.insert name { t with control := next } }
  else s

def outcome? (s : Schedule ω) (name : String) (t : Timers) : Option (Sensor ω) :=
  match t.waiting, s.host.sensor? name with
  | some deadline, some sensor => some (sensor.finish deadline).1
  | _, _ => none

def endWait (s : Schedule ω) (name : String) (t : Timers) : Schedule ω :=
  match s.outcome? name t with
  | none => s
  | some sensor =>
      if sensor.now ≤ s.now then
        { s with
          host := s.host.withSensor name fun _ => sensor
          timers := s.timers.insert name { t with waiting := none } }
      else s

/-- A sensor that cannot wait stops, and leaves its line. -/
def abandon (s : Schedule ω) (name : String) (t : Timers) (sensor : Sensor ω) : Schedule ω :=
  let session := { sensor.session with wire := Transport.hangUp sensor.session.wire }
  { s with
    host := s.host.withSensor name fun _ => { sensor with session, stopped := true }
    timers := s.timers.insert name { t with sample := none } }

def beginStep (s : Schedule ω) (name : String) (t : Timers) (sensor : Sensor ω) : Schedule ω :=
  match (sensor.elapse s.now).begin with
  | (sensor, .error _) =>
      { s with
        host := s.host.withSensor name fun _ => sensor
        timers := s.timers.insert name t }
  | (sensor, .ok deadline) =>
      if sensor.canWait then
        let t := { t with waiting := some deadline }
        { s with
          host := s.host.withSensor name fun _ => sensor
          timers := s.timers.insert name t }.endWait name t
      else s.abandon name t sensor

def runSampler (s : Schedule ω) (name : String) (t : Timers) : Schedule ω :=
  if t.waiting.isNone && Timers.isDue t.sample s.now then
    match s.host.sensor? name, t.next t.sample s.now with
    | none, _ => s
    | some sensor, none => s.abandon name t sensor
    | some sensor, next => s.beginStep name { t with sample := next } sensor
  else s

def forAll (s : Schedule ω) (f : Schedule ω → String → Timers → Schedule ω) : Schedule ω :=
  s.timers.names.foldl (fun s name =>
    match s.timers.get? name with
    | none => s
    | some t => f s name t) s

def reach (s : Schedule ω) (now : Instant) : Schedule ω :=
  (({ s with now }.forAll runControl).forAll endWait).forAll runSampler

def nextOf (s : Schedule ω) (name : String) (t : Timers) : List Instant :=
  let sampler := match s.outcome? name t with
    | some sensor => [sensor.now]
    | none => (t.sample.map Instant.timer).toList
  (t.control.map Instant.timer).toList ++ sampler

def nextInstant (s : Schedule ω) : Option Instant :=
  (s.timers.entries.flatMap fun (name, t) => s.nextOf name t).min?

/-- Goes on to a time, from instant to instant, `fuel` of them at most. -/
def runUntil (limit : Instant) : (fuel : Nat) → Schedule ω → Schedule ω
  | 0, s => s
  | fuel + 1, s =>
      match s.nextInstant with
      | none => s
      | some time => if time ≤ limit then runUntil limit fuel (s.reach time) else s

/-- The number of instants there can be up to a time. Timers have a grain of a millisecond. -/
def instantsUntil (s : Schedule ω) (limit : Instant) : Nat :=
  (limit - s.now) / Span.millisecond + 2

def advanceTo (s : Schedule ω) (limit : Instant) : Schedule ω :=
  { runUntil limit (s.instantsUntil limit) s with now := limit }

/-- The link of a heater's sensor, as far as it can be foreseen. -/
def link? (s : Schedule ω) (name : String) : Option Link :=
  let foreseen := (s.timers.get? name).bind fun t => s.outcome? name t
  (foreseen.or (s.host.sensor? name)).map fun sensor => sensor.session.link

/-- Waits for the answer to a query, over `fuel` instants at most. -/
def awaitAnswer (name : String) (command : DeviceCommand Float) (seen : Nat) (deadline : Instant) :
    (fuel : Nat) → Schedule ω → Schedule ω × String
  | 0, s => (s.advanceTo deadline, Reply.unanswered name command)
  | fuel + 1, s =>
      match (s.link? name).bind fun link => link.answer? seen command deadline with
      | some line => (s.advanceTo (max s.now line.time), Reply.answered name line.text)
      | none =>
          match s.nextInstant with
          | none => (s.advanceTo deadline, Reply.unanswered name command)
          | some time =>
              if time < deadline then awaitAnswer name command seen deadline fuel (s.reach time)
              else (s.advanceTo deadline, Reply.unanswered name command)

def execute (s : Schedule ω) (line : String) : Schedule ω × Except CommandError String :=
  match s.host.execute line (Instant.seconds s.now) with
  | (host, .error error) => ({ s with host }, .error error)
  | (host, .ok (.text text)) => ({ s with host }, .ok text)
  | (host, .ok (.awaiting name command)) =>
      let s := { s with host }
      let seen := ((s.link? name).map fun link => link.consoleCount s.now).getD 0
      let deadline := s.now + replyTimeout
      let (s, text) := awaitAnswer name command seen deadline (s.instantsUntil deadline) s
      (s, .ok text)

/-- Stops the control loop of a heater, which parks the heater. -/
def stopControl (s : Schedule ω) (name : String) (t : Timers) : Schedule ω :=
  if t.control.isSome then
    { s with host := s.host.mapBoard name fun heater => heater.shutdown (Instant.seconds s.now) }
  else s

/-- Stops the sampler of a heater when its step is over, which parks the board. -/
def stopSampler (now : Instant) (s : Schedule ω) (name : String) (t : Timers) : Schedule ω :=
  match t.sample, (s.outcome? name t).or (s.host.sensor? name) with
  | some _, some sensor =>
      let parked := (sensor.elapse now).park
      { s with
        host := s.host.withSensor name fun _ => parked
        now := max s.now parked.now }
  | _, _ => s

def stop (s : Schedule ω) : Schedule ω :=
  { (s.forAll stopControl).forAll (stopSampler s.now) with timers := .empty }

def shutdown (s : Schedule ω) : Schedule ω :=
  let s := s.stop
  { s with host := { s.host with tracker := s.host.tracker.flush } }

end Schedule

end HeaterHost
