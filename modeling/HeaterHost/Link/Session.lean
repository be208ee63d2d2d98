import HeaterHost.Link.Basic
import HeaterHost.Link.Transport
import HeaterHost.Wire.Command

/-!
A link together with its stream. Every operation makes at most one attempt to connect, and only
if the session is not open. A telemetry query waits for its answer until the time of the link is
over; a timeout, an answer that makes no sense and a failing stream all end the session.
-/

namespace HeaterHost

open Wire

structure Session (ω : Type) where
  link : Link
  wire : ω

namespace Session

variable {ω : Type} [Transport ω]

def now (s : Session ω) : Instant :=
  Transport.now s.wire

def reopen (s : Session ω) : Session ω × Except LinkError Unit :=
  match Transport.connect s.wire with
  | (.ok (), wire) => ({ link := s.link.opened (Transport.now wire), wire }, .ok ())
  | (.error error, wire) =>
      ({ link := s.link.refused, wire }, .error (.unavailable s.link.endpoint error))

/-- Opens a stream unless the session is open. -/
def ensureOpen (s : Session ω) : Session ω × Except LinkError Unit :=
  if s.link.isOpen then (s, .ok ()) else s.reopen

def lose {α : Type} (s : Session ω) (error : IoError) : Session ω × Except LinkError α :=
  ({ link := s.link.fault, wire := Transport.hangUp s.wire }, .error (.lost error))

def writeFrame (s : Session ω) (text : String) : Session ω × Except LinkError Unit :=
  match Transport.write s.wire (encodeFrame text) with
  | (.ok (), wire) => ({ link := s.link.wrote, wire }, .ok ())
  | (.error error, wire) => lose { s with wire } error

def send (s : Session ω) (text : String) : Session ω × Except LinkError Unit :=
  match s.ensureOpen with
  | (s, .error error) => (s, .error error)
  | (s, .ok ()) => s.writeFrame text

def deadline (s : Session ω) : Instant :=
  Instant.timer (s.now + s.link.timeout)

def await (s : Session ω) (limit : Instant) : Session ω × Except LinkError Telemetry :=
  match s.link.sift s.now with
  | (link, some (.ok telemetry)) => ({ s with link }, .ok telemetry)
  | (link, some (.error error)) =>
      ({ link := link.fault, wire := Transport.hangUp s.wire }, .error (.malformed error))
  | (link, none) =>
      match h : Transport.receive s.wire limit with
      | (.data bytes, wire) =>
          have : Transport.backlog wire < Transport.backlog s.wire := by
            have less := Transport.backlog_receive s.wire limit bytes (by rw [h])
            rwa [h] at less
          await { link := link.received bytes, wire } limit
      | (.closed, wire) => lose { link, wire } .endOfStream
      | (.failed error, wire) => lose { link, wire } error
      | (.silence, wire) =>
          ({ link := link.timedOut, wire := Transport.hangUp wire },
            .error (.timeout link.timeout))
termination_by Transport.backlog s.wire

def ask (s : Session ω) : Session ω × Except LinkError Unit :=
  s.send (DeviceCommand.text .queryTelemetry)

def request (s : Session ω) : Session ω × Except LinkError Telemetry :=
  match s.ask with
  | (s, .error error) => (s, .error error)
  | (s, .ok ()) => s.await s.deadline

def close (s : Session ω) : Session ω :=
  { link := s.link.close, wire := Transport.hangUp s.wire }

end Session

end HeaterHost
