import HeaterHost.IoError
import HeaterHost.Time
import HeaterHost.Value
import HeaterHost.Wire.Frame
import HeaterHost.Wire.Telemetry

/-!
The state of the link to a board: whether its session is open, the bytes that wait for their
frame, what was counted, and what the board wrote on its console. The functions here say how each
event changes the state; none of them touches the stream.
-/

namespace HeaterHost

open Wire

inductive SessionState where
  | closed
  | active
  | faulted
deriving Repr, DecidableEq

def SessionState.name : SessionState → String
  | .closed => "closed"
  | .active => "open"
  | .faulted => "faulted"

structure LinkStats where
  connects : Nat := 0
  reconnects : Nat := 0
  framesSent : Nat := 0
  framesReceived : Nat := 0
  framesDiscarded : Nat := 0
  timeouts : Nat := 0
deriving Repr, DecidableEq

def LinkStats.value (s : LinkStats) : Value :=
  .record [
    ("connects", .count s.connects),
    ("reconnects", .count s.reconnects),
    ("frames_sent", .count s.framesSent),
    ("frames_received", .count s.framesReceived),
    ("frames_discarded", .count s.framesDiscarded),
    ("timeouts", .count s.timeouts)]

inductive LinkError where
  | unavailable (endpoint : String) (error : IoError)
  | timeout (limit : Span)
  | malformed (error : TelemetryError)
  | lost (error : IoError)
deriving Repr, DecidableEq

def LinkError.message : LinkError → String
  | .unavailable endpoint error => s!"link to {endpoint} unavailable: {error.message}"
  | .timeout limit => "no telemetry within " ++ limit.text
  | .malformed error => "malformed response: " ++ error.message
  | .lost error => "link lost: " ++ error.message

structure ConsoleLine where
  time : Instant
  text : String
deriving Repr, DecidableEq

structure Link where
  endpoint : String
  /-- How long the answer to a telemetry query may take. -/
  timeout : Span
  state : SessionState := .closed
  attached : Bool := false
  decoder : FrameDecoder := {}
  lastActivity : Option Instant := none
  stats : LinkStats := {}
  /-- Everything that was not telemetry, newest first. -/
  console : List ConsoleLine := []
deriving Repr

namespace Link

def isOpen (l : Link) : Bool :=
  l.state = .active && l.attached

def opened (l : Link) (now : Instant) : Link :=
  { l with
    state := .active
    attached := true
    decoder := {}
    lastActivity := some now
    stats := { l.stats with
      connects := l.stats.connects + 1
      reconnects := if l.stats.connects = 0 then l.stats.reconnects else l.stats.reconnects + 1 } }

def refused (l : Link) : Link :=
  { l with state := .closed }

def wrote (l : Link) : Link :=
  { l with stats := { l.stats with framesSent := l.stats.framesSent + 1 } }

def fault (l : Link) : Link :=
  { l with state := .faulted, attached := false }

def timedOut (l : Link) : Link :=
  { l with stats := { l.stats with timeouts := l.stats.timeouts + 1 } }.fault

def close (l : Link) : Link :=
  { l with state := .closed, attached := false }

def received (l : Link) (bytes : List UInt8) : Link :=
  { l with decoder := l.decoder.push bytes }

def discarded (l : Link) : Link :=
  { l with stats := { l.stats with framesDiscarded := l.stats.framesDiscarded + 1 } }

def heard (l : Link) (now : Instant) : Link :=
  { l with
    lastActivity := some now
    stats := { l.stats with framesReceived := l.stats.framesReceived + 1 } }

def publish (l : Link) (now : Instant) (text : String) : Link :=
  { l with console := { time := now, text } :: l.console }

def consoleLimit : Nat := 64

/-- What a reader of the console finds who has taken the first `seen` lines: how many lines it
has missed, and the lines that wait for it, oldest first. -/
def consoleSince (l : Link) (seen : Nat) : Nat × List String :=
  let waiting := l.console.length - seen
  (waiting - consoleLimit, ((l.console.take (min waiting consoleLimit)).map (·.text)).reverse)

/-- Goes through the frames that are complete, up to the first that is telemetry. The frames
before it go to the console. -/
def sift (l : Link) (now : Instant) : Link × Option (Except TelemetryError Telemetry) :=
  match h : l.decoder.next with
  | (none, decoder) => ({ l with decoder }, none)
  | (some result, decoder) =>
      have : decoder.buffer.length < l.decoder.buffer.length := by
        have shorter : l.decoder.next.2.buffer.length < l.decoder.buffer.length :=
          FrameDecoder.next_length_lt (by rw [h])
        rwa [h] at shorter
      let l' := { l with decoder }
      match result with
      | .error _ => l'.discarded.sift now
      | .ok text =>
          if isTelemetry text then (l'.heard now, some (Telemetry.parse text))
          else ((l'.heard now).publish now text).sift now
termination_by l.decoder.buffer.length
decreasing_by
  all_goals simpa [l', discarded, heard, publish] using this

end Link

end HeaterHost
