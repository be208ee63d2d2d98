import HeaterHost.Simulator.Board
import HeaterHost.Simulator.Script
import HeaterHost.Wire.Frame

/-!
The lines that a host can be tried out on: to a simulated board, to a scripted one, or to a serial
port that does not exist. Time on a line is virtual. It stands still while a board works, and moves
on only while the host waits.
-/

namespace HeaterHost.Simulator

structure BoardStream where
  openedAt : Instant
  closesAt : Option Instant := none
  replies : List UInt8 := []
deriving Repr

structure BoardLine where
  name : String
  board : Board
  switches : Switches := {}
  connects : Nat := 0
  stream : Option BoardStream := none
deriving Repr

namespace BoardLine

def pollSpan : Span := Span.ofMillis 10

/-- When a board next looks at its line, strictly after a time. -/
def nextPoll (openedAt now : Instant) : Instant :=
  openedAt + ((now - openedAt) / pollSpan + 1) * pollSpan

/-- Drops the line. The board notices when it next looks. -/
def drop (l : BoardLine) (now : Instant) : BoardLine :=
  { l with stream := l.stream.map fun stream =>
      { stream with closesAt := stream.closesAt.or (some (nextPoll stream.openedAt now)) } }

def unplug (l : BoardLine) (now : Instant) : BoardLine :=
  { l with switches := { l.switches with offline := true } }.drop now

def connect (l : BoardLine) (now : Instant) : Except IoError Unit × BoardLine :=
  if l.switches.offline then (.error (.unplugged l.name), l)
  else (.ok (), { l with connects := l.connects + 1, stream := some { openedAt := now } })

def replyBytes (garbage : Bool) (replies : List String) : List UInt8 :=
  if replies.isEmpty then []
  else
    (if garbage then [0xFF, 0xFE, Wire.terminator] else []) ++
      replies.flatMap fun reply => reply.toUTF8.toList ++ [Wire.terminator]

/-- Hands a frame to the board. A board that fails at it closes the line at once. -/
def handle (l : BoardLine) (stream : BoardStream) (now : Instant) (frame : List UInt8) :
    BoardLine × BoardStream :=
  match String.fromUTF8? ⟨frame.toArray⟩ with
  | none => (l, stream)
  | some text =>
      match l.board.handle l.switches now text with
      | (board, some replies) =>
          ({ l with board },
            { stream with
              replies := stream.replies ++ replyBytes l.switches.garbage replies })
      | (board, none) => ({ l with board }, { stream with closesAt := some now })

def handleAll (l : BoardLine) (stream : BoardStream) (now : Instant) :
    List (List UInt8) → BoardLine × BoardStream
  | [] => (l, stream)
  | frame :: rest =>
      let (l, stream) := l.handle stream now frame
      if stream.closesAt = some now then (l, stream) else l.handleAll stream now rest

def bodies (bytes : List UInt8) : List (List UInt8) :=
  (bytes.splitOn Wire.terminator).dropLast

def BoardStream.isClosed (stream : BoardStream) (now : Instant) : Bool :=
  stream.closesAt.any (· ≤ now)

/-- Takes the bytes of a write; the board handles them at once. -/
def write (l : BoardLine) (now : Instant) (bytes : List UInt8) : Except IoError Unit × BoardLine :=
  match l.stream with
  | none => (.error .brokenPipe, l)
  | some stream =>
      if BoardStream.isClosed stream now then (.error .brokenPipe, l)
      else
        let (l, stream) := l.handleAll stream now (bodies bytes)
        (.ok (), { l with stream := some stream })

def replies (l : BoardLine) : List UInt8 :=
  match l.stream with
  | none => []
  | some stream => stream.replies

def closesAt (l : BoardLine) : Option Instant :=
  l.stream.bind fun stream => stream.closesAt

/-- Reads until a time. A line that closes just then is found closed only later. -/
def receive (l : BoardLine) (now limit : Instant) : Reception × Instant × BoardLine :=
  match l.replies with
  | [] =>
      match l.closesAt with
      | none => (.silence, max now limit, l)
      | some time =>
          if time ≤ now then (.closed, now, l)
          else if time < limit then (.closed, time, l)
          else (.silence, max now limit, l)
  | replies =>
      (.data (replies.take readLimit), now,
        { l with stream := l.stream.map fun stream =>
            { stream with replies := replies.drop readLimit } })

theorem replies_receive {l : BoardLine} {now limit : Instant} {bytes : List UInt8}
    (h : (l.receive now limit).1 = .data bytes) :
    (l.receive now limit).2.2.replies.length < l.replies.length := by
  unfold receive at h ⊢
  split at h
  · split at h
    · simp at h
    · split at h
      · simp at h
      · split at h <;> simp at h
  · rename_i some
    have : l.replies ≠ [] := some
    cases stream : l.stream with
    | none => simp [replies, stream] at this
    | some value =>
      have : value.replies ≠ [] := by simpa [replies, stream] using this
      have : 0 < value.replies.length := List.length_pos_iff.2 this
      simp [replies, stream, readLimit]
      omega

def hangUp (l : BoardLine) : BoardLine :=
  { l with stream := none }

end BoardLine

inductive FarEnd where
  | board (line : BoardLine)
  | script (script : Script)
  | absent
deriving Repr

structure Line where
  now : Instant := 0
  farEnd : FarEnd
deriving Repr

namespace Line

def elapse (l : Line) (time : Instant) : Line :=
  { l with now := max l.now time }

def connect (l : Line) : Except IoError Unit × Line :=
  match l.farEnd with
  | .board line =>
      let (result, line) := line.connect l.now
      (result, { l with farEnd := .board line })
  | .script script =>
      let (result, script) := script.connect
      (result, { l with farEnd := .script script })
  | .absent => (.error .noSuchFile, l)

def write (l : Line) (bytes : List UInt8) : Except IoError Unit × Line :=
  match l.farEnd with
  | .board line =>
      let (result, line) := line.write l.now bytes
      (result, { l with farEnd := .board line })
  | .script script =>
      let (result, script) := script.write bytes
      (result, { l with farEnd := .script script })
  | .absent => (.error .brokenPipe, l)

def receive (l : Line) (limit : Instant) : Reception × Line :=
  match l.farEnd with
  | .board line =>
      let (reception, now, line) := line.receive l.now limit
      (reception, { now, farEnd := .board line })
  | .script script =>
      let (reception, now, incoming) := Chunk.read l.now limit script.incoming
      (reception, { now, farEnd := .script (script.withIncoming incoming) })
  | .absent => (.silence, { l with now := max l.now limit })

def hangUp (l : Line) : Line :=
  { l with farEnd := match l.farEnd with
    | .board line => .board line.hangUp
    | .script script => .script { script with stream := none }
    | .absent => .absent }

/-- A bound on the number of reads that give data. -/
def backlog (l : Line) : Nat :=
  match l.farEnd with
  | .board line => line.replies.length
  | .script script => Chunk.totalWeight script.incoming
  | .absent => 0

theorem incoming_withIncoming_le (script : Script) (incoming : List Chunk) :
    Chunk.totalWeight (script.withIncoming incoming).incoming ≤ Chunk.totalWeight incoming := by
  unfold Script.withIncoming Script.incoming
  cases script.stream <;> simp [Chunk.totalWeight]

theorem backlog_receive (l : Line) (limit : Instant) (bytes : List UInt8)
    (h : (l.receive limit).1 = .data bytes) : (l.receive limit).2.backlog < l.backlog := by
  obtain ⟨now, farEnd⟩ := l
  cases farEnd with
  | board line => exact BoardLine.replies_receive h
  | script script =>
    exact Nat.lt_of_le_of_lt (incoming_withIncoming_le script _) (Chunk.totalWeight_read h)
  | absent => simp [receive] at h

instance : Transport Line where
  now := Line.now
  connect := connect
  write := write
  receive := receive
  hangUp := hangUp
  elapse := elapse
  backlog := backlog
  backlog_receive := backlog_receive

end Line

end HeaterHost.Simulator
