import HeaterHost.Link.Session
import HeaterHost.Proofs.Wire.FrameStream
import HeaterHost.Simulator.Line

/-!
# A line to a board that takes its time

Every session has a byte stream of its own. The board answers a query, whenever it gets to it, on
the stream that the query came in on, with one line of telemetry that says which query it answers,
and it sends no other telemetry. Between the answers it sends whatever it likes. It goes on with a
stream that the host has let go of, but the host can no longer read what comes there.

When the board speaks, how much arrives in one read, what is cut off and what fails is settled by
the turns of the line, one for each operation of the host.
-/

namespace HeaterHost

open Wire

/-- What tells the answers to different queries apart; queries are numbered as they come in. -/
abbrev Numbering := Telemetry → Nat

def Numbering.Identifies (number : Numbering) (query : Nat) (line : String) : Prop :=
  ∀ telemetry, Telemetry.parse line = .ok telemetry → number telemetry = query

structure Answer (number : Numbering) where
  query : Nat
  line : String
  body : List UInt8
  whole : terminator ∉ body
  reads : readBody body = some (.ok line)
  telemetry : isTelemetry line = true
  identifies : number.Identifies query line

/-- A frame that is no telemetry: another line, or bytes that do not make a line at all. -/
structure Chatter where
  body : List UInt8
  whole : terminator ∉ body
  plain : telemetryLines (readBody body).toList = []

inductive Utterance (number : Numbering) where
  | answer (answer : Answer number)
  | chatter (chatter : Chatter)

/-- A byte stream: what is on it for the host to read, and the queries that came in on it and wait
for their answers. -/
structure LineStream where
  incoming : List UInt8 := []
  waiting : List Nat := []
deriving Repr

/-- An answer to a query that does not wait for one is never sent. -/
def LineStream.say {number : Numbering} (stream : LineStream) : Utterance number → LineStream
  | .answer answer =>
      if answer.query ∈ stream.waiting then
        { incoming := stream.incoming ++ FrameDecoder.frame answer.body
          waiting := stream.waiting.erase answer.query }
      else stream
  | .chatter chatter =>
      { stream with incoming := stream.incoming ++ FrameDecoder.frame chatter.body }

/-- How an operation of the host goes. -/
inductive Outcome where
  /-- A read takes at most one byte more than this. -/
  | works (chunk : Nat)
  | silent
  | ends
  /-- A write that fails may have got to the board. -/
  | fails (error : IoError) (delivered : Bool)
deriving Repr

/-- Something that the board says, on the stream of the session or on one of the streams that the
host has let go of. -/
inductive Speech (number : Numbering) where
  | current (utterance : Utterance number)
  | dropped (stream : Nat) (utterance : Utterance number)

structure SlowTurn (number : Numbering) where
  delay : Span := 0
  speech : List (Speech number) := []
  outcome : Outcome

structure SlowLine (number : Numbering) where
  now : Instant := 0
  stream : Option LineStream := none
  dropped : List LineStream := []
  /-- How many queries have come in. -/
  asked : Nat := 0
  turns : List (SlowTurn number) := []

/-- How many telemetry queries a board finds in what is written to it. -/
def queriesIn (bytes : List UInt8) : Nat :=
  let frames := (Simulator.BoardLine.bodies bytes).filterMap fun body =>
    String.fromUTF8? ⟨body.toArray⟩
  let commands := frames.flatMap Simulator.Board.commands
  commands.countP fun command => (Text.words command).head? = some ['d']

namespace SlowLine

variable {number : Numbering}

def hear (l : SlowLine number) : Speech number → SlowLine number
  | .current utterance => { l with stream := l.stream.map (·.say utterance) }
  | .dropped stream utterance => { l with dropped := l.dropped.modify stream (·.say utterance) }

def begun (l : SlowLine number) : SlowLine number × Outcome :=
  match l.turns with
  | [] => (l, .silent)
  | turn :: turns => (turn.speech.foldl hear { l with now := l.now + turn.delay, turns }, turn.outcome)

def hangUp (l : SlowLine number) : SlowLine number :=
  { l with stream := none, dropped := l.stream.toList ++ l.dropped }

def connect (l : SlowLine number) : Except IoError Unit × SlowLine number :=
  match l.begun with
  | (l, .fails error _) => (.error error, l)
  | (l, _) => (.ok (), { l.hangUp with stream := some {} })

def deliver (l : SlowLine number) (bytes : List UInt8) : SlowLine number :=
  match l.stream with
  | none => l
  | some stream =>
      { l with
        asked := l.asked + queriesIn bytes
        stream := some { stream with
          waiting := stream.waiting ++ List.range' l.asked (queriesIn bytes) } }

theorem deliver_eq {l : SlowLine number} {stream : LineStream} (hstream : l.stream = some stream)
    (bytes : List UInt8) :
    l.deliver bytes =
      { l with
        asked := l.asked + queriesIn bytes
        stream := some { stream with
          waiting := stream.waiting ++ List.range' l.asked (queriesIn bytes) } } := by
  simp only [deliver, hstream]

def write (l : SlowLine number) (bytes : List UInt8) : Except IoError Unit × SlowLine number :=
  match l.begun with
  | (l, .fails error delivered) => (.error error, if delivered then l.deliver bytes else l)
  | (l, _) => if l.stream.isNone then (.error .brokenPipe, l) else (.ok (), l.deliver bytes)

def receive (l : SlowLine number) (limit : Instant) : Reception × SlowLine number :=
  match l.begun with
  | (l, .fails error _) => (.failed error, l)
  | (l, .ends) => (.closed, l)
  | (l, .silent) => (.silence, { l with now := max l.now limit })
  | (l, .works chunk) =>
      match l.stream with
      | some { incoming := byte :: incoming, waiting } =>
          (.data (byte :: incoming.take chunk),
            { l with stream := some { incoming := incoming.drop chunk, waiting } })
      | _ => (.silence, { l with now := max l.now limit })

theorem turns_hear (l : SlowLine number) (speech : Speech number) :
    (l.hear speech).turns = l.turns := by
  cases speech <;> rfl

theorem turns_foldl_hear (l : SlowLine number) (speech : List (Speech number)) :
    (speech.foldl hear l).turns = l.turns := by
  induction speech generalizing l with
  | nil => rfl
  | cons first rest ih => exact (ih (l.hear first)).trans (l.turns_hear first)

theorem asked_foldl_hear (l : SlowLine number) (speech : List (Speech number)) :
    (speech.foldl hear l).asked = l.asked := by
  induction speech generalizing l with
  | nil => rfl
  | cons first rest ih =>
      refine (ih (l.hear first)).trans ?_
      cases first <;> rfl

theorem asked_begun {l l' : SlowLine number} {outcome : Outcome} (hbegun : l.begun = (l', outcome)) :
    l'.asked = l.asked := by
  unfold begun at hbegun
  split at hbegun
  case h_1 =>
    cases hbegun
    rfl
  case h_2 =>
    cases hbegun
    exact asked_foldl_hear ..

theorem connect_eq_ok {l l' : SlowLine number} (hconnect : l.connect = (.ok (), l')) :
    l'.stream = some {} ∧ l'.asked = l.asked := by
  unfold connect at hconnect
  split at hconnect
  case h_1 => cases hconnect
  case h_2 begun outcome _ hbegun =>
    cases hconnect
    refine ⟨rfl, ?_⟩
    change begun.asked = l.asked
    exact asked_begun hbegun

theorem write_eq_ok {l l' : SlowLine number} {bytes : List UInt8}
    (hwrite : l.write bytes = (.ok (), l')) :
    ∃ begun outcome, l.begun = (begun, outcome) ∧ l' = begun.deliver bytes := by
  unfold write at hwrite
  split at hwrite
  case h_1 => cases hwrite
  case h_2 begun outcome _ hbegun =>
    split at hwrite
    · cases hwrite
    · cases hwrite
      exact ⟨begun, outcome, hbegun, rfl⟩

theorem turns_begun {l l' : SlowLine number} {chunk : Nat} (hbegun : l.begun = (l', .works chunk)) :
    l'.turns.length < l.turns.length := by
  unfold begun at hbegun
  split at hbegun
  case h_1 => cases hbegun
  case h_2 turn turns hturns =>
    obtain ⟨rfl, -⟩ := Prod.mk.inj hbegun
    rw [turns_foldl_hear, hturns]
    exact Nat.lt_succ_self turns.length

theorem receive_eq_data {l l' : SlowLine number} {limit : Instant} {bytes : List UInt8}
    (hreceive : l.receive limit = (.data bytes, l')) :
    ∃ begun chunk stream rest, l.begun = (begun, .works chunk) ∧ begun.stream = some stream ∧
      stream.incoming = bytes ++ rest ∧
      l' = { begun with stream := some { stream with incoming := rest } } := by
  unfold receive at hreceive
  split at hreceive
  case h_4 begun chunk hbegun =>
    split at hreceive
    case h_1 byte incoming waiting hstream =>
      cases hreceive
      refine ⟨begun, chunk, _, incoming.drop chunk, hbegun, hstream, ?_, rfl⟩
      rw [List.cons_append, List.take_append_drop]
    case h_2 => cases hreceive
  all_goals cases hreceive

instance : Transport (SlowLine number) where
  now := now
  connect := connect
  write := write
  receive := receive
  hangUp := hangUp
  elapse := fun l time => { l with now := max l.now time }
  backlog := fun l => l.turns.length
  backlog_receive := by
    intro l limit bytes hdata
    obtain ⟨begun, chunk, stream, rest, hbegun, -, -, hl'⟩ :=
      receive_eq_data (Prod.ext hdata rfl : l.receive limit = (.data bytes, (l.receive limit).2))
    rw [hl']
    change begun.turns.length < l.turns.length
    exact turns_begun hbegun

end SlowLine

end HeaterHost
