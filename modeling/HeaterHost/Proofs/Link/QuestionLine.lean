import HeaterHost.Host.Answer
import HeaterHost.Proofs.Link.SlowLine
import HeaterHost.Proofs.Wire.Instructions

/-!
# A line to a board that answers in order

A question is a command that a board answers on its console. The board handles the questions that
come in on a stream one after the other, whenever it gets to them, and answers each once, with a
line that says which question it answers. Around the answers it sends whatever it likes. What it
has not handled when the stream ends stays without an answer. A stream that the host has let go of
is out of sight, and what the board still does with it makes no difference.
-/

namespace HeaterHost

open Wire

/-- A question, and what tells the answers to it apart: they are numbered as the questions came
in. -/
structure Question where
  command : DeviceCommand Float
  answered : command.replyStart.isSome = true
  number : String → Nat

namespace Question

variable (q : Question)

/-- The number of a line, if it answers the question. -/
def number? (line : String) : Option Nat :=
  if q.command.isAnsweredBy line then some (q.number line) else none

def frameNumber? : FrameResult → Option Nat
  | .ok line => q.number? line
  | .error _ => none

/-- The numbers of the answers among frames. -/
def frameNumbers (results : List FrameResult) : List Nat :=
  results.filterMap q.frameNumber?

/-- The numbers of the answers among lines of a console. -/
def lineNumbers (lines : List ConsoleLine) : List Nat :=
  lines.filterMap fun line => q.number? line.text

/-- How often the question is asked in a frame with this text. -/
def asksIn (text : String) : Nat :=
  if text = q.command.text then 1 else 0

structure Reply where
  line : String
  body : List UInt8
  whole : terminator ∉ body
  reads : readBody body = some (.ok line)
  answers : q.command.isAnsweredBy line = true

/-- A frame that does not answer the question. -/
structure Aside where
  body : List UInt8
  whole : terminator ∉ body
  unrelated : q.frameNumbers (readBody body).toList = []

inductive Remark where
  | reply (reply : q.Reply)
  | aside (aside : q.Aside)

structure Turn where
  delay : Span := 0
  remarks : List q.Remark := []
  outcome : Outcome

/-- A byte stream: what is on it for the host to read, and the numbers of the questions that came
in on it and are not handled yet. -/
structure Stream where
  incoming : List UInt8 := []
  unhandled : List Nat := []
deriving Repr

variable {q}

/-- An answer to another question than the next one is never sent. -/
def Stream.say (stream : Stream) : q.Remark → Stream
  | .reply reply =>
      if stream.unhandled.head? = some (q.number reply.line) then
        { incoming := stream.incoming ++ FrameDecoder.frame reply.body
          unhandled := stream.unhandled.tail }
      else stream
  | .aside aside => { stream with incoming := stream.incoming ++ FrameDecoder.frame aside.body }

end Question

structure QuestionLine (q : Question) where
  now : Instant := 0
  stream : Option Question.Stream := none
  /-- How many questions have come in. -/
  asked : Nat := 0
  turns : List q.Turn := []

namespace QuestionLine

variable {q : Question}

def begun (l : QuestionLine q) : QuestionLine q × Outcome :=
  match l.turns with
  | [] => (l, .silent)
  | turn :: turns =>
      ({ l with
        now := l.now + turn.delay
        stream := l.stream.map fun stream => turn.remarks.foldl Question.Stream.say stream
        turns }, turn.outcome)

def connect (l : QuestionLine q) : Except IoError Unit × QuestionLine q :=
  match l.begun with
  | (l, .fails error _) => (.error error, l)
  | (l, _) => (.ok (), { l with stream := some {} })

/-- Bytes come in on a stream. -/
def take (l : QuestionLine q) (stream : Question.Stream) (bytes : List UInt8) : QuestionLine q :=
  if bytes = encodeFrame q.command.text then
    { l with
      stream := some { stream with unhandled := stream.unhandled ++ [l.asked] }
      asked := l.asked + 1 }
  else l

def write (l : QuestionLine q) (bytes : List UInt8) : Except IoError Unit × QuestionLine q :=
  match l.begun with
  | (l, .fails error _) => (.error error, l)
  | (l, _) =>
      match l.stream with
      | none => (.error .brokenPipe, l)
      | some stream => (.ok (), l.take stream bytes)

def receive (l : QuestionLine q) (limit : Instant) : Reception × QuestionLine q :=
  match l.begun with
  | (l, .fails error _) => (.failed error, l)
  | (l, .ends) => (.closed, l)
  | (l, .silent) => (.silence, { l with now := max l.now limit })
  | (l, .works chunk) =>
      match l.stream with
      | some { incoming := byte :: incoming, unhandled } =>
          (.data (byte :: incoming.take chunk),
            { l with stream := some { incoming := incoming.drop chunk, unhandled } })
      | _ => (.silence, { l with now := max l.now limit })

theorem turns_begun {l l' : QuestionLine q} {chunk : Nat}
    (hbegun : l.begun = (l', .works chunk)) : l'.turns.length < l.turns.length := by
  unfold begun at hbegun
  split at hbegun
  case h_1 => cases hbegun
  case h_2 turn turns hturns =>
    obtain ⟨rfl, -⟩ := Prod.mk.inj hbegun
    rw [hturns]
    exact Nat.lt_succ_self turns.length

theorem receive_eq_data {l l' : QuestionLine q} {limit : Instant} {bytes : List UInt8}
    (hreceive : l.receive limit = (.data bytes, l')) :
    ∃ begun chunk stream rest, l.begun = (begun, .works chunk) ∧ begun.stream = some stream ∧
      stream.incoming = bytes ++ rest ∧
      l' = { begun with stream := some { stream with incoming := rest } } := by
  unfold receive at hreceive
  split at hreceive
  case h_4 begun chunk hbegun =>
    split at hreceive
    case h_1 byte incoming unhandled hstream =>
      cases hreceive
      refine ⟨begun, chunk, _, incoming.drop chunk, hbegun, hstream, ?_, rfl⟩
      rw [List.cons_append, List.take_append_drop]
    case h_2 => cases hreceive
  all_goals cases hreceive

instance : Transport (QuestionLine q) where
  now := now
  connect := connect
  write := write
  receive := receive
  hangUp l := { l with stream := none }
  elapse l time := { l with now := max l.now time }
  backlog l := l.turns.length
  backlog_receive := by
    intro l limit bytes hdata
    obtain ⟨begun, chunk, stream, rest, hbegun, -, -, hl'⟩ :=
      receive_eq_data (Prod.ext hdata rfl : l.receive limit = (.data bytes, (l.receive limit).2))
    rw [hl']
    change begun.turns.length < l.turns.length
    exact turns_begun hbegun

/-! ### What the operations leave -/

theorem asked_begun {l l' : QuestionLine q} {outcome : Outcome}
    (hbegun : l.begun = (l', outcome)) : l'.asked = l.asked := by
  unfold begun at hbegun
  split at hbegun <;> cases hbegun <;> rfl

theorem connect_eq_ok {l l' : QuestionLine q} (hconnect : l.connect = (.ok (), l')) :
    l'.stream = some {} ∧ l'.asked = l.asked := by
  unfold connect at hconnect
  split at hconnect
  case h_1 => cases hconnect
  case h_2 begun outcome _ hbegun =>
    have hasked := asked_begun hbegun
    cases hconnect
    exact ⟨rfl, hasked⟩

theorem connect_eq_error {l l' : QuestionLine q} {error : IoError}
    (hconnect : l.connect = (.error error, l')) : l'.asked = l.asked := by
  unfold connect at hconnect
  split at hconnect <;> cases hconnect
  exact asked_begun ‹_›

theorem write_eq_ok {l l' : QuestionLine q} {bytes : List UInt8}
    (hwrite : l.write bytes = (.ok (), l')) :
    ∃ begun outcome stream, l.begun = (begun, outcome) ∧ begun.stream = some stream ∧
      l' = begun.take stream bytes := by
  unfold write at hwrite
  split at hwrite
  case h_1 => cases hwrite
  case h_2 begun outcome _ hbegun =>
    split at hwrite
    case h_1 => cases hwrite
    case h_2 stream hstream =>
      cases hwrite
      exact ⟨begun, outcome, stream, hbegun, hstream, rfl⟩

theorem write_eq_error {l l' : QuestionLine q} {bytes : List UInt8} {error : IoError}
    (hwrite : l.write bytes = (.error error, l')) : l'.asked = l.asked := by
  unfold write at hwrite
  split at hwrite
  case h_1 begun failure delivered hbegun =>
    cases hwrite
    exact asked_begun hbegun
  case h_2 begun outcome _ hbegun =>
    split at hwrite <;> cases hwrite
    exact asked_begun hbegun

theorem asked_receive (l : QuestionLine q) (limit : Instant) :
    (l.receive limit).2.asked = l.asked := by
  unfold receive
  rcases hbegun : l.begun with ⟨begun, chunk | _ | _ | _⟩
  all_goals have hasked := asked_begun hbegun
  case works =>
    dsimp only
    split <;> exact hasked
  all_goals exact hasked

end QuestionLine

end HeaterHost
