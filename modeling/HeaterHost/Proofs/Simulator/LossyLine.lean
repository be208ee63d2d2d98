import HeaterHost.Link.Transport
import HeaterHost.Proofs.Simulator.Line

/-!
# A line that loses what the board has not read

A board takes whole frames off its line in order, whenever it gets to them. A session can end at
any moment, and what was written in it and not taken is lost. When the board reads, when the line
drops and how much arrives in one read is settled by the line's turns, one for each operation of
the host.
-/

namespace HeaterHost.Simulator

open Wire

inductive Move where
  | handle
  | drop
  | switch (switches : Switches)
  | pass (span : Span)
deriving Repr

/-- What happens before one operation of the host, and how much a read finds at most. -/
structure Turn where
  moves : List Move := []
  chunk : Nat := readLimit
deriving Repr

structure LossyLine where
  now : Instant := 0
  far : BoardLine
  /-- The bodies of the frames that are written and not yet taken. -/
  unread : List (List UInt8) := []
  /-- The bodies of all other frames in the order of their writing, and whether each was handled. -/
  fates : List (List UInt8 × Bool) := []
  turns : List Turn := []
deriving Repr

namespace LossyLine

def written (l : LossyLine) : List (List UInt8) :=
  l.fates.map (·.1) ++ l.unread

def handled (l : LossyLine) : List (List UInt8) :=
  (l.fates.filter (·.2)).map (·.1)

def lost (l : LossyLine) : List (List UInt8) :=
  (l.fates.filter (!·.2)).map (·.1)

def isClosed (l : LossyLine) : Bool :=
  l.far.stream.any (BoardLine.BoardStream.isClosed · l.now)

/-- What is not yet taken is lost. -/
def lose (l : LossyLine) : LossyLine :=
  { l with unread := [], fates := l.fates ++ l.unread.map (·, false) }

/-- The board takes a frame. A line that the host has hung up leaves the answers nowhere to go; a
board that fails at its frame takes no more. -/
def take (l : LossyLine) (body : List UInt8) (rest : List (List UInt8)) : LossyLine :=
  let (far, stream) := l.far.handle (l.far.stream.getD { openedAt := l.now }) l.now body
  let taken : LossyLine :=
    { l with
      far := { far with stream := l.far.stream.map fun _ => stream }
      unread := rest
      fates := l.fates ++ [(body, true)] }
  if BoardLine.BoardStream.isClosed stream l.now then taken.lose else taken

def cut (l : LossyLine) : LossyLine :=
  { l.lose with far := { l.far with stream := l.far.stream.map fun stream =>
      { stream with closesAt := some l.now } } }

def move (l : LossyLine) : Move → LossyLine
  | .handle =>
      match l.unread with
      | [] => l
      | body :: rest => if l.isClosed then l else l.take body rest
  | .drop => l.cut
  | .switch switches => { l with far := { l.far with switches } }
  | .pass span => { l with now := l.now + span }

def moves (l : LossyLine) (ms : List Move) : LossyLine :=
  ms.foldl move l

def begun (l : LossyLine) : LossyLine :=
  match l.turns with
  | [] => l
  | turn :: turns => { l with turns }.moves turn.moves

/-- Takes an attempt to connect. What the last session has left is lost. -/
def connect (l : LossyLine) : Except IoError Unit × LossyLine :=
  match l.begun.far.connect l.begun.now with
  | (.ok (), far) => (.ok (), { l.begun.lose with far })
  | (.error error, far) => (.error error, { l.begun with far })

/-- Takes the bytes of a write; the board has yet to read them. -/
def write (l : LossyLine) (bytes : List UInt8) : Except IoError Unit × LossyLine :=
  if l.begun.far.stream.isNone || l.begun.isClosed then (.error .brokenPipe, l.begun)
  else (.ok (), { l.begun with unread := l.begun.unread ++ BoardLine.bodies bytes })

/-- Reads what has arrived. A read with no turn left finds nothing until its time is over. -/
def receive (l : LossyLine) (limit : Instant) : Reception × LossyLine :=
  match l.turns with
  | [] => (.silence, { l with now := max l.now limit })
  | turn :: _ =>
      match l.begun.far.replies with
      | [] =>
          if l.begun.isClosed then (.closed, l.begun)
          else (.silence, { l.begun with now := max l.begun.now limit })
      | reply :: replies =>
          (.data ((reply :: replies).take turn.chunk.succ),
            { l.begun with far := { l.begun.far with stream := l.begun.far.stream.map fun stream =>
                { stream with replies := (reply :: replies).drop turn.chunk.succ } } })

theorem turns_take (l : LossyLine) (body : List UInt8) (rest : List (List UInt8)) :
    (l.take body rest).turns = l.turns := by
  unfold take
  dsimp only
  split <;> rfl

theorem turns_move (l : LossyLine) (m : Move) : (l.move m).turns = l.turns := by
  unfold move
  split
  · split
    · rfl
    · split
      · rfl
      · exact l.turns_take ..
  · rfl
  · rfl
  · rfl

theorem turns_moves (l : LossyLine) (ms : List Move) : (l.moves ms).turns = l.turns := by
  induction ms generalizing l with
  | nil => rfl
  | cons m ms ih => exact (ih (l.move m)).trans (l.turns_move m)

theorem turns_receive {l : LossyLine} {limit : Instant} {bytes : List UInt8}
    (hdata : (l.receive limit).1 = .data bytes) :
    (l.receive limit).2.turns.length < l.turns.length := by
  unfold receive at hdata ⊢
  split at hdata
  · cases hdata
  case h_2 turn turns hturns =>
    have hbegun : l.begun.turns = turns := by
      rw [begun, hturns]
      exact turns_moves ..
    split at hdata
    · split at hdata <;> cases hdata
    · rw [hturns, List.length_cons]
      exact Nat.lt_succ_of_le (Nat.le_of_eq (congrArg List.length hbegun))

instance : Transport LossyLine where
  now := now
  connect := connect
  write := write
  receive := receive
  hangUp := fun l => { l with far := l.far.hangUp }
  elapse := fun l time => { l with now := max l.now time }
  backlog := fun l => l.turns.length
  backlog_receive := fun _ _ _ => turns_receive

end LossyLine

end HeaterHost.Simulator
