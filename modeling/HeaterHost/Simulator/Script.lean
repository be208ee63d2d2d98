import HeaterHost.Link.Transport

/-!
A scripted board: for every connection it is written down beforehand what will be readable after
each write, with pauses and with ways for the stream to end.
-/

namespace HeaterHost.Simulator

inductive Chunk where
  | bytes (block : List UInt8)
  | pause (span : Span)
  | closed
  | reset
deriving Repr, DecidableEq

structure ScriptedStream where
  answers : List (List Chunk)
  /-- How many writes succeed; without a bound if none is given. -/
  writesLeft : Option Nat
  incoming : List Chunk := []
deriving Repr

inductive ScriptEntry where
  | refuse
  | accept (stream : ScriptedStream)
deriving Repr

structure Script where
  entries : List ScriptEntry
  stream : Option ScriptedStream := none
  /-- The frames that were written, newest first. -/
  written : List (List UInt8) := []
deriving Repr

def readLimit : Nat := 256

def Chunk.weight : Chunk → Nat
  | .bytes block => block.length + 1
  | .pause _ | .closed | .reset => 1

def Chunk.totalWeight : List Chunk → Nat
  | [] => 0
  | chunk :: rest => chunk.weight + totalWeight rest

/-- Reads what comes next until a time. Gives the reception, the time it took place, and what
is left. -/
def Chunk.read (now limit : Instant) : List Chunk → Reception × Instant × List Chunk
  | [] => (.silence, max now limit, [])
  | .bytes [] :: rest => (.closed, now, rest)
  | .bytes block :: rest =>
      let left := block.drop readLimit
      (.data (block.take readLimit), now, if left.isEmpty then rest else .bytes left :: rest)
  | .pause span :: rest =>
      if now + span ≤ limit then Chunk.read (now + span) limit rest
      else (.silence, max now limit, .pause (now + span - limit) :: rest)
  | .closed :: rest => (.closed, now, rest)
  | .reset :: rest => (.failed .reset, now, rest)

theorem Chunk.totalWeight_read {now limit : Instant} {chunks : List Chunk} {bytes : List UInt8}
    (h : (Chunk.read now limit chunks).1 = .data bytes) :
    Chunk.totalWeight (Chunk.read now limit chunks).2.2 < Chunk.totalWeight chunks := by
  fun_induction Chunk.read now limit chunks with
  | case1 => simp at h
  | case2 => simp at h
  | case3 now block rest _ left =>
    obtain ⟨first, others, rfl⟩ : ∃ first others, block = first :: others := by
      cases block <;> simp_all
    have : left.length = others.length + 1 - readLimit := by simp [left]
    split
    all_goals simp [totalWeight, weight, readLimit] at *
    all_goals omega
  | case4 now span rest _ ih => exact Nat.lt_of_lt_of_le (ih h) (by simp [totalWeight])
  | case5 => simp at h
  | case6 => simp at h
  | case7 => simp at h

def Script.connect (s : Script) : Except IoError Unit × Script :=
  match s.entries with
  | [] => (.error .refused, s)
  | .refuse :: rest => (.error .refused, { s with entries := rest })
  | .accept stream :: rest => (.ok (), { s with entries := rest, stream := some stream })

def ScriptedStream.write (s : ScriptedStream) : Except IoError Unit × ScriptedStream :=
  if s.writesLeft = some 0 then (.error .brokenPipe, s)
  else
    (.ok (), {
      answers := s.answers.drop 1
      writesLeft := s.writesLeft.map (· - 1)
      incoming := s.incoming ++ s.answers.headD [] })

def Script.write (s : Script) (bytes : List UInt8) : Except IoError Unit × Script :=
  match s.stream with
  | none => (.error .brokenPipe, s)
  | some stream =>
      match stream.write with
      | (.ok (), stream) =>
          (.ok (), { s with stream := some stream, written := bytes :: s.written })
      | (.error error, stream) => (.error error, { s with stream := some stream })

def Script.incoming (s : Script) : List Chunk :=
  match s.stream with
  | none => []
  | some stream => stream.incoming

def Script.withIncoming (s : Script) (incoming : List Chunk) : Script :=
  { s with stream := s.stream.map fun stream => { stream with incoming } }

end HeaterHost.Simulator
