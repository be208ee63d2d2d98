import HeaterHost.IoError
import HeaterHost.Time

/-!
What the host needs of the byte stream to a board. A transport is the whole of it, as the host
finds it: the clock, whether and how the board can be reached, and what it has still to say.
-/

namespace HeaterHost

inductive Reception where
  | data (bytes : List UInt8)
  | closed
  | failed (error : IoError)
  | silence
deriving Repr, DecidableEq

class Transport (ω : Type) where
  now : ω → Instant
  /-- Opens a stream in place of the one that is open, if any. -/
  connect : ω → Except IoError Unit × ω
  write : ω → List UInt8 → Except IoError Unit × ω
  /-- Waits for bytes, until a time at most. -/
  receive : ω → Instant → Reception × ω
  hangUp : ω → ω
  /-- Lets time pass until an instant, with nobody reading. -/
  elapse : ω → Instant → ω
  /-- A bound on how often data can be received before something else happens. -/
  backlog : ω → Nat
  backlog_receive : ∀ (w : ω) (limit : Instant) (bytes : List UInt8),
    (receive w limit).1 = .data bytes → backlog (receive w limit).2 < backlog w

end HeaterHost
