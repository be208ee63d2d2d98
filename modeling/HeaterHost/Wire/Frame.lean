import HeaterHost.Text.Blank

/-!
Frames on the serial line. A frame is a text followed by a zero byte; what the host sends also
ends in a semicolon. The decoder reassembles frames from reads that are split anywhere, and one
bad frame costs only itself.
-/

namespace HeaterHost.Wire

/-- The longest text, in bytes, that a board sends in one frame. Anything longer is noise. -/
def maxFrameLength : Nat := 512

def terminator : UInt8 := 0

inductive FrameError where
  | notUtf8
  | overflow
deriving Repr, DecidableEq

def FrameError.message : FrameError → String
  | .notUtf8 => "frame is not valid UTF-8"
  | .overflow => "frame exceeds 512 bytes"

abbrev FrameResult := Except FrameError String

/-- The bytes of a frame that the host sends. The text may hold several commands with semicolons
between them. -/
def encodeFrame (text : String) : List UInt8 :=
  text.toUTF8.toList ++ [';'.toUInt8, terminator]

/-- What the bytes before a terminator stand for. White space around the text does not count, and
a frame of nothing else is passed over. -/
def readBody (body : List UInt8) : Option FrameResult :=
  if maxFrameLength < body.length then some (.error .overflow)
  else match String.fromUTF8? ⟨body.toArray⟩ with
    | none => some (.error .notUtf8)
    | some text =>
        let text := Text.trim text
        if text.isEmpty then none else some (.ok text)

/-- The bytes that wait for their terminator, and whether they belong to a frame that has
already been dropped for its length. -/
structure FrameDecoder where
  buffer : List UInt8 := []
  discarding : Bool := false
deriving Repr

namespace FrameDecoder

def push (d : FrameDecoder) (bytes : List UInt8) : FrameDecoder :=
  { d with buffer := d.buffer ++ bytes }

/-- Reads bytes up to the end of the next frame; `body` holds, newest first, the bytes of the
current frame read so far. A frame that is too long is dropped before its terminator arrives. -/
def scan (discarding : Bool) (body : List UInt8) :
    List UInt8 → Option FrameResult × FrameDecoder
  | [] =>
      if maxFrameLength < body.length then
        (if discarding then none else some (.error .overflow),
          { buffer := [], discarding := true })
      else (none, { buffer := body.reverse, discarding })
  | byte :: rest =>
      if byte = terminator then
        if discarding then scan false [] rest
        else match readBody body.reverse with
          | some result => (some result, { buffer := rest, discarding := false })
          | none => scan false [] rest
      else scan discarding (byte :: body) rest

def next (d : FrameDecoder) : Option FrameResult × FrameDecoder :=
  scan d.discarding [] d.buffer

theorem scan_length_lt {discarding : Bool} {body bytes : List UInt8} {result : FrameResult}
    (h : (scan discarding body bytes).1 = some result) :
    (scan discarding body bytes).2.buffer.length < body.length + bytes.length := by
  induction bytes generalizing discarding body with
  | nil =>
    rw [scan] at h ⊢
    split at h
    · simp_all [maxFrameLength]
      omega
    · simp at h
  | cons byte rest ih =>
    rw [scan] at h ⊢
    have skipped (h : (scan false [] rest).1 = some result) :
        (scan false [] rest).2.buffer.length < body.length + (byte :: rest).length :=
      Nat.lt_of_lt_of_le (ih h) (by simp; omega)
    split at h
    · split at h
      · simpa [*] using skipped h
      · split at h
        · simp [*]
          omega
        · simpa [*] using skipped h
    · have := ih h
      simp_all
      omega

theorem next_length_lt {d : FrameDecoder} {result : FrameResult} (h : d.next.1 = some result) :
    d.next.2.buffer.length < d.buffer.length := by
  simpa [next] using scan_length_lt h

def drain (d : FrameDecoder) : List FrameResult × FrameDecoder :=
  match h : d.next with
  | (none, d') => ([], d')
  | (some result, d') =>
      have : d'.buffer.length < d.buffer.length := by
        have shorter : d.next.2.buffer.length < d.buffer.length := next_length_lt (by rw [h])
        rwa [h] at shorter
      let (results, rest) := d'.drain
      (result :: results, rest)
termination_by d.buffer.length

end FrameDecoder

end HeaterHost.Wire
