import HeaterHost.Link.Basic
import HeaterHost.Proofs.Text.Bytes

/-!
# Frames in a stream of bytes

The frames of a stream do not depend on how it is split into reads: what a decoder has given out
and what it will still give out is always what the whole stream holds. A link that goes through its
frames takes one piece of telemetry at a time and leaves the rest.
-/

namespace HeaterHost

namespace Wire.FrameDecoder

/-- The frames that a decoder gives out for bytes to come, after the bytes of the current frame,
newest first, in `body`. -/
def outcomes (discarding : Bool) (body : List UInt8) : List UInt8 → List FrameResult
  | [] =>
      if maxFrameLength < body.length ∧ discarding = false then [.error .overflow] else []
  | byte :: rest =>
      if byte = terminator then
        (if discarding then [] else (readBody body.reverse).toList) ++ outcomes false [] rest
      else outcomes discarding (byte :: body) rest

/-- Where a decoder stands after bytes: whether it discards, and the bytes of its current frame. -/
def position (discarding : Bool) (body : List UInt8) : List UInt8 → Bool × List UInt8
  | [] => (discarding, body)
  | byte :: rest =>
      if byte = terminator then position false [] rest else position discarding (byte :: body) rest

theorem outcomes_of_no_terminator {discarding : Bool} {body bytes : List UInt8}
    (hbytes : terminator ∉ bytes) (ahead : List UInt8) :
    outcomes discarding body (bytes ++ ahead) =
      outcomes discarding (bytes.reverse ++ body) ahead := by
  induction bytes generalizing body with
  | nil => rfl
  | cons byte rest ih =>
      have hbyte := List.ne_of_not_mem_cons hbytes
      have hrest := List.not_mem_of_not_mem_cons hbytes
      rw [List.cons_append, outcomes, if_neg (Ne.symm hbyte), ih hrest, List.reverse_cons,
        List.append_assoc, List.singleton_append]

theorem position_of_no_terminator {discarding : Bool} {body bytes : List UInt8}
    (hbytes : terminator ∉ bytes) (ahead : List UInt8) :
    position discarding body (bytes ++ ahead) =
      position discarding (bytes.reverse ++ body) ahead := by
  induction bytes generalizing body with
  | nil => rfl
  | cons byte rest ih =>
      have hbyte := List.ne_of_not_mem_cons hbytes
      have hrest := List.not_mem_of_not_mem_cons hbytes
      rw [List.cons_append, position, if_neg (Ne.symm hbyte), ih hrest, List.reverse_cons,
        List.append_assoc, List.singleton_append]

/-- While a frame is discarded its bytes do not count. -/
theorem outcomes_discarding (body body' bytes : List UInt8) :
    outcomes true body bytes = outcomes true body' bytes := by
  induction bytes generalizing body body' with
  | nil => simp [outcomes]
  | cons byte rest ih =>
      rw [outcomes, outcomes]
      split
      · rfl
      · exact ih ..

theorem readBody_of_long {body : List UInt8} (hlong : maxFrameLength < body.length) :
    readBody body = some (.error .overflow) := by
  rw [readBody, if_pos hlong]

/-- A frame that has grown too long is reported once, whether at its end or before. -/
theorem outcomes_of_long {body : List UInt8} (hlong : maxFrameLength < body.length)
    (bytes : List UInt8) :
    outcomes false body bytes = .error .overflow :: outcomes true [] bytes := by
  induction bytes generalizing body with
  | nil => simp [outcomes, hlong]
  | cons byte rest ih =>
      rw [outcomes, outcomes]
      split
      · rw [readBody_of_long (by simpa using hlong)]
        rfl
      · have hlonger : maxFrameLength < (byte :: body).length := by
          rw [List.length_cons]
          omega
        rw [ih hlonger, outcomes_discarding [] [byte]]

/-- What is scanned off a buffer, and what is left of it, are together what the buffer and the
bytes to come hold. -/
theorem outcomes_scan {discarding : Bool} {body : List UInt8} (hbody : terminator ∉ body)
    (bytes ahead : List UInt8) :
    outcomes discarding body (bytes ++ ahead) =
      (scan discarding body bytes).1.toList ++
        outcomes (scan discarding body bytes).2.discarding []
          ((scan discarding body bytes).2.buffer ++ ahead) := by
  induction bytes generalizing discarding body with
  | nil =>
      rw [scan, List.nil_append]
      split
      case isTrue hlong =>
        cases discarding with
        | false => exact outcomes_of_long hlong ahead
        | true => exact outcomes_discarding ..
      case isFalse =>
        have hreverse : terminator ∉ body.reverse := by simpa using hbody
        rw [outcomes_of_no_terminator hreverse]
        simp
  | cons byte rest ih =>
      rw [scan, List.cons_append, outcomes]
      split
      · cases discarding with
        | true => simpa using ih List.not_mem_nil
        | false =>
            cases hread : readBody body.reverse with
            | some result => simp
            | none => simpa [hread] using ih List.not_mem_nil
      case isFalse hbyte => exact ih (List.not_mem_cons_of_ne_of_not_mem (Ne.symm hbyte) hbody)

/-- Only a terminator brings a decoder back to the start of a frame. -/
theorem position_congr {discarding discarding' : Bool} {body body' bytes : List UInt8}
    (hbody : body ≠ []) (hposition : position discarding body bytes = (false, [])) :
    position discarding' body' bytes = (false, []) := by
  induction bytes generalizing body body' with
  | nil =>
      simp only [position, Prod.mk.injEq] at hposition
      exact absurd hposition.2 hbody
  | cons byte rest ih =>
      rw [position] at hposition ⊢
      split at hposition
      case isTrue hbyte => rwa [if_pos hbyte]
      case isFalse hbyte =>
        rw [if_neg hbyte]
        exact ih (List.cons_ne_nil _ _) hposition

theorem position_scan {discarding : Bool} {body : List UInt8} (hbody : terminator ∉ body)
    {bytes ahead : List UInt8}
    (hposition : position discarding body (bytes ++ ahead) = (false, [])) :
    position (scan discarding body bytes).2.discarding []
      ((scan discarding body bytes).2.buffer ++ ahead) = (false, []) := by
  induction bytes generalizing discarding body with
  | nil =>
      rw [scan]
      split
      case isTrue hlong =>
        refine position_congr ?_ hposition
        rintro rfl
        simp at hlong
      case isFalse =>
        have hreverse : terminator ∉ body.reverse := by simpa using hbody
        rw [position_of_no_terminator hreverse]
        simpa using hposition
  | cons byte rest ih =>
      rw [List.cons_append, position] at hposition
      rw [scan]
      split at hposition
      case isTrue hbyte =>
        rw [if_pos hbyte]
        cases discarding with
        | true => simpa using ih List.not_mem_nil hposition
        | false =>
            cases hread : readBody body.reverse with
            | some result => simpa using hposition
            | none => simpa [hread] using ih List.not_mem_nil hposition
      case isFalse hbyte =>
        rw [if_neg hbyte]
        exact ih (List.not_mem_cons_of_ne_of_not_mem (Ne.symm hbyte) hbody) hposition

/-- All frames of what a decoder holds and what is to come. -/
def outlook (d : FrameDecoder) (ahead : List UInt8) : List FrameResult :=
  outcomes d.discarding [] (d.buffer ++ ahead)

/-- What a decoder holds and what is to come end with a frame. -/
def Settled (d : FrameDecoder) (ahead : List UInt8) : Prop :=
  position d.discarding [] (d.buffer ++ ahead) = (false, [])

theorem outlook_push (d : FrameDecoder) (bytes ahead : List UInt8) :
    (d.push bytes).outlook ahead = d.outlook (bytes ++ ahead) := by
  rw [outlook, outlook, push, List.append_assoc]

theorem outlook_next (d : FrameDecoder) (ahead : List UInt8) :
    d.outlook ahead = d.next.1.toList ++ d.next.2.outlook ahead :=
  outcomes_scan List.not_mem_nil d.buffer ahead

theorem Settled.push {d : FrameDecoder} {bytes ahead : List UInt8}
    (hsettled : d.Settled (bytes ++ ahead)) : (d.push bytes).Settled ahead := by
  rw [Settled, FrameDecoder.push, List.append_assoc]
  exact hsettled

theorem Settled.next {d : FrameDecoder} {ahead : List UInt8} (hsettled : d.Settled ahead) :
    d.next.2.Settled ahead :=
  position_scan List.not_mem_nil hsettled

theorem outcomes_append {discarding : Bool} {body bytes : List UInt8}
    (hposition : position discarding body bytes = (false, [])) (ahead : List UInt8) :
    outcomes discarding body (bytes ++ ahead) =
      outcomes discarding body bytes ++ outcomes false [] ahead := by
  induction bytes generalizing discarding body with
  | nil =>
      simp only [position, Prod.mk.injEq] at hposition
      obtain ⟨rfl, rfl⟩ := hposition
      rfl
  | cons byte rest ih =>
      rw [position] at hposition
      rw [List.cons_append, outcomes, outcomes]
      split at hposition
      case isTrue hbyte => rw [if_pos hbyte, if_pos hbyte, ih hposition, List.append_assoc]
      case isFalse hbyte => rw [if_neg hbyte, if_neg hbyte, ih hposition]

theorem position_append {discarding : Bool} {body bytes : List UInt8}
    (hposition : position discarding body bytes = (false, [])) (ahead : List UInt8) :
    position discarding body (bytes ++ ahead) = position false [] ahead := by
  induction bytes generalizing discarding body with
  | nil =>
      simp only [position, Prod.mk.injEq] at hposition
      obtain ⟨rfl, rfl⟩ := hposition
      rfl
  | cons byte rest ih =>
      rw [position] at hposition
      rw [List.cons_append, position]
      split at hposition
      case isTrue hbyte => rw [if_pos hbyte, ih hposition]
      case isFalse hbyte => rw [if_neg hbyte, ih hposition]

theorem Settled.outlook_append {d : FrameDecoder} {ahead : List UInt8}
    (hsettled : d.Settled ahead) (more : List UInt8) :
    d.outlook (ahead ++ more) = d.outlook ahead ++ outcomes false [] more := by
  rw [outlook, ← List.append_assoc]
  exact outcomes_append hsettled more

theorem Settled.append {d : FrameDecoder} {ahead more : List UInt8} (hsettled : d.Settled ahead)
    (hmore : position false [] more = (false, [])) : d.Settled (ahead ++ more) := by
  rw [Settled, ← List.append_assoc, position_append hsettled]
  exact hmore

/-! ### Whole frames -/

def frame (body : List UInt8) : List UInt8 :=
  body ++ [terminator]

theorem outcomes_frame {body : List UInt8} (hbody : terminator ∉ body) (ahead : List UInt8) :
    outcomes false [] (frame body ++ ahead) = (readBody body).toList ++ outcomes false [] ahead := by
  rw [frame, List.append_assoc, outcomes_of_no_terminator hbody, List.append_nil,
    List.singleton_append, outcomes, if_pos rfl, List.reverse_reverse]
  rfl

theorem position_frame {body : List UInt8} (hbody : terminator ∉ body) (ahead : List UInt8) :
    position false [] (frame body ++ ahead) = position false [] ahead := by
  rw [frame, List.append_assoc, position_of_no_terminator hbody, List.append_nil,
    List.singleton_append, position, if_pos rfl]

theorem outcomes_single_frame {body : List UInt8} (hbody : terminator ∉ body) :
    outcomes false [] (frame body) = (readBody body).toList := by
  have houtcomes := outcomes_frame hbody []
  rw [List.append_nil] at houtcomes
  rw [houtcomes, outcomes]
  exact List.append_nil _

theorem position_single_frame {body : List UInt8} (hbody : terminator ∉ body) :
    position false [] (frame body) = (false, []) := by
  have hposition := position_frame hbody []
  rwa [List.append_nil] at hposition

end Wire.FrameDecoder

open Wire

/-! ### Lines of telemetry -/

def Wire.telemetryLine? : FrameResult → Option String
  | .ok text => if isTelemetry text then some text else none
  | .error _ => none

def Wire.telemetryLines (results : List FrameResult) : List String :=
  results.filterMap telemetryLine?

/-- A link that goes through its frames stops at the first line of telemetry that there is to hear
and takes it. -/
theorem Link.sift_telemetryLines {l l' : Link} {now : Instant}
    {result : Option (Except TelemetryError Telemetry)} {ahead : List UInt8}
    (hsettled : l.decoder.Settled ahead) (hsift : l.sift now = (l', result)) :
    l'.isOpen = l.isOpen ∧ l'.decoder.Settled ahead ∧
      ∃ found : Option String, result = found.map Telemetry.parse ∧
        telemetryLines (l.decoder.outlook ahead) =
          found.toList ++ telemetryLines (l'.decoder.outlook ahead) := by
  fun_induction Link.sift l now with
  | case1 l decoder hnext =>
      have houtlook := l.decoder.outlook_next ahead
      have hlater := hsettled.next
      rw [hnext] at houtlook hlater
      cases hsift
      exact ⟨rfl, hlater, none, rfl, congrArg telemetryLines houtlook⟩
  | case2 l decoder l' error hnext _ _ ih =>
      have houtlook := l.decoder.outlook_next ahead
      have hlater := hsettled.next
      rw [hnext] at houtlook hlater
      obtain ⟨hopen, hrest, found, hfound, hlines⟩ := ih hlater hsift
      refine ⟨hopen, hrest, found, hfound, ?_⟩
      rw [houtlook, ← hlines]
      rfl
  | case3 l decoder l' text hnext htelemetry =>
      have houtlook := l.decoder.outlook_next ahead
      have hlater := hsettled.next
      rw [hnext] at houtlook hlater
      cases hsift
      refine ⟨rfl, hlater, some text, rfl, ?_⟩
      rw [houtlook]
      exact List.filterMap_cons_some (if_pos htelemetry)
  | case4 l decoder l' text hnext htelemetry _ _ ih =>
      have houtlook := l.decoder.outlook_next ahead
      have hlater := hsettled.next
      rw [hnext] at houtlook hlater
      obtain ⟨hopen, hrest, found, hfound, hlines⟩ := ih hlater hsift
      refine ⟨hopen, hrest, found, hfound, ?_⟩
      rw [houtlook, ← hlines]
      exact List.filterMap_cons_none (if_neg htelemetry)

end HeaterHost
