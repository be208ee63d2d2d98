import HeaterHost.Proofs.Link.Course
import HeaterHost.Proofs.Link.OpenSession
import HeaterHost.Proofs.Text.Bytes
import HeaterHost.Simulator.Line

/-!
# Bytes that a link holds

A link reads only when its decoder has just had no frame, and then the decoder holds the beginning of
one at most, which it drops once that is longer than a frame can be. So whatever a board sends,
however that is cut into reads and however often a request leaves bytes to the next one, the link
never holds more than the longest frame and one read.
-/

namespace HeaterHost

open Wire

namespace Wire.FrameDecoder

/-- A decoder holds no more than the beginning of a frame that is not too long. -/
structure Drained (d : FrameDecoder) : Prop where
  short : d.buffer.length ≤ 512
  unended : 0 ∉ d.buffer

/-- What is left after the last terminator was scanned without one, so there is none in it. -/
theorem drained_scan {discarding : Bool} {body bytes : List UInt8} (hbody : terminator ∉ body)
    (hnone : (scan discarding body bytes).1 = none) : (scan discarding body bytes).2.Drained := by
  induction bytes generalizing discarding body with
  | nil =>
      rw [scan]
      split
      case isTrue => exact ⟨Nat.zero_le _, List.not_mem_nil⟩
      case isFalse hshort =>
        refine ⟨?_, mt List.mem_reverse.mp hbody⟩
        rw [List.length_reverse]
        exact Nat.le_of_not_lt hshort
  | cons byte rest ih =>
      rw [scan] at hnone ⊢
      by_cases hbyte : byte = terminator
      · rw [if_pos hbyte] at hnone ⊢
        cases discarding with
        | true => exact ih List.not_mem_nil hnone
        | false =>
            cases hread : readBody body.reverse with
            | some result => simp [hread] at hnone
            | none =>
                simp only [hread, Bool.false_eq_true, if_false] at hnone ⊢
                exact ih List.not_mem_nil hnone
      · rw [if_neg hbyte] at hnone ⊢
        exact ih (List.not_mem_cons_of_ne_of_not_mem (Ne.symm hbyte) hbody) hnone

theorem drained_next {d : FrameDecoder} (hnone : d.next.1 = none) : d.next.2.Drained :=
  drained_scan List.not_mem_nil hnone

theorem length_le_of_next {d d' : FrameDecoder} {result : FrameResult}
    (hnext : d.next = (some result, d')) : d'.buffer.length ≤ d.buffer.length := by
  have hshorter := next_length_lt (congrArg Prod.fst hnext)
  rw [hnext] at hshorter
  exact Nat.le_of_lt hshorter

end Wire.FrameDecoder

/-- A line on which no read gives more bytes than a link has room for. -/
def ShortReads (ω : Type) [Transport ω] : Prop :=
  ∀ (wire : ω) (limit : Instant) (bytes : List UInt8),
    (Transport.receive wire limit).1 = .data bytes → bytes.length ≤ 256

def Session.held {ω : Type} (s : Session ω) : Nat :=
  s.link.decoder.buffer.length

variable {ω : Type} [Transport ω]

/-! ### Operations that do not read -/

namespace Session

variable (s : Session ω)

theorem held_reopen_le : s.reopen.1.held ≤ s.held := by
  unfold reopen
  split
  · exact Nat.zero_le _
  · exact Nat.le_refl _

theorem held_writeFrame (text : String) : (s.writeFrame text).1.held = s.held := by
  unfold writeFrame
  split <;> rfl

theorem held_send_le (text : String) : (s.send text).1.held ≤ s.held :=
  send_keeps (P := fun s' => s'.held ≤ s.held)
    (fun opened hopened => Nat.le_trans opened.held_reopen_le hopened)
    (fun opened hopened => Nat.le_trans (Nat.le_of_eq (opened.held_writeFrame text)) hopened)
    (Nat.le_refl _)

end Session

/-! ### Lines with short reads -/

namespace Simulator

theorem Chunk.length_read_le {now limit : Instant} {chunks : List Chunk} {bytes : List UInt8}
    (hread : (Chunk.read now limit chunks).1 = .data bytes) : bytes.length ≤ 256 := by
  fun_induction Chunk.read now limit chunks with
  | case3 now block rest _ left =>
      cases hread
      exact List.length_take_le _ _
  | case4 now span rest _ ih => exact ih hread
  | _ => cases hread

theorem BoardLine.length_receive_le {l : BoardLine} {now limit : Instant} {bytes : List UInt8}
    (hreceive : (l.receive now limit).1 = .data bytes) : bytes.length ≤ 256 := by
  unfold receive at hreceive
  split at hreceive
  case h_1 =>
    split at hreceive
    case h_1 => cases hreceive
    case h_2 =>
      split at hreceive
      case isTrue => cases hreceive
      case isFalse => split at hreceive <;> cases hreceive
  case h_2 =>
    cases hreceive
    exact List.length_take_le _ _

/-- Whatever a host is tried out on reads no more at once than a serial port. -/
theorem Line.shortReads : ShortReads Line := by
  intro l limit bytes hreceive
  obtain ⟨now, farEnd⟩ := l
  cases farEnd with
  | board line => exact BoardLine.length_receive_le hreceive
  | script script => exact Chunk.length_read_le hreceive
  | absent => cases hreceive

end Simulator

/-! ### Courses -/

namespace Course

/-- What a link holds in the course of its operations: at most the longest frame and one read, and
before a read no more than the beginning of a frame. -/
structure Bounded (c : Course ω) : Prop where
  held : c.session.held ≤ 512 + 256
  drained : ∀ limit, c.stage = .reading limit → c.session.link.decoder.Drained

namespace Bounded

variable {c : Course ω} {limit : Instant}

omit [Transport ω] in
/-- Where no byte comes in and no read comes next, nothing is to be shown. -/
theorem of_held_le {c' : Course ω} (hc : c.Bounded) (hheld : c'.session.held ≤ c.session.held)
    (hstage : ∀ limit, c'.stage ≠ .reading limit) : c'.Bounded :=
  ⟨Nat.le_trans hheld hc.held, fun limit hreading => absurd hreading (hstage limit)⟩

theorem enter (hc : c.Bounded) : c.enter.Bounded := by
  unfold Course.enter
  split
  case h_1 => exact hc
  case h_2 rest hpending =>
    have hasked : c.session.ask.1.held ≤ c.session.held := c.session.held_send_le _
    split
    case h_1 asked error hask =>
      rw [hask] at hasked
      exact hc.of_held_le hasked nofun
    case h_2 asked hask =>
      rw [hask] at hasked
      exact hc.of_held_le hasked nofun
  case h_3 operation rest hrequest hpending =>
    refine hc.of_held_le ?_ nofun
    cases operation with
    | reopen => exact c.session.held_reopen_le
    | send text => exact c.session.held_send_le text
    | close => exact Nat.le_refl _
    | request => exact absurd rfl hrequest

theorem takeFrame (hc : c.Bounded) (hsifting : c.stage = .sifting limit) :
    (c.takeFrame limit).Bounded := by
  have hsame : ∀ limit', c.stage ≠ .reading limit' := by simp [hsifting]
  unfold Course.takeFrame
  split
  case h_1 decoder hnext =>
    have hdrained : c.session.link.decoder.next.2.Drained :=
      FrameDecoder.drained_next (congrArg Prod.fst hnext)
    rw [hnext] at hdrained
    -- only here does the link go on to read, however much the last request left behind
    exact ⟨Nat.le_trans hdrained.short (Nat.le_add_right _ _), fun _ _ => hdrained⟩
  case h_2 error decoder hnext =>
    exact hc.of_held_le (FrameDecoder.length_le_of_next hnext) hsame
  case h_3 text decoder hnext =>
    have hheld := FrameDecoder.length_le_of_next hnext
    dsimp only
    split
    · rcases Telemetry.parse text with error | telemetry
      · exact hc.of_held_le hheld nofun
      · exact hc.of_held_le hheld nofun
    · exact hc.of_held_le hheld hsame

theorem read (hreads : ShortReads ω) (hc : c.Bounded) (hreading : c.stage = .reading limit) :
    (c.read limit).Bounded := by
  unfold Course.read
  split
  case h_1 bytes wire hreceive =>
    have hbytes := hreads c.session.wire limit bytes (congrArg Prod.fst hreceive)
    have hshort := (hc.drained limit hreading).short
    refine ⟨?_, nofun⟩
    change (c.session.link.decoder.buffer ++ bytes).length ≤ 512 + 256
    rw [List.length_append]
    exact Nat.add_le_add hshort hbytes
  all_goals exact hc.of_held_le (Nat.le_refl _) nofun

theorem step (hreads : ShortReads ω) (hc : c.Bounded) : c.step.Bounded := by
  unfold Course.step
  split
  case h_1 => exact hc.enter
  case h_2 limit hsifting => exact hc.takeFrame hsifting
  case h_3 limit hreading => exact hc.read hreads hreading

theorem iterate (hreads : ShortReads ω) (hc : c.Bounded) (n : Nat) :
    (Course.step^[n] c).Bounded := by
  induction n generalizing c with
  | zero => exact hc
  | succ n ih => exact ih (hc.step hreads)

end Bounded

/-- **Line noise does not fill the memory.** Whatever a board sends, in reads of 256 bytes at most,
and whatever operations there are on a new link: after every step of their course the decoder holds
512 bytes and one read at most, and whenever it has no frame to give it is left with at most 512
bytes and no zero byte, which is what it holds before every read. The course passes through what
each of the operations leaves. -/
theorem held_bytes_bounded (hreads : ShortReads ω) (endpoint : String) (timeout : Span) (wire : ω)
    (operations : List LinkOperation) :
    let start : Session ω := { link := { endpoint, timeout }, wire }
    (∀ n, let d := (after start operations n).session.link.decoder
      d.buffer.length ≤ 512 + 256 ∧
        (d.next.1 = none → d.next.2.buffer.length ≤ 512 ∧ 0 ∉ d.next.2.buffer) ∧
        (∀ limit, (after start operations n).stage = .reading limit →
          d.buffer.length ≤ 512 ∧ 0 ∉ d.buffer)) ∧
      ∀ performed pending, operations = performed ++ pending →
        ∃ n, after start operations n = { session := start.replay performed, pending } := by
  intro start
  constructor
  · intro n
    have hstart : Bounded { session := start, pending := operations } := ⟨Nat.zero_le _, nofun⟩
    have hcourse : (after start operations n).Bounded := hstart.iterate hreads n
    refine ⟨hcourse.held, fun hnone => ?_, fun limit hreading => ?_⟩
    · obtain ⟨hshort, hunended⟩ := FrameDecoder.drained_next hnone
      exact ⟨hshort, hunended⟩
    · obtain ⟨hshort, hunended⟩ := hcourse.drained limit hreading
      exact ⟨hshort, hunended⟩
  · rintro performed pending rfl
    exact reaches_replay pending start performed

/-- A board that sends noise before it answers two queries in one read. -/
def noisyLine : Simulator.Line :=
  { farEnd := .script { entries := [.accept {
      answers := [[.bytes (List.replicate 1000 0x78 ++ [0]),
        .bytes (Text.bytes "tick:1, T_a:2500\x00tick:2, T_a:2510\x00")]]
      writesLeft := none }] } }

def noisyCourse (n : Nat) : Course Simulator.Line :=
  after { link := { endpoint := "board", timeout := Span.second }, wire := noisyLine }
    [.request, .request] n

/-- The bound is reached before the noise is dropped. The first request leaves the answer to the
second one behind, which is ended by a zero byte. -/
theorem noisyCourse_held_bytes :
    ShortReads Simulator.Line ∧
      (noisyCourse 7).session.held = 512 + 256 ∧
      (noisyCourse 13).stage = .resting ∧ 0 ∈ (noisyCourse 13).session.link.decoder.buffer ∧
      ∀ n, (noisyCourse n).session.held ≤ 512 + 256 ∧
        ∀ limit, (noisyCourse n).stage = .reading limit → (noisyCourse n).session.held ≤ 512 := by
  have hbounded := held_bytes_bounded Simulator.Line.shortReads "board" Span.second noisyLine
    [.request, .request]
  refine ⟨Simulator.Line.shortReads, by decide +kernel, by decide +kernel, by decide +kernel,
    fun n => ⟨(hbounded.1 n).1, fun limit hreading => ?_⟩⟩
  exact ((hbounded.1 n).2.2 limit hreading).1

end Course

end HeaterHost
