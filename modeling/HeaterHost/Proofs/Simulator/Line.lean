import HeaterHost.Proofs.Simulator.Board
import HeaterHost.Proofs.Wire.FrameStream

/-!
# What a frame leaves on the line

A board writes whole frames. Among those that it writes for one frame from the host there is at
most one line of telemetry, and only if that frame was a query.
-/

namespace HeaterHost

open Text Wire

def Wire.isReport : FrameResult → Bool
  | .ok text => isTelemetry text
  | .error _ => false

def Wire.reports (results : List FrameResult) : Nat :=
  results.countP isReport

namespace Simulator

/-- Bytes that are whole frames, with at most so many lines of telemetry in them. -/
structure Frames (limit : Nat) (bytes : List UInt8) : Prop where
  settled : FrameDecoder.position false [] bytes = (false, [])
  reports : reports (FrameDecoder.outcomes false [] bytes) ≤ limit

namespace Frames

variable {limit limit' : Nat} {bytes body more : List UInt8}

theorem nil : Frames limit [] :=
  ⟨rfl, Nat.zero_le limit⟩

theorem frame (hbody : terminator ∉ body) (hreports : Wire.reports (readBody body).toList ≤ limit) :
    Frames limit (FrameDecoder.frame body) := by
  refine ⟨FrameDecoder.position_single_frame hbody, ?_⟩
  rw [FrameDecoder.outcomes_single_frame hbody]
  exact hreports

theorem append (hbytes : Frames limit bytes) (hmore : Frames limit' more) :
    Frames (limit + limit') (bytes ++ more) := by
  have hfirst := hbytes.reports
  have hlater := hmore.reports
  refine ⟨(FrameDecoder.position_append hbytes.settled more).trans hmore.settled, ?_⟩
  rw [FrameDecoder.outcomes_append hbytes.settled]
  unfold Wire.reports at hfirst hlater ⊢
  rw [List.countP_append]
  omega

theorem mono (hframes : Frames limit more) (hle : limit ≤ limit') : Frames limit' more :=
  ⟨hframes.settled, Nat.le_trans hframes.reports hle⟩

end Frames

theorem reports_readBody_le (body : List UInt8) : reports (readBody body).toList ≤ 1 := by
  cases readBody body with
  | none => exact Nat.zero_le 1
  | some result => exact List.countP_le_length

theorem reports_readBody_of_quiet {reply : String} (hquiet : Quiet reply) :
    reports (readBody (bytes reply)).toList = 0 := by
  rw [readBody, fromUTF8?_bytes]
  split
  · rfl
  · dsimp only
    split
    · rfl
    · exact List.countP_eq_zero.mpr (by simp [isReport, hquiet.isTelemetry_trim])

theorem terminator_notMem_bytes {reply : String} (hreply : '\x00' ∉ reply.toList) :
    terminator ∉ bytes reply := by
  intro hmem
  exact hreply (zero_mem_bytes_iff.mp hmem)

theorem frames_flatMap {replies : List String} (hwhole : ∀ reply ∈ replies, '\x00' ∉ reply.toList) :
    Frames replies.length (replies.flatMap fun reply => FrameDecoder.frame (bytes reply)) := by
  induction replies with
  | nil => exact .nil
  | cons reply replies ih =>
      obtain ⟨hreply, hrest⟩ := List.forall_mem_cons.mp hwhole
      rw [List.flatMap_cons, List.length_cons, Nat.add_comm]
      exact (Frames.frame (terminator_notMem_bytes hreply) (reports_readBody_le _)).append (ih hrest)

theorem frames_flatMap_of_quiet {replies : List String} (hquiet : ∀ reply ∈ replies, Quiet reply) :
    Frames 0 (replies.flatMap fun reply => FrameDecoder.frame (bytes reply)) := by
  induction replies with
  | nil => exact .nil
  | cons reply replies ih =>
      obtain ⟨hreply, hrest⟩ := List.forall_mem_cons.mp hquiet
      rw [List.flatMap_cons]
      exact (Frames.frame (terminator_notMem_bytes hreply.whole)
        (Nat.le_of_eq (reports_readBody_of_quiet hreply))).append (ih hrest)

namespace BoardLine

/-- Garbage ahead of the answers is a frame of its own, and no telemetry. -/
theorem frames_replyBytes {limit : Nat} (garbage : Bool) {replies : List String}
    (hframes : Frames limit (replies.flatMap fun reply => FrameDecoder.frame (bytes reply))) :
    Frames limit (replyBytes garbage replies) := by
  unfold replyBytes
  split
  · exact .nil
  · cases garbage with
    | false => exact hframes
    | true =>
        have hgarbage : Frames 0 (FrameDecoder.frame [0xFF, 0xFE]) :=
          .frame (by decide) (by decide +kernel)
        have hall := hgarbage.append hframes
        rw [Nat.zero_add] at hall
        exact hall

/-- What a line is like after its board has been handed a frame of the host's: the answers are
whole frames, and the power is that of the frame if it set one. -/
structure Handled (l : BoardLine) (stream : BoardStream) (body : List UInt8) (l' : BoardLine)
    (stream' : BoardStream) : Prop where
  clean : l'.board.Clean
  answers : ∃ more, stream'.replies = stream.replies ++ more ∧
    Frames (if body = DeviceCommand.queryTelemetry.body then 1 else 0) more
  told : ∀ power, body = (DeviceCommand.setPower power).body →
    l'.board.power = Board.toldPower power
  untold : (∀ power, body ≠ (DeviceCommand.setPower power).body) → l'.board.power = l.board.power

theorem handle_text (l : BoardLine) (stream : BoardStream) (now : Instant) (text : String) :
    l.handle stream now (bytes text) =
      match l.board.handle l.switches now text with
      | (board, some replies) =>
          ({ l with board },
            { stream with
              replies := stream.replies ++ replyBytes l.switches.garbage replies })
      | (board, none) => ({ l with board }, { stream with closesAt := some now }) := by
  cases hboard : l.board.handle l.switches now text with
  | mk board answer =>
      cases answer with
      | none => simp only [handle, fromUTF8?_bytes, hboard]
      | some replies => simp only [handle, fromUTF8?_bytes, hboard]

theorem handled_row {l l' : BoardLine} {stream stream' : BoardStream} {now : Instant}
    {row : List Instruction} (hclean : l.board.Clean)
    (hrow : ∀ i ∈ row, i.Legible ∧ i.name ≠ "d") (hpwr : ∀ i ∈ row, i.name ≠ "pwr")
    (hquery : bytes (Instruction.frameText row) ≠ DeviceCommand.queryTelemetry.body)
    (hpower : ∀ power, bytes (Instruction.frameText row) ≠ (DeviceCommand.setPower power).body)
    (hhandle : l.handle stream now (bytes (Instruction.frameText row)) = (l', stream')) :
    l.Handled stream (bytes (Instruction.frameText row)) l' stream' := by
  obtain ⟨board, replies, hboard, hobeyed⟩ := l.board.handle_of_no_query l.switches now hrow
  rw [handle_text, hboard] at hhandle
  cases hhandle
  refine ⟨hobeyed.clean hclean, ⟨_, rfl, ?_⟩, ?_, ?_⟩
  · rw [if_neg hquery]
    exact frames_replyBytes _ (frames_flatMap_of_quiet hobeyed.quiet)
  · intro power hbody
    exact absurd hbody (hpower power)
  · intro _
    exact hobeyed.power hpwr

theorem handled_query {l l' : BoardLine} {stream stream' : BoardStream} {now : Instant}
    (hclean : l.board.Clean)
    (hhandle : l.handle stream now DeviceCommand.queryTelemetry.body = (l', stream')) :
    l.Handled stream DeviceCommand.queryTelemetry.body l' stream' := by
  obtain ⟨board, answer, hboard, hpower, hclean', hanswer⟩ :=
    l.board.handle_query l.switches now hclean
  have hno : ∀ power, DeviceCommand.queryTelemetry.body ≠ (DeviceCommand.setPower power).body := by
    intro power hbody
    cases DeviceCommand.letter_eq_of_body_eq hbody
  rw [DeviceCommand.body, handle_text, hboard] at hhandle
  cases answer with
  | none =>
      cases hhandle
      exact ⟨hclean', ⟨[], (List.append_nil _).symm, .nil⟩, fun power heq => absurd heq (hno power),
        fun _ => hpower⟩
  | some replies =>
      cases hhandle
      obtain ⟨hlength, hwhole⟩ := hanswer replies rfl
      refine ⟨hclean', ⟨_, rfl, ?_⟩, fun power heq => absurd heq (hno power), fun _ => hpower⟩
      rw [if_pos rfl]
      exact frames_replyBytes _ ((frames_flatMap hwhole).mono hlength)

theorem handled_setPower {l l' : BoardLine} {stream stream' : BoardStream} {now : Instant}
    {power : Float} (hclean : l.board.Clean)
    (hhandle : l.handle stream now (DeviceCommand.setPower power).body = (l', stream')) :
    l.Handled stream (DeviceCommand.setPower power).body l' stream' := by
  rw [DeviceCommand.body, handle_text, Board.handle_setPower] at hhandle
  cases hhandle
  refine ⟨hclean, ⟨[], ?_, .nil⟩, ?_, fun hno => absurd rfl (hno power)⟩
  · exact congrArg (stream.replies ++ ·) rfl
  · intro other hbody
    have htext := DeviceCommand.text_eq_of_body_eq hbody
    have hfixed : Decimal.fixed 3 power = Decimal.fixed 3 other := by
      simpa [DeviceCommand.text] using htext
    exact congrArg (fun text => Scalar.clamp 0.0 1.0 ((Decimal.read? text).getD 0.0)) hfixed

theorem handled_upload {l l' : BoardLine} {stream stream' : BoardStream} {now : Instant}
    {gains : Gains Float} (hclean : l.board.Clean)
    (hhandle : l.handle stream now (uploadBody gains) = (l', stream')) :
    l.Handled stream (uploadBody gains) l' stream' := by
  have hnames : ∀ i ∈ (DeviceCommand.setGains gains).instructions ++
      DeviceCommand.resetErrorFlags.instructions, i.name ≠ "d" ∧ i.name ≠ "pwr" :=
    List.forall_mem_append.mpr
      ⟨DeviceCommand.names_instructions (by simp [DeviceCommand.letter])
        (by simp [DeviceCommand.letter]),
      DeviceCommand.names_instructions (by decide) (by decide)⟩
  have hlegible := List.forall_mem_append.mpr
    ⟨(DeviceCommand.setGains gains).legible_instructions,
      DeviceCommand.resetErrorFlags.legible_instructions⟩
  have hother : ∀ command : DeviceCommand Float, uploadBody gains ≠ command.body := by
    intro command
    exact (body_ne_uploadBody command gains).symm
  unfold uploadBody at hhandle hother ⊢
  rw [uploadText_eq] at hhandle hother ⊢
  exact handled_row hclean (fun i hi => ⟨hlegible i hi, (hnames i hi).1⟩)
    (fun i hi => (hnames i hi).2) (hother _) (fun power => hother _) hhandle

/-- A command that neither asks for telemetry nor sets the power. -/
theorem handled_other {l l' : BoardLine} {stream stream' : BoardStream} {now : Instant}
    {command : DeviceCommand Float} (hclean : l.board.Clean) (hquery : command.letter ≠ 'd')
    (hpower : command.letter ≠ 'p')
    (hhandle : l.handle stream now command.body = (l', stream')) :
    l.Handled stream command.body l' stream' := by
  have hnames := DeviceCommand.names_instructions hquery hpower
  have hother : ∀ other : DeviceCommand Float, command.letter ≠ other.letter →
      command.body ≠ other.body := by
    intro other hne hbody
    exact hne (DeviceCommand.letter_eq_of_body_eq hbody)
  unfold DeviceCommand.body at hhandle hother ⊢
  rw [command.text_eq] at hhandle hother ⊢
  exact handled_row hclean (fun i hi => ⟨command.legible_instructions i hi, (hnames i hi).1⟩)
    (fun i hi => (hnames i hi).2) (hother .queryTelemetry hquery)
    (fun power => hother (.setPower power) hpower) hhandle

theorem handled_sent {l l' : BoardLine} {stream stream' : BoardStream} {now : Instant}
    {gains : Gains Float} {body : List UInt8} (hclean : l.board.Clean) (hsent : Sent gains body)
    (hhandle : l.handle stream now body = (l', stream')) : l.Handled stream body l' stream' := by
  cases hsent with
  | query => exact handled_query hclean hhandle
  | upload => exact handled_upload hclean hhandle
  | order command hcommand =>
      cases command with
      | queryTelemetry => exact absurd rfl hcommand
      | setPower power => exact handled_setPower hclean hhandle
      | _ =>
          apply handled_other hclean _ _ hhandle
          · simp [DeviceCommand.letter]
          · simp [DeviceCommand.letter]

end BoardLine

end Simulator

end HeaterHost
