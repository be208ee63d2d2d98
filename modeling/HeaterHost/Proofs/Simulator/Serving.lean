import HeaterHost.Proofs.Simulator.Line
import HeaterHost.Proofs.Simulator.Obedience

/-!
# Frames that arrive in pieces

A board reads what has arrived, handles the frames that are complete and keeps the bytes of the one
that is not. However the bytes of the host's frames are cut into reads, it ends up having performed
the commands in them.
-/

namespace HeaterHost.Simulator

open Text Wire

/-- A board at its end of an open stream, with the bytes that wait for their terminator. -/
structure Serving where
  line : BoardLine
  stream : BoardStream
  pending : List UInt8 := []

namespace Serving

/-- Takes the bytes of a read; the board handles all frames that are now complete. -/
def read (s : Serving) (now : Instant) (bytes : List UInt8) : Serving :=
  if BoardLine.BoardStream.isClosed s.stream now then s
  else
    let (line, stream) := s.line.handleAll s.stream now (BoardLine.bodies (s.pending ++ bytes))
    { line, stream, pending := ((s.pending ++ bytes).splitOn terminator).getLastD [] }

def serve (s : Serving) (deliveries : List (Instant × List UInt8)) : Serving :=
  deliveries.foldl (fun s delivery => s.read delivery.1 delivery.2) s

/-- A write of the host is read by the board at once. -/
theorem write_eq_read {line : BoardLine} {stream : BoardStream} {now : Instant}
    (hstream : line.stream = some stream)
    (hopen : BoardLine.BoardStream.isClosed stream now = false) (bytes : List UInt8) :
    line.write now bytes =
      (.ok (), { (read { line, stream } now bytes).line with
        stream := some (read { line, stream } now bytes).stream }) := by
  simp [BoardLine.write, hstream, hopen, read]

/-! ### Frames and what is left of them -/

theorem splitOn_frames {bodies : List (List UInt8)} {rest : List UInt8}
    (hbodies : ∀ body ∈ bodies, terminator ∉ body) (hrest : terminator ∉ rest) :
    (bodies.flatMap FrameDecoder.frame ++ rest).splitOn terminator = bodies ++ [rest] := by
  induction bodies with
  | nil => exact List.splitOn_eq_singleton hrest
  | cons body bodies ih =>
      obtain ⟨hbody, hlater⟩ := List.forall_mem_cons.mp hbodies
      rw [List.flatMap_cons, FrameDecoder.frame, List.append_assoc, List.append_assoc,
        List.singleton_append, List.splitOn_append_cons_self_of_not_mem hbody, ih hlater]
      rfl

/-- Wherever a stream of frames is cut, whole frames lie before the cut and a piece of the next. -/
theorem frames_cut {bodies : List (List UInt8)} {before after : List UInt8}
    (hbodies : ∀ body ∈ bodies, terminator ∉ body)
    (hcut : before ++ after = bodies.flatMap FrameDecoder.frame) :
    ∃ done left rest, bodies = done ++ left ∧ before = done.flatMap FrameDecoder.frame ++ rest ∧
      terminator ∉ rest ∧ rest ++ after = left.flatMap FrameDecoder.frame := by
  induction bodies generalizing before with
  | nil =>
      obtain ⟨rfl, rfl⟩ := List.append_eq_nil_iff.mp hcut
      exact ⟨[], [], [], rfl, rfl, List.not_mem_nil, rfl⟩
  | cons body bodies ih =>
      obtain ⟨hbody, hlater⟩ := List.forall_mem_cons.mp hbodies
      rw [List.flatMap_cons] at hcut
      rcases List.append_eq_append_iff.mp hcut with ⟨inside, hframe, hafter⟩ | ⟨beyond, rfl, hmore⟩
      · rcases List.eq_nil_or_concat inside with rfl | ⟨front, last, rfl⟩
        · rw [List.append_nil] at hframe
          exact ⟨[body], bodies, [], rfl, by simp [hframe], List.not_mem_nil, hafter⟩
        · have hbefore : body = before ++ front := by
            rw [FrameDecoder.frame, List.concat_eq_append, ← List.append_assoc] at hframe
            exact (List.append_inj' hframe rfl).1
          refine ⟨[], body :: bodies, before, rfl, rfl, ?_, hcut⟩
          intro hmem
          exact hbody (hbefore ▸ List.mem_append_left front hmem)
      · obtain ⟨done, left, rest, rfl, rfl, hrest, hleft⟩ := ih hlater hmore.symm
        refine ⟨body :: done, left, rest, rfl, ?_, hrest, hleft⟩
        rw [List.flatMap_cons, List.append_assoc]

theorem count_frames {bodies : List (List UInt8)} (hbodies : ∀ body ∈ bodies, terminator ∉ body) :
    (bodies.flatMap FrameDecoder.frame).count terminator = bodies.length := by
  induction bodies with
  | nil => rfl
  | cons body bodies ih =>
      obtain ⟨hbody, hlater⟩ := List.forall_mem_cons.mp hbodies
      rw [List.flatMap_cons, List.count_append, ih hlater, FrameDecoder.frame, List.count_append,
        List.count_eq_zero.mpr hbody, List.count_singleton_self, List.length_cons]
      omega

/-! ### Groups of commands -/

/-- When each command is performed: with the read that brings the terminator of its frame. -/
def timetable : List (Instant × List UInt8) → List (List (DeviceCommand Float)) →
    List (Instant × DeviceCommand Float)
  | [], _ => []
  | (now, bytes) :: later, groups =>
      let complete := groups.take (bytes.count terminator)
      Board.timed now complete.flatten ++
        timetable later (groups.drop (bytes.count terminator))

def body (group : List (DeviceCommand Float)) : List UInt8 :=
  bytes (DeviceCommand.packed group ++ ";")

theorem encodeFrame_packed (group : List (DeviceCommand Float)) :
    encodeFrame (DeviceCommand.packed group) = FrameDecoder.frame (body group) :=
  encodeFrame_eq (DeviceCommand.packed group)

theorem terminator_notMem_bodies (groups : List (List (DeviceCommand Float))) :
    ∀ bytes ∈ groups.map body, terminator ∉ bytes := by
  intro _ hmem
  obtain ⟨group, -, rfl⟩ := List.mem_map.mp hmem
  exact terminator_notMem_bytes (Board.zero_notMem_packed group)

/-- What a board has answered to commands, on its way to the host. -/
def answered (stream : BoardStream) (replies : List String) : BoardStream :=
  { stream with
    replies := stream.replies ++ replies.flatMap fun reply => FrameDecoder.frame (bytes reply) }

theorem replyBytes_eq (replies : List String) :
    BoardLine.replyBytes false replies =
      replies.flatMap fun reply => FrameDecoder.frame (bytes reply) := by
  cases replies with
  | nil => rfl
  | cons reply replies => rfl

/-! ### Commands that are performed -/

/-- Line and stream when the board has performed commands. -/
def performed (line : BoardLine) (stream : BoardStream)
    (schedule : List (Instant × DeviceCommand Float)) : BoardLine × BoardStream :=
  ({ line with board := (line.board.performAll schedule).1 },
    answered stream (line.board.performAll schedule).2)

variable {line : BoardLine} {stream : BoardStream} {now : Instant}

theorem performed_nil : performed line stream [] = (line, stream) := by
  simp [performed, Board.performAll, answered]

theorem performed_append (schedule later : List (Instant × DeviceCommand Float)) :
    performed line stream (schedule ++ later) =
      performed (performed line stream schedule).1 (performed line stream schedule).2 later := by
  simp [performed, Board.performAll_append, answered]

/-- A board that does not misbehave, on a line that stays open, has ticks left for the commands. -/
structure Able (line : BoardLine) (stream : BoardStream) (commands : List (DeviceCommand Float)) :
    Prop where
  switches : line.switches = {}
  stays : stream.closesAt = none
  fits : ∀ command ∈ commands, command.Fits
  ticks : line.board.tick + commands.countP DeviceCommand.isTelemetryQuery ≤ Board.lastTick

namespace Able

variable {commands later : List (DeviceCommand Float)}

theorem first (hable : Able line stream (commands ++ later)) : Able line stream commands := by
  have hticks := hable.ticks
  rw [List.countP_append] at hticks
  exact ⟨hable.switches, hable.stays, (List.forall_mem_append.mp hable.fits).1, by omega⟩

theorem afterwards (hable : Able line stream (commands ++ later)) :
    Able (performed line stream (Board.timed now commands)).1
      (performed line stream (Board.timed now commands)).2 later := by
  refine ⟨hable.switches, hable.stays, (List.forall_mem_append.mp hable.fits).2, ?_⟩
  have hticks := hable.ticks
  rw [List.countP_append] at hticks
  rw [performed, Board.tick_performAll, Board.map_snd_timed]
  omega

theorem handle_body (hable : Able line stream commands) :
    line.handle stream now (body commands) =
      performed line stream (Board.timed now commands) := by
  rw [body, BoardLine.handle_text, hable.switches, Board.handle_packed hable.fits hable.ticks]
  dsimp only
  rw [replyBytes_eq, performed, hable.switches, answered]

theorem handleAll_bodies {groups : List (List (DeviceCommand Float))}
    (hable : Able line stream groups.flatten) :
    line.handleAll stream now (groups.map body) =
      performed line stream (Board.timed now groups.flatten) := by
  induction groups generalizing line stream with
  | nil => exact performed_nil.symm
  | cons group groups ih =>
      rw [List.flatten_cons] at hable ⊢
      have hstays := (@afterwards line stream now group _ hable).stays
      rw [List.map_cons, BoardLine.handleAll, hable.first.handle_body]
      dsimp only
      rw [hstays, if_neg (by simp), ih hable.afterwards, ← performed_append, Board.timed_append]

end Able

/-! ### Reads -/

/-- The commands in the frames that a read completes are performed. -/
theorem read_frames {s : Serving} {groups : List (List (DeviceCommand Float))}
    {bytes rest : List UInt8} (hable : Able s.line s.stream groups.flatten)
    (hbytes : s.pending ++ bytes = (groups.map body).flatMap FrameDecoder.frame ++ rest)
    (hrest : terminator ∉ rest) :
    s.read now bytes =
      { line := (performed s.line s.stream (Board.timed now groups.flatten)).1
        stream := (performed s.line s.stream (Board.timed now groups.flatten)).2
        pending := rest } := by
  have hclosed : BoardLine.BoardStream.isClosed s.stream now = false := by
    rw [BoardLine.BoardStream.isClosed, hable.stays]
    rfl
  rw [read, hclosed, BoardLine.bodies, hbytes,
    splitOn_frames (terminator_notMem_bodies groups) hrest, List.dropLast_concat,
    hable.handleAll_bodies]
  simp

/-- The host writes whole frames. The board has performed their commands when the write is over. -/
theorem write_frames {groups : List (List (DeviceCommand Float))}
    (hstream : line.stream = some stream) (hable : Able line stream groups.flatten) :
    line.write now (groups.flatMap fun group => encodeFrame (DeviceCommand.packed group)) =
      (.ok (), { (performed line stream (Board.timed now groups.flatten)).1 with
        stream := some (performed line stream (Board.timed now groups.flatten)).2 }) := by
  have hopen : BoardLine.BoardStream.isClosed stream now = false := by
    rw [BoardLine.BoardStream.isClosed, hable.stays]
    rfl
  have hframes : [] ++ groups.flatMap (fun group => encodeFrame (DeviceCommand.packed group)) =
      (groups.map body).flatMap FrameDecoder.frame ++ [] := by
    rw [List.nil_append, List.append_nil, List.flatMap_map]
    simp only [encodeFrame_packed]
  rw [write_eq_read hstream hopen, read_frames hable hframes List.not_mem_nil]

/-! ### Runs -/

/-- The frames that a read completes, and what is left of the next. -/
theorem groups_cut {groups : List (List (DeviceCommand Float))} {pending bytes after : List UInt8}
    (hpending : terminator ∉ pending)
    (hcut : pending ++ bytes ++ after = (groups.map body).flatMap FrameDecoder.frame) :
    ∃ rest, pending ++ bytes =
        ((groups.take (bytes.count terminator)).map body).flatMap FrameDecoder.frame ++ rest ∧
      terminator ∉ rest ∧
      rest ++ after =
        ((groups.drop (bytes.count terminator)).map body).flatMap FrameDecoder.frame := by
  obtain ⟨done, left, rest, hbodies, hbefore, hrest, hafter⟩ :=
    frames_cut (terminator_notMem_bodies groups) hcut
  obtain ⟨complete, later, rfl, rfl, rfl⟩ := List.map_eq_append_iff.mp hbodies
  have hcount : bytes.count terminator = complete.length := by
    have hsides := congrArg (List.count terminator) hbefore
    rw [List.count_append, List.count_append, List.count_eq_zero.mpr hpending,
      List.count_eq_zero.mpr hrest, count_frames (terminator_notMem_bodies complete),
      List.length_map] at hsides
    omega
  rw [hcount, List.take_left, List.drop_left]
  exact ⟨rest, hbefore, hrest, hafter⟩

theorem groups_eq_nil {groups : List (List (DeviceCommand Float))} {pending : List UInt8}
    (hpending : terminator ∉ pending)
    (hframes : pending = (groups.map body).flatMap FrameDecoder.frame) : groups = [] := by
  have hcount := count_frames (terminator_notMem_bodies groups)
  rw [← hframes, List.count_eq_zero.mpr hpending, List.length_map] at hcount
  exact List.length_eq_zero_iff.mp hcount.symm

theorem commands_timetable {deliveries : List (Instant × List UInt8)}
    {groups : List (List (DeviceCommand Float))} {pending : List UInt8}
    (hpending : terminator ∉ pending)
    (hdelivered : pending ++ deliveries.flatMap (·.2) =
      (groups.map body).flatMap FrameDecoder.frame) :
    (timetable deliveries groups).map (·.2) = groups.flatten := by
  induction deliveries generalizing groups pending with
  | nil =>
      rw [List.flatMap_nil, List.append_nil] at hdelivered
      rw [groups_eq_nil hpending hdelivered]
      rfl
  | cons delivery deliveries ih =>
      obtain ⟨now, bytes⟩ := delivery
      rw [List.flatMap_cons, ← List.append_assoc] at hdelivered
      obtain ⟨rest, -, hrest, hlater⟩ := groups_cut hpending hdelivered
      rw [timetable, List.map_append, ih hrest hlater, Board.map_snd_timed, ← List.flatten_append,
        List.take_append_drop]

theorem serve_frames {s : Serving} {deliveries : List (Instant × List UInt8)}
    {groups : List (List (DeviceCommand Float))} (hable : Able s.line s.stream groups.flatten)
    (hpending : terminator ∉ s.pending)
    (hdelivered : s.pending ++ deliveries.flatMap (·.2) =
      (groups.map body).flatMap FrameDecoder.frame) :
    s.serve deliveries =
      { line := (performed s.line s.stream (timetable deliveries groups)).1
        stream := (performed s.line s.stream (timetable deliveries groups)).2
        pending := [] } := by
  induction deliveries generalizing s groups with
  | nil =>
      rw [List.flatMap_nil, List.append_nil] at hdelivered
      obtain rfl := groups_eq_nil hpending hdelivered
      obtain ⟨line, stream, pending⟩ := s
      obtain rfl : pending = [] := hdelivered
      rw [timetable, performed_nil]
      rfl
  | cons delivery deliveries ih =>
      obtain ⟨now, bytes⟩ := delivery
      rw [List.flatMap_cons, ← List.append_assoc] at hdelivered
      obtain ⟨rest, hread, hrest, hlater⟩ := groups_cut hpending hdelivered
      have hsplit := congrArg List.flatten (List.take_append_drop (bytes.count terminator) groups)
      rw [List.flatten_append] at hsplit
      rw [← hsplit] at hable
      rw [serve, List.foldl_cons, timetable, performed_append]
      dsimp only
      rw [read_frames hable.first hread hrest]
      exact ih hable.afterwards hrest hlater

/-- **A board performs the commands that the host packed into frames, in order, however the bytes
are cut into reads.** A write of the host is read as one (`write_eq_read`). The board is one that does
not misbehave, and its 64-bit count of ticks, which starts at zero, lasts for the queries among the
commands. -/
theorem commands_performed {line : BoardLine} {stream : BoardStream}
    {groups : List (List (DeviceCommand Float))} {deliveries : List (Instant × List UInt8)}
    (hswitches : line.switches = {}) (hopen : stream.closesAt = none)
    (hfits : ∀ command ∈ groups.flatten, command.Fits)
    (htick : line.board.tick + groups.flatten.countP DeviceCommand.isTelemetryQuery ≤
      Board.lastTick)
    (hdelivered : deliveries.flatMap (·.2) =
      groups.flatMap fun group => encodeFrame (DeviceCommand.packed group)) :
    ∃ (board : Board) (replies : List String),
      line.board.performAll (timetable deliveries groups) = (board, replies) ∧
      (timetable deliveries groups).map (·.2) = groups.flatten ∧
      serve { line, stream } deliveries =
        { line := { line with board }, stream := answered stream replies, pending := [] } ∧
      line.board.Performed groups.flatten board replies ∧
      ∀ reply ∈ replies, isDeviceError reply = false := by
  have hframes : deliveries.flatMap (·.2) = (groups.map body).flatMap FrameDecoder.frame := by
    rw [hdelivered, List.flatMap_map]
    simp only [encodeFrame_packed]
  have hcommands := @commands_timetable deliveries groups [] List.not_mem_nil hframes
  have hperformed := line.board.performed (timetable deliveries groups)
  rw [hcommands] at hperformed
  have hserve := @serve_frames { line, stream } deliveries groups ⟨hswitches, hopen, hfits, htick⟩
    List.not_mem_nil hframes
  exact ⟨_, _, rfl, hcommands, hserve, hperformed,
    Board.not_error_of_answers hperformed.answers⟩

theorem commands_performed_two_frames :
    let groups : List (List (DeviceCommand Float)) :=
      [[.setTarget 200.0, .queryTelemetry], [.setFrequency 5, .readPidValues]]
    let bytes := groups.flatMap fun group => encodeFrame (DeviceCommand.packed group)
    let s : Serving :=
      { line := { name := "hotend", board := { model := .hotend } }, stream := { openedAt := 0 } }
    ∃ (board : Board) (replies : List String),
      s.serve [(5, bytes.take 9), (9, bytes.drop 9)] =
        { line := { s.line with board }, stream := answered s.stream replies, pending := [] } ∧
      board.target = 200.0 ∧ board.frequency = 5 ∧ replies.length = 2 := by
  intro groups bytes s
  have hfits : ∀ command ∈ groups.flatten, command.Fits := by
    simp [groups, DeviceCommand.Fits]
  have htick : s.line.board.tick + groups.flatten.countP DeviceCommand.isTelemetryQuery ≤
      Board.lastTick := by
    decide
  have hdelivered : [((5 : Instant), bytes.take 9), (9, bytes.drop 9)].flatMap (·.2) = bytes := by
    simp
  obtain ⟨board, replies, -, -, hserve, hperformed, -⟩ :=
    @commands_performed s.line s.stream groups _ rfl rfl hfits htick hdelivered
  exact ⟨board, replies, hserve, hperformed.target, hperformed.frequency,
    hperformed.answers.length_eq.symm⟩

end Serving

end HeaterHost.Simulator
