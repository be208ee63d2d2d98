import HeaterHost.Proofs.Link.OpenSession
import HeaterHost.Proofs.Link.QuestionLine

/-!
# Answers in the order of their questions

The answers that an open session has still to hear are, in this order, those that are on their way
and those to the questions that the board has not handled. Every operation takes some of them from
the front to the console, or loses them with the session, and puts the questions that it asks at
the end. So the console shows answers in the order in which the questions were asked, no question
is answered twice, and an answer can be missing only because its session is gone.
-/

namespace HeaterHost

open Wire

theorem Wire.encodeFrame_injective {text text' : String}
    (h : encodeFrame text = encodeFrame text') : text = text' :=
  Text.bytes_injective (List.append_cancel_right h)

namespace Question

variable {q : Question}

/-! ### Lines that answer -/

theorem frameNumbers_append (results more : List FrameResult) :
    q.frameNumbers (results ++ more) = q.frameNumbers results ++ q.frameNumbers more :=
  List.filterMap_append

theorem lineNumbers_append (lines more : List ConsoleLine) :
    q.lineNumbers (lines ++ more) = q.lineNumbers lines ++ q.lineNumbers more :=
  List.filterMap_append

theorem head?_of_afterStart {first : Char} {start cs : List Char}
    (hstart : (Text.afterStart (first :: start) cs).isSome = true) : cs.head? = some first := by
  cases cs with
  | nil => cases hstart
  | cons c cs =>
      rw [Text.afterStart] at hstart
      split at hstart
      case isTrue heq => rw [List.head?_cons, beq_iff_eq.mp heq]
      case isFalse => cases hstart

/-- No line of telemetry answers a question. -/
theorem number?_of_isTelemetry {line : String} (htelemetry : isTelemetry line = true) :
    q.number? line = none := by
  refine if_neg fun hanswers => ?_
  have hfirst := head?_of_afterStart htelemetry
  have hanswered := q.answered
  unfold DeviceCommand.isAnsweredBy at hanswers
  cases hcommand : q.command with
  | firmwareVersion | readPidValues =>
      rw [hcommand] at hanswers
      cases hfirst.symm.trans (head?_of_afterStart hanswers)
  | _ =>
      rw [hcommand] at hanswered
      cases hanswered

/-! ### One stream -/

/-- The numbers of the answers that a stream is still to bring. -/
def Stream.coming (q : Question) (stream : Stream) (decoder : FrameDecoder) : List Nat :=
  q.frameNumbers (decoder.outlook stream.incoming) ++ stream.unhandled

/-- What a remark leaves to come is what there was. -/
theorem Stream.say_coming {stream : Stream} {decoder : FrameDecoder}
    (hsettled : decoder.Settled stream.incoming) (remark : q.Remark) :
    decoder.Settled (stream.say remark).incoming ∧
      (stream.say remark).coming q decoder = stream.coming q decoder := by
  have hframe : ∀ body, terminator ∉ body →
      decoder.Settled (stream.incoming ++ FrameDecoder.frame body) ∧
        q.frameNumbers (decoder.outlook (stream.incoming ++ FrameDecoder.frame body)) =
          q.frameNumbers (decoder.outlook stream.incoming) ++
            q.frameNumbers (readBody body).toList := by
    intro body hbody
    refine ⟨hsettled.append (FrameDecoder.position_single_frame hbody), ?_⟩
    rw [hsettled.outlook_append, FrameDecoder.outcomes_single_frame hbody, frameNumbers_append]
  cases remark with
  | aside aside =>
      obtain ⟨hlater, hnumbers⟩ := hframe aside.body aside.whole
      refine ⟨hlater, ?_⟩
      rw [coming, say, hnumbers, aside.unrelated, List.append_nil]
      rfl
  | reply reply =>
      rw [say]
      split
      case isTrue hnext =>
        obtain ⟨hlater, hnumbers⟩ := hframe reply.body reply.whole
        obtain ⟨rest, hunhandled⟩ := List.head?_eq_some_iff.mp hnext
        refine ⟨hlater, ?_⟩
        have hreply : q.frameNumbers (readBody reply.body).toList = [q.number reply.line] := by
          rw [reply.reads]
          exact List.filterMap_cons_some (if_pos reply.answers)
        rw [coming, hnumbers, hreply, coming, hunhandled, List.append_assoc]
        rfl
      case isFalse => exact ⟨hsettled, rfl⟩

theorem Stream.foldl_say_coming {stream : Stream} {decoder : FrameDecoder}
    (hsettled : decoder.Settled stream.incoming) (remarks : List q.Remark) :
    decoder.Settled (remarks.foldl say stream).incoming ∧
      (remarks.foldl say stream).coming q decoder = stream.coming q decoder := by
  induction remarks generalizing stream with
  | nil => exact ⟨hsettled, rfl⟩
  | cons remark rest ih =>
      obtain ⟨hlater, hcoming⟩ := stream.say_coming hsettled remark
      obtain ⟨hlast, hsame⟩ := ih hlater
      exact ⟨hlast, hsame.trans hcoming⟩

end Question

/-- A link that goes through its frames takes the answers among them to the console. -/
theorem Link.sift_numbers (q : Question) {l l' : Link} {now : Instant}
    {result : Option (Except TelemetryError Telemetry)} {ahead : List UInt8}
    (hsettled : l.decoder.Settled ahead) (hsift : l.sift now = (l', result)) :
    l'.decoder.Settled ahead ∧ ∃ fresh, l'.console.reverse = l.console.reverse ++ fresh ∧
      q.frameNumbers (l.decoder.outlook ahead) =
        q.lineNumbers fresh ++ q.frameNumbers (l'.decoder.outlook ahead) := by
  fun_induction Link.sift l now with
  | case1 l decoder hnext =>
      have houtlook := l.decoder.outlook_next ahead
      have hlater := hsettled.next
      rw [hnext] at houtlook hlater
      cases hsift
      exact ⟨hlater, [], (List.append_nil _).symm, congrArg q.frameNumbers houtlook⟩
  | case2 l decoder l' error hnext _ _ ih =>
      have houtlook := l.decoder.outlook_next ahead
      have hlater := hsettled.next
      rw [hnext] at houtlook hlater
      obtain ⟨hlast, fresh, hconsole, hnumbers⟩ := ih hlater hsift
      refine ⟨hlast, fresh, hconsole, ?_⟩
      rw [houtlook, ← hnumbers]
      rfl
  | case3 l decoder l' text hnext htelemetry =>
      have houtlook := l.decoder.outlook_next ahead
      have hlater := hsettled.next
      rw [hnext] at houtlook hlater
      cases hsift
      refine ⟨hlater, [], (List.append_nil _).symm, ?_⟩
      rw [houtlook]
      exact List.filterMap_cons_none (Question.number?_of_isTelemetry htelemetry)
  | case4 l decoder l' text hnext htelemetry _ _ ih =>
      have houtlook := l.decoder.outlook_next ahead
      have hlater := hsettled.next
      rw [hnext] at houtlook hlater
      obtain ⟨hlast, fresh, hconsole, hnumbers⟩ := ih hlater hsift
      refine ⟨hlast, { time := now, text } :: fresh, ?_, ?_⟩
      · rw [hconsole, List.append_cons]
        exact congrArg (· ++ fresh) List.reverse_cons
      · rw [houtlook, Question.frameNumbers_append]
        refine (congrArg (q.frameNumbers [.ok text] ++ ·) hnumbers).trans ?_
        rw [← List.append_assoc]
        exact congrArg (· ++ _) (Question.lineNumbers_append [{ time := now, text }] fresh).symm

namespace Session

variable {q : Question} {more further : Nat} {s s' s'' : Session (QuestionLine q)}

/-- The numbers of the answers that are still to come, if the session is open. -/
def coming (s : Session (QuestionLine q)) : List Nat :=
  if s.link.isOpen then
    (s.wire.stream.map fun stream => stream.coming q s.link.decoder).getD []
  else []

/-- What an open session reads ends with a frame. -/
def Orderly (s : Session (QuestionLine q)) : Prop :=
  s.link.isOpen = true →
    ∃ stream, s.wire.stream = some stream ∧ s.link.decoder.Settled stream.incoming

theorem coming_of_isOpen (hopen : s.link.isOpen = true) {stream : Question.Stream}
    (hstream : s.wire.stream = some stream) : s.coming = stream.coming q s.link.decoder := by
  rw [coming, if_pos hopen, hstream]
  rfl

theorem coming_of_closed (hclosed : s.link.isOpen = false) : s.coming = [] := by
  rw [coming, hclosed]
  rfl

/-- A session goes on. It asks so many questions, and the answers that come to the console or are
still to come stand in the order of their questions. -/
structure Progress (more : Nat) (s s' : Session (QuestionLine q)) : Prop where
  orderly : s'.Orderly
  asked : s'.wire.asked = s.wire.asked + more
  order : ∃ fresh, s'.link.console.reverse = s.link.console.reverse ++ fresh ∧
    (q.lineNumbers fresh ++ s'.coming).Sublist (s.coming ++ List.range' s.wire.asked more)

theorem Progress.trans (h : Progress more s s') (h' : Progress further s' s'') :
    Progress (more + further) s s'' := by
  obtain ⟨fresh, hconsole, horder⟩ := h.order
  obtain ⟨fresh', hconsole', horder'⟩ := h'.order
  refine ⟨h'.orderly, by rw [h'.asked, h.asked, Nat.add_assoc], fresh ++ fresh', ?_, ?_⟩
  · rw [hconsole', hconsole, List.append_assoc]
  · rw [Question.lineNumbers_append, ← List.range'_append_1, ← h.asked, List.append_assoc,
      ← List.append_assoc s.coming]
    refine (horder'.append_left (q.lineNumbers fresh)).trans ?_
    rw [← List.append_assoc]
    exact horder.append_right _

theorem Progress.idle_trans (h : Progress 0 s s') (h' : Progress more s' s'') :
    Progress more s s'' := by
  have hdone := h.trans h'
  rwa [Nat.zero_add] at hdone

/-- Nothing is asked, nothing comes to the console, and what is to come is the same. -/
theorem Progress.of_same (horderly : s'.Orderly) (hasked : s'.wire.asked = s.wire.asked)
    (hconsole : s'.link.console = s.link.console) (hcoming : s'.coming = s.coming) :
    Progress 0 s s' := by
  refine ⟨horderly, hasked, [], ?_, ?_⟩
  · rw [hconsole, List.append_nil]
  · rw [hcoming, List.range'_zero, List.append_nil]
    exact List.Sublist.refl _

/-- What was to come is lost. -/
theorem Progress.of_lost (horderly : s'.Orderly) (hasked : s'.wire.asked = s.wire.asked)
    (hconsole : s'.link.console = s.link.console) (hcoming : s'.coming = []) :
    Progress 0 s s' := by
  refine ⟨horderly, hasked, [], ?_, ?_⟩
  · rw [hconsole, List.append_nil]
  · rw [hcoming]
    exact List.nil_sublist _

theorem Progress.of_closed (hclosed : s'.link.isOpen = false)
    (hasked : s'.wire.asked = s.wire.asked) (hconsole : s'.link.console = s.link.console) :
    Progress 0 s s' := by
  refine .of_lost (fun hopen => ?_) hasked hconsole (coming_of_closed hclosed)
  rw [hclosed] at hopen
  cases hopen

theorem Progress.refl (hs : s.Orderly) : Progress 0 s s :=
  .of_same hs rfl rfl rfl

/-! ### The operations -/

theorem begun_progress (hs : s.Orderly) {line : QuestionLine q} {outcome : Outcome}
    (hbegun : s.wire.begun = (line, outcome)) : Progress 0 s { s with wire := line } := by
  unfold QuestionLine.begun at hbegun
  split at hbegun
  case h_1 =>
    cases hbegun
    exact .refl hs
  case h_2 turn turns hturns =>
    cases hbegun
    cases hopen : s.link.isOpen with
    | false => exact .of_closed hopen rfl rfl
    | true =>
        obtain ⟨stream, hstream, hsettled⟩ := hs hopen
        obtain ⟨hlater, hcoming⟩ := Question.Stream.foldl_say_coming hsettled turn.remarks
        have hmapped := congrArg (Option.map fun stream =>
          turn.remarks.foldl Question.Stream.say stream) hstream
        refine .of_same (fun _ => ⟨_, hmapped, hlater⟩) rfl rfl ?_
        simp only [coming, hopen, hstream, ↓reduceIte, Option.map_some, Option.getD_some]
        exact hcoming

theorem reopen_ok_progress (hreopen : s.reopen = (s', .ok ())) : Progress 0 s s' := by
  unfold reopen at hreopen
  split at hreopen
  case h_1 wire hconnect =>
    cases hreopen
    obtain ⟨hstream, hasked⟩ := QuestionLine.connect_eq_ok hconnect
    refine .of_lost (fun _ => ⟨{}, hstream, rfl⟩) hasked rfl ?_
    exact Eq.trans (coming_of_isOpen rfl hstream) rfl
  case h_2 => cases hreopen

theorem reopen_error_progress {error : LinkError} (hreopen : s.reopen = (s', .error error)) :
    Progress 0 s s' := by
  have hclosed := isOpen_of_reopen_error hreopen
  unfold reopen at hreopen
  split at hreopen
  case h_1 => cases hreopen
  case h_2 failure wire hconnect =>
    cases hreopen
    exact .of_closed hclosed (QuestionLine.connect_eq_error hconnect) rfl

/-- A frame comes in on the stream of an open session. -/
theorem take_progress (hs : s.Orderly) (hopen : s.link.isOpen = true) {stream : Question.Stream}
    (hstream : s.wire.stream = some stream) (text : String) :
    Progress (q.asksIn text) s
      { link := s.link.wrote, wire := s.wire.take stream (encodeFrame text) } := by
  obtain ⟨_, hsame, hsettled⟩ := hs hopen
  obtain rfl := Option.some.inj (hstream.symm.trans hsame)
  unfold QuestionLine.take Question.asksIn
  by_cases htext : text = q.command.text
  · rw [if_pos htext, if_pos (congrArg encodeFrame htext)]
    refine ⟨fun _ => ⟨_, rfl, hsettled⟩, rfl, [], (List.append_nil _).symm, ?_⟩
    have hnext : stream.coming q s.link.decoder ++ [s.wire.asked] =
        Question.Stream.coming q
          { stream with unhandled := stream.unhandled ++ [s.wire.asked] } s.link.decoder :=
      List.append_assoc ..
    rw [coming_of_isOpen hopen hstream, List.range'_one, hnext]
    change (if s.link.isOpen then _ else _ : List Nat).Sublist _
    rw [if_pos hopen]
    exact List.Sublist.refl _
  · rw [if_neg htext, if_neg fun h => htext (encodeFrame_injective h)]
    exact .of_same (fun _ => ⟨_, hstream, hsettled⟩) rfl rfl rfl

theorem writeFrame_progress {text : String} (hs : s.Orderly) (hopen : s.link.isOpen = true)
    (hwrite : s.writeFrame text = (s', .ok ())) : Progress (q.asksIn text) s s' := by
  unfold writeFrame at hwrite
  split at hwrite
  case h_1 wire hwire =>
    cases hwrite
    obtain ⟨line, outcome, stream, hbegun, hstream, rfl⟩ := QuestionLine.write_eq_ok hwire
    have hbegin := begun_progress hs hbegun
    exact hbegin.idle_trans (take_progress hbegin.orderly hopen hstream text)
  case h_2 => cases hwrite

theorem writeFrame_error_progress {text : String} {error : LinkError}
    (hwrite : s.writeFrame text = (s', .error error)) : Progress 0 s s' := by
  have hclosed := isOpen_of_writeFrame_error hwrite
  unfold writeFrame at hwrite
  split at hwrite
  case h_1 => cases hwrite
  case h_2 failure wire hwire =>
    have hasked := QuestionLine.write_eq_error hwire
    cases hwrite
    exact .of_closed hclosed hasked rfl

theorem send_progress {text : String} (hs : s.Orderly) (hsend : s.send text = (s', .ok ())) :
    Progress (q.asksIn text) s s' := by
  unfold send at hsend
  split at hsend
  case h_1 => cases hsend
  case h_2 opened hensure =>
    have hopen := isOpen_of_ensureOpen_ok hensure
    unfold ensureOpen at hensure
    split at hensure
    · cases hensure
      exact writeFrame_progress hs hopen hsend
    · have hreopened := reopen_ok_progress hensure
      exact hreopened.idle_trans (writeFrame_progress hreopened.orderly hopen hsend)

theorem send_error_progress {text : String} {error : LinkError}
    (hsend : s.send text = (s', .error error)) : Progress 0 s s' := by
  unfold send at hsend
  split at hsend
  case h_1 failure hensure =>
    cases hsend
    unfold ensureOpen at hensure
    split at hensure
    · cases hensure
    · exact reopen_error_progress hensure
  case h_2 opened hensure =>
    unfold ensureOpen at hensure
    split at hensure
    · cases hensure
      exact writeFrame_error_progress hsend
    · exact (reopen_ok_progress hensure).idle_trans (writeFrame_error_progress hsend)

/-- Going through frames takes answers to the console. -/
theorem sift_progress (hs : s.Orderly) (hopen : s.link.isOpen = true) {link : Link}
    {result : Option (Except TelemetryError Telemetry)}
    (hsift : s.link.sift s.now = (link, result)) : Progress 0 s { s with link } := by
  obtain ⟨stream, hstream, hsettled⟩ := hs hopen
  obtain ⟨hlater, fresh, hconsole, hnumbers⟩ := Link.sift_numbers q hsettled hsift
  have hsame := (Link.isOpen_of_sift hsift).trans hopen
  refine ⟨fun _ => ⟨stream, hstream, hlater⟩, rfl, fresh, hconsole, ?_⟩
  rw [coming_of_isOpen hopen hstream, List.range'_zero, List.append_nil, Question.Stream.coming,
    hnumbers, List.append_assoc]
  change (_ ++ (if link.isOpen then _ else _ : List Nat)).Sublist _
  rw [if_pos hsame, hstream]
  exact List.Sublist.refl _

theorem receive_progress (hs : s.Orderly) (hopen : s.link.isOpen = true) {limit : Instant}
    {bytes : List UInt8} {line : QuestionLine q}
    (hreceive : Transport.receive s.wire limit = (.data bytes, line)) :
    Progress 0 s { link := s.link.received bytes, wire := line } := by
  obtain ⟨begun, chunk, stream, rest, hbegun, hstream, hincoming, rfl⟩ :=
    QuestionLine.receive_eq_data hreceive
  have hbegin := begun_progress hs hbegun
  obtain ⟨_, hsame, hsettled⟩ := hbegin.orderly hopen
  obtain rfl := Option.some.inj (hstream.symm.trans hsame)
  rw [hincoming] at hsettled
  refine hbegin.idle_trans (.of_same (fun _ => ⟨_, rfl, hsettled.push⟩) rfl rfl ?_)
  have hcoming := coming_of_isOpen (s := { s with wire := begun }) hopen hstream
  rw [hcoming, Question.Stream.coming, hincoming, ← FrameDecoder.outlook_push]
  change (if s.link.isOpen then _ else _ : List Nat) = _
  rw [if_pos hopen]
  rfl

theorem await_progress (hs : s.Orderly) (hopen : s.link.isOpen = true) (limit : Instant) :
    Progress 0 s (s.await limit).1 := by
  fun_induction Session.await s limit with
  | case1 s link found hsift => exact sift_progress hs hopen hsift
  | case2 s link failure hsift =>
      exact (sift_progress hs hopen hsift).idle_trans (.of_closed rfl rfl rfl)
  | case3 s link hsift bytes wire hreceive _ ih =>
      have hsifted := sift_progress hs hopen hsift
      have hsame := (Link.isOpen_of_sift hsift).trans hopen
      have hreceived := receive_progress hsifted.orderly hsame hreceive
      exact (hsifted.idle_trans hreceived).idle_trans (ih hreceived.orderly hsame)
  | case4 s link hsift wire hreceive | case5 s link hsift failure wire hreceive
  | case6 s link hsift wire hreceive =>
      have hasked := s.wire.asked_receive limit
      change (Transport.receive s.wire limit).2.asked = s.wire.asked at hasked
      rw [hreceive] at hasked
      exact (sift_progress hs hopen hsift).idle_trans (.of_closed rfl hasked rfl)

end Session

end HeaterHost
