import Mathlib.Data.List.Forall2
import HeaterHost.Proofs.Link.SlowLine

/-!
# Answers and the queries they belong to

Nothing in a line of telemetry that the host looks at says which query it answers. The host takes
the first one it hears after a query for the answer to that query, and it is: a session in which a
query stays without its answer ends with that query, and the next session starts with nothing to
hear. So an open session has either no query out, or the one that is waited for.
-/

namespace HeaterHost

open Wire

/-! ### Failures -/

namespace Session

section failures

variable {ω : Type} [Transport ω] {s s' : Session ω} {error : LinkError}

theorem isOpen_of_reopen_error (hreopen : s.reopen = (s', .error error)) :
    s'.link.isOpen = false := by
  unfold reopen at hreopen
  split at hreopen
  case h_1 => cases hreopen
  case h_2 =>
    cases hreopen
    rfl

theorem isOpen_of_writeFrame_error {text : String}
    (hwrite : s.writeFrame text = (s', .error error)) : s'.link.isOpen = false := by
  unfold writeFrame at hwrite
  split at hwrite
  case h_1 => cases hwrite
  case h_2 =>
    cases hwrite
    rfl

theorem isOpen_of_send_error {text : String} (hsend : s.send text = (s', .error error)) :
    s'.link.isOpen = false := by
  unfold send at hsend
  split at hsend
  case h_1 failure hensure =>
    cases hsend
    unfold ensureOpen at hensure
    split at hensure
    · cases hensure
    · exact isOpen_of_reopen_error hensure
  case h_2 => exact isOpen_of_writeFrame_error hsend

theorem isOpen_of_await_error {deadline : Instant}
    (hawait : s.await deadline = (s', .error error)) : s'.link.isOpen = false := by
  fun_induction Session.await s deadline with
  | case1 => cases hawait
  | case3 s link hsift bytes wire hreceive _ ih => exact ih hawait
  | _ =>
      cases hawait
      rfl

theorem isOpen_of_request_error (hrequest : s.request = (s', .error error)) :
    s'.link.isOpen = false := by
  unfold request at hrequest
  split at hrequest
  case h_1 failure hask =>
    cases hrequest
    exact isOpen_of_send_error hask
  case h_2 => exact isOpen_of_await_error hrequest

end failures

end Session

/-! ### What is still to be heard -/

/-- The answers that are on their way to the host and the queries that have none yet are together
the queries that are out. -/
structure Owed (number : Numbering) (out : List Nat) (link : Link) (stream : LineStream) :
    Prop where
  settled : link.decoder.Settled stream.incoming
  answers : ∃ answered, (answered ++ stream.waiting).Perm out ∧
    List.Forall₂ number.Identifies answered
      (telemetryLines (link.decoder.outlook stream.incoming))

namespace Owed

variable {number : Numbering} {out : List Nat} {link : Link} {stream : LineStream}

theorem fresh (hdecoder : link.decoder = {}) : Owed number [] link {} := by
  refine ⟨?_, [], .refl [], ?_⟩
  · rw [hdecoder]
    rfl
  · rw [hdecoder]
    exact .nil

theorem settled_frame (howed : Owed number out link stream) {body : List UInt8}
    (hbody : terminator ∉ body) :
    link.decoder.Settled (stream.incoming ++ FrameDecoder.frame body) :=
  howed.settled.append (FrameDecoder.position_single_frame hbody)

theorem lines_frame (howed : Owed number out link stream) {body : List UInt8}
    (hbody : terminator ∉ body) :
    telemetryLines (link.decoder.outlook (stream.incoming ++ FrameDecoder.frame body)) =
      telemetryLines (link.decoder.outlook stream.incoming) ++
        telemetryLines (readBody body).toList := by
  rw [howed.settled.outlook_append, FrameDecoder.outcomes_single_frame hbody]
  exact List.filterMap_append

theorem say (howed : Owed number out link stream) (utterance : Utterance number) :
    Owed number out link (stream.say utterance) := by
  obtain ⟨answered, hperm, hlines⟩ := howed.answers
  cases utterance with
  | chatter chatter =>
      refine ⟨howed.settled_frame chatter.whole, answered, hperm, ?_⟩
      change List.Forall₂ _ _
        (telemetryLines (link.decoder.outlook (stream.incoming ++ FrameDecoder.frame chatter.body)))
      rw [howed.lines_frame chatter.whole, chatter.plain, List.append_nil]
      exact hlines
  | answer answer =>
      by_cases hwaiting : answer.query ∈ stream.waiting
      · -- the query that is answered goes from those that wait to those whose answer is on its way
        have hline : telemetryLines (readBody answer.body).toList = [answer.line] := by
          rw [answer.reads]
          exact List.filterMap_cons_some (if_pos answer.telemetry)
        rw [LineStream.say, if_pos hwaiting]
        refine ⟨howed.settled_frame answer.whole, answered ++ [answer.query], ?_, ?_⟩
        · rw [List.append_assoc, List.singleton_append]
          exact ((List.perm_cons_erase hwaiting).symm.append_left answered).trans hperm
        · rw [howed.lines_frame answer.whole, hline]
          exact List.rel_append hlines (.cons answer.identifies .nil)
      · rw [LineStream.say, if_neg hwaiting]
        exact howed

theorem deliver (howed : Owed number out link stream) (queries : List Nat) :
    Owed number (out ++ queries) link { stream with waiting := stream.waiting ++ queries } := by
  obtain ⟨answered, hperm, hlines⟩ := howed.answers
  refine ⟨howed.settled, answered, ?_, hlines⟩
  rw [← List.append_assoc]
  exact hperm.append_right queries

theorem received (howed : Owed number out link stream) {bytes rest : List UInt8}
    (hincoming : stream.incoming = bytes ++ rest) :
    Owed number out (link.received bytes) { stream with incoming := rest } := by
  obtain ⟨hsettled, hanswers⟩ := howed
  rw [hincoming] at hsettled hanswers
  refine ⟨hsettled.push, ?_⟩
  rw [← FrameDecoder.outlook_push] at hanswers
  exact hanswers

theorem sift (howed : Owed number out link stream) {now : Instant} {link' : Link}
    {result : Option (Except TelemetryError Telemetry)} (hsift : link.sift now = (link', result)) :
    (result = none → Owed number out link' stream) ∧
      ∀ found, result = some found → ∃ query rest, (query :: rest).Perm out ∧
        (∀ telemetry, found = .ok telemetry → number telemetry = query) ∧
        Owed number rest link' stream := by
  obtain ⟨answered, hperm, hlines⟩ := howed.answers
  obtain ⟨-, hsettled, line?, rfl, hfound⟩ := Link.sift_telemetryLines howed.settled hsift
  rw [hfound] at hlines
  cases line? with
  | none => exact ⟨fun _ => ⟨hsettled, answered, hperm, hlines⟩, nofun⟩
  | some line =>
      refine ⟨nofun, fun found hresult => ?_⟩
      obtain rfl := Option.some.inj hresult
      obtain ⟨query, rest, hidentifies, hrest, rfl⟩ := List.forall₂_cons_right_iff.mp hlines
      exact ⟨query, rest ++ stream.waiting, hperm, hidentifies, hsettled, rest, .refl _, hrest⟩

end Owed

/-! ### Sessions -/

/-- An open session with these queries out. -/
def Expecting {number : Numbering} (out : List Nat) (s : Session (SlowLine number)) : Prop :=
  s.link.isOpen = true → ∃ stream, s.wire.stream = some stream ∧ Owed number out s.link stream

namespace Expecting

variable {number : Numbering} {out : List Nat} {s s' : Session (SlowLine number)}

theorem of_not_isOpen (hclosed : s.link.isOpen = false) : Expecting out s := by
  intro hopen
  rw [hclosed] at hopen
  cases hopen

theorem hear {link : Link} {line : SlowLine number} (hs : Expecting out { link, wire := line })
    (speech : Speech number) : Expecting out { link, wire := line.hear speech } := by
  intro hopen
  obtain ⟨stream, hstream, howed⟩ := hs hopen
  cases speech with
  | dropped => exact ⟨stream, hstream, howed⟩
  | current utterance =>
      have hline : line.stream = some stream := hstream
      refine ⟨stream.say utterance, ?_, howed.say utterance⟩
      simp only [SlowLine.hear, hline, Option.map_some]

theorem foldl_hear {link : Link} {line : SlowLine number}
    (hs : Expecting out { link, wire := line }) (speech : List (Speech number)) :
    Expecting out { link, wire := speech.foldl SlowLine.hear line } := by
  induction speech generalizing line with
  | nil => exact hs
  | cons first rest ih => exact ih (hs.hear first)

theorem begun (hs : Expecting out s) {line : SlowLine number} {outcome : Outcome}
    (hbegun : s.wire.begun = (line, outcome)) : Expecting out { s with wire := line } := by
  unfold SlowLine.begun at hbegun
  split at hbegun
  case h_1 =>
    cases hbegun
    exact hs
  case h_2 turn turns hturns =>
    cases hbegun
    have hturn : Expecting out
        { s with wire := { s.wire with now := s.wire.now + turn.delay, turns } } := hs
    exact hturn.foldl_hear turn.speech

theorem reopen (hreopen : s.reopen = (s', .ok ())) :
    Expecting [] s' ∧ s'.link.isOpen = true ∧ s'.wire.asked = s.wire.asked := by
  unfold Session.reopen at hreopen
  split at hreopen
  case h_1 wire hconnect =>
    cases hreopen
    obtain ⟨hstream, hasked⟩ := SlowLine.connect_eq_ok hconnect
    exact ⟨fun _ => ⟨{}, hstream, .fresh rfl⟩, rfl, hasked⟩
  case h_2 => cases hreopen

theorem ensureOpen (hs : Expecting [] s) (hensure : s.ensureOpen = (s', .ok ())) :
    Expecting [] s' ∧ s'.link.isOpen = true ∧ s'.wire.asked = s.wire.asked := by
  unfold Session.ensureOpen at hensure
  split at hensure
  case isTrue hopen =>
    cases hensure
    exact ⟨hs, hopen, rfl⟩
  case isFalse => exact reopen hensure

variable {text : String}

theorem writeFrame (hs : Expecting out s) (hopen : s.link.isOpen = true)
    (hwrite : s.writeFrame text = (s', .ok ())) :
    Expecting (out ++ List.range' s.wire.asked (queriesIn (encodeFrame text))) s' ∧
      s'.link.isOpen = true ∧
      s'.wire.asked = s.wire.asked + queriesIn (encodeFrame text) := by
  unfold Session.writeFrame at hwrite
  split at hwrite
  case h_1 wire hwire =>
    cases hwrite
    obtain ⟨line, outcome, hbegun, rfl⟩ := SlowLine.write_eq_ok hwire
    obtain ⟨stream, hstream, howed⟩ := hs.begun hbegun hopen
    rw [← SlowLine.asked_begun hbegun, SlowLine.deliver_eq hstream]
    obtain ⟨hsettled, hanswers⟩ := howed.deliver (List.range' line.asked (queriesIn (encodeFrame text)))
    exact ⟨fun _ => ⟨_, rfl, hsettled, hanswers⟩, hopen, rfl⟩
  case h_2 => cases hwrite

theorem send (hs : Expecting [] s) (hsend : s.send text = (s', .ok ())) :
    Expecting (List.range' s.wire.asked (queriesIn (encodeFrame text))) s' ∧
      s'.link.isOpen = true ∧
      s'.wire.asked = s.wire.asked + queriesIn (encodeFrame text) := by
  unfold Session.send at hsend
  split at hsend
  case h_1 => cases hsend
  case h_2 opened hensure =>
    obtain ⟨hopened, hopen, hasked⟩ := hs.ensureOpen hensure
    rw [← hasked]
    exact hopened.writeFrame hopen hsend

theorem received (hs : Expecting out s) (hopen : s.link.isOpen = true) {link : Link}
    {deadline : Instant} {bytes : List UInt8} {line : SlowLine number}
    (hsift : s.link.sift s.now = (link, none))
    (hreceive : Transport.receive s.wire deadline = (.data bytes, line)) :
    Expecting out { link := link.received bytes, wire := line } ∧
      (link.received bytes).isOpen = true ∧ line.asked = s.wire.asked := by
  obtain ⟨begun, chunk, stream, rest, hbegun, hstream, hincoming, rfl⟩ :=
    SlowLine.receive_eq_data hreceive
  obtain ⟨stream', hstream', howed⟩ := hs.begun hbegun hopen
  obtain rfl : stream = stream' := Option.some.inj (hstream.symm.trans hstream')
  have hsame := (Link.sift_telemetryLines howed.settled hsift).1
  have hsifted := (howed.sift hsift).1 rfl
  have hasked := SlowLine.asked_begun hbegun
  exact ⟨fun _ => ⟨_, rfl, hsifted.received hincoming⟩, hsame.trans hopen, hasked⟩

theorem await {query : Nat} {deadline : Instant} {telemetry : Telemetry}
    (hs : Expecting [query] s) (hopen : s.link.isOpen = true)
    (hawait : s.await deadline = (s', .ok telemetry)) :
    number telemetry = query ∧ Expecting [] s' ∧ s'.wire.asked = s.wire.asked := by
  fun_induction Session.await s deadline with
  | case1 s link found hsift =>
      cases hawait
      obtain ⟨stream, hstream, howed⟩ := hs hopen
      obtain ⟨answered, rest, hperm, hnumber, hrest⟩ := (howed.sift hsift).2 _ rfl
      -- the only query that is out is the one that was answered
      obtain ⟨rfl, rfl⟩ := List.cons.inj (List.perm_singleton.mp hperm)
      exact ⟨hnumber telemetry rfl, fun _ => ⟨stream, hstream, hrest⟩, rfl⟩
  | case3 s link hsift bytes line hreceive _ ih =>
      obtain ⟨hreceived, hopen', hasked⟩ := hs.received hopen hsift hreceive
      obtain ⟨hnumber, hlast, hsame⟩ := ih hreceived hopen' hawait
      exact ⟨hnumber, hlast, hsame.trans hasked⟩
  | _ => cases hawait

theorem queriesIn_query : queriesIn (encodeFrame (DeviceCommand.text .queryTelemetry)) = 1 := by
  decide +kernel

theorem request {telemetry : Telemetry} (hs : Expecting [] s)
    (hrequest : s.request = (s', .ok telemetry)) :
    number telemetry = s.wire.asked ∧ Expecting [] s' ∧ s'.wire.asked = s.wire.asked + 1 := by
  unfold Session.request at hrequest
  split at hrequest
  case h_1 => cases hrequest
  case h_2 asked hask =>
    obtain ⟨hasked, hopen, hcount⟩ := hs.send hask
    rw [queriesIn_query] at hasked hcount
    obtain ⟨hnumber, hlast, hsame⟩ := hasked.await hopen hrequest
    exact ⟨hnumber, hlast, hsame.trans hcount⟩

end Expecting

/-! ### Histories of a link -/

inductive LinkOperation where
  | reopen
  | send (text : String)
  | request
  | close
deriving Repr, DecidableEq

namespace Session

def perform {ω : Type} [Transport ω] (s : Session ω) : LinkOperation → Session ω
  | .reopen => s.reopen.1
  | .send text => (s.send text).1
  | .request => s.request.1
  | .close => s.close

def replay {ω : Type} [Transport ω] (s : Session ω) (operations : List LinkOperation) : Session ω :=
  operations.foldl perform s

end Session

theorem Expecting.perform {number : Numbering} {s : Session (SlowLine number)}
    (hs : Expecting [] s) {operation : LinkOperation}
    (hquiet : ∀ text, operation = .send text → queriesIn (encodeFrame text) = 0) :
    Expecting [] (s.perform operation) := by
  cases operation with
  | reopen =>
      change Expecting [] s.reopen.1
      rcases hreopen : s.reopen with ⟨s', error | ⟨⟩⟩
      · exact of_not_isOpen (Session.isOpen_of_reopen_error hreopen)
      · exact (Expecting.reopen hreopen).1
  | send text =>
      change Expecting [] (s.send text).1
      rcases hsend : s.send text with ⟨s', error | ⟨⟩⟩
      · exact of_not_isOpen (Session.isOpen_of_send_error hsend)
      · have hsent := (hs.send hsend).1
        rwa [hquiet text rfl] at hsent
  | request =>
      change Expecting [] s.request.1
      rcases hrequest : s.request with ⟨s', error | telemetry⟩
      · exact of_not_isOpen (Session.isOpen_of_request_error hrequest)
      · exact (hs.request hrequest).2.1
  | close => exact of_not_isOpen rfl

theorem Expecting.replay {number : Numbering} {s : Session (SlowLine number)}
    (hs : Expecting [] s) {operations : List LinkOperation}
    (hquiet : ∀ text, .send text ∈ operations → queriesIn (encodeFrame text) = 0) :
    Expecting [] (s.replay operations) := by
  induction operations generalizing s with
  | nil => exact hs
  | cons operation rest ih =>
      have hfirst : Expecting [] (s.perform operation) := by
        refine hs.perform fun text heq => hquiet text ?_
        rw [heq]
        exact List.mem_cons_self
      exact ih hfirst fun text hmem => hquiet text (List.mem_cons_of_mem operation hmem)

/-- Whatever has become of the queries before it, a request that succeeds returns the answer to the
query that it wrote itself, which is the next one to come in. -/
theorem request_returns_own_answer (number : Numbering) (endpoint : String) (timeout : Span)
    (now : Instant) (turns : List (SlowTurn number)) (operations : List LinkOperation)
    (hquiet : ∀ text, .send text ∈ operations → queriesIn (encodeFrame text) = 0)
    (telemetry : Telemetry) :
    let s : Session (SlowLine number) :=
      Session.replay { link := { endpoint, timeout }, wire := { now, turns } } operations
    s.request.2 = .ok telemetry →
      number telemetry = s.wire.asked ∧ s.request.1.wire.asked = s.wire.asked + 1 := by
  intro s hrequest
  have hs : Expecting [] s := Expecting.replay (Expecting.of_not_isOpen rfl) hquiet
  have hown := hs.request (Prod.ext rfl hrequest : s.request = (s.request.1, .ok telemetry))
  exact ⟨hown.1, hown.2.2⟩

def Answer.ofLine {number : Numbering} (query : Nat) (line : String)
    (hbody : terminator ∉ Text.bytes line ∧ readBody (Text.bytes line) = some (.ok line))
    (hline : isTelemetry line = true ∧ (Telemetry.parse line).toOption.map number = some query) :
    Answer number where
  query := query
  line := line
  body := Text.bytes line
  whole := hbody.1
  reads := hbody.2
  telemetry := hline.1
  identifies := by
    intro telemetry hparse
    have hnumber := hline.2
    rw [hparse] at hnumber
    exact Option.some.inj hnumber

/-- The first query is answered when the second one has been written. -/
def lateTurns : List (SlowTurn Telemetry.tick) :=
  [{ outcome := .works 255 }, { outcome := .works 255 }, { outcome := .silent },
    { outcome := .works 255 }, { outcome := .works 255 },
    { speech := [.dropped 0 (.answer (.ofLine 0 "tick:0, T_a:2000" (by decide +kernel)
          (by decide +kernel))),
        .current (.answer (.ofLine 1 "tick:1, T_a:2100" (by decide +kernel) (by decide +kernel)))]
      outcome := .works 255 }]

def secondRequest : Session (SlowLine Telemetry.tick) × Except LinkError Telemetry :=
  let start : Session (SlowLine Telemetry.tick) :=
    { link := { endpoint := "board", timeout := Span.second }, wire := { turns := lateTurns } }
  (start.replay [.request]).request

theorem late_answer_is_not_returned :
    ∃ telemetry, secondRequest.2 = .ok telemetry ∧ telemetry.tick = 1 := by
  have hrequest : secondRequest.2 = .ok
      { tick := 1, hundredths := 2100, flags := DeviceFlags.none,
        fields := [("tick", "1"), ("T_a", "2100")] } := by
    decide +kernel
  have hown := request_returns_own_answer Telemetry.tick "board" Span.second 0 lateTurns
    [.request] (by simp) _ hrequest
  exact ⟨_, hrequest, hown.1.trans (by decide +kernel)⟩

end HeaterHost
