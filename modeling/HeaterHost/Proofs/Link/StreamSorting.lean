import HeaterHost.Proofs.Link.Outcomes
import HeaterHost.Proofs.Wire.ReadSplits

/-!
# Requests sort the stream

Requests go over what a board sends frame by frame, each up to the next line of telemetry, which it
answers with. What comes before that line goes to the console, and what comes after it is left to
the next request, though it may have been read already.
-/

namespace HeaterHost

open Wire

/-- What comes on a line after all that there was to read. -/
inductive Ending where
  | silent
  | closed
  | failed (error : IoError)
deriving Repr

def Ending.reception : Ending → Reception
  | .silent => .silence
  | .closed => .closed
  | .failed error => .failed error

/-- The failure of a request that gets there. -/
def Ending.failure (timeout : Span) : Ending → LinkError
  | .silent => .timeout timeout
  | .closed => .lost .endOfStream
  | .failed error => .lost error

/-- An open stream whose bytes are there before anyone gives up waiting for them. -/
structure TimelyLine where
  now : Instant
  /-- What is still to be read, cut into reads, with the time that each of them takes. -/
  reads : List (Span × List UInt8)
  ending : Ending
deriving Repr

namespace TimelyLine

def unread (l : TimelyLine) : List UInt8 :=
  l.reads.flatMap (·.2)

def receive (l : TimelyLine) (limit : Instant) : Reception × TimelyLine :=
  match l.reads, l.ending with
  | (delay, bytes) :: reads, _ =>
      (.data bytes, { l with now := min (l.now + delay) (max l.now limit), reads })
  | [], .silent => (.silence, { l with now := max l.now limit })
  | [], .closed => (.closed, l)
  | [], .failed error => (.failed error, l)

theorem receive_data {l l' : TimelyLine} {limit : Instant} {bytes : List UInt8}
    (hreceive : l.receive limit = (.data bytes, l')) :
    l.unread = bytes ++ l'.unread ∧ l'.ending = l.ending ∧ l'.reads.length < l.reads.length := by
  unfold receive at hreceive
  split at hreceive
  case h_1 delay _ reads _ hreads =>
    cases hreceive
    simp [unread, hreads]
  all_goals cases hreceive

theorem receive_over {l l' : TimelyLine} {limit : Instant} {ending : Ending}
    (hreceive : l.receive limit = (ending.reception, l')) : l.unread = [] ∧ l.ending = ending := by
  unfold receive at hreceive
  split at hreceive
  case h_1 => cases ending <;> cases hreceive
  all_goals
    cases ending <;> cases hreceive
    exact ⟨by simp [unread, *], ‹_›⟩

instance : Transport TimelyLine where
  now := now
  connect l := (.error .refused, l)
  write l _ := (.ok (), l)
  receive := receive
  hangUp l := l
  elapse l time := { l with now := max l.now time }
  backlog l := l.reads.length
  backlog_receive := by
    intro l limit bytes hdata
    have hreceive : receive l limit = (.data bytes, (receive l limit).2) := Prod.ext hdata rfl
    exact (receive_data hreceive).2.2

end TimelyLine

/-! ### Sorting -/

def Wire.consoleLine? : FrameResult → Option String
  | .ok text => if isTelemetry text then none else some text
  | .error _ => none

def Wire.consoleLines (frames : List FrameResult) : List String :=
  frames.filterMap consoleLine?

theorem Wire.telemetryLines_append (frames later : List FrameResult) :
    telemetryLines (frames ++ later) = telemetryLines frames ++ telemetryLines later :=
  List.filterMap_append

/-- The frames up to the telemetry that is the last of so many, or all where there is less. -/
def Wire.through : Nat → List FrameResult → List FrameResult
  | 0, _ => []
  | _ + 1, [] => []
  | n + 1, frame :: rest =>
      frame :: through (if (telemetryLine? frame).isSome then n else n + 1) rest

theorem Wire.through_zero (frames : List FrameResult) : through 0 frames = [] := by
  rw [through]

theorem Wire.through_append {passed : List FrameResult} (hpassed : telemetryLines passed = [])
    (n : Nat) (later : List FrameResult) :
    through (n + 1) (passed ++ later) = passed ++ through (n + 1) later := by
  induction passed with
  | nil => rfl
  | cons frame rest ih =>
      have hnone : telemetryLine? frame = none ∧ telemetryLines rest = [] := by
        cases hframe : telemetryLine? frame <;> simp_all [telemetryLines]
      rw [List.cons_append, through, hnone.1]
      exact congrArg (frame :: ·) (ih hnone.2)

theorem Wire.through_telemetry {line : String} (hline : isTelemetry line = true) (n : Nat)
    (later : List FrameResult) :
    through (n + 1) (.ok line :: later) = .ok line :: through n later := by
  rw [through, telemetryLine?, if_pos hline]
  rfl

theorem Wire.telemetryLines_found {passed : List FrameResult} {line : String}
    (hpassed : telemetryLines passed = []) (hline : isTelemetry line = true)
    (later : List FrameResult) :
    telemetryLines (passed ++ .ok line :: later) = line :: telemetryLines later := by
  rw [telemetryLines_append, hpassed, List.nil_append]
  exact List.filterMap_cons_some (if_pos hline)

/-- The answers of so many requests, up to the first that is a failure, where `failure` is that of a
request which no telemetry is left for. -/
def Wire.answers (failure : LinkError) : Nat → List String → List (Except LinkError Telemetry)
  | 0, _ => []
  | _ + 1, [] => [.error failure]
  | n + 1, line :: rest =>
      match Telemetry.parse line with
      | .ok telemetry => .ok telemetry :: answers failure n rest
      | .error error => [.error (.malformed error)]

/-- So many requests, up to the first that fails and with it ends the session. -/
def Session.requests {ω : Type} [Transport ω] (s : Session ω) :
    Nat → Session ω × List (Except LinkError Telemetry)
  | 0 => (s, [])
  | n + 1 =>
      match s.request with
      | (s, .error error) => (s, [.error error])
      | (s, .ok telemetry) =>
          let (s, results) := s.requests n
          (s, .ok telemetry :: results)

/-- What became of a link that has gone over frames: it has shown their console lines, oldest
first, and counted those that are lines and those that are not. -/
structure Link.Sorts (l l' : Link) (frames : List FrameResult) : Prop where
  timeout : l'.timeout = l.timeout
  console : l'.console.map (·.text) = (consoleLines frames).reverse ++ l.console.map (·.text)
  received : l'.stats.framesReceived = l.stats.framesReceived + frames.countP Except.isOk
  discarded : l'.stats.framesDiscarded = l.stats.framesDiscarded + frames.countP (!·.isOk)

namespace Link.Sorts

variable {l l' l'' : Link} {frames later : List FrameResult}

theorem refl (l : Link) : l.Sorts l [] :=
  ⟨rfl, rfl, rfl, rfl⟩

theorem trans (h : l.Sorts l' frames) (h' : l'.Sorts l'' later) : l.Sorts l'' (frames ++ later) := by
  refine ⟨h'.timeout.trans h.timeout, ?_, ?_, ?_⟩
  · rw [h'.console, h.console, consoleLines, consoleLines, consoleLines, List.filterMap_append,
      List.reverse_append, List.append_assoc]
  · rw [h'.received, h.received, List.countP_append, Nat.add_assoc]
  · rw [h'.discarded, h.discarded, List.countP_append, Nat.add_assoc]

end Link.Sorts

/-- What a link has gone over, and what it found: nothing while there is no telemetry, or the one
line of telemetry that it stopped at. -/
inductive Wire.Sifted : List FrameResult → Option (Except TelemetryError Telemetry) → Prop
  | nothing {passed : List FrameResult} (hpassed : telemetryLines passed = []) :
      Sifted passed none
  | telemetry {passed : List FrameResult} {line : String} {result : Except TelemetryError Telemetry}
      (hpassed : telemetryLines passed = []) (hline : isTelemetry line = true)
      (hparse : Telemetry.parse line = result) : Sifted (passed ++ [.ok line]) (some result)

theorem Wire.Sifted.cons {frame : FrameResult} {frames : List FrameResult}
    {result : Option (Except TelemetryError Telemetry)} (hframe : telemetryLine? frame = none)
    (hsifted : Sifted frames result) : Sifted (frame :: frames) result := by
  cases hsifted with
  | nothing hpassed => exact .nothing ((List.filterMap_cons_none hframe).trans hpassed)
  | telemetry hpassed hline hparse =>
      rw [← List.cons_append]
      exact .telemetry ((List.filterMap_cons_none hframe).trans hpassed) hline hparse

/-- When a link stops without having found telemetry it has nothing to go on with. -/
theorem Link.sift_sorts {l l' : Link} {now : Instant}
    {result : Option (Except TelemetryError Telemetry)} (hsift : l.sift now = (l', result)) :
    ∃ taken, l.Sorts l' taken ∧ Sifted taken result ∧
      (∀ ahead, l.decoder.outlook ahead = taken ++ l'.decoder.outlook ahead) ∧
      (result = none → l.decoder.outlook [] = taken) := by
  fun_induction Link.sift l now with
  | case1 l decoder hnext =>
      have houtlook := l.decoder.outlook_next
      rw [hnext] at houtlook
      cases hsift
      refine ⟨[], ⟨rfl, rfl, rfl, rfl⟩, .nothing rfl, houtlook, fun _ => ?_⟩
      have hexhausted : Decoding.Exhausted { decoder := l.decoder } := congrArg Prod.fst hnext
      exact hexhausted.outlook_nil
  | case2 l decoder l' error hnext _ _ ih =>
      have houtlook := l.decoder.outlook_next
      rw [hnext] at houtlook
      obtain ⟨taken, hsorts, hsifted, hahead, hnone⟩ := ih hsift
      have hfirst : l.Sorts l'.discarded [.error error] := ⟨rfl, rfl, rfl, rfl⟩
      refine ⟨.error error :: taken, hfirst.trans hsorts, hsifted.cons rfl, fun ahead => ?_, ?_⟩
      · rw [houtlook]
        exact congrArg (.error error :: ·) (hahead ahead)
      · intro hresult
        rw [houtlook]
        exact congrArg (.error error :: ·) (hnone hresult)
  | case3 l decoder l' text hnext htelemetry =>
      have houtlook := l.decoder.outlook_next
      rw [hnext] at houtlook
      cases hsift
      have hconsole : consoleLines [.ok text] = [] := by
        simp [consoleLines, consoleLine?, htelemetry]
      have hfound : Sifted ([] ++ [.ok text]) (some (Telemetry.parse text)) :=
        .telemetry rfl htelemetry rfl
      refine ⟨[.ok text], ⟨rfl, ?_, rfl, rfl⟩, hfound, houtlook, fun hnone => ?_⟩
      · rw [hconsole]
        rfl
      · cases hnone
  | case4 l decoder l' text hnext htelemetry _ _ ih =>
      have houtlook := l.decoder.outlook_next
      rw [hnext] at houtlook
      obtain ⟨taken, hsorts, hsifted, hahead, hnone⟩ := ih hsift
      have hconsole : consoleLines [.ok text] = [text] := by
        simp [consoleLines, consoleLine?, htelemetry]
      have hfirst : l.Sorts ((l'.heard now).publish now text) [.ok text] := by
        refine ⟨rfl, ?_, rfl, rfl⟩
        rw [hconsole]
        rfl
      refine ⟨.ok text :: taken, hfirst.trans hsorts, hsifted.cons (if_neg htelemetry),
        fun ahead => ?_, ?_⟩
      · rw [houtlook]
        exact congrArg (.ok text :: ·) (hahead ahead)
      · intro hresult
        rw [houtlook]
        exact congrArg (.ok text :: ·) (hnone hresult)

namespace Session

variable {s s' : Session TimelyLine} {result : Except LinkError Telemetry}

/-- The frames that a session will still find. -/
def frames (s : Session TimelyLine) : List FrameResult :=
  s.link.decoder.outlook s.wire.unread

/-- How a request ends that had these frames before it: without telemetry after all of them, or
with the first line of telemetry, of which no further frame is lost as long as it makes sense. -/
inductive Answered (s s' : Session TimelyLine) (frames : List FrameResult) :
    Except LinkError Telemetry → Prop
  | exhausted (hnone : telemetryLines frames = []) (hsorts : s.link.Sorts s'.link frames)
      (hclosed : s'.link.isOpen = false) :
      Answered s s' frames (.error (s.wire.ending.failure s.link.timeout))
  | telemetry {passed later : List FrameResult} {line : String} {telemetry : Telemetry}
      (hframes : frames = passed ++ .ok line :: later) (hpassed : telemetryLines passed = [])
      (hline : isTelemetry line = true) (hparse : Telemetry.parse line = .ok telemetry)
      (hsorts : s.link.Sorts s'.link (passed ++ [.ok line])) (hlater : s'.frames = later)
      (hending : s'.wire.ending = s.wire.ending) : Answered s s' frames (.ok telemetry)
  | malformed {passed later : List FrameResult} {line : String} {error : TelemetryError}
      (hframes : frames = passed ++ .ok line :: later) (hpassed : telemetryLines passed = [])
      (hline : isTelemetry line = true) (hparse : Telemetry.parse line = .error error)
      (hsorts : s.link.Sorts s'.link (passed ++ [.ok line])) (hclosed : s'.link.isOpen = false) :
      Answered s s' frames (.error (.malformed error))

theorem Answered.after {s t s' : Session TimelyLine} {taken frames : List FrameResult}
    (hanswered : t.Answered s' frames result) (hsorts : s.link.Sorts t.link taken)
    (htaken : telemetryLines taken = []) (hending : t.wire.ending = s.wire.ending) :
    s.Answered s' (taken ++ frames) result := by
  have hnone {passed : List FrameResult} (hpassed : telemetryLines passed = []) :
      telemetryLines (taken ++ passed) = [] := by
    rw [telemetryLines_append, htaken, hpassed, List.nil_append]
  cases hanswered with
  | exhausted hrest hlater hclosed =>
      rw [hending, hsorts.timeout]
      exact .exhausted (hnone hrest) (hsorts.trans hlater) hclosed
  | @telemetry passed later line _ hframes hpassed hline hparse hfound hlater hsame =>
      refine .telemetry (by rw [hframes, List.append_assoc]) (hnone hpassed) hline hparse ?_ hlater
        (hsame.trans hending)
      rw [List.append_assoc]
      exact hsorts.trans hfound
  | @malformed passed later line _ hframes hpassed hline hparse hfound hclosed =>
      refine .malformed (by rw [hframes, List.append_assoc]) (hnone hpassed) hline hparse ?_ hclosed
      rw [List.append_assoc]
      exact hsorts.trans hfound

/-- There is nothing more to read after what the link has gone over. -/
theorem answered_of_over {s s' : Session TimelyLine} {link : Link} {wire : TimelyLine}
    {limit : Instant} (ending : Ending) (hsift : s.link.sift s.now = (link, none))
    (hreceive : Transport.receive s.wire limit = (ending.reception, wire))
    (hsorts : link.Sorts s'.link []) (hclosed : s'.link.isOpen = false) :
    s.Answered s' s.frames (.error (ending.failure link.timeout)) := by
  obtain ⟨taken, htaken, hsifted, -, hnone⟩ := Link.sift_sorts hsift
  obtain ⟨hunread, rfl⟩ := TimelyLine.receive_over hreceive
  have hframes : s.frames = taken := by rw [frames, hunread, hnone rfl]
  cases hsifted with
  | nothing hpassed =>
      rw [hframes, htaken.timeout]
      refine .exhausted hpassed ?_ hclosed
      have hall := htaken.trans hsorts
      rwa [List.append_nil] at hall

theorem await_answered (s : Session TimelyLine) (limit : Instant) :
    s.Answered (s.await limit).1 s.frames (s.await limit).2 := by
  fun_induction Session.await s limit with
  | case1 s link telemetry hsift =>
      obtain ⟨taken, hsorts, hsifted, hahead, -⟩ := Link.sift_sorts hsift
      cases hsifted with
      | @telemetry passed line _ hpassed hline hparse =>
          have hframes : s.frames = passed ++ .ok line :: frames { s with link } := by
            rw [frames, hahead, List.append_assoc]
            rfl
          exact .telemetry hframes hpassed hline hparse hsorts rfl rfl
  | case2 s link error hsift =>
      obtain ⟨taken, hsorts, hsifted, hahead, -⟩ := Link.sift_sorts hsift
      have hfault : link.Sorts link.fault [] := ⟨rfl, rfl, rfl, rfl⟩
      have hall := hsorts.trans hfault
      rw [List.append_nil] at hall
      cases hsifted with
      | @telemetry passed line _ hpassed hline hparse =>
          have hframes : s.frames = passed ++ .ok line :: frames { s with link } := by
            rw [frames, hahead, List.append_assoc]
            rfl
          exact .malformed hframes hpassed hline hparse hall rfl
  | case3 s link hsift bytes wire hreceive _ ih =>
      obtain ⟨taken, hsorts, hsifted, hahead, -⟩ := Link.sift_sorts hsift
      obtain ⟨hunread, hending, -⟩ := TimelyLine.receive_data hreceive
      have hread : link.Sorts (link.received bytes) [] := ⟨rfl, rfl, rfl, rfl⟩
      have hall := hsorts.trans hread
      rw [List.append_nil] at hall
      have hframes : s.frames = taken ++ frames { link := link.received bytes, wire } := by
        rw [frames, hahead, hunread, ← FrameDecoder.outlook_push]
        rfl
      cases hsifted with
      | nothing hpassed =>
          rw [hframes]
          exact ih.after hall hpassed hending
  | case4 s link hsift wire hreceive =>
      exact answered_of_over .closed hsift hreceive ⟨rfl, rfl, rfl, rfl⟩ rfl
  | case5 s link hsift error wire hreceive =>
      exact answered_of_over (.failed error) hsift hreceive ⟨rfl, rfl, rfl, rfl⟩ rfl
  | case6 s link hsift wire hreceive =>
      exact answered_of_over .silent hsift hreceive ⟨rfl, rfl, rfl, rfl⟩ rfl

/-- Asking takes nothing off the line, and always succeeds on an open session. -/
theorem request_answered {s : Session TimelyLine} (hopen : s.link.isOpen = true) :
    s.Answered s.request.1 s.frames s.request.2 := by
  have hask : s.ask = ({ s with link := s.link.wrote }, .ok ()) := send_of_isOpen hopen _
  have hwrote : s.link.Sorts s.link.wrote [] := ⟨rfl, rfl, rfl, rfl⟩
  have hnone : telemetryLines [] = [] := rfl
  have hrequest : s.request = await { s with link := s.link.wrote } s.deadline := by
    rw [request, hask]
    rfl
  have hframes : s.frames = [] ++ frames { s with link := s.link.wrote } := rfl
  have hawaited := await_answered { s with link := s.link.wrote } s.deadline
  rw [hrequest, hframes]
  exact hawaited.after hwrote hnone rfl

theorem requests_answered {s : Session TimelyLine} (hopen : s.link.isOpen = true) (n : Nat) :
    (s.requests n).2 =
        answers (s.wire.ending.failure s.link.timeout) n (telemetryLines s.frames) ∧
      s.link.Sorts (s.requests n).1.link (through (s.requests n).2.length s.frames) ∧
      (s.requests n).1.link.isOpen = (s.requests n).2.all Except.isOk := by
  induction n generalizing s with
  | zero =>
      refine ⟨rfl, ?_, hopen⟩
      rw [requests, List.length_nil, through_zero]
      exact .refl s.link
  | succ n ih =>
      have hanswered := request_answered hopen
      rw [requests]
      split
      case h_1 s' error hrequest =>
        rw [hrequest] at hanswered
        cases hanswered with
        | exhausted hnone hsorts hclosed =>
            have hall : through 1 s.frames = s.frames := by
              have happend := through_append hnone 0 []
              rwa [List.append_nil, through, List.append_nil] at happend
            rw [hnone]
            exact ⟨rfl, hall.symm ▸ hsorts, hclosed⟩
        | malformed hframes hpassed hline hparse hsorts hclosed =>
            rw [hframes, telemetryLines_found hpassed hline, answers, hparse, List.length_singleton,
              through_append hpassed, through_telemetry hline, through_zero]
            exact ⟨rfl, hsorts, hclosed⟩
      case h_2 s' telemetry hrequest =>
        have hopen' := isOpen_of_request_ok hrequest
        obtain ⟨hanswers, hrest, hlast⟩ := ih hopen'
        rw [hrequest] at hanswered
        cases hanswered with
        | telemetry hframes hpassed hline hparse hsorts hlater hending =>
            rw [hlater] at hanswers hrest
            rw [hending, hsorts.timeout] at hanswers
            rw [hframes, telemetryLines_found hpassed hline, answers, hparse]
            refine ⟨congrArg (.ok telemetry :: ·) hanswers, ?_, hlast⟩
            rw [List.length_cons, through_append hpassed, through_telemetry hline]
            have hall := hsorts.trans hrest
            rwa [List.append_assoc] at hall

/-- **Telemetry requests sort the stream without loss.** A board sends a stream of bytes, cut into
reads in any way, on a session that has just come open. So many requests answer with the lines of
telemetry among the frames of the stream, in order, until one makes no sense or none is left, which
ends the session. All other lines, up to the last frame of telemetry that was answered with, have
been shown in order, and every frame up to there has been counted for what it is. -/
theorem requests_sort_stream (link : Link) (line : TimelyLine) (n : Nat) :
    let start : Session TimelyLine := { link := link.opened line.now, wire := line }
    let s := (start.requests n).1
    let results := (start.requests n).2
    ∃ frames, StreamReads line.unread frames ∧
      results = answers (line.ending.failure link.timeout) n (telemetryLines frames) ∧
      (s.link.isOpen = true ↔ ∀ result ∈ results, result.isOk = true) ∧
      ∃ taken, taken = through results.length frames ∧
        s.link.console.reverse.map (·.text) =
          link.console.reverse.map (·.text) ++ consoleLines taken ∧
        s.link.stats.framesReceived = link.stats.framesReceived + taken.countP Except.isOk ∧
        s.link.stats.framesDiscarded = link.stats.framesDiscarded + taken.countP (!·.isOk) := by
  intro start s results
  have hopen : start.link.isOpen = true := rfl
  obtain ⟨hanswers, hsorts, hlast⟩ := requests_answered hopen n
  refine ⟨start.frames, streamReads_iff.mpr rfl, hanswers, ?_, _, rfl, ?_, hsorts.received,
    hsorts.discarded⟩
  · rw [hlast, List.all_eq_true]
  · have hconsole := congrArg List.reverse hsorts.console
    rw [List.reverse_append, List.reverse_reverse] at hconsole
    rw [List.map_reverse, List.map_reverse]
    exact hconsole

end Session

end HeaterHost
