import HeaterHost.Link.Session
import HeaterHost.Proofs.Simulator.LineHistory

/-!
# The answer to a query

On an open session every line of telemetry that is still to come answers a query that was written
in it. A session that has one query out and hears telemetry has therefore heard its answer, and the
board has taken everything that was written before the query.
-/

namespace HeaterHost

open Simulator Wire

theorem Wire.reports_eq_length (results : List FrameResult) :
    reports results = (telemetryLines results).length := by
  rw [telemetryLines, List.length_filterMap_eq_countP]
  refine List.countP_congr fun result _ => ?_
  cases result with
  | error error => rfl
  | ok text => simp [isReport, telemetryLine?]

/-- Going through its frames changes neither whether a link is open nor what there is to hear, but
for the one line of telemetry that is found. -/
theorem Link.sift_answers {l l' : Link} {now : Instant}
    {result : Option (Except TelemetryError Telemetry)} {ahead : List UInt8}
    (hsettled : l.decoder.Settled ahead) (hsift : l.sift now = (l', result)) :
    l'.isOpen = l.isOpen ∧ l'.decoder.Settled ahead ∧
      reports (l.decoder.outlook ahead) =
        reports (l'.decoder.outlook ahead) + if result.isSome then 1 else 0 := by
  obtain ⟨hopen, hlater, found, rfl, hlines⟩ := Link.sift_telemetryLines hsettled hsift
  refine ⟨hopen, hlater, ?_⟩
  rw [reports_eq_length, reports_eq_length, hlines, List.length_append, Nat.add_comm]
  cases found <;> rfl

namespace Session

/-- The lines of telemetry that are to come, and the queries that the board has yet to take. -/
def unanswered (s : Session LossyLine) : Nat :=
  reports (s.link.decoder.outlook s.wire.far.replies) + queries s.wire.unread

/-- A session with at most so many answers to come, if it is open. -/
structure Attuned (gains : Gains Float) (limit : Nat) (s : Session LossyLine) : Prop where
  sound : s.wire.Sound gains
  settled : s.link.isOpen = true → s.link.decoder.Settled s.wire.far.replies
  answers : s.link.isOpen = true → s.unanswered ≤ limit

structure Ended (gains : Gains Float) (s s' : Session LossyLine) : Prop where
  sound : s'.wire.Sound gains
  closed : s'.link.isOpen = false
  written : s'.wire.written = s.wire.written

/-- A session in which a frame was written last. -/
structure Wrote (gains : Gains Float) (limit : Nat) (body : List UInt8)
    (s s' : Session LossyLine) : Prop where
  attuned : s'.Attuned gains (limit + queries [body])
  isOpen : s'.link.isOpen = true
  written : s'.wire.written = s.wire.written ++ [body]
  last : s'.wire.unread.getLast? = some body

variable {gains : Gains Float} {limit limit' : Nat} {s s' : Session LossyLine}

theorem Attuned.mono (hs : s.Attuned gains limit) (hle : limit ≤ limit') :
    s.Attuned gains limit' :=
  ⟨hs.sound, hs.settled, fun hopen => Nat.le_trans (hs.answers hopen) hle⟩

theorem Ended.attuned (hs : Ended gains s s') (limit : Nat) : s'.Attuned gains limit := by
  refine ⟨hs.sound, fun hopen => ?_, fun hopen => ?_⟩
  all_goals
    rw [hs.closed] at hopen
    cases hopen

/-- Moves answer queries, each with a line of telemetry at most. -/
theorem Attuned.advance (hs : s.Attuned gains limit) {wire : LossyLine}
    (hwire : LossyLine.Advanced gains s.wire wire) : Attuned gains limit { s with wire } := by
  obtain ⟨fresh, more, hreplies, hframes, hqueries⟩ := hwire.answers
  refine ⟨hwire.sound, fun hopen => ?_, fun hopen => ?_⟩
  · dsimp only
    rw [hreplies]
    exact (hs.settled hopen).append hframes.settled
  · have hbound := hs.answers hopen
    have hfresh := hframes.reports
    unfold unanswered reports at hbound ⊢
    unfold reports at hfresh
    dsimp only
    rw [hreplies, (hs.settled hopen).outlook_append, List.countP_append]
    omega

theorem ended_hangUp {wire : LossyLine} (hwire : LossyLine.Advanced gains s.wire wire)
    {link : Link} (hclosed : link.isOpen = false) :
    Ended gains s { link, wire := Transport.hangUp wire } :=
  ⟨⟨hwire.sound.sent, hwire.sound.clean, hwire.sound.tells⟩, hclosed, hwire.written⟩

/-! ### Writing -/

theorem reopen_ok (hs : s.wire.Sound gains) (hreopen : s.reopen = (s', .ok ())) :
    s'.Attuned gains 0 ∧ s'.link.isOpen = true ∧ s'.wire.written = s.wire.written := by
  unfold reopen at hreopen
  split at hreopen
  case h_1 wire hconnect =>
    cases hreopen
    obtain ⟨hsound, hwritten, hunread, hreplies⟩ := LossyLine.connect_ok hs hconnect
    refine ⟨⟨hsound, fun _ => ?_, fun _ => ?_⟩, rfl, hwritten⟩
    · dsimp only
      rw [hreplies]
      rfl
    · unfold unanswered
      dsimp only
      rw [hreplies, hunread]
      exact Nat.le_refl 0
  case h_2 => cases hreopen

theorem reopen_error {error : LinkError} (hs : s.wire.Sound gains)
    (hreopen : s.reopen = (s', .error error)) : Ended gains s s' := by
  unfold reopen at hreopen
  split at hreopen
  case h_1 => cases hreopen
  case h_2 failure wire hconnect =>
    cases hreopen
    have hwire := LossyLine.connect_error hs hconnect
    exact ⟨hwire.sound, rfl, hwire.written⟩

theorem ensureOpen_ok (hs : s.Attuned gains limit) (hensure : s.ensureOpen = (s', .ok ())) :
    s'.Attuned gains limit ∧ s'.link.isOpen = true ∧ s'.wire.written = s.wire.written := by
  unfold ensureOpen at hensure
  split at hensure
  case isTrue hopen =>
    cases hensure
    exact ⟨hs, hopen, rfl⟩
  case isFalse =>
    obtain ⟨hattuned, hopen, hwritten⟩ := reopen_ok hs.sound hensure
    exact ⟨hattuned.mono (Nat.zero_le limit), hopen, hwritten⟩

theorem ensureOpen_error {error : LinkError} (hs : s.wire.Sound gains)
    (hensure : s.ensureOpen = (s', .error error)) : Ended gains s s' := by
  unfold ensureOpen at hensure
  split at hensure
  · cases hensure
  · exact reopen_error hs hensure

variable {text : String} {body : List UInt8}

theorem writeFrame_ok (hs : s.Attuned gains limit) (hopen : s.link.isOpen = true)
    (hbodies : BoardLine.bodies (encodeFrame text) = [body]) (hsent : Sent gains body)
    (hwrite : s.writeFrame text = (s', .ok ())) : Wrote gains limit body s s' := by
  unfold writeFrame at hwrite
  split at hwrite
  case h_1 wire hwire =>
    cases hwrite
    obtain ⟨begun, hbegun, rfl⟩ := LossyLine.write_ok hs.sound hwire
    have hattuned := hs.advance hbegun
    rw [hbodies]
    have hwritten : LossyLine.written { begun with unread := begun.unread ++ [body] } =
        s.wire.written ++ [body] := by
      rw [← hbegun.written, LossyLine.written, LossyLine.written, List.append_assoc]
    refine ⟨⟨⟨?_, hattuned.sound.clean, hattuned.sound.tells⟩, hattuned.settled, fun _ => ?_⟩, hopen,
      hwritten, ?_⟩
    · rw [hwritten, ← hbegun.written]
      exact List.forall_mem_append.mpr ⟨hattuned.sound.sent, List.forall_mem_singleton.mpr hsent⟩
    · have hbound := hattuned.answers hopen
      unfold unanswered queries at hbound ⊢
      dsimp only at hbound ⊢
      rw [List.count_append, ← Nat.add_assoc]
      exact Nat.add_le_add_right hbound _
    · exact List.getLast?_concat
  case h_2 => cases hwrite

theorem writeFrame_error {error : LinkError} (hs : s.wire.Sound gains)
    (hwrite : s.writeFrame text = (s', .error error)) : Ended gains s s' := by
  unfold writeFrame at hwrite
  split at hwrite
  case h_1 => cases hwrite
  case h_2 failure wire hwire =>
    cases hwrite
    exact ended_hangUp (LossyLine.write_error hs hwire) rfl

theorem send_ok (hs : s.Attuned gains limit)
    (hbodies : BoardLine.bodies (encodeFrame text) = [body]) (hsent : Sent gains body)
    (hsend : s.send text = (s', .ok ())) : Wrote gains limit body s s' := by
  unfold send at hsend
  split at hsend
  case h_1 => cases hsend
  case h_2 opened hensure =>
    obtain ⟨hattuned, hopen, hwritten⟩ := ensureOpen_ok hs hensure
    have hwrote := writeFrame_ok hattuned hopen hbodies hsent hsend
    exact ⟨hwrote.attuned, hwrote.isOpen, hwrote.written.trans (by rw [hwritten]), hwrote.last⟩

theorem send_error {error : LinkError} (hs : s.Attuned gains limit)
    (hsend : s.send text = (s', .error error)) : Ended gains s s' := by
  unfold send at hsend
  split at hsend
  case h_1 failure hensure =>
    cases hsend
    exact ensureOpen_error hs.sound hensure
  case h_2 opened hensure =>
    obtain ⟨hattuned, -, hwritten⟩ := ensureOpen_ok hs hensure
    have hended := writeFrame_error hattuned.sound hsend
    exact ⟨hended.sound, hended.closed, hended.written.trans hwritten⟩

/-! ### Waiting -/

def Asked (unread : List (List UInt8)) : Prop :=
  ∀ body, unread.getLast? = some body → body = DeviceCommand.queryTelemetry.body

theorem Asked.suffix {unread unread' : List (List UInt8)} (hasked : Asked unread)
    (hsuffix : unread' <:+ unread) : Asked unread' := by
  obtain ⟨taken, rfl⟩ := hsuffix
  intro body hbody
  refine hasked body ?_
  rw [List.getLast?_append, hbody]
  rfl

/-- With the query, everything before it has been taken. -/
theorem Asked.eq_nil {unread : List (List UInt8)} (hasked : Asked unread)
    (hqueries : queries unread = 0) : unread = [] := by
  rcases List.eq_nil_or_concat unread with hnil | ⟨front, last, rfl⟩
  · exact hnil
  · rw [List.concat_eq_append] at hasked hqueries
    rw [hasked last List.getLast?_concat, queries, List.count_append] at hqueries
    simp at hqueries

/-- What a session that waits has read, without having heard telemetry yet. -/
theorem attuned_received {link : Link} {bytes : List UInt8} {wire : LossyLine} {deadline : Instant}
    (hs : s.Attuned gains limit) (hopen : s.link.isOpen = true)
    (hsift : s.link.sift s.now = (link, none))
    (hreceive : Transport.receive s.wire deadline = (.data bytes, wire)) :
    Attuned gains limit { link := link.received bytes, wire } ∧
      (link.received bytes).isOpen = true ∧ wire.unread <:+ s.wire.unread ∧
      wire.written = s.wire.written := by
  obtain ⟨hsame, hsettled, hreports⟩ := Link.sift_answers (hs.settled hopen) hsift
  obtain ⟨begun, hbegun, hreplies, hsound, hwritten, hunread⟩ :=
    LossyLine.receive_data hs.sound hreceive
  have hsifted : Attuned gains limit { s with link } := by
    refine ⟨hs.sound, fun _ => hsettled, fun _ => ?_⟩
    have hbound := hs.answers hopen
    unfold unanswered at hbound ⊢
    rw [hreports] at hbound
    exact hbound
  have hadvanced := hsifted.advance hbegun
  refine ⟨⟨hsound, fun hreceived => ?_, fun hreceived => ?_⟩, hsame.trans hopen, ?_,
    hwritten.trans hbegun.written⟩
  · have hstream := hadvanced.settled hreceived
    dsimp only at hstream
    rw [hreplies] at hstream
    exact hstream.push
  · have hbound := hadvanced.answers hreceived
    unfold unanswered at hbound ⊢
    dsimp only at hbound ⊢
    rw [hreplies, ← FrameDecoder.outlook_push, ← hunread] at hbound
    exact hbound
  · rw [hunread]
    exact hbegun.unread

/-- A session that has heard the answer to its only query has nothing to come, and the board has
taken everything that was written in it. -/
theorem await_ok {deadline : Instant} {telemetry : Telemetry} (hs : s.Attuned gains 1)
    (hopen : s.link.isOpen = true) (hasked : Asked s.wire.unread)
    (hawait : s.await deadline = (s', .ok telemetry)) :
    s'.Attuned gains 0 ∧ s'.wire.unread = [] ∧ s'.wire.written = s.wire.written := by
  fun_induction Session.await s deadline with
  | case1 s link found hsift =>
      cases hawait
      obtain ⟨-, hsettled, hreports⟩ := Link.sift_answers (hs.settled hopen) hsift
      have hbound := hs.answers hopen
      unfold unanswered at hbound
      rw [Option.isSome_some, if_pos rfl] at hreports
      rw [hreports] at hbound
      have hqueries : queries s.wire.unread = 0 := by omega
      refine ⟨⟨hs.sound, fun _ => hsettled, fun _ => ?_⟩, hasked.eq_nil hqueries, rfl⟩
      unfold unanswered
      dsimp only
      omega
  | case3 s link hsift bytes wire hreceive _ ih =>
      obtain ⟨hattuned, hopen', hsuffix, hwritten⟩ := attuned_received hs hopen hsift hreceive
      obtain ⟨hlast, hnil, hsame⟩ := ih hattuned hopen' (hasked.suffix hsuffix) hawait
      exact ⟨hlast, hnil, hsame.trans hwritten⟩
  | _ => cases hawait

theorem await_error {deadline : Instant} {error : LinkError} (hs : s.Attuned gains 1)
    (hopen : s.link.isOpen = true) (hawait : s.await deadline = (s', .error error)) :
    Ended gains s s' := by
  fun_induction Session.await s deadline with
  | case1 s link found hsift => cases hawait
  | case2 s link failure hsift =>
      cases hawait
      exact ended_hangUp (.refl hs.sound) rfl
  | case3 s link hsift bytes wire hreceive _ ih =>
      obtain ⟨hattuned, hopen', -, hwritten⟩ := attuned_received hs hopen hsift hreceive
      have hended := ih hattuned hopen' hawait
      exact ⟨hended.sound, hended.closed, hended.written.trans hwritten⟩
  | case4 s link hsift wire hreceive =>
      cases hawait
      exact ended_hangUp (LossyLine.receive_nothing hs.sound hreceive (by rintro _ ⟨⟩)) rfl
  | case5 s link hsift failure wire hreceive =>
      cases hawait
      exact ended_hangUp (LossyLine.receive_nothing hs.sound hreceive (by rintro _ ⟨⟩)) rfl
  | case6 s link hsift wire hreceive =>
      cases hawait
      exact ended_hangUp (LossyLine.receive_nothing hs.sound hreceive (by rintro _ ⟨⟩)) rfl

end Session

end HeaterHost
