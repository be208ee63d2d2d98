import HeaterHost.Proofs.Link.Tap

/-!
# What operations leave of a session

The state of a session tells how its last exchange went: it is open after a success, closed where no
stream could be opened, and faulted, without a stream, after any other failure. So the next exchange
knows whether it has to connect, and does so once. What the link counts is what happened on its
line, in whatever order its operations succeed and fail.
-/

namespace HeaterHost

open Wire

/-- A line of any kind whose streams are watched. It has no say in what the line does. -/
structure Watched (ω : Type) where
  wire : ω
  /-- How many streams were opened. -/
  opened : Nat := 0
  /-- Whether a stream was opened and not hung up since. -/
  held : Bool := false

variable {ω : Type} [Transport ω]

instance : Transport (Watched ω) where
  now w := Transport.now w.wire
  connect w :=
    match Transport.connect w.wire with
    | (.ok (), wire) => (.ok (), { wire, opened := w.opened + 1, held := true })
    | (.error error, wire) => (.error error, { w with wire })
  write w bytes :=
    let (result, wire) := Transport.write w.wire bytes
    (result, { w with wire })
  receive w limit :=
    let (reception, wire) := Transport.receive w.wire limit
    (reception, { w with wire })
  hangUp w := { w with wire := Transport.hangUp w.wire, held := false }
  elapse w time := { w with wire := Transport.elapse w.wire time }
  backlog w := Transport.backlog w.wire
  backlog_receive w := Transport.backlog_receive w.wire

/-- Neither a frame nor a stream has come or gone between two states of a line. -/
structure SameTraffic (t t' : Tapped (Watched ω)) : Prop where
  frames : t'.frames = t.frames
  opened : t'.wire.opened = t.wire.opened
  held : t'.wire.held = t.wire.held

theorem Tapped.write_streams (t : Tapped (Watched ω)) (bytes : List UInt8) :
    (Transport.write t bytes).2.wire.opened = t.wire.opened ∧
      (Transport.write t bytes).2.wire.held = t.wire.held := by
  simp only [Transport.write]
  split
  all_goals
    obtain ⟨-, rfl⟩ := Prod.mk.inj ‹_›
    exact ⟨rfl, rfl⟩

theorem Tapped.receive_traffic {t t' : Tapped (Watched ω)} {limit : Instant}
    {reception : Reception} (hreceive : Transport.receive t limit = (reception, t')) :
    SameTraffic t t' := by
  cases hreceive
  exact ⟨rfl, rfl, rfl⟩

/-! ### Outcomes -/

/-- The error that an operation ends with, if it fails. -/
def failure? {α : Type} : Except LinkError α → Option LinkError
  | .ok _ => none
  | .error error => some error

def isTimeout : Option LinkError → Bool
  | some (.timeout _) => true
  | _ => false

/-- The state in which an exchange leaves its session. -/
def stateAfter : Option LinkError → SessionState
  | none => .active
  | some (.unavailable ..) => .closed
  | some (.timeout _) | some (.malformed _) | some (.lost _) => .faulted

namespace Session

def outcome (s : Session ω) : LinkOperation → Option LinkError
  | .reopen => failure? s.reopen.2
  | .send text => failure? (s.send text).2
  | .request => failure? s.request.2
  | .close => none

def outcomes (s : Session ω) : List LinkOperation → List (Option LinkError)
  | [] => []
  | operation :: rest => s.outcome operation :: (s.perform operation).outcomes rest

end Session

/-- Going through the frames changes only what was decoded, counted as read, and shown. -/
theorem Link.sift_eq {l l' : Link} {now : Instant}
    {result : Option (Except TelemetryError Telemetry)} (hsift : l.sift now = (l', result)) :
    ∃ decoder lastActivity framesReceived framesDiscarded console,
      l' = { l with
        decoder, lastActivity, console
        stats := { l.stats with framesReceived, framesDiscarded } } := by
  fun_induction Link.sift l now with
  | case1 | case3 =>
      cases hsift
      exact ⟨_, _, _, _, _, rfl⟩
  | case2 l decoder l' error hnext _ _ ih =>
      obtain ⟨_, _, _, _, _, rfl⟩ := ih hsift
      exact ⟨_, _, _, _, _, rfl⟩
  | case4 l decoder l' text hnext htelemetry _ _ ih =>
      obtain ⟨_, _, _, _, _, rfl⟩ := ih hsift
      exact ⟨_, _, _, _, _, rfl⟩

namespace Session

/-! ### The state after an exchange -/

section state

variable (s : Session ω)

omit [Transport ω] in
theorem state_of_isOpen (hopen : s.link.isOpen = true) : s.link.state = .active := by
  simp only [Link.isOpen, Bool.and_eq_true, decide_eq_true_eq] at hopen
  exact hopen.1

theorem reopen_state : s.reopen.1.link.state = stateAfter (failure? s.reopen.2) := by
  unfold reopen
  split <;> rfl

theorem ensureOpen_state : s.ensureOpen.1.link.state = stateAfter (failure? s.ensureOpen.2) := by
  unfold ensureOpen
  split
  case isTrue hopen => exact s.state_of_isOpen hopen
  case isFalse => exact s.reopen_state

theorem writeFrame_state (text : String) (hactive : s.link.state = .active) :
    (s.writeFrame text).1.link.state = stateAfter (failure? (s.writeFrame text).2) := by
  unfold writeFrame
  split
  · exact hactive
  · rfl

theorem send_state (text : String) :
    (s.send text).1.link.state = stateAfter (failure? (s.send text).2) := by
  have hensured := s.ensureOpen_state
  unfold send
  split
  case h_1 error hensure =>
    rw [hensure] at hensured
    exact hensured
  case h_2 opened hensure =>
    rw [hensure] at hensured
    exact opened.writeFrame_state text hensured

theorem await_state (limit : Instant) (hactive : s.link.state = .active) :
    (s.await limit).1.link.state = stateAfter (failure? (s.await limit).2) := by
  fun_induction Session.await s limit with
  | case1 s link telemetry hsift =>
      obtain ⟨_, _, _, _, _, rfl⟩ := Link.sift_eq hsift
      exact hactive
  | case3 s link hsift bytes wire hreceive _ ih =>
      obtain ⟨_, _, _, _, _, rfl⟩ := Link.sift_eq hsift
      exact ih hactive
  | _ => rfl

theorem request_state : s.request.1.link.state = stateAfter (failure? s.request.2) := by
  have hasked := s.send_state (DeviceCommand.text .queryTelemetry)
  unfold request ask
  split
  case h_1 error hask =>
    rw [hask] at hasked
    exact hasked
  case h_2 asked hask =>
    rw [hask] at hasked
    exact asked.await_state asked.deadline hasked

end state

/-! ### Time to answer -/

section timeouts

variable (s : Session ω)

theorem reopen_not_timeout : isTimeout (failure? s.reopen.2) = false := by
  unfold reopen
  split <;> rfl

theorem writeFrame_not_timeout (text : String) :
    isTimeout (failure? (s.writeFrame text).2) = false := by
  unfold writeFrame
  split <;> rfl

/-- Only a request waits, so nothing else runs out of time. -/
theorem send_not_timeout (text : String) : isTimeout (failure? (s.send text).2) = false := by
  have hensured : isTimeout (failure? s.ensureOpen.2) = false := by
    unfold ensureOpen
    split
    · rfl
    · exact s.reopen_not_timeout
  unfold send
  split
  case h_1 error hensure =>
    rw [hensure] at hensured
    exact hensured
  case h_2 opened hensure => exact opened.writeFrame_not_timeout text

end timeouts

/-! ### Attempts to connect -/

section attempts

variable (s : Session (Tapped ω))

theorem writeFrame_attempts (text : String) :
    (s.writeFrame text).1.wire.attempts = s.wire.attempts := by
  unfold writeFrame
  split
  case h_1 wire hwrite => exact (Tapped.write_ok hwrite).2
  case h_2 error wire hwrite => exact (Tapped.write_error hwrite).2

theorem send_attempts (text : String) :
    (s.send text).1.wire.attempts = s.wire.attempts + if s.link.isOpen then 0 else 1 := by
  by_cases hopen : s.link.isOpen = true
  · rw [send_of_isOpen hopen, s.writeFrame_attempts, if_pos hopen, Nat.add_zero]
  · have hattempts := (reopen_tap s).2
    rw [send, ensureOpen, if_neg hopen, if_neg hopen, ← hattempts]
    split
    case h_1 error hreopen => rw [hreopen]
    case h_2 opened hreopen =>
      rw [opened.writeFrame_attempts, hreopen]

theorem request_attempts :
    s.request.1.wire.attempts = s.wire.attempts + if s.link.isOpen then 0 else 1 := by
  have hasked := s.send_attempts (DeviceCommand.text .queryTelemetry)
  unfold request ask
  split
  case h_1 error hask =>
    rw [hask] at hasked
    exact hasked
  case h_2 asked hask =>
    rw [hask] at hasked
    exact (quiet_await asked asked.deadline).attempts.trans hasked

end attempts

/-! ### Books -/

/-- The link knows whether it holds a stream, and has counted what happened on its line. -/
structure Accounts (s : Session (Tapped (Watched ω))) (timeouts : Nat) : Prop where
  held : s.wire.wire.held = s.link.attached
  active : s.link.state = .active → s.link.attached = true
  faulted : s.link.state = .faulted → s.link.attached = false
  connects : s.link.stats.connects = s.wire.wire.opened
  reconnects : s.link.stats.reconnects = s.wire.wire.opened - 1
  timeouts : s.link.stats.timeouts = timeouts
  framesSent : s.link.stats.framesSent = s.wire.frames.length

namespace Accounts

variable {s : Session (Tapped (Watched ω))} {timeouts : Nat}

theorem reopen (hs : s.Accounts timeouts) : s.reopen.1.Accounts timeouts := by
  unfold Session.reopen
  simp only [Transport.connect]
  split
  case h_1 wire hconnect =>
    split at hconnect <;> cases hconnect
    have hunfaulted : SessionState.active ≠ .faulted := by decide
    refine ⟨rfl, fun _ => rfl, fun h => absurd h hunfaulted, congrArg (· + 1) hs.connects, ?_,
      hs.timeouts, hs.framesSent⟩
    have hconnects := hs.connects
    have hreconnects := hs.reconnects
    simp only [Link.opened]
    split <;> omega
  case h_2 error wire hconnect =>
    split at hconnect <;> cases hconnect
    have hclosed : SessionState.closed ≠ .active ∧ SessionState.closed ≠ .faulted := by decide
    exact ⟨hs.held, fun h => absurd h hclosed.1, fun h => absurd h hclosed.2, hs.connects,
      hs.reconnects, hs.timeouts, hs.framesSent⟩

omit [Transport ω] in
theorem withWire (hs : s.Accounts timeouts) {wire : Tapped (Watched ω)}
    (hwire : SameTraffic s.wire wire) : Accounts { s with wire } timeouts := by
  refine ⟨hwire.held.trans hs.held, hs.active, hs.faulted, hs.connects.trans hwire.opened.symm, ?_,
    hs.timeouts, ?_⟩
  · exact hs.reconnects.trans (by rw [hwire.opened])
  · exact hs.framesSent.trans (by rw [hwire.frames])

theorem lost (hs : s.Accounts timeouts) :
    Accounts { link := s.link.fault, wire := Transport.hangUp s.wire } timeouts :=
  ⟨rfl, nofun, fun _ => rfl, hs.connects, hs.reconnects, hs.timeouts, hs.framesSent⟩

theorem timedOut (hs : s.Accounts timeouts) :
    Accounts { link := s.link.timedOut, wire := Transport.hangUp s.wire } (timeouts + 1) :=
  ⟨rfl, nofun, fun _ => rfl, hs.connects, hs.reconnects, congrArg (· + 1) hs.timeouts,
    hs.framesSent⟩

omit [Transport ω] in
theorem sifted (hs : s.Accounts timeouts) {link : Link} {now : Instant}
    {result : Option (Except TelemetryError Telemetry)} (hsift : s.link.sift now = (link, result)) :
    Accounts { s with link } timeouts := by
  obtain ⟨_, _, _, _, _, rfl⟩ := Link.sift_eq hsift
  exact ⟨hs.held, hs.active, hs.faulted, hs.connects, hs.reconnects, hs.timeouts, hs.framesSent⟩

omit [Transport ω] in
theorem received (hs : s.Accounts timeouts) (bytes : List UInt8) :
    Accounts { s with link := s.link.received bytes } timeouts :=
  ⟨hs.held, hs.active, hs.faulted, hs.connects, hs.reconnects, hs.timeouts, hs.framesSent⟩

theorem writeFrame (hs : s.Accounts timeouts) (text : String) :
    (s.writeFrame text).1.Accounts timeouts := by
  obtain ⟨hopened, hheld⟩ := s.wire.write_streams (encodeFrame text)
  unfold Session.writeFrame
  split
  case h_1 wire hwrite =>
    rw [hwrite] at hopened hheld
    refine ⟨hheld.trans hs.held, hs.active, hs.faulted, hs.connects.trans hopened.symm, ?_,
      hs.timeouts, ?_⟩
    · exact hs.reconnects.trans (by rw [hopened])
    · rw [(Tapped.write_ok hwrite).1, List.length_append]
      exact congrArg (· + 1) hs.framesSent
  case h_2 error wire hwrite =>
    rw [hwrite] at hopened hheld
    exact (hs.withWire ⟨(Tapped.write_error hwrite).1, hopened, hheld⟩).lost

theorem send (hs : s.Accounts timeouts) (text : String) : (s.send text).1.Accounts timeouts :=
  send_keeps (P := (Accounts · timeouts)) (fun _ hopened => hopened.reopen)
    (fun _ hopened => hopened.writeFrame text) hs

theorem await (hs : s.Accounts timeouts) (limit : Instant) :
    (s.await limit).1.Accounts
      (timeouts + if isTimeout (failure? (s.await limit).2) then 1 else 0) := by
  fun_induction Session.await s limit with
  | case1 s link telemetry hsift => exact hs.sifted hsift
  | case2 s link error hsift => exact (hs.sifted hsift).lost
  | case3 s link hsift bytes wire hreceive _ ih =>
      have hread := (hs.sifted hsift).withWire (Tapped.receive_traffic hreceive)
      exact ih (hread.received bytes)
  | case4 s link hsift wire hreceive =>
      exact ((hs.sifted hsift).withWire (Tapped.receive_traffic hreceive)).lost
  | case5 s link hsift error wire hreceive =>
      exact ((hs.sifted hsift).withWire (Tapped.receive_traffic hreceive)).lost
  | case6 s link hsift wire hreceive =>
      exact ((hs.sifted hsift).withWire (Tapped.receive_traffic hreceive)).timedOut

theorem request (hs : s.Accounts timeouts) :
    s.request.1.Accounts (timeouts + if isTimeout (failure? s.request.2) then 1 else 0) := by
  have hasked := hs.send (DeviceCommand.text .queryTelemetry)
  have hintime := s.send_not_timeout (DeviceCommand.text .queryTelemetry)
  unfold Session.request ask
  split
  case h_1 error hask =>
    rw [hask] at hasked hintime
    change isTimeout (some error) = false at hintime
    rw [failure?, hintime]
    exact hasked
  case h_2 asked hask =>
    rw [hask] at hasked
    exact hasked.await asked.deadline

theorem perform (hs : s.Accounts timeouts) (operation : LinkOperation) :
    (s.perform operation).Accounts
      (timeouts + if isTimeout (s.outcome operation) then 1 else 0) := by
  cases operation with
  | reopen =>
      rw [outcome, reopen_not_timeout]
      exact hs.reopen
  | send text =>
      rw [outcome, send_not_timeout]
      exact hs.send text
  | request => exact hs.request
  | close => exact ⟨rfl, nofun, nofun, hs.connects, hs.reconnects, hs.timeouts, hs.framesSent⟩

theorem replay (hs : s.Accounts timeouts) (operations : List LinkOperation) :
    (s.replay operations).Accounts (timeouts + (s.outcomes operations).countP isTimeout) := by
  induction operations generalizing s timeouts with
  | nil => exact hs
  | cons operation rest ih =>
      have hrest := ih (hs.perform operation)
      rw [outcomes, List.countP_cons, Nat.add_comm (List.countP _ _), ← Nat.add_assoc]
      exact hrest

omit [Transport ω] in
/-- A session is open if its state says so: an open session has its stream. -/
theorem isOpen_iff (hs : s.Accounts timeouts) :
    s.link.isOpen = true ↔ s.link.state = .active := by
  constructor
  · exact s.state_of_isOpen
  · intro hactive
    simp [Link.isOpen, hactive, hs.active hactive]

end Accounts

/-- How an exchange leaves its session: in the state that its outcome calls for, without a stream if
that is a fault, and after as many attempts to connect as were needed. -/
structure FollowsOutcome (s : Session (Tapped (Watched ω))) (exchange : LinkOperation) : Prop where
  state : (s.perform exchange).link.state = stateAfter (s.outcome exchange)
  dropped : (s.perform exchange).link.state = .faulted →
    (s.perform exchange).link.attached = false ∧ (s.perform exchange).wire.wire.held = false
  attempts : (s.perform exchange).wire.attempts =
    s.wire.attempts + if s.link.isOpen then 0 else 1

omit [Transport ω] in
theorem Accounts.dropped {s : Session (Tapped (Watched ω))} {timeouts : Nat}
    (hs : s.Accounts timeouts) (hfaulted : s.link.state = .faulted) :
    s.link.attached = false ∧ s.wire.wire.held = false :=
  ⟨hs.faulted hfaulted, hs.held.trans (hs.faulted hfaulted)⟩

/-- **The state of a session follows every outcome.** After any operations on any line, the session
is open exactly if its state says so, and the next exchange leaves the state that its outcome calls
for, having tried to connect once if the session was not open and not at all if it was. The link has
counted the streams that opened, those after the first of them, the requests that ran out of time
and the frames whose writing succeeded. -/
theorem state_follows_outcomes (endpoint : String) (timeout : Span) (wire : ω)
    (operations : List LinkOperation) :
    let start : Session (Tapped (Watched ω)) :=
      { link := { endpoint, timeout }, wire := { wire := { wire } } }
    let s := start.replay operations
    (s.link.isOpen = true ↔ s.link.state = .active) ∧
      (∀ text, s.FollowsOutcome (.send text)) ∧ s.FollowsOutcome .request ∧
      s.link.stats.connects = s.wire.wire.opened ∧
      s.link.stats.reconnects = s.link.stats.connects - 1 ∧
      s.link.stats.timeouts = (start.outcomes operations).countP isTimeout ∧
      s.link.stats.framesSent = s.wire.frames.length := by
  intro start s
  have hstart : start.Accounts 0 := ⟨rfl, nofun, nofun, rfl, rfl, rfl, rfl⟩
  have hs : s.Accounts (0 + (start.outcomes operations).countP isTimeout) := hstart.replay operations
  refine ⟨hs.isOpen_iff, fun text => ?_, ?_, hs.connects, ?_, ?_, hs.framesSent⟩
  · exact ⟨s.send_state text, (hs.perform (.send text)).dropped, s.send_attempts text⟩
  · exact ⟨s.request_state, (hs.perform .request).dropped, s.request_attempts⟩
  · rw [hs.reconnects, hs.connects]
  · rw [hs.timeouts, Nat.zero_add]

end Session

end HeaterHost
