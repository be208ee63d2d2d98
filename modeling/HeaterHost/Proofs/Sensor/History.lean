import HeaterHost.Proofs.Link.OpenSession
import HeaterHost.Proofs.Sensor.Acceptance

/-!
# Histories of a sensor

Commands are pushed and steps are made in any order, and between them the line may change in any way
at all. The clock that the time of a reading is taken from can show anything. A step has a request
if it is connected and has written every command that waits; with or without one it ends in one
publication.
-/

namespace HeaterHost

open Wire

inductive SensorEvent (ω : Type) where
  | push (command : DeviceCommand Float)
  | step
  | disturb (change : ω → ω)

/-- The commands that are pushed in a run, oldest first. -/
def SensorEvent.pushes {ω : Type} (events : List (SensorEvent ω)) : List (DeviceCommand Float) :=
  events.filterMap fun event =>
    match event with
    | .push command => some command
    | _ => none

namespace Sensor

variable {ω : Type} [Transport ω]

/-- A step that takes the time of a reading from a clock of one's own. -/
def stepBy (clock : ω → Float) (s : Sensor ω) : Sensor ω × Sample Float :=
  match s.begin with
  | (s, .error sample) => (s, sample)
  | (s, .ok deadline) =>
      match s.session.await deadline with
      | (session, .ok telemetry) => { s with session }.accept (clock session.wire) telemetry
      | (session, .error _) => { s with session }.publishFailure

/-- The clock of the host. -/
def hostClock (wire : ω) : Float :=
  (Transport.now wire).seconds

/-- By the clock of the host it is the step of the sensor. -/
theorem stepBy_hostClock (s : Sensor ω) : s.stepBy hostClock = s.step := rfl

def disturb (s : Sensor ω) (change : ω → ω) : Sensor ω :=
  { s with session := { s.session with wire := change s.session.wire } }

def perform (clock : ω → Float) (s : Sensor ω) : SensorEvent ω → Sensor ω
  | .push command => s.push command
  | .step => (s.stepBy clock).1
  | .disturb change => s.disturb change

def replay (clock : ω → Float) (s : Sensor ω) (events : List (SensorEvent ω)) : Sensor ω :=
  events.foldl (perform clock) s

/-! ### The request of a step -/

/-- The telemetry request of the step succeeds: the step connects, delivers what waits, and its
query is answered with telemetry. -/
def Hears (s : Sensor ω) (session : Session ω) (telemetry : Telemetry) : Prop :=
  ∃ connected delivered, s.takeQueue.ensureConnected = (connected, true) ∧
    connected.deliver connected.pending = (delivered, true) ∧
    delivered.session.request = (session, .ok telemetry)

theorem Hears.unique {s : Sensor ω} {session session' : Session ω}
    {telemetry telemetry' : Telemetry} (h : s.Hears session telemetry) (h' : s.Hears session' telemetry') :
    session = session' ∧ telemetry = telemetry' := by
  obtain ⟨connected, delivered, hconnect, hdeliver, hrequest⟩ := h
  obtain ⟨_, _, hconnect', hdeliver', hrequest'⟩ := h'
  cases hconnect.symm.trans hconnect'
  cases hdeliver.symm.trans hdeliver'
  cases hrequest.symm.trans hrequest'
  exact ⟨rfl, rfl⟩

theorem Hears.isOpen {s : Sensor ω} {session : Session ω} {telemetry : Telemetry}
    (h : s.Hears session telemetry) : session.link.isOpen = true := by
  obtain ⟨_, _, -, -, hrequest⟩ := h
  exact Session.isOpen_of_request_ok hrequest

/-- What a sensor shows and remembers of its samples is still the same. -/
structure Unpublished (s t : Sensor ω) : Prop where
  view : t.view = s.view
  lastGood : t.lastGood = s.lastGood

omit [Transport ω] in
theorem Unpublished.trans {s t u : Sensor ω} (hst : s.Unpublished t) (htu : t.Unpublished u) :
    s.Unpublished u :=
  ⟨htu.view.trans hst.view, htu.lastGood.trans hst.lastGood⟩

omit [Transport ω] in
theorem push_lastGood (s : Sensor ω) (command : DeviceCommand Float) :
    (s.push command).lastGood = s.lastGood := by
  unfold push
  split <;> rfl

omit [Transport ω] in
theorem connectFailed_eq (s : Sensor ω) : ∃ failedConnects abandoned signals,
    s.connectFailed = { s with failedConnects, abandoned, signals } := by
  unfold connectFailed
  dsimp only
  split
  · exact ⟨_, _, _, rfl⟩
  · exact ⟨_, _, _, rfl⟩

omit [Transport ω] in
theorem accept_eq (s : Sensor ω) (time : Float) (t : Telemetry) : ∃ lastGood view,
    (s.accept time t).1 = { s with lastGood, view } := by
  unfold accept
  dsimp only
  split
  · exact ⟨_, _, rfl⟩
  · exact ⟨_, _, rfl⟩

omit [Transport ω] in
theorem connectFailed_unpublished (s : Sensor ω) : s.Unpublished s.connectFailed := by
  obtain ⟨_, _, _, heq⟩ := s.connectFailed_eq
  rw [heq]
  exact ⟨rfl, rfl⟩

theorem upload_unpublished (s : Sensor ω) : s.Unpublished s.upload.1 := by
  refine ⟨s.upload_view, ?_⟩
  unfold upload
  split
  · rfl
  · split <;> rfl

theorem ensureConnected_unpublished (s : Sensor ω) : s.Unpublished s.ensureConnected.1 := by
  refine ⟨s.ensureConnected_view, ?_⟩
  unfold ensureConnected
  split
  · rfl
  · unfold connect
    split
    · exact (upload_unpublished _).lastGood
    · exact (connectFailed_unpublished _).lastGood

theorem deliver_unpublished (s : Sensor ω) (commands : List (DeviceCommand Float)) :
    s.Unpublished (s.deliver commands).1 := by
  refine ⟨s.deliver_view commands, ?_⟩
  induction commands generalizing s with
  | nil => rfl
  | cons command rest ih =>
      unfold deliver
      split
      · exact ih _
      · rfl

/-- Connecting succeeds exactly if it leaves an open session. -/
theorem isOpen_of_ensureConnected {s t : Sensor ω} {connected : Bool}
    (hensure : s.ensureConnected = (t, connected)) : t.session.link.isOpen = connected := by
  unfold ensureConnected connect at hensure
  split at hensure
  case isTrue hopen =>
    cases hensure
    exact hopen
  case isFalse =>
    split at hensure
    case h_1 session hreopen =>
      unfold upload at hensure
      split at hensure
      · cases hensure
        exact Session.isOpen_of_reopen_ok hreopen
      · split at hensure
        case h_1 hsend =>
          cases hensure
          exact Session.isOpen_of_send_ok hsend
        case h_2 hsend =>
          cases hensure
          exact Session.isOpen_of_send_error hsend
    case h_2 session error hreopen =>
      cases hensure
      obtain ⟨_, _, _, heq⟩ := connectFailed_eq { s with session }
      rw [heq]
      exact Session.isOpen_of_reopen_error hreopen

theorem isOpen_of_deliver {s t : Sensor ω} {commands : List (DeviceCommand Float)} {done : Bool}
    (hopen : s.session.link.isOpen = true) (hdeliver : s.deliver commands = (t, done)) :
    t.session.link.isOpen = done := by
  induction commands generalizing s with
  | nil =>
      cases hdeliver
      exact hopen
  | cons command rest ih =>
      unfold deliver at hdeliver
      split at hdeliver
      case h_1 session hsend =>
        exact ih (s := { s with session }) (Session.isOpen_of_send_ok hsend) hdeliver
      case h_2 session error hsend =>
        cases hdeliver
        exact Session.isOpen_of_send_error hsend

/-- A step without its two halves: connect, deliver, request. -/
theorem stepBy_eq (clock : ω → Float) (s : Sensor ω) :
    s.stepBy clock =
      match s.takeQueue.ensureConnected with
      | (t, false) => t.publishFailure
      | (t, true) =>
          match t.deliver t.pending with
          | (t, false) => t.publishFailure
          | (t, true) =>
              match t.session.request with
              | (session, .ok telemetry) =>
                  { t with session }.accept (clock session.wire) telemetry
              | (session, .error _) => { t with session }.publishFailure := by
  unfold stepBy Sensor.begin
  rcases s.takeQueue.ensureConnected with ⟨connected, _ | _⟩
  · rfl
  dsimp only
  rcases connected.deliver connected.pending with ⟨delivered, _ | _⟩
  · rfl
  dsimp only
  unfold ask Session.request
  rcases delivered.session.ask with ⟨asked, error | ⟨⟩⟩ <;> rfl

/-- A step either has no request that succeeds, loses its session and publishes a failure, or it
judges the telemetry that its request brought. Until then it has published nothing. -/
theorem stepBy_cases (clock : ω → Float) (s : Sensor ω) :
    (∃ t, s.Unpublished t ∧ (∀ session telemetry, ¬ s.Hears session telemetry) ∧
      t.session.link.isOpen = false ∧ s.stepBy clock = t.publishFailure) ∨
    ∃ t session telemetry, s.Unpublished t ∧ s.Hears session telemetry ∧
      s.stepBy clock = { t with session }.accept (clock session.wire) telemetry := by
  have hconnected : s.Unpublished s.takeQueue.ensureConnected.1 :=
    ⟨ensureConnected_view _, (ensureConnected_unpublished _).lastGood⟩
  rw [stepBy_eq]
  unfold Hears
  rcases hensure : s.takeQueue.ensureConnected with ⟨connected, _ | _⟩ <;>
    rw [hensure] at hconnected
  · refine .inl ⟨connected, hconnected, ?_, isOpen_of_ensureConnected hensure, rfl⟩
    rintro session telemetry ⟨_, _, ⟨⟩, -⟩
  dsimp only
  have hdelivered := hconnected.trans (deliver_unpublished connected connected.pending)
  rcases hdeliver : connected.deliver connected.pending with ⟨delivered, _ | _⟩ <;>
    rw [hdeliver] at hdelivered
  -- the session is lost at whichever write fails, so every way out here leaves it closed
  · have hopen := isOpen_of_ensureConnected hensure
    refine .inl ⟨delivered, hdelivered, ?_, isOpen_of_deliver hopen hdeliver, rfl⟩
    rintro session telemetry ⟨_, _, ⟨⟩, hother, -⟩
    cases hdeliver.symm.trans hother
  dsimp only
  rcases hrequest : delivered.session.request with ⟨session, error | telemetry⟩
  · refine .inl ⟨{ delivered with session }, ⟨hdelivered.view, hdelivered.lastGood⟩, ?_,
      Session.isOpen_of_request_error hrequest, rfl⟩
    rintro _ telemetry ⟨_, _, ⟨⟩, hother, hanswer⟩
    cases hdeliver.symm.trans hother
    cases hrequest.symm.trans hanswer
  · exact .inr ⟨delivered, session, telemetry, hdelivered,
      ⟨connected, delivered, rfl, hdeliver, hrequest⟩, rfl⟩

/-- A step leaves an open session exactly if its request succeeds. -/
theorem stepBy_isOpen_iff (clock : ω → Float) (s : Sensor ω) :
    (s.stepBy clock).1.session.link.isOpen = true ↔
      ∃ session telemetry, s.Hears session telemetry := by
  rcases s.stepBy_cases clock with
    ⟨t, -, hnone, hclosed, hstep⟩ | ⟨t, session, telemetry, -, hheard, hstep⟩
  · rw [hstep]
    change t.session.link.isOpen = true ↔ _
    rw [hclosed]
    refine iff_of_false Bool.false_ne_true ?_
    rintro ⟨session, telemetry, hheard⟩
    exact hnone session telemetry hheard
  · obtain ⟨_, _, haccept⟩ := accept_eq { t with session } (clock session.wire) telemetry
    rw [hstep, haccept]
    exact iff_of_true hheard.isOpen ⟨session, telemetry, hheard⟩

end Sensor

end HeaterHost
