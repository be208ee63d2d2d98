import HeaterHost.Proofs.Link.Dialing
import HeaterHost.Proofs.Sensor.History

/-!
# Outages

An outage begins with an attempt to connect that fails and ends with the next one that succeeds,
whatever becomes of the session that it opens. A sensor reports an outage once, when its fifth
attempt fails, and takes the report back when the outage ends. So what it has reported is a function
of the attempts that were made on its line.
-/

namespace HeaterHost

open Wire

/-! ### Reports of attempts -/

/-- How many of the last attempts failed in a row, of attempts that are given newest first. -/
def failuresInARow (dials : List Bool) : Nat :=
  (dials.takeWhile (! ·)).length

@[simp] theorem failuresInARow_nil : failuresInARow [] = 0 := rfl

@[simp] theorem failuresInARow_true (dials : List Bool) : failuresInARow (true :: dials) = 0 := rfl

@[simp] theorem failuresInARow_false (dials : List Bool) :
    failuresInARow (false :: dials) = failuresInARow dials + 1 := rfl

/-- What an attempt gives rise to, after those before it. The fifth failure in a row is reported, and
a success after it takes the report back. -/
def outageSignal (endpoint : String) (before : List Bool) (succeeds : Bool) :
    List (FaultSignal Float) :=
  if succeeds then
    if 5 ≤ failuresInARow before then [.cleared] else []
  else if failuresInARow before = 4 then [.raised (.linkAbandoned endpoint 5)] else []

/-- What attempts give rise to, both newest first. -/
def outageSignals (endpoint : String) : List Bool → List (FaultSignal Float)
  | [] => []
  | succeeds :: before => outageSignal endpoint before succeeds ++ outageSignals endpoint before

section

variable {endpoint : String} {before : List Bool} {succeeds : Bool}
  {signals : List (FaultSignal Float)}

theorem outageSignal_append_eq_raised_iff {fault : Fault Float} :
    outageSignal endpoint before succeeds ++ signals = .raised fault :: signals ↔
      succeeds = false ∧ failuresInARow before = 4 ∧ fault = .linkAbandoned endpoint 5 := by
  cases succeeds with
  | true => by_cases hlong : 5 ≤ failuresInARow before <;> simp [outageSignal, hlong]
  | false =>
      by_cases hfifth : failuresInARow before = 4 <;> simp [outageSignal, hfifth, eq_comm]

theorem outageSignal_append_eq_cleared_iff :
    outageSignal endpoint before succeeds ++ signals = .cleared :: signals ↔
      succeeds = true ∧ 5 ≤ failuresInARow before := by
  cases succeeds with
  | true => by_cases hlong : 5 ≤ failuresInARow before <;> simp [outageSignal, hlong]
  | false => by_cases hfifth : failuresInARow before = 4 <;> simp [outageSignal, hfifth]

/-- An attempt gives rise to one signal at most. -/
theorem outageSignal_append_cases (endpoint : String) (before : List Bool) (succeeds : Bool)
    (signals : List (FaultSignal Float)) :
    outageSignal endpoint before succeeds ++ signals = signals ∨
      ∃ signal, outageSignal endpoint before succeeds ++ signals = signal :: signals := by
  cases succeeds with
  | true => by_cases hlong : 5 ≤ failuresInARow before <;> simp [outageSignal, hlong]
  | false => by_cases hfifth : failuresInARow before = 4 <;> simp [outageSignal, hfifth]

end

/-- As long as an outage has been reported, its report is the latest. -/
theorem head?_outageSignals (endpoint : String) (dials : List Bool) :
    (outageSignals endpoint dials).head? = some (.raised (.linkAbandoned endpoint 5)) ↔
      5 ≤ failuresInARow dials := by
  induction dials with
  | nil => simp [outageSignals]
  | cons succeeds before ih =>
      cases succeeds with
      | true =>
          by_cases hreported : 5 ≤ failuresInARow before
          · simp [outageSignals, outageSignal, hreported]
          · simp [outageSignals, outageSignal, hreported, ih]
      | false =>
          by_cases hfifth : failuresInARow before = 4
          · simp [outageSignals, outageSignal, hfifth]
          · simp only [outageSignals, outageSignal, Bool.false_eq_true, ↓reduceIte, hfifth,
              List.nil_append, ih, failuresInARow_false]
            omega

/-- An event at a line that keeps its attempts. The line changes behind the list. -/
def SensorEvent.dialled {ω : Type} : SensorEvent ω → SensorEvent (Dialled ω)
  | push command => push command
  | step => step
  | disturb change => disturb fun d => { d with wire := change d.wire }

namespace Sensor

variable {ω : Type}

/-- No attempt to connect was made in between, and nothing reported. -/
structure SameOutage (s t : Sensor (Dialled ω)) : Prop where
  session : s.session.Undialled t.session
  failedConnects : t.failedConnects = s.failedConnects
  abandoned : t.abandoned = s.abandoned
  signals : t.signals = s.signals

/-- The books of an outage: what was counted, what is known and what was reported all follow from
the attempts on the line. -/
structure OutageBooks (endpoint : String) (s : Sensor (Dialled ω)) : Prop where
  same : s.session.link.endpoint = endpoint
  counted : s.failedConnects = failuresInARow s.session.wire.dials
  known : s.abandoned = true ↔ 5 ≤ failuresInARow s.session.wire.dials
  reported : s.signals = outageSignals endpoint s.session.wire.dials

variable {s t u : Sensor (Dialled ω)} {endpoint : String}

theorem SameOutage.refl (s : Sensor (Dialled ω)) : s.SameOutage s :=
  ⟨⟨rfl, rfl⟩, rfl, rfl, rfl⟩

theorem SameOutage.trans (hst : s.SameOutage t) (htu : t.SameOutage u) : s.SameOutage u :=
  ⟨hst.session.trans htu.session, htu.failedConnects.trans hst.failedConnects,
    htu.abandoned.trans hst.abandoned, htu.signals.trans hst.signals⟩

theorem SameOutage.withSession (hst : s.SameOutage t) {session : Session (Dialled ω)}
    (hsession : t.session.Undialled session) : s.SameOutage { t with session } :=
  ⟨hst.session.trans hsession, hst.failedConnects, hst.abandoned, hst.signals⟩

theorem OutageBooks.of_same (hs : s.OutageBooks endpoint) (hsame : s.SameOutage t) :
    t.OutageBooks endpoint := by
  refine ⟨hsame.session.endpoint.trans hs.same, ?_, ?_, ?_⟩
  · rw [hsame.failedConnects, hsame.session.dials, hs.counted]
  · rw [hsame.abandoned, hsame.session.dials, hs.known]
  · rw [hsame.signals, hsame.session.dials, hs.reported]

/-! ### An attempt -/

theorem OutageBooks.connected (hs : s.OutageBooks endpoint) {session : Session (Dialled ω)}
    (hendpoint : session.link.endpoint = s.session.link.endpoint)
    (hdials : session.wire.dials = true :: s.session.wire.dials) :
    ({ s with session }.connected).OutageBooks endpoint := by
  refine ⟨hendpoint.trans hs.same, ?_, ?_, ?_⟩ <;> simp only [Sensor.connected, hdials]
  · rfl
  · simp
  · rw [outageSignals, outageSignal, if_pos rfl, ← hs.reported]
    by_cases hreported : 5 ≤ failuresInARow s.session.wire.dials
    · rw [if_pos (hs.known.mpr hreported), if_pos hreported]
      rfl
    · rw [if_neg (mt hs.known.mp hreported), if_neg hreported]
      rfl

theorem OutageBooks.connectFailed (hs : s.OutageBooks endpoint) {session : Session (Dialled ω)}
    (hendpoint : session.link.endpoint = s.session.link.endpoint)
    (hdials : session.wire.dials = false :: s.session.wire.dials) :
    ({ s with session }.connectFailed).OutageBooks endpoint := by
  have hcounted := hs.counted
  have hknown := hs.known
  have hunknown : s.abandoned = false ↔ ¬ 5 ≤ failuresInARow s.session.wire.dials := by
    rw [← hknown, Bool.not_eq_true]
  have hreported : outageSignals endpoint (false :: s.session.wire.dials) =
      outageSignal endpoint s.session.wire.dials false ++ s.signals := by
    rw [hs.reported, outageSignals]
  unfold Sensor.connectFailed
  dsimp only
  split
  case isTrue hfifth =>
    -- As the outage is not known yet, there were four failures at most, and now there are five.
    rw [hunknown, hcounted, abandonAfter] at hfifth
    have hfour : failuresInARow s.session.wire.dials = 4 := by omega
    refine ⟨hendpoint.trans hs.same, ?_, ?_, ?_⟩ <;> simp only [hdials, failuresInARow_false]
    · rw [hcounted]
    · simp [hfour]
    · rw [hreported, hcounted, hendpoint, hs.same, outageSignal, hfour]
      rfl
  case isFalse hother =>
    rw [hunknown, hcounted, abandonAfter] at hother
    have hnotFour : failuresInARow s.session.wire.dials ≠ 4 := by omega
    refine ⟨hendpoint.trans hs.same, ?_, ?_, ?_⟩ <;> simp only [hdials, failuresInARow_false]
    · rw [hcounted]
    · rw [hknown]
      omega
    · rw [hreported, outageSignal, if_neg Bool.false_ne_true, if_neg hnotFour, List.nil_append]

/-! ### One step -/

variable [Transport ω]

theorem upload_sameOutage (hopen : s.session.link.isOpen = true) : s.SameOutage s.upload.1 := by
  have hsent := Session.send_undialled hopen s.uploadText
  unfold upload
  split
  · exact .refl s
  · split
    case h_1 session hsend | h_2 session error hsend =>
      rw [hsend] at hsent
      exact ⟨hsent, rfl, rfl, rfl⟩

theorem deliver_sameOutage (hopen : s.session.link.isOpen = true)
    (commands : List (DeviceCommand Float)) : s.SameOutage (s.deliver commands).1 := by
  induction commands generalizing s with
  | nil => exact ⟨⟨rfl, rfl⟩, rfl, rfl, rfl⟩
  | cons command rest ih =>
      have hsent := Session.send_undialled hopen command.text
      unfold deliver
      split
      case h_1 session hsend =>
        rw [hsend] at hsent
        exact ((SameOutage.refl s).withSession hsent).trans
          (ih (s := { s with session }) (Session.isOpen_of_send_ok hsend))
      case h_2 session error hsend =>
        rw [hsend] at hsent
        exact ⟨hsent, rfl, rfl, rfl⟩

/-- A step makes an attempt to connect if its session is not open, and none if it is. -/
theorem ensureConnected_outageBooks (hs : s.OutageBooks endpoint) :
    s.ensureConnected.1.OutageBooks endpoint ∧
      (s.session.link.isOpen = true →
        s.ensureConnected.1.session.wire.dials = s.session.wire.dials) ∧
      (s.session.link.isOpen = false → ∃ succeeds,
        s.ensureConnected.1.session.wire.dials = succeeds :: s.session.wire.dials) := by
  obtain ⟨hendpoint, hdials⟩ := s.session.reopen_dials
  unfold ensureConnected
  split
  case isTrue hopen =>
    refine ⟨hs, fun _ => rfl, fun hclosed => ?_⟩
    rw [hopen] at hclosed
    cases hclosed
  case isFalse hclosed =>
    unfold connect
    split
    case h_1 session hreopen =>
      rw [hreopen] at hendpoint hdials
      have hopened := Session.isOpen_of_reopen_ok hreopen
      have hsame := upload_sameOutage (s := { s with session }.connected) hopened
      exact ⟨(hs.connected hendpoint hdials).of_same hsame, fun hopen => absurd hopen hclosed,
        fun _ => ⟨true, hsame.session.dials.trans hdials⟩⟩
    case h_2 session error hreopen =>
      rw [hreopen] at hendpoint hdials
      obtain ⟨_, _, _, heq⟩ := connectFailed_eq { s with session }
      refine ⟨hs.connectFailed hendpoint hdials, fun hopen => absurd hopen hclosed,
        fun _ => ⟨false, ?_⟩⟩
      dsimp only
      rw [heq]
      exact hdials

/-- Once a step has connected, it makes no further attempt and reports nothing. -/
theorem stepBy_sameOutage (clock : Dialled ω → Float) (s : Sensor (Dialled ω)) :
    s.takeQueue.ensureConnected.1.SameOutage (s.stepBy clock).1 := by
  rw [stepBy_eq]
  rcases hensure : s.takeQueue.ensureConnected with ⟨connected, _ | _⟩
  · exact ⟨⟨rfl, rfl⟩, rfl, rfl, rfl⟩
  have hopen := isOpen_of_ensureConnected hensure
  have hdelivered := deliver_sameOutage hopen connected.pending
  dsimp only
  rcases hdeliver : connected.deliver connected.pending with ⟨delivered, _ | _⟩ <;>
    rw [hdeliver] at hdelivered
  · exact hdelivered.trans ⟨⟨rfl, rfl⟩, rfl, rfl, rfl⟩
  have hrequested := Session.request_undialled (isOpen_of_deliver hopen hdeliver)
  dsimp only
  rcases hrequest : delivered.session.request with ⟨session, error | telemetry⟩ <;>
    rw [hrequest] at hrequested
  · exact (hdelivered.withSession hrequested).trans ⟨⟨rfl, rfl⟩, rfl, rfl, rfl⟩
  · obtain ⟨_, _, haccept⟩ := accept_eq { delivered with session } (clock session.wire) telemetry
    dsimp only
    rw [haccept]
    exact (hdelivered.withSession hrequested).trans ⟨⟨rfl, rfl⟩, rfl, rfl, rfl⟩

theorem stepBy_outageBooks (clock : Dialled ω → Float) (hs : s.OutageBooks endpoint) :
    (s.stepBy clock).1.OutageBooks endpoint ∧
      (s.session.link.isOpen = true →
        (s.stepBy clock).1.session.wire.dials = s.session.wire.dials) ∧
      (s.session.link.isOpen = false → ∃ succeeds,
        (s.stepBy clock).1.session.wire.dials = succeeds :: s.session.wire.dials) := by
  have hqueue : s.takeQueue.OutageBooks endpoint := hs.of_same ⟨⟨rfl, rfl⟩, rfl, rfl, rfl⟩
  obtain ⟨hbooks, hopen, hclosed⟩ := ensureConnected_outageBooks hqueue
  have hsame := s.stepBy_sameOutage clock
  rw [hsame.session.dials]
  exact ⟨hbooks.of_same hsame, hopen, hclosed⟩

/-! ### A run -/

theorem replay_outageBooks (clock : Dialled ω → Float) (hs : s.OutageBooks endpoint)
    (events : List (SensorEvent ω)) :
    (s.replay clock (events.map .dialled)).OutageBooks endpoint := by
  induction events generalizing s with
  | nil => exact hs
  | cons event events ih =>
      cases event with
      | push command =>
          refine ih (hs.of_same (t := s.push command) ?_)
          unfold Sensor.push
          split <;> exact ⟨⟨rfl, rfl⟩, rfl, rfl, rfl⟩
      | step => exact ih (stepBy_outageBooks clock hs).1
      | disturb change => exact ih (hs.of_same ⟨⟨rfl, rfl⟩, rfl, rfl, rfl⟩)

omit [Transport ω] in
/-- What a step reports, when it makes an attempt and when it makes none. -/
theorem OutageBooks.signals_step (hs : s.OutageBooks endpoint) (ht : t.OutageBooks endpoint)
    (hdials : t.session.wire.dials = s.session.wire.dials ∨
      ∃ succeeds, t.session.wire.dials = succeeds :: s.session.wire.dials) :
    (t.session.wire.dials = s.session.wire.dials ∧ t.signals = s.signals) ∨
      ∃ succeeds, t.session.wire.dials = succeeds :: s.session.wire.dials ∧
        t.signals = outageSignal endpoint s.session.wire.dials succeeds ++ s.signals := by
  rcases hdials with hsame | ⟨succeeds, hcons⟩
  · exact .inl ⟨hsame, by rw [ht.reported, hsame, hs.reported]⟩
  · exact .inr ⟨succeeds, hcons, by rw [ht.reported, hcons, outageSignals, hs.reported]⟩

/-- **An outage is reported once, and taken back once.** After any run on any line, the reports of a
sensor are those that its attempts to connect give rise to, and it has counted the failures in a
row. A step makes one attempt if its session is not open, and else none. It reports that the link is
abandoned exactly if its attempt is the fifth failure of the outage. It takes a report back exactly
if its attempt succeeds and the latest report stands. There is nothing else that it reports. -/
theorem outage_reported_once (clock : Dialled ω → Float) (name endpoint : String)
    (gains : Gains Float) (reportTime : Span) (capacity : Nat) (wire : ω)
    (events : List (SensorEvent ω)) :
    let start : Sensor (Dialled ω) := create name endpoint gains reportTime capacity { wire }
    let s := start.replay clock (events.map .dialled)
    let dials := s.session.wire.dials
    let next := (s.stepBy clock).1
    s.signals = outageSignals endpoint dials ∧
      s.failedConnects = failuresInARow dials ∧
      (s.session.link.isOpen = true → next.session.wire.dials = dials) ∧
      (s.session.link.isOpen = false →
        ∃ succeeds, next.session.wire.dials = succeeds :: dials) ∧
      (∀ fault, next.signals = .raised fault :: s.signals ↔
        next.session.wire.dials = false :: dials ∧ failuresInARow dials = 4 ∧
          fault = .linkAbandoned endpoint 5) ∧
      (next.signals = .cleared :: s.signals ↔
        next.session.wire.dials = true :: dials ∧
          s.signals.head? = some (.raised (.linkAbandoned endpoint 5))) ∧
      (next.signals = s.signals ∨ ∃ signal, next.signals = signal :: s.signals) := by
  intro start s dials next
  have hbooks : s.OutageBooks endpoint :=
    replay_outageBooks clock (s := start) ⟨rfl, rfl, by simp [start, create], rfl⟩ events
  obtain ⟨hnext, hopen, hclosed⟩ := stepBy_outageBooks clock hbooks
  have hdials : next.session.wire.dials = dials ∨
      ∃ succeeds, next.session.wire.dials = succeeds :: dials := by
    cases hstate : s.session.link.isOpen with
    | true => exact .inl (hopen hstate)
    | false => exact .inr (hclosed hstate)
  have hstands : s.signals.head? = some (.raised (.linkAbandoned endpoint 5)) ↔
      5 ≤ failuresInARow dials := by
    rw [hbooks.reported]
    exact head?_outageSignals endpoint dials
  refine ⟨hbooks.reported, hbooks.counted, hopen, hclosed, ?_⟩
  rw [hstands]
  rcases hbooks.signals_step hnext hdials with ⟨hsame, hsignals⟩ | ⟨succeeds, hcons, hsignals⟩
  case inl =>
    rw [hsignals, hsame]
    simp [dials]
  case inr =>
    have hattempt : ∀ outcome, succeeds :: s.session.wire.dials = outcome :: dials ↔
        succeeds = outcome := fun outcome => List.cons_eq_cons.trans (and_iff_left rfl)
    rw [hsignals, hcons, hattempt, hattempt, outageSignal_append_eq_cleared_iff]
    exact ⟨fun _ => outageSignal_append_eq_raised_iff, Iff.rfl,
      outageSignal_append_cases endpoint dials succeeds s.signals⟩

/-- Of two failures, a success, six failures and a success, the last but one failure and the last
success are heard of. -/
example : outageSignals "/dev/ttyACM0"
    [true, false, false, false, false, false, false, true, false, false] =
      [.cleared, .raised (.linkAbandoned "/dev/ttyACM0" 5)] :=
  rfl

end Sensor

end HeaterHost
