import HeaterHost.Proofs.Link.Outcomes
import HeaterHost.Proofs.Sensor.History

/-!
# How long a sensor waits

The time that an answer may take is fixed when the sensor is created. Connecting, writing, reading,
losing the session and whatever the line does leave it alone.
-/

namespace HeaterHost

open Wire

variable {ω : Type} [Transport ω]

namespace Session

section timeouts

variable (s : Session ω)

theorem reopen_timeout : s.reopen.1.link.timeout = s.link.timeout := by
  unfold reopen
  split <;> rfl

theorem writeFrame_timeout (text : String) :
    (s.writeFrame text).1.link.timeout = s.link.timeout := by
  unfold writeFrame
  split <;> rfl

theorem send_timeout (text : String) : (s.send text).1.link.timeout = s.link.timeout :=
  send_keeps (P := fun s' => s'.link.timeout = s.link.timeout)
    (fun opened hopened => opened.reopen_timeout.trans hopened)
    (fun opened hopened => (opened.writeFrame_timeout text).trans hopened) rfl

theorem await_timeout (limit : Instant) : (s.await limit).1.link.timeout = s.link.timeout := by
  fun_induction Session.await s limit with
  | case1 s link telemetry hsift | case2 s link error hsift =>
      obtain ⟨_, _, _, _, _, rfl⟩ := Link.sift_eq hsift
      rfl
  | case3 s link hsift bytes wire hreceive _ ih =>
      obtain ⟨_, _, _, _, _, rfl⟩ := Link.sift_eq hsift
      exact ih
  | case4 s link hsift | case5 s link hsift | case6 s link hsift =>
      obtain ⟨_, _, _, _, _, rfl⟩ := Link.sift_eq hsift
      rfl

theorem request_timeout : s.request.1.link.timeout = s.link.timeout := by
  have hasked := s.send_timeout (DeviceCommand.text .queryTelemetry)
  unfold request ask
  split
  case h_1 error hask =>
    rw [hask] at hasked
    exact hasked
  case h_2 asked hask =>
    rw [hask] at hasked
    exact (asked.await_timeout asked.deadline).trans hasked

end timeouts

end Session

namespace Sensor

/-- The time that an answer to the sensor's query may take. -/
def timeout (s : Sensor ω) : Span :=
  s.session.link.timeout

section timeouts

variable (s : Sensor ω)

omit [Transport ω] in
@[simp] theorem create_timeout (name endpoint : String) (gains : Gains Float) (reportTime : Span)
    (capacity : Nat) (wire : ω) :
    (create name endpoint gains reportTime capacity wire).timeout = reportTime := rfl

omit [Transport ω] in
theorem push_timeout (command : DeviceCommand Float) : (s.push command).timeout = s.timeout := by
  unfold push
  split <;> rfl

omit [Transport ω] in
theorem connectFailed_timeout : s.connectFailed.timeout = s.timeout := by
  obtain ⟨_, _, _, heq⟩ := s.connectFailed_eq
  rw [heq]
  rfl

omit [Transport ω] in
theorem accept_timeout (time : Float) (t : Telemetry) :
    (s.accept time t).1.timeout = s.timeout := by
  obtain ⟨_, _, heq⟩ := s.accept_eq time t
  rw [heq]
  rfl

theorem upload_timeout : s.upload.1.timeout = s.timeout := by
  have hsent := s.session.send_timeout s.uploadText
  unfold upload
  split
  · rfl
  · split
    case h_1 session hsend | h_2 session error hsend =>
      rw [hsend] at hsent
      exact hsent

theorem ensureConnected_timeout : s.ensureConnected.1.timeout = s.timeout := by
  have hreopened := s.session.reopen_timeout
  unfold ensureConnected
  split
  · rfl
  · unfold connect
    split
    case h_1 session hreopen =>
      rw [hreopen] at hreopened
      exact (upload_timeout _).trans hreopened
    case h_2 session error hreopen =>
      rw [hreopen] at hreopened
      exact (connectFailed_timeout _).trans hreopened

theorem deliver_timeout (commands : List (DeviceCommand Float)) :
    (s.deliver commands).1.timeout = s.timeout := by
  induction commands generalizing s with
  | nil => rfl
  | cons command rest ih =>
      have hsent := s.session.send_timeout command.text
      unfold deliver
      split
      case h_1 session hsend =>
        rw [hsend] at hsent
        exact (ih { s with session }).trans hsent
      case h_2 session error hsend =>
        rw [hsend] at hsent
        exact hsent

theorem stepBy_timeout (clock : ω → Float) : (s.stepBy clock).1.timeout = s.timeout := by
  have hconnected : s.takeQueue.ensureConnected.1.timeout = s.timeout :=
    ensureConnected_timeout s.takeQueue
  rw [stepBy_eq]
  rcases hensure : s.takeQueue.ensureConnected with ⟨connected, _ | _⟩ <;>
    rw [hensure] at hconnected
  · exact hconnected
  have hdelivered := (connected.deliver_timeout connected.pending).trans hconnected
  dsimp only
  rcases hdeliver : connected.deliver connected.pending with ⟨delivered, _ | _⟩ <;>
    rw [hdeliver] at hdelivered
  · exact hdelivered
  have hrequested := delivered.session.request_timeout.trans hdelivered
  dsimp only
  rcases hrequest : delivered.session.request with ⟨session, error | telemetry⟩ <;>
    rw [hrequest] at hrequested
  · exact hrequested
  · exact (accept_timeout _ _ telemetry).trans hrequested

theorem perform_timeout (clock : ω → Float) (event : SensorEvent ω) :
    (s.perform clock event).timeout = s.timeout := by
  cases event with
  | push command => exact s.push_timeout command
  | step => exact s.stepBy_timeout clock
  | disturb change => rfl

theorem replay_timeout (clock : ω → Float) (events : List (SensorEvent ω)) :
    (s.replay clock events).timeout = s.timeout := by
  induction events generalizing s with
  | nil => rfl
  | cons event rest ih => exact (ih (s.perform clock event)).trans (s.perform_timeout clock event)

/-- Whether a sensor can wait for an answer is a matter of its clock. -/
theorem replay_canWait_iff (clock : ω → Float) (events : List (SensorEvent ω)) :
    (s.replay clock events).canWait = true ↔
      (s.replay clock events).now + s.timeout < Instant.endOfTime := by
  rw [← s.replay_timeout clock events]
  exact decide_eq_true_iff

end timeouts

end Sensor

end HeaterHost
