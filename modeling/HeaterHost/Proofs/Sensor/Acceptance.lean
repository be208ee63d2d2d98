import HeaterHost.Sensor.Basic
import HeaterHost.Proofs.Double.Hundredths
import HeaterHost.Proofs.Text.Bytes

/-!
# The samples a sensor accepts

A valid sample is published in one way only: a step has waited for telemetry, a line was read that
parses, its flags do not take the reading back, and its temperature can be believed. Everything
else a sensor does publishes a failed sample or none.
-/

namespace HeaterHost

open Wire

/-! ### The telemetry a session waits for -/

/-- Telemetry that is found among the frames of a link has been read off one of its lines. -/
theorem Link.sift_eq_some {l l' : Link} {now : Instant}
    {result : Except TelemetryError Telemetry} (hsift : l.sift now = (l', some result)) :
    ∃ line, isTelemetry line = true ∧ Telemetry.parse line = result := by
  fun_induction Link.sift l now with
  | case1 l decoder hnext => cases hsift
  | case2 l decoder l' error hnext _ _ ih => exact ih hsift
  | case3 l decoder l' text hnext htelemetry =>
      cases hsift
      exact ⟨text, htelemetry, rfl⟩
  | case4 l decoder l' text hnext htelemetry _ _ ih => exact ih hsift

namespace Session

variable {ω : Type} [Transport ω]

theorem await_eq_ok {s s' : Session ω} {limit : Instant} {telemetry : Telemetry}
    (hawait : s.await limit = (s', .ok telemetry)) :
    ∃ line, isTelemetry line = true ∧ Telemetry.parse line = .ok telemetry := by
  fun_induction Session.await s limit with
  | case1 s link found hsift =>
      cases hawait
      exact Link.sift_eq_some hsift
  | case3 s link hsift bytes wire hreceive _ ih => exact ih hawait
  | _ => cases hawait

end Session

/-! ### Telemetry that can be believed -/

/-- The text of the flags has a one in this place. Places are counted in bytes; in a text of ASCII
these are its characters. -/
def Wire.DeviceFlags.HasOneAt (flags : DeviceFlags) (place : Nat) : Prop :=
  ∃ before after, flags.raw.toList = before ++ '1' :: after ∧
    (before.flatMap String.utf8EncodeChar).length = place

theorem Wire.DeviceFlags.isSet_iff {flags : DeviceFlags} {place : Nat} :
    flags.isSet place = true ↔ flags.HasOneAt place := by
  have hbytes : flags.raw.toUTF8.toList = flags.raw.toList.flatMap String.utf8EncodeChar :=
    Text.bytes_eq flags.raw
  rw [isSet, hbytes, beq_iff_eq]
  exact Text.getElem?_encoded_iff '1' (by decide) flags.raw.toList place

namespace Sensor

variable {ω : Type}

/-- Telemetry with a temperature that can be believed: no flag takes it back, and it lies within
the bounds of what a sensor of this kind can read. -/
structure Credible (t : Telemetry) : Prop where
  connected : t.flags.openCircuit = false
  read : t.flags.noTempRead = false
  notBelow : -27315 ≤ t.hundredths
  notAbove : t.hundredths ≤ 100000

theorem temperature_bounds_iff (t : Telemetry) :
    (absoluteZero ≤ t.temperature ∧ t.temperature ≤ maxSaneTemp) ↔
      -27315 ≤ t.hundredths ∧ t.hundredths ≤ 100000 :=
  Double.ofInt_div_hundred_bounds_iff t.hundredths

theorem isCredible_iff {t : Telemetry} : isCredible t = true ↔ Credible t := by
  have hbounds := temperature_bounds_iff t
  simp only [isCredible, DeviceFlags.invalidatesReading, Bool.and_eq_true, Bool.not_eq_true',
    Bool.or_eq_false_iff, decide_eq_true_eq, and_assoc]
  rw [hbounds]
  constructor
  · rintro ⟨hopen, hread, hlow, hhigh⟩
    exact ⟨hopen, hread, hlow, hhigh⟩
  · rintro ⟨hopen, hread, hlow, hhigh⟩
    exact ⟨hopen, hread, hlow, hhigh⟩

/-- The bounds hold for the temperature itself, a double in degrees. -/
theorem Credible.temperature_bounds {t : Telemetry} (hcredible : Credible t) :
    -273.15 ≤ t.temperature ∧ t.temperature ≤ 1000.0 :=
  (temperature_bounds_iff t).mpr ⟨hcredible.notBelow, hcredible.notAbove⟩

/-- Neither of the two flags that take a reading back stands in the text. -/
theorem unflagged_iff {t : Telemetry} :
    (t.flags.openCircuit = false ∧ t.flags.noTempRead = false) ↔
      ¬ t.flags.HasOneAt 0 ∧ ¬ t.flags.HasOneAt 4 := by
  rw [← DeviceFlags.isSet_iff, ← DeviceFlags.isSet_iff, Bool.not_eq_true, Bool.not_eq_true]
  rfl

/-- A step that waits until a deadline accepts a sample: the sample is the reading of a line of
telemetry that came in time, at the time when it came. -/
def Accepts [Transport ω] (s : Sensor ω) (deadline : Instant) (sample : Sample Float) : Prop :=
  ∃ (session : Session ω) (telemetry : Telemetry) (line : String),
    s.session.await deadline = (session, .ok telemetry) ∧
    isTelemetry line = true ∧ Telemetry.parse line = .ok telemetry ∧ Credible telemetry ∧
    sample = Sample.reading session.now.seconds telemetry.temperature

/-! ### What publishes -/

@[simp] theorem publishFailure_valid (s : Sensor ω) :
    s.publishFailure.1.view.sample.valid = false := rfl

/-- Telemetry is published as a reading, which is remembered, or as a failure. -/
theorem accept_cases (s : Sensor ω) (time : Float) (t : Telemetry) :
    (Credible t ∧ s.accept time t =
      { s.noteTelemetry time t with lastGood := .reading time t.temperature }.publish
        (.reading time t.temperature)) ∨
    (¬ Credible t ∧ s.accept time t = (s.noteTelemetry time t).publishFailure) := by
  by_cases hcredible : isCredible t = true
  · refine .inl ⟨isCredible_iff.mp hcredible, ?_⟩
    simp only [accept, hcredible, ↓reduceIte]
  · refine .inr ⟨mt isCredible_iff.mpr hcredible, ?_⟩
    simp only [accept, hcredible, Bool.false_eq_true, ↓reduceIte]

@[simp] theorem push_view (s : Sensor ω) (command : DeviceCommand Float) :
    (s.push command).view = s.view := by
  unfold push
  split <;> rfl

theorem foldr_push_view (s : Sensor ω) (outbox : List (DeviceCommand Float)) :
    (outbox.foldr (fun command sensor => sensor.push command) s).view = s.view := by
  induction outbox with
  | nil => rfl
  | cons command rest ih => rw [List.foldr_cons, push_view, ih]

@[simp] theorem connectFailed_view (s : Sensor ω) : s.connectFailed.view = s.view := by
  simp only [connectFailed]
  split <;> rfl

variable [Transport ω]

/-- The second half of a step leaves a valid sample only if it has accepted it. -/
theorem finish_accepts (s : Sensor ω) (deadline : Instant)
    (hvalid : (s.finish deadline).1.view.sample.valid = true) :
    s.Accepts deadline (s.finish deadline).1.view.sample := by
  unfold finish at hvalid ⊢
  split at hvalid
  case h_1 session telemetry hawait =>
    obtain ⟨line, htelemetry, hparse⟩ := Session.await_eq_ok hawait
    rcases accept_cases { s with session } session.now.seconds telemetry with
      ⟨hcredible, haccept⟩ | ⟨-, haccept⟩ <;> rw [haccept] at hvalid ⊢
    · exact ⟨session, telemetry, line, hawait, htelemetry, hparse, hcredible, rfl⟩
    · rw [publishFailure_valid] at hvalid
      cases hvalid
  case h_2 =>
    rw [publishFailure_valid] at hvalid
    cases hvalid

@[simp] theorem upload_view (s : Sensor ω) : s.upload.1.view = s.view := by
  unfold upload
  split
  · rfl
  · split <;> rfl

@[simp] theorem ensureConnected_view (s : Sensor ω) : s.ensureConnected.1.view = s.view := by
  unfold ensureConnected
  split
  · rfl
  · unfold connect
    split
    · exact upload_view _
    · exact connectFailed_view _

@[simp] theorem deliver_view (s : Sensor ω) (commands : List (DeviceCommand Float)) :
    (s.deliver commands).1.view = s.view := by
  induction commands generalizing s with
  | nil => rfl
  | cons command rest ih =>
      unfold deliver
      split
      · exact ih _
      · rfl

theorem begin_sample (s : Sensor ω) :
    s.begin.1.view.sample = s.view.sample ∨ s.begin.1.view.sample.valid = false := by
  unfold Sensor.begin
  split
  case h_1 => exact .inr rfl
  case h_2 connected hconnected =>
    have hview : connected.view = s.view := by
      have hsame := ensureConnected_view s.takeQueue
      rwa [hconnected] at hsame
    split
    case h_1 => exact .inr rfl
    case h_2 delivered hdelivered =>
      have hsame := deliver_view connected connected.pending
      rw [hdelivered, hview] at hsame
      unfold ask
      split
      · exact .inl (by rw [← hsame])
      · exact .inr rfl

end Sensor

end HeaterHost
