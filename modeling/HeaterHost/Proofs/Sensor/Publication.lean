import HeaterHost.Proofs.Sensor.History

/-!
# What the steps publish

Every step publishes one sample, on whichever way it ends: the sample that the step gives back goes
over the channel once and to everybody who asked for samples once. The sample is valid if the step
was answered with telemetry that can be believed, and is then a reading of that telemetry. Any other
repeats the time and the value of the last valid one, so that what a sensor remembers is at all
times a function of what it has published.
-/

namespace HeaterHost

open Wire

/-- Takes samples one after the other. -/
def Consumer.takeAll (samples : List (Sample Float)) (consumer : Consumer) : Consumer :=
  samples.foldl (fun taken sample => taken.take sample) consumer

namespace Sensor

variable {ω : Type} [Transport ω]

/-- The samples that the steps of a run give back, oldest first. -/
def published (clock : ω → Float) (s : Sensor ω) : List (SensorEvent ω) → List (Sample Float)
  | [] => []
  | .step :: events =>
      (s.stepBy clock).2 :: published clock (s.stepBy clock).1 events
  | event :: events => published clock (s.perform clock event) events

/-- One sample has been published since: it went over the channel once and once to every consumer,
and is what the status shows. -/
structure PublishesOnce (s t : Sensor ω) (sample : Sample Float) : Prop where
  channel : t.view.channel = sample :: s.view.channel
  consumers : t.view.consumers = s.view.consumers.map (Consumer.take sample)
  last : t.view.last = sample

/-! ### One step -/

omit [Transport ω] in
theorem publish_once {s t : Sensor ω} (hchannel : t.view.channel = s.view.channel)
    (hconsumers : t.view.consumers = s.view.consumers) (sample : Sample Float) :
    s.PublishesOnce (t.publish sample).1 sample := by
  rw [publish, hchannel, hconsumers]
  exact ⟨rfl, rfl, rfl⟩

omit [Transport ω] in
/-- Telemetry is noted before it is judged, which touches nothing that has been published. -/
theorem accept_once {s t : Sensor ω} (hchannel : t.view.channel = s.view.channel)
    (hconsumers : t.view.consumers = s.view.consumers) (time : Float) (telemetry : Telemetry) :
    s.PublishesOnce (t.accept time telemetry).1 (t.accept time telemetry).2 := by
  rcases t.accept_cases time telemetry with ⟨-, haccept⟩ | ⟨-, haccept⟩ <;> rw [haccept] <;>
    refine publish_once ?_ ?_ _
  · exact hchannel
  · exact hconsumers
  · exact hchannel
  · exact hconsumers

/-- A step publishes the sample that it gives back, and nothing else. -/
theorem stepBy_publishesOnce (clock : ω → Float) (s : Sensor ω) :
    s.PublishesOnce (s.stepBy clock).1 (s.stepBy clock).2 := by
  rcases s.stepBy_cases clock with
    ⟨t, hsame, -, -, hstep⟩ | ⟨t, session, telemetry, hsame, -, hstep⟩ <;> rw [hstep]
  · refine publish_once ?_ ?_ _
    · rw [hsame.view]
    · rw [hsame.view]
  · refine accept_once ?_ ?_ _ telemetry
    · exact congrArg SensorView.channel hsame.view
    · exact congrArg SensorView.consumers hsame.view

/-- The step of the program is one by the clock of the host. -/
theorem step_publishesOnce (s : Sensor ω) : s.PublishesOnce s.step.1 s.step.2 := by
  rw [← stepBy_hostClock]
  exact s.stepBy_publishesOnce hostClock

/-- What a step gives back and remembers is up to the telemetry that it was answered with. -/
theorem stepBy_judges (clock : ω → Float) (s : Sensor ω) :
    (∃ session telemetry, s.Hears session telemetry ∧ Credible telemetry ∧
      (s.stepBy clock).2 = .reading (clock session.wire) telemetry.temperature ∧
      (s.stepBy clock).1.lastGood = .reading (clock session.wire) telemetry.temperature) ∨
    ((∀ session telemetry, s.Hears session telemetry → ¬ Credible telemetry) ∧
      (s.stepBy clock).2 = s.lastGood.lost ∧ (s.stepBy clock).1.lastGood = s.lastGood) := by
  rcases s.stepBy_cases clock with
    ⟨t, hsame, hnone, -, hstep⟩ | ⟨t, session, telemetry, hsame, hheard, hstep⟩
  · rw [hstep, ← hsame.lastGood]
    exact .inr ⟨fun session telemetry h => absurd h (hnone session telemetry), rfl, rfl⟩
  · rw [hstep]
    rcases accept_cases { t with session } (clock session.wire) telemetry with
      ⟨hcredible, haccept⟩ | ⟨hcredible, haccept⟩ <;> rw [haccept]
    · exact .inl ⟨session, telemetry, hheard, hcredible, rfl, rfl⟩
    · rw [← hsame.lastGood]
      refine .inr ⟨?_, rfl, rfl⟩
      intro other heard hother
      obtain rfl : heard = telemetry := (hother.unique hheard).2
      exact hcredible

theorem stepBy_lastGood (clock : ω → Float) (s : Sensor ω) :
    (s.stepBy clock).1.lastGood =
      if (s.stepBy clock).2.valid then (s.stepBy clock).2 else s.lastGood := by
  rcases s.stepBy_judges clock with ⟨_, _, -, -, hsample, hgood⟩ | ⟨-, hsample, hgood⟩ <;>
    rw [hsample, hgood] <;> rfl

/-! ### A run -/

theorem replay_channel (clock : ω → Float) (s : Sensor ω) (events : List (SensorEvent ω)) :
    (s.replay clock events).view.channel =
      (s.published clock events).reverse ++ s.view.channel := by
  induction events generalizing s with
  | nil => rfl
  | cons event events ih =>
      cases event with
      | push command => exact (ih (s.push command)).trans (by rw [push_view]; rfl)
      | step =>
          refine (ih (s.stepBy clock).1).trans ?_
          rw [(s.stepBy_publishesOnce clock).channel, published, List.reverse_cons,
            List.append_assoc, List.singleton_append]
      | disturb change => exact ih (s.disturb change)

theorem replay_consumers (clock : ω → Float) (s : Sensor ω) (events : List (SensorEvent ω)) :
    (s.replay clock events).view.consumers =
      s.view.consumers.map (Consumer.takeAll (s.published clock events)) := by
  induction events generalizing s with
  | nil => exact (List.map_id' s.view.consumers).symm
  | cons event events ih =>
      cases event with
      | push command => exact (ih (s.push command)).trans (by rw [push_view]; rfl)
      | step =>
          refine (ih (s.stepBy clock).1).trans ?_
          rw [(s.stepBy_publishesOnce clock).consumers, List.map_map]
          rfl
      | disturb change => exact ih (s.disturb change)

/-- What a sensor remembers is the last valid sample that it has published. -/
theorem replay_lastGood (clock : ω → Float) (s : Sensor ω) (events : List (SensorEvent ω)) :
    (s.replay clock events).lastGood =
      ((s.published clock events).filter (·.valid)).getLastD s.lastGood := by
  induction events generalizing s with
  | nil => rfl
  | cons event events ih =>
      cases event with
      | push command => exact (ih (s.push command)).trans (by rw [push_lastGood]; rfl)
      | step =>
          refine (ih (s.stepBy clock).1).trans ?_
          rw [stepBy_lastGood, published, List.filter_cons]
          split
          · exact List.getLastD_cons.symm
          · rfl
      | disturb change => exact ih (s.disturb change)

omit [Transport ω] in
/-- Consumers that are added leave the rest of a sensor as it is. -/
theorem foldl_addConsumer (s : Sensor ω) (others : List Consumer) :
    others.foldl addConsumer s =
      { s with view := { s.view with consumers := s.view.consumers ++ others } } := by
  induction others generalizing s with
  | nil => rw [List.foldl_nil, List.append_nil]
  | cons other others ih =>
      rw [List.foldl_cons, ih]
      simp only [addConsumer, List.append_assoc, List.singleton_append]

/-- **A sample is a reading or repeats one.** In every run and by any clock, that of the host included
(`stepBy_hostClock`), each step publishes exactly one sample, which it gives back: the channel has
carried the samples of the steps in their order, and every consumer has taken each of them once. The
sample is valid exactly if the request of the step was answered with telemetry that can be believed,
and is then the reading of that telemetry. If not, it carries the time and the value of the last
valid one before it. -/
theorem step_publishes_reading_or_repeat (clock : ω → Float) (name endpoint : String)
    (gains : Gains Float) (reportTime : Span) (capacity : Nat) (wire : ω)
    (others : List Consumer) (events : List (SensorEvent ω)) :
    let start := others.foldl addConsumer (create name endpoint gains reportTime capacity wire)
    let s := start.replay clock events
    let earlier := start.published clock events
    let sample := (s.stepBy clock).2
    s.view.channel = earlier.reverse ∧
      s.view.consumers = (.store { capacity } :: others).map (Consumer.takeAll earlier) ∧
      s.PublishesOnce (s.stepBy clock).1 sample ∧
      (sample.valid = true ↔ ∃ session telemetry, s.Hears session telemetry ∧
        -27315 ≤ telemetry.hundredths ∧ telemetry.hundredths ≤ 100000 ∧
        ¬ telemetry.flags.HasOneAt 0 ∧ ¬ telemetry.flags.HasOneAt 4) ∧
      (sample.valid = true → ∀ session telemetry, s.Hears session telemetry →
        sample.timestamp = clock session.wire ∧
          sample.value = Float.ofInt telemetry.hundredths / 100.0) ∧
      (sample.valid = false →
        sample.timestamp = ((earlier.filter (·.valid)).getLastD Sample.missing).timestamp ∧
          sample.value = ((earlier.filter (·.valid)).getLastD Sample.missing).value) := by
  intro start s earlier sample
  have hstart := foldl_addConsumer (create name endpoint gains reportTime capacity wire) others
  have hview : start.view = { consumers := .store { capacity } :: others } :=
    congrArg Sensor.view hstart
  have hmissing : start.lastGood = Sample.missing := congrArg Sensor.lastGood hstart
  have hchannel : s.view.channel = earlier.reverse := by
    have hrun := start.replay_channel clock events
    rwa [hview, List.append_nil] at hrun
  have hconsumers :
      s.view.consumers = (.store { capacity } :: others).map (Consumer.takeAll earlier) := by
    have hrun := start.replay_consumers clock events
    rwa [hview] at hrun
  have hgood : s.lastGood = (earlier.filter (·.valid)).getLastD Sample.missing := by
    have hrun := start.replay_lastGood clock events
    rwa [hmissing] at hrun
  refine ⟨hchannel, hconsumers, s.stepBy_publishesOnce clock, ?_⟩
  rw [← hgood]
  rcases s.stepBy_judges clock with
    ⟨session, telemetry, hheard, hcredible, hsample, -⟩ | ⟨hnone, hsample, -⟩
  · obtain ⟨hopen, hread⟩ := unflagged_iff.mp ⟨hcredible.connected, hcredible.read⟩
    refine ⟨iff_of_true (by rw [show sample = _ from hsample]; rfl) ⟨session, telemetry, hheard,
      hcredible.notBelow, hcredible.notAbove, hopen, hread⟩, ?_, ?_⟩
    · rintro - other heard hother
      obtain ⟨rfl, rfl⟩ := hother.unique hheard
      rw [show sample = _ from hsample]
      exact ⟨rfl, rfl⟩
    · rw [show sample = _ from hsample]
      nofun
  · rw [show sample = _ from hsample]
    refine ⟨iff_of_false nofun ?_, nofun, fun _ => ⟨rfl, rfl⟩⟩
    rintro ⟨session, telemetry, hheard, hlow, hhigh, hopen, hread⟩
    have hunflagged := unflagged_iff.mpr ⟨hopen, hread⟩
    exact hnone session telemetry hheard ⟨hunflagged.1, hunflagged.2, hlow, hhigh⟩

end Sensor

end HeaterHost
