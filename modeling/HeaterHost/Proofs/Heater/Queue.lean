import HeaterHost.Proofs.Heater.Run
import HeaterHost.Proofs.Wire.Instructions

/-!
# The queue mirrors the heater

The last power, target and gains that a heater has queued for its board are the ones it holds
itself. The zeros that the deadband holds back are no exception: whenever the heater has to be off,
the last power it queued was zero.
-/

namespace HeaterHost

open Autotune Wire

namespace BoardHeater

variable {α : Type} [Scalar α]

/-- The last value of a kind that was queued; the outbox has the newest command first. -/
def lastQueued {β : Type} (h : BoardHeater α) (value? : DeviceCommand α → Option β) : Option β :=
  h.outbox.findSome? value?

/-- The heater holds what it queued last. -/
structure Mirrored (h : BoardHeater α) : Prop where
  power : h.lastPower = (h.lastQueued DeviceCommand.power?).getD 0.0
  target : h.target = (h.lastQueued DeviceCommand.target?).getD 0.0
  gains : h.gains = (h.lastQueued DeviceCommand.gains?).getD h.settings.gains

namespace Mirrored

variable {h : BoardHeater α}

theorem create (name : String) (settings : HeaterSettings α) :
    (BoardHeater.create name settings).Mirrored :=
  ⟨rfl, rfl, rfl⟩

theorem withControl (hmirrored : h.Mirrored) {control : ActiveControl α}
    (hgains : control.resting.gains = h.gains) : { h with control }.Mirrored :=
  ⟨hmirrored.power, hmirrored.target, hgains.trans hmirrored.gains⟩

theorem noted (hmirrored : h.Mirrored) (sample : Sample α) : (h.noted sample).Mirrored :=
  ⟨hmirrored.power, hmirrored.target, hmirrored.gains⟩

theorem activate (hmirrored : h.Mirrored) (time : α) : (h.activate time).Mirrored := by
  unfold BoardHeater.activate
  split
  · exact ⟨hmirrored.power, hmirrored.target, hmirrored.gains⟩
  · exact hmirrored

theorem setPower (hmirrored : h.Mirrored) (time power : α) (force : Bool) :
    (h.setPower time power force).Mirrored := by
  rcases h.setPower_cases time power force with ⟨-, -, heq⟩ | heq <;> rw [heq]
  · exact hmirrored
  · exact ⟨rfl, hmirrored.target, hmirrored.gains⟩

/-- The PID that takes over again has kept its gains, and every gain it was given meanwhile. -/
theorem released (hmirrored : h.Mirrored) {relay relay' : Relay α} {resume : Pid α}
    {priorTarget : α} (hcontrol : h.control = .autotune relay resume priorTarget)
    (result : Except (FailReason α) (Gains α)) (time : α) :
    (h.released relay' resume priorTarget result time).Mirrored := by
  have hgains : resume.reset.gains = h.gains := by
    rw [BoardHeater.gains, hcontrol]
    rfl
  exact ⟨rfl, rfl, hgains.trans hmirrored.gains⟩

theorem endAutotune (hmirrored : h.Mirrored) (result : Except (FailReason α) (Gains α))
    (time : α) : (h.endAutotune result time).Mirrored := by
  rcases h.endAutotune_cases result time with ⟨_, -, heq⟩ | ⟨_, _, _, hcontrol, heq⟩ <;> rw [heq]
  · exact hmirrored
  · exact hmirrored.released hcontrol result time

theorem readied (hmirrored : h.Mirrored) (time : α) : (h.readied time).Mirrored := by
  have hactive := hmirrored.activate time
  unfold BoardHeater.readied
  rcases (h.activate time).expire_cases time with heq | ⟨_, _, _, _, hcontrol, -, heq⟩ <;>
    rw [heq]
  · exact hactive
  · exact hactive.released hcontrol _ time

theorem cutPower (hmirrored : h.Mirrored) (fault : Fault α) (time : α) :
    (h.cutPower fault time).Mirrored := by
  rcases h.cutPower_cases fault time with ⟨-, heq⟩ | heq <;> rw [heq]
  · exact hmirrored.setPower ..
  · exact ⟨rfl, hmirrored.target, hmirrored.gains⟩

theorem acknowledged (hmirrored : h.Mirrored) : h.acknowledged.Mirrored where
  power := by simpa [lastQueued] using hmirrored.power
  target := by simpa [lastQueued] using hmirrored.target
  gains := by simpa [lastQueued, BoardHeater.gains] using hmirrored.gains

theorem consume (hmirrored : h.Mirrored) (sample : Sample α) (target time : α) :
    (h.consume sample target time).Mirrored := by
  have hnoted := hmirrored.noted sample
  rcases h.consume_cases sample target time with
    ⟨law, hcontrol, heq⟩ | ⟨_, _, _, _, _, hcontrol, heq⟩ | ⟨_, _, _, _, _, hcontrol, heq⟩ <;>
    rw [heq]
  · refine (hnoted.withControl ?_).setPower ..
    change law.gains = h.control.resting.gains
    rw [hcontrol]
    rfl
  · refine (hnoted.withControl ?_).setPower ..
    change _ = h.control.resting.gains
    rw [hcontrol]
    rfl
  · exact hnoted.released hcontrol ..

theorem tick (hmirrored : h.Mirrored) (sample : Sample α) (target time : α) :
    (h.tick sample target time).Mirrored := by
  by_cases hstate : h.state = .shutdown
  · rw [tick_of_shutdown hstate]
    exact hmirrored
  · have hready := hmirrored.readied time
    rw [tick_of_running hstate]
    rcases (h.readied time).regulate_cases sample target time with
      ⟨-, -, heq⟩ | ⟨-, -, heq⟩ | ⟨-, -, heq⟩ | ⟨-, -, heq⟩ | ⟨-, -, heq⟩ <;> rw [heq]
    · exact hready.setPower ..
    · exact hready.cutPower ..
    · exact (hready.endAutotune ..).cutPower ..
    · exact hready.acknowledged
    · exact hready.acknowledged.consume ..

theorem setTemp (hmirrored : h.Mirrored) {h' : BoardHeater α} {degrees : α}
    (hset : h.setTemp degrees = (h', .ok ())) : h'.Mirrored := by
  rw [setTemp_eq_ok hset]
  exact ⟨hmirrored.power, rfl, hmirrored.gains⟩

theorem setGains (hmirrored : h.Mirrored) (gains : Gains α) : (h.setGains gains).Mirrored := by
  refine ⟨hmirrored.power, hmirrored.target, ?_⟩
  change (h.control.mapResting fun law => law.setGains gains).resting.gains = gains
  cases h.control <;> rfl

theorem startAutotune (hmirrored : h.Mirrored) {h' : BoardHeater α} {target time : α}
    (hstart : h.startAutotune target time = (h', .ok ())) : h'.Mirrored := by
  obtain ⟨record, relay, -, heq⟩ := startAutotune_eq_ok hstart
  rw [heq]
  exact ⟨hmirrored.power, rfl, hmirrored.gains⟩

theorem abortAutotune (hmirrored : h.Mirrored) {h' : BoardHeater α} {time : α}
    (habort : h.abortAutotune time = (h', .ok ())) : h'.Mirrored := by
  rw [(abortAutotune_eq_ok habort).2]
  exact hmirrored.endAutotune ..

theorem shutdown (hmirrored : h.Mirrored) (time : α) : (h.shutdown time).Mirrored := by
  by_cases hstate : h.state = .shutdown
  · rw [shutdown_of_shutdown hstate]
    exact hmirrored
  · have hended := hmirrored.endAutotune (.error .aborted) time
    rw [shutdown_of_running hstate]
    exact ⟨rfl, rfl, hended.gains⟩

theorem perform (hmirrored : h.Mirrored) (event : HeaterEvent α) : (h.perform event).Mirrored := by
  cases event with
  | activate time => exact hmirrored.activate time
  | tick sample target time => exact hmirrored.tick sample target time
  | command command =>
      refine obey_invariant hmirrored ?_
      intro h' hattempt
      cases command with
      | setTemp degrees => exact hmirrored.setTemp hattempt
      | setGains gains =>
          cases hattempt
          exact hmirrored.setGains gains
      | startAutotune target time => exact hmirrored.startAutotune hattempt
      | abortAutotune time => exact hmirrored.abortAutotune hattempt
      | shutdown time =>
          cases hattempt
          exact hmirrored.shutdown time

theorem replay (hmirrored : h.Mirrored) (events : List (HeaterEvent α)) :
    (h.replay events).Mirrored :=
  replay_invariant (fun _ event hk => hk.perform event) hmirrored events

theorem queued_zero (hmirrored : h.Mirrored) (hoff : h.lastPower = 0.0) {power : α}
    (hqueued : h.lastQueued DeviceCommand.power? = some power) : power = 0.0 := by
  have hpower := hmirrored.power
  rw [hqueued, hoff] at hpower
  exact hpower.symm

end Mirrored

/-- After every run the queue mirrors the heater, a faulted or parked heater is off, and the last
power queued is zero once a tick had no usable sample, an experiment was aborted, or the heater was
shut down. -/
theorem queue_mirrors_heater (name : String) (settings : HeaterSettings α)
    (events : List (HeaterEvent α)) :
    let h := (create name settings).replay events
    h.lastPower = (h.lastQueued DeviceCommand.power?).getD 0.0 ∧
    h.target = (h.lastQueued DeviceCommand.target?).getD 0.0 ∧
    h.gains = (h.lastQueued DeviceCommand.gains?).getD settings.gains ∧
    (h.state = .faulted ∨ h.state = .shutdown → h.lastPower = 0.0) ∧
    (∀ (sample : Sample α) (target time power : α),
      sample.valid = false ∨ 2.0 * settings.reportTime < sample.age time ∨
        settings.maxTemp < sample.value →
      (h.tick sample target time).lastQueued DeviceCommand.power? = some power → power = 0.0) ∧
    (∀ (time power : α) (h' : BoardHeater α), h.abortAutotune time = (h', .ok ()) →
      h'.lastQueued DeviceCommand.power? = some power → power = 0.0) ∧
    (∀ time power : α,
      (h.shutdown time).lastQueued DeviceCommand.power? = some power → power = 0.0) := by
  intro h
  have hmirrored : h.Mirrored := (Mirrored.create name settings).replay events
  have hsafe : h.PowerSafe := (PowerSafe.create name settings).replay events
  have hsettings : h.settings = settings := replay_settings ..
  refine ⟨hmirrored.power, hmirrored.target, ?_, hsafe.parked, ?_, ?_, ?_⟩
  · rw [← hsettings]
    exact hmirrored.gains
  · intro sample target time power hbad
    refine (hmirrored.tick sample target time).queued_zero ?_
    refine hsafe.tick_lastPower_of_unusable ?_ target
    rintro ⟨hfresh, hrange⟩
    simp only [isStale, staleAfter, hsettings, Bool.or_eq_false_iff, Bool.not_eq_false',
      decide_eq_false_iff_not] at hfresh
    rw [hsettings] at hrange
    rcases hbad with hinvalid | hold | hhot
    · rw [hinvalid] at hfresh
      cases hfresh.1
    · exact hfresh.2 hold
    · exact hrange hhot
  · intro time power h' habort
    refine (hmirrored.abortAutotune habort).queued_zero ?_
    obtain ⟨hautotune, heq⟩ := abortAutotune_eq_ok habort
    rw [heq]
    exact endAutotune_lastPower h _ time (.inl hautotune)
  · intro time power
    exact (hmirrored.shutdown time).queued_zero
      ((hsafe.shutdown time).parked (.inr (shutdown_state h time)))

end BoardHeater

end HeaterHost
