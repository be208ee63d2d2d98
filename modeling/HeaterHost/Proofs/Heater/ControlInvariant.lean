import HeaterHost.Proofs.Heater.Run

/-!
# What a control keeps

Readings, deadlines and faults move the control of a heater in three ways: the PID takes a reading
in, the relay of an experiment takes one in, or the experiment ends and the PID from before it comes
back. A property that these three keep is kept by every event, up to new gains and new experiments.
-/

namespace HeaterHost

open Autotune Wire

variable {α : Type} [Scalar α]

namespace Autotune.Relay

/-- A relay that carries on has taken the reading in, and asks for its own power. -/
theorem feed_carryOn {r r' : Relay α} {sample : Sample α} {time power : α}
    (hfeed : r.feed sample time = (r', .carryOn power)) :
    r' = r.advance sample.timestamp sample.value ∧ power = r'.power := by
  unfold feed at hfeed
  split at hfeed
  · cases hfeed
  · by_cases hhot : r.limits.maxTemp < sample.value
    · rw [if_pos hhot] at hfeed
      cases hfeed
    · rw [if_neg hhot] at hfeed
      obtain ⟨rfl, hstep⟩ := Prod.mk.inj hfeed
      refine ⟨rfl, ?_⟩
      unfold outcome at hstep
      split at hstep
      · cases hstep
      · cases hstep
        rfl

end Autotune.Relay

/-- A property of the control that is kept in all the ways in which it moves by itself. -/
structure ActiveControl.Stable (C : ActiveControl α → Prop) : Prop where
  update : ∀ law time temp target, C (.pid law) → C (.pid (law.update time temp target))
  advance : ∀ relay resume priorTarget time temp, C (.autotune relay resume priorTarget) →
    C (.autotune (relay.advance time temp) resume priorTarget)
  release : ∀ relay resume priorTarget, C (.autotune relay resume priorTarget) →
    C (.pid resume.reset)

/-- A property of the control that is kept as long as its PID takes no reading in. -/
structure ActiveControl.Lasting (C : ActiveControl α → Prop) : Prop where
  advance : ∀ relay resume priorTarget time temp, C (.autotune relay resume priorTarget) →
    C (.autotune (relay.advance time temp) resume priorTarget)
  release : ∀ relay resume priorTarget, C (.autotune relay resume priorTarget) →
    C (.pid resume.reset)

namespace ActiveControl.Lasting

open BoardHeater

variable {C : ActiveControl α → Prop} (hlasting : Lasting C) {h : BoardHeater α}

include hlasting

theorem endAutotune (hcontrol : C h.control) (result : Except (FailReason α) (Gains α))
    (time : α) : C (h.endAutotune result time).control := by
  rcases h.endAutotune_cases result time with ⟨_, -, heq⟩ | ⟨_, _, _, hbegun, heq⟩ <;> rw [heq]
  · exact hcontrol
  · rw [hbegun] at hcontrol
    exact hlasting.release _ _ _ hcontrol

theorem readied (hcontrol : C h.control) (time : α) : C (h.readied time).control := by
  have hactive : C (h.activate time).control := by rwa [activate_control]
  unfold BoardHeater.readied
  rcases (h.activate time).expire_cases time with heq | ⟨_, _, _, _, hbegun, -, heq⟩ <;> rw [heq]
  · exact hactive
  · rw [hbegun] at hactive
    exact hlasting.release _ _ _ hactive

theorem consume {sample : Sample α} {target time : α} (hcontrol : C h.control)
    (hread : ∀ law, h.control = .pid law →
      C (.pid (law.update sample.timestamp sample.value target))) :
    C (h.consume sample target time).control := by
  cases hcase : h.control with
  | pid law =>
      rw [consume_of_pid hcase, setPower_control]
      exact hread law hcase
  | autotune relay resume priorTarget =>
      rw [hcase] at hcontrol
      rcases hfeed : relay.feed sample time with ⟨relay', power | result⟩
      · rw [consume_of_carryOn hcase hfeed, setPower_control, (Relay.feed_carryOn hfeed).1]
        exact hlasting.advance _ _ _ _ _ hcontrol
      · rw [consume_of_finished hcase hfeed]
        exact hlasting.release _ _ _ hcontrol

theorem regulate {sample : Sample α} {target time : α} (hcontrol : C h.control)
    (hread : h.Usable sample time → sample.isConsumed h.lastSample = false →
      ∀ law, h.control = .pid law → C (.pid (law.update sample.timestamp sample.value target))) :
    C (h.regulate sample target time).control := by
  have hacknowledged : C h.acknowledged.control := by rwa [acknowledged_control]
  rcases h.regulate_cases sample target time with
    ⟨-, -, heq⟩ | ⟨-, -, heq⟩ | ⟨-, -, heq⟩ | ⟨-, -, heq⟩ | ⟨husable, hnew, heq⟩ <;> rw [heq]
  · rwa [setPower_control]
  · rwa [cutPower_control]
  · rw [cutPower_control]
    exact hlasting.endAutotune hcontrol _ time
  · exact hacknowledged
  · refine hlasting.consume hacknowledged ?_
    rw [acknowledged_control]
    exact hread husable hnew

/-- A reading reaches the PID if the sample can be used and is new, and no experiment is left. -/
theorem tick {sample : Sample α} {target time : α} (hcontrol : C h.control)
    (hread : h.state ≠ .shutdown → (h.readied time).Usable sample time →
      sample.isConsumed h.lastSample = false → ∀ law, (h.readied time).control = .pid law →
      C (.pid (law.update sample.timestamp sample.value target))) :
    C (h.tick sample target time).control := by
  by_cases hstate : h.state = .shutdown
  · rwa [tick_of_shutdown hstate]
  · rw [tick_of_running hstate]
    refine hlasting.regulate (hlasting.readied hcontrol time) ?_
    rw [readied_lastSample]
    exact hread hstate

theorem shutdown (hcontrol : C h.control) (time : α) : C (h.shutdown time).control := by
  by_cases hstate : h.state = .shutdown
  · rwa [shutdown_of_shutdown hstate]
  · rw [shutdown_of_running hstate]
    exact hlasting.endAutotune hcontrol (.error .aborted) time

/-- New gains, new experiments and the readings of the PID are all that has to be looked at. -/
theorem perform (hcontrol : C h.control) {event : HeaterEvent α}
    (hgains : ∀ gains, event = .command (.setGains gains) → C (h.setGains gains).control)
    (hstart : ∀ target time h', event = .command (.startAutotune target time) →
      h.startAutotune target time = (h', .ok ()) → C h'.control)
    (hread : ∀ sample target time, event = .tick sample target time → h.state ≠ .shutdown →
      (h.readied time).Usable sample time → sample.isConsumed h.lastSample = false →
      ∀ law, (h.readied time).control = .pid law →
      C (.pid (law.update sample.timestamp sample.value target))) :
    C (h.perform event).control := by
  cases event with
  | activate time =>
      change C (h.activate time).control
      rwa [activate_control]
  | tick sample target time =>
      exact hlasting.tick hcontrol (hread sample target time rfl)
  | command command =>
      refine obey_invariant (P := fun k => C k.control) hcontrol ?_
      intro h' hattempt
      cases command with
      | setTemp degrees =>
          rw [setTemp_eq_ok hattempt]
          exact hcontrol
      | setGains gains =>
          cases hattempt
          exact hgains gains rfl
      | startAutotune target time => exact hstart target time h' rfl hattempt
      | abortAutotune time =>
          rw [(abortAutotune_eq_ok hattempt).2]
          exact hlasting.endAutotune hcontrol (.error .aborted) time
      | shutdown time =>
          cases hattempt
          exact hlasting.shutdown hcontrol time

end ActiveControl.Lasting

namespace ActiveControl.Stable

open BoardHeater

variable {C : ActiveControl α → Prop} (hstable : Stable C) {h : BoardHeater α}

include hstable

theorem lasting : Lasting C :=
  ⟨hstable.advance, hstable.release⟩

theorem readied (hcontrol : C h.control) (time : α) : C (h.readied time).control :=
  hstable.lasting.readied hcontrol time

theorem update_readied (hcontrol : C h.control) {law : Pid α} {time : α}
    (hlaw : (h.readied time).control = .pid law) (sampled temp target : α) :
    C (.pid (law.update sampled temp target)) :=
  hstable.update law _ _ _ (hlaw ▸ hstable.readied hcontrol time)

/-- New gains and new experiments are all that has to be looked at. -/
theorem perform (hcontrol : C h.control) {event : HeaterEvent α}
    (hgains : ∀ gains, event = .command (.setGains gains) → C (h.setGains gains).control)
    (hstart : ∀ target time h', event = .command (.startAutotune target time) →
      h.startAutotune target time = (h', .ok ()) → C h'.control) : C (h.perform event).control :=
  hstable.lasting.perform hcontrol hgains hstart fun _ _ _ _ _ _ _ _ hlaw =>
    hstable.update_readied hcontrol hlaw _ _ _

end ActiveControl.Stable

end HeaterHost
