import HeaterHost.Proofs.Heater.ControlInvariant
import HeaterHost.Proofs.Heater.Experiment

/-!
# The relay of an experiment

An experiment keeps the relay it began with. A reading may advance the relay and does nothing else
to it, so that its target and its limits are those it was started with. The record is written when
an experiment starts and when it ends, and at no other time.
-/

namespace HeaterHost

open Autotune Wire

namespace Autotune.Relay

variable {α : Type} [Scalar α]

theorem advance_target (r : Relay α) (time temp : α) : (r.advance time temp).target = r.target := by
  unfold advance
  dsimp only
  split <;> rfl

theorem advance_limits (r : Relay α) (time temp : α) : (r.advance time temp).limits = r.limits := by
  unfold advance
  dsimp only
  split <;> rfl

end Autotune.Relay

namespace ActiveControl

variable {α : Type}

def relay? : ActiveControl α → Option (Relay α)
  | pid _ => none
  | autotune relay _ _ => some relay

theorem relay?_mapResting (f : Pid α → Pid α) (control : ActiveControl α) :
    (control.mapResting f).relay? = control.relay? := by
  cases control <;> rfl

end ActiveControl

namespace BoardHeater

variable {α : Type}

/-- An experiment that is taken on is the only run of the record, with a relay of its own. -/
theorem startAutotune_eq_started [Scalar α] {h h' : BoardHeater α} {target time : α}
    (hstart : h.startAutotune target time = (h', .ok ())) :
    h.record.isRunning = false ∧
    ¬ (target ≤ h.settings.minTemp ∨ h.settings.maxTemp ≤ target) ∧
      h' = { h with
        record := { h.record with run := some { target, startedAt := time } }
        control :=
          .autotune (.start target h.settings.tuneLimits time) h.control.resting h.target
        target
        outbox := .setTarget target :: h.outbox } := by
  obtain ⟨record, relay, hrecord, rfl⟩ := startAutotune_eq_ok hstart
  obtain ⟨hclosed, hrange, -⟩ := Record.start_eq_ok hrecord
  rw [Record.start_of_closed hclosed hrange] at hrecord
  cases hrecord
  exact ⟨hclosed, hrange, rfl⟩

theorem Follows.record_cases {h k : BoardHeater α} (hfollows : h.Follows k) :
    k.record = h.record ∨
      h.control.isAutotune = true ∧
        ∃ relay result time, k.record = h.record.finish relay result time := by
  rcases hfollows with hsame | hended
  · exact .inl hsame.record
  · refine .inr ⟨?_, hended.closed⟩
    rw [← ActiveControl.isSome_priorTarget?, hended.begun]
    rfl

/-- An event leaves the record alone, or it ends the experiment that is under way, or it starts
one. -/
theorem perform_record_cases [Scalar α] (h : BoardHeater α) (event : HeaterEvent α) :
    (h.perform event).record = h.record ∨
    (h.control.isAutotune = true ∧
      ∃ relay result time, (h.perform event).record = h.record.finish relay result time) ∨
    ∃ target time h', event = .command (.startAutotune target time) ∧
      h.startAutotune target time = (h', .ok ()) ∧
      (h.perform event).record = { h.record with run := some { target, startedAt := time } } := by
  cases event with
  | activate time => exact .inl (activate_record h time)
  | tick sample target time => exact (h.tick_follows sample target time).record_cases.imp_right .inl
  | command command =>
      rcases h.attempt_cases command with ⟨h', hattempt⟩ | ⟨error, hattempt⟩
      case inr =>
        rw [perform_of_refused hattempt]
        exact .inl rfl
      rw [perform_of_attempt hattempt]
      cases command with
      | setTemp degrees =>
          rw [setTemp_eq_ok hattempt]
          exact .inl rfl
      | setGains gains =>
          cases hattempt
          exact .inl rfl
      | startAutotune target time =>
          obtain ⟨-, -, heq⟩ := startAutotune_eq_started hattempt
          refine .inr (.inr ⟨target, time, h', rfl, hattempt, ?_⟩)
          rw [heq]
      | abortAutotune time =>
          rw [(abortAutotune_eq_ok hattempt).2]
          exact (h.endAutotune_follows (.error .aborted) time).record_cases.imp_right .inl
      | shutdown time =>
          cases hattempt
          by_cases hstate : h.state = .shutdown
          · rw [shutdown_of_shutdown hstate]
            exact .inl rfl
          · rw [shutdown_of_running hstate]
            exact (h.endAutotune_follows (.error .aborted) time).record_cases.imp_right .inl

/-- The relay in charge, if there is one, has the property. -/
def RelayHolds (P : Relay α → Prop) (h : BoardHeater α) : Prop :=
  ∀ relay, h.control.relay? = some relay → P relay

namespace RelayHolds

variable {P : Relay α → Prop} {h k : BoardHeater α}

variable [Scalar α]

section advancing

variable (hadvance : ∀ relay time temp, P relay → P (relay.advance time temp))

include hadvance

theorem stable :
    ActiveControl.Stable fun control => ∀ relay, control.relay? = some relay → P relay where
  update _ _ _ _ _ := nofun
  advance relay _ _ time temp hholds := by
    rintro _ ⟨⟩
    exact hadvance relay time temp (hholds relay rfl)
  release _ _ _ _ := nofun

theorem readied (hholds : h.RelayHolds P) (time : α) : (h.readied time).RelayHolds P :=
  (stable hadvance).readied hholds time

/-- A new relay is the only one that has to be looked at. -/
theorem perform (hholds : h.RelayHolds P) {event : HeaterEvent α}
    (hstart : ∀ target time h', event = .command (.startAutotune target time) →
      h.startAutotune target time = (h', .ok ()) → P (.start target h.settings.tuneLimits time)) :
    (h.perform event).RelayHolds P := by
  refine (stable hadvance).perform hholds ?_ ?_
  · intro gains _ relay hrelay
    change (h.control.mapResting fun law => law.setGains gains).relay? = some relay at hrelay
    rw [ActiveControl.relay?_mapResting] at hrelay
    exact hholds relay hrelay
  · intro target time h' hevent hattempt
    have hnew := hstart target time h' hevent hattempt
    obtain ⟨-, -, rfl⟩ := startAutotune_eq_started hattempt
    rintro _ ⟨⟩
    exact hnew

end advancing

end RelayHolds

end BoardHeater

end HeaterHost
