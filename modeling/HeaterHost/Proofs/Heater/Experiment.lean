import HeaterHost.Proofs.Heater.Run

/-!
# Experiments begin and end

A heater keeps its experiment in two places, as the control that drives it and as the run that its
record has open. One begins and ends with the other. Whatever a tick does, it leaves the experiment
and the target as they were, or it ends the experiment and restores the target from before.
-/

namespace HeaterHost

open Autotune

namespace Autotune.Record

variable {α : Type}

theorem openRun?_eq_none_iff {r : Record α} : r.openRun? = none ↔ r.isRunning = false := by
  cases hrun : r.run with
  | none => simp [openRun?, isRunning, state, hrun, RunState.isRunning]
  | some run => simp [openRun?, isRunning, state, hrun]

theorem isRunning_finish (r : Record α) (relay : Relay α)
    (result : Except (FailReason α) (Gains α)) (time : α) :
    (r.finish relay result time).isRunning = false := by
  cases hrun : r.run with
  | none => simp [finish, isRunning, state, hrun, RunState.isRunning]
  | some run => cases result <;> simp [finish, isRunning, state, hrun, RunState.isRunning]

variable [Scalar α]

theorem start_eq_ok {r r' : Record α} {relay : Relay α} {target minTemp time : α}
    {limits : Limits α} (hstart : r.start target minTemp limits time = (r', .ok relay)) :
    r.isRunning = false ∧ ¬ (target ≤ minTemp ∨ limits.maxTemp ≤ target) ∧
      r'.isRunning = true := by
  unfold start at hstart
  split at hstart
  case h_1 => cases hstart
  case h_2 hclosed =>
    split at hstart
    case isTrue => cases hstart
    case isFalse hrange =>
      cases hstart
      exact ⟨openRun?_eq_none_iff.mp hclosed, hrange, rfl⟩

theorem start_of_closed {r : Record α} {target minTemp : α} {limits : Limits α}
    (hclosed : r.isRunning = false) (hrange : ¬ (target ≤ minTemp ∨ limits.maxTemp ≤ target))
    (time : α) :
    r.start target minTemp limits time =
      ({ r with run := some { target, startedAt := time } },
        .ok (Relay.start target limits time)) := by
  simp only [start, openRun?_eq_none_iff.mpr hclosed, if_neg hrange]

end Autotune.Record

namespace ActiveControl

variable {α : Type}

/-- The target that comes back when the experiment ends. -/
def priorTarget? : ActiveControl α → Option α
  | pid _ => none
  | autotune _ _ priorTarget => some priorTarget

theorem isSome_priorTarget? (control : ActiveControl α) :
    control.priorTarget?.isSome = control.isAutotune := by
  cases control <;> rfl

end ActiveControl

namespace BoardHeater

variable {α : Type}

/-- The heater `k` has the target and the experiment of `h`. -/
structure Undisturbed (h k : BoardHeater α) : Prop where
  target : k.target = h.target
  record : k.record = h.record
  priorTarget : k.control.priorTarget? = h.control.priorTarget?

/-- The experiment of `h` has ended in `k`, and the target from before it is back. -/
structure Concluded (h k : BoardHeater α) : Prop where
  begun : h.control.priorTarget? = some k.target
  closed : ∃ relay result time, k.record = h.record.finish relay result time
  control : k.control.priorTarget? = none

/-- What can become of an experiment without a command: it goes on, or it ends. -/
def Follows (h k : BoardHeater α) : Prop :=
  h.Undisturbed k ∨ h.Concluded k

section follows

variable {h k l : BoardHeater α}

theorem Undisturbed.trans (hfirst : h.Undisturbed k) (hnext : k.Undisturbed l) :
    h.Undisturbed l :=
  ⟨hnext.target.trans hfirst.target, hnext.record.trans hfirst.record,
    hnext.priorTarget.trans hfirst.priorTarget⟩

theorem Concluded.record (hended : h.Concluded k) : k.record.isRunning = false := by
  obtain ⟨relay, result, time, hclosed⟩ := hended.closed
  rw [hclosed]
  exact h.record.isRunning_finish relay result time

theorem Follows.trans (hfirst : h.Follows k) (hnext : k.Follows l) : h.Follows l := by
  rcases hfirst with hsame | hended
  · rcases hnext with hsame' | hended'
    · exact .inl (hsame.trans hsame')
    · exact .inr ⟨hsame.priorTarget ▸ hended'.begun, hsame.record ▸ hended'.closed,
        hended'.control⟩
  · rcases hnext with hsame' | hended'
    · refine .inr ⟨?_, ?_, hsame'.priorTarget.trans hended.control⟩
      · rw [hsame'.target]
        exact hended.begun
      · rw [hsame'.record]
        exact hended.closed
    -- An experiment that has ended cannot end again.
    · have hbegun := hended'.begun
      rw [hended.control] at hbegun
      cases hbegun

end follows

theorem activate_undisturbed (h : BoardHeater α) (time : α) : h.Undisturbed (h.activate time) :=
  ⟨activate_target h time, activate_record h time,
    congrArg ActiveControl.priorTarget? (activate_control h time)⟩

theorem acknowledged_undisturbed (h : BoardHeater α) : h.Undisturbed h.acknowledged :=
  ⟨acknowledged_target h, acknowledged_record h,
    congrArg ActiveControl.priorTarget? (acknowledged_control h)⟩

variable [Scalar α] (h : BoardHeater α)

theorem setPower_undisturbed (time power : α) (force : Bool) :
    h.Undisturbed (h.setPower time power force) :=
  ⟨setPower_target .., setPower_record .., congrArg ActiveControl.priorTarget? (setPower_control ..)⟩

theorem cutPower_undisturbed (fault : Fault α) (time : α) :
    h.Undisturbed (h.cutPower fault time) :=
  ⟨cutPower_target .., cutPower_record ..,
    congrArg ActiveControl.priorTarget? (cutPower_control h fault time)⟩

variable {h}

theorem released_concluded {relay relay' : Relay α} {resume : Pid α} {priorTarget : α}
    (hcontrol : h.control = .autotune relay resume priorTarget)
    (result : Except (FailReason α) (Gains α)) (time : α) :
    h.Concluded (h.released relay' resume priorTarget result time) :=
  ⟨congrArg ActiveControl.priorTarget? hcontrol, ⟨relay', result, time, rfl⟩, rfl⟩

theorem noted_undisturbed (sample : Sample α) {control : ActiveControl α}
    (hcontrol : control.priorTarget? = h.control.priorTarget?) :
    h.Undisturbed { h.noted sample with control } :=
  ⟨rfl, rfl, hcontrol⟩

variable (h)

theorem endAutotune_follows (result : Except (FailReason α) (Gains α)) (time : α) :
    h.Follows (h.endAutotune result time) := by
  rcases h.endAutotune_cases result time with ⟨_, -, heq⟩ | ⟨_, _, _, hcontrol, heq⟩ <;> rw [heq]
  · exact .inl ⟨rfl, rfl, rfl⟩
  · exact .inr (released_concluded hcontrol result time)

theorem readied_follows (time : α) : h.Follows (h.readied time) := by
  refine .trans (.inl (h.activate_undisturbed time)) ?_
  unfold readied
  rcases (h.activate time).expire_cases time with heq | ⟨_, _, _, _, hcontrol, -, heq⟩ <;> rw [heq]
  · exact .inl ⟨rfl, rfl, rfl⟩
  · exact .inr (released_concluded hcontrol _ time)

theorem consume_follows (sample : Sample α) (target time : α) :
    h.Follows (h.consume sample target time) := by
  rcases h.consume_cases sample target time with
    ⟨_, hcontrol, heq⟩ | ⟨_, _, _, _, _, hcontrol, heq⟩ | ⟨_, _, _, _, _, hcontrol, heq⟩ <;>
    rw [heq]
  · exact .inl (.trans (noted_undisturbed sample (hcontrol ▸ rfl)) (setPower_undisturbed ..))
  · exact .inl (.trans (noted_undisturbed sample (hcontrol ▸ rfl)) (setPower_undisturbed ..))
  · have hnoted : h.Undisturbed (h.noted sample) := ⟨rfl, rfl, rfl⟩
    exact .trans (.inl hnoted) (.inr (released_concluded (h := h.noted sample) hcontrol ..))

theorem regulate_follows (sample : Sample α) (target time : α) :
    h.Follows (h.regulate sample target time) := by
  rcases h.regulate_cases sample target time with
    ⟨-, -, heq⟩ | ⟨-, -, heq⟩ | ⟨-, -, heq⟩ | ⟨-, -, heq⟩ | ⟨-, -, heq⟩ <;> rw [heq]
  · exact .inl (setPower_undisturbed ..)
  · exact .inl (cutPower_undisturbed ..)
  · exact (h.endAutotune_follows _ time).trans (.inl (cutPower_undisturbed ..))
  · exact .inl h.acknowledged_undisturbed
  · exact .trans (.inl h.acknowledged_undisturbed) (h.acknowledged.consume_follows ..)

theorem tick_follows (sample : Sample α) (target time : α) :
    h.Follows (h.tick sample target time) := by
  by_cases hstate : h.state = .shutdown
  · rw [tick_of_shutdown hstate]
    exact .inl ⟨rfl, rfl, rfl⟩
  · rw [tick_of_running hstate]
    exact (h.readied_follows time).trans ((h.readied time).regulate_follows ..)

/-! ### The run that is open -/

/-- The record has a run open exactly while the experiment drives the heater. -/
def InStep (h : BoardHeater α) : Prop :=
  h.record.isRunning = h.control.isAutotune

namespace InStep

variable {h}

omit [Scalar α] in
theorem follows (hstep : h.InStep) {k : BoardHeater α} (hfollows : h.Follows k) : k.InStep := by
  rcases hfollows with hsame | hended
  · rw [InStep, hsame.record, hstep, ← ActiveControl.isSome_priorTarget?, ← hsame.priorTarget,
      ActiveControl.isSome_priorTarget?]
  · rw [InStep, hended.record, ← ActiveControl.isSome_priorTarget?, hended.control]
    rfl

theorem create (name : String) (settings : HeaterSettings α) :
    (BoardHeater.create name settings).InStep := rfl

theorem setGains (hstep : h.InStep) (gains : Gains α) : (h.setGains gains).InStep := by
  refine hstep.trans ?_
  change _ = (h.control.mapResting fun law => law.setGains gains).isAutotune
  cases h.control <;> rfl

theorem startAutotune {h' : BoardHeater α} {target time : α}
    (hstart : h.startAutotune target time = (h', .ok ())) : h'.InStep := by
  obtain ⟨record, relay, hrecord, rfl⟩ := startAutotune_eq_ok hstart
  exact (Record.start_eq_ok hrecord).2.2

theorem shutdown (hstep : h.InStep) (time : α) : (h.shutdown time).InStep := by
  by_cases hstate : h.state = .shutdown
  · rw [shutdown_of_shutdown hstate]
    exact hstep
  · have hended := hstep.follows (h.endAutotune_follows (.error .aborted) time)
    rw [shutdown_of_running hstate]
    exact hended

theorem perform (hstep : h.InStep) (event : HeaterEvent α) : (h.perform event).InStep := by
  cases event with
  | activate time => exact hstep.follows (.inl (h.activate_undisturbed time))
  | tick sample target time => exact hstep.follows (h.tick_follows ..)
  | command command =>
      refine obey_invariant hstep ?_
      intro h' hattempt
      cases command with
      | setTemp degrees =>
          rw [setTemp_eq_ok hattempt]
          exact hstep
      | setGains gains =>
          cases hattempt
          exact hstep.setGains gains
      | startAutotune target time => exact startAutotune hattempt
      | abortAutotune time =>
          rw [(abortAutotune_eq_ok hattempt).2]
          exact hstep.follows (h.endAutotune_follows ..)
      | shutdown time =>
          cases hattempt
          exact hstep.shutdown time

theorem replay (hstep : h.InStep) (events : List (HeaterEvent α)) : (h.replay events).InStep :=
  replay_invariant (fun _ event hk => hk.perform event) hstep events

end InStep

end BoardHeater

end HeaterHost
