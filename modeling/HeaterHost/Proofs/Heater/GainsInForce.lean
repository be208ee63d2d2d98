import Mathlib.Data.List.Basic
import HeaterHost.Proofs.Heater.ControlInvariant

/-!
# The gains in force

A heater keeps one PID, whether it is in charge or waits for the end of an experiment. Readings move
what the PID remembers and the end of an experiment makes it forget; only the command that gives new
gains touches the factors it computes with.
-/

namespace HeaterHost

open Autotune

namespace Pid

variable {α : Type} [Scalar α]

/-- The PID computes with these gains: its factors and the limit of its integral are the ones they
stand for. -/
structure RunsOn (pid : Pid α) (maxPower : α) (gains : Gains α) : Prop where
  held : pid.gains = gains
  kp : pid.kp = gains.kp / Gains.unit
  ki : pid.ki = gains.ki / Gains.unit
  kd : pid.kd = gains.kd / Gains.unit
  power : pid.maxPower = maxPower
  limit : pid.integralLimit =
    if 0.0 < gains.ki / Gains.unit then maxPower / (gains.ki / Gains.unit) else 0.0

theorem RunsOn.update {pid : Pid α} {maxPower : α} {gains : Gains α}
    (hruns : pid.RunsOn maxPower gains) (time temp target : α) :
    (pid.update time temp target).RunsOn maxPower gains :=
  ⟨hruns.held, hruns.kp, hruns.ki, hruns.kd, hruns.power, hruns.limit⟩

theorem RunsOn.reset {pid : Pid α} {maxPower : α} {gains : Gains α}
    (hruns : pid.RunsOn maxPower gains) : pid.reset.RunsOn maxPower gains :=
  ⟨hruns.held, hruns.kp, hruns.ki, hruns.kd, hruns.power, hruns.limit⟩

theorem setGains_runsOn (pid : Pid α) (gains : Gains α) :
    (pid.setGains gains).RunsOn pid.maxPower gains :=
  ⟨rfl, rfl, rfl, rfl, rfl, rfl⟩

theorem create_runsOn (gains : Gains α) (maxPower slopeTime : α) :
    (create gains maxPower slopeTime).RunsOn maxPower gains :=
  setGains_runsOn _ gains

end Pid

namespace HeaterEvent

variable {α : Type}

def gains? : HeaterEvent α → Option (Gains α)
  | command (.setGains gains) => some gains
  | _ => none

/-- The gains that were given last, or `start` if none were. -/
def latestGains (start : Gains α) (events : List (HeaterEvent α)) : Gains α :=
  (events.filterMap gains?).getLast?.getD start

theorem latestGains_cons (start : Gains α) (event : HeaterEvent α) (rest : List (HeaterEvent α)) :
    latestGains start (event :: rest) = latestGains (event.gains?.getD start) rest := by
  unfold latestGains
  cases hgains : event.gains? with
  | none => rw [List.filterMap_cons_none hgains, Option.getD_none]
  | some gains =>
      rw [List.filterMap_cons_some hgains, List.getLast?_cons, Option.getD_some, Option.getD_some]

end HeaterEvent

namespace ActiveControl

variable {α : Type}

theorem resting_mapResting (f : Pid α → Pid α) (control : ActiveControl α) :
    (control.mapResting f).resting = f control.resting := by
  cases control <;> rfl

theorem eq_pid_of_not_isAutotune {control : ActiveControl α} (hpid : control.isAutotune = false) :
    control = .pid control.resting := by
  cases control with
  | pid law => rfl
  | autotune relay resume priorTarget => cases hpid

end ActiveControl

namespace BoardHeater

variable {α : Type} [Scalar α] {h : BoardHeater α}

theorem stable_runsOn (maxPower : α) (gains : Gains α) :
    ActiveControl.Stable fun control => control.resting.RunsOn maxPower gains where
  update _ time temp target hruns := hruns.update time temp target
  advance _ _ _ _ _ hruns := hruns
  release _ _ _ hruns := hruns.reset

/-- Whatever happens to a heater besides new gains, its PID goes on, forgets, or waits. -/
theorem perform_runsOn {maxPower : α} {gains : Gains α}
    (hruns : h.control.resting.RunsOn maxPower gains) {event : HeaterEvent α}
    (hevent : event.gains? = none) :
    (h.perform event).control.resting.RunsOn maxPower gains := by
  refine (stable_runsOn maxPower gains).perform hruns ?_ ?_
  · rintro new rfl
    cases hevent
  · intro target time h' _ hstart
    obtain ⟨record, relay, -, heq⟩ := startAutotune_eq_ok hstart
    rw [heq]
    exact hruns

/-- The PID of a heater computes with the gains that were given last, also if that was in the course
of an experiment. -/
theorem replay_runsOn {maxPower : α} {gains : Gains α}
    (hruns : h.control.resting.RunsOn maxPower gains) (events : List (HeaterEvent α)) :
    (h.replay events).control.resting.RunsOn maxPower (HeaterEvent.latestGains gains events) := by
  induction events generalizing h gains with
  | nil => exact hruns
  | cons event rest ih =>
      rw [replay_cons, HeaterEvent.latestGains_cons]
      apply ih
      cases hgains : event.gains? with
      | none => exact perform_runsOn hruns hgains
      | some new =>
          have hnew : event = .command (.setGains new) := by
            cases event with
            | activate time => cases hgains
            | tick sample target time => cases hgains
            | command command =>
                cases command <;> cases hgains
                rfl
          subst hnew
          change (h.control.mapResting fun law => law.setGains new).resting.RunsOn maxPower new
          rw [ActiveControl.resting_mapResting, ← hruns.power]
          exact Pid.setGains_runsOn h.control.resting new

end BoardHeater

end HeaterHost
