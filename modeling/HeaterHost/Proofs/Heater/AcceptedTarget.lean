import Mathlib.Data.List.Basic
import HeaterHost.Proofs.Heater.Experiment
import HeaterHost.Proofs.Heater.Queue

/-!
# The target that is kept

While no experiment is under way the target of a heater is the last temperature that was accepted
while none was. A temperature that is accepted during an experiment replaces the target of the
experiment, not the one that comes back after it: it is gone when the experiment ends, whatever ends
it.
-/

namespace HeaterHost

open Autotune Wire

structure Acceptance (α : Type) where
  degrees : α
  /-- Whether an experiment was under way. -/
  tuning : Bool
deriving Repr

/-- The temperature that was accepted last, or `start` if there was none. -/
def Acceptance.latest {α : Type} (start : α) (accepted : List (Acceptance α)) : α :=
  (accepted.getLast?.map (·.degrees)).getD start

theorem Acceptance.latest_append {α : Type} (start : α) (earlier later : List (Acceptance α)) :
    latest start (earlier ++ later) = latest (latest start earlier) later := by
  simp only [latest, List.getLast?_append]
  cases later.getLast? <;> rfl

namespace BoardHeater

variable {α : Type} [Scalar α]

def acceptance? (h : BoardHeater α) : HeaterEvent α → Option (Acceptance α)
  | .command (.setTemp degrees) =>
      match (h.setTemp degrees).2 with
      | .ok () => some { degrees, tuning := h.record.isRunning }
      | .error _ => none
  | _ => none

def acceptances (h : BoardHeater α) : List (HeaterEvent α) → List (Acceptance α)
  | [] => []
  | event :: rest => (h.acceptance? event).toList ++ (h.perform event).acceptances rest

omit [Scalar α] in
/-- The target that a heater has once no experiment is under way. -/
def restingTarget (h : BoardHeater α) : α :=
  h.control.priorTarget?.getD h.target

section resting

variable {h k : BoardHeater α}

omit [Scalar α] in
theorem Follows.restingTarget (hfollows : h.Follows k) : k.restingTarget = h.restingTarget := by
  unfold BoardHeater.restingTarget
  rcases hfollows with hsame | hended
  · rw [hsame.priorTarget, hsame.target]
  · rw [hended.control, hended.begun]
    rfl

omit [Scalar α] in
theorem InStep.priorTarget? (hstep : h.InStep) (hidle : h.record.isRunning = false) :
    h.control.priorTarget? = none := by
  have hpid : h.control.priorTarget?.isSome = false := by
    rw [ActiveControl.isSome_priorTarget?]
    exact hstep.symm.trans hidle
  exact Option.isSome_eq_false_iff.mp hpid |> Option.isNone_iff_eq_none.mp

omit [Scalar α] in
theorem InStep.restingTarget (hstep : h.InStep) (hidle : h.record.isRunning = false) :
    h.restingTarget = h.target := by
  rw [BoardHeater.restingTarget, hstep.priorTarget? hidle]
  rfl

theorem restingTarget_setTemp (hstep : h.InStep) (degrees : α) :
    (h.obey (.setTemp degrees)).restingTarget =
      Acceptance.latest h.restingTarget
        ((h.acceptance? (.command (.setTemp degrees))).toList.filter (!·.tuning)) := by
  rcases h.setTemp_cases degrees with ⟨-, hset⟩ | ⟨_, -, hset⟩
  · have haccepted : h.acceptance? (.command (.setTemp degrees)) =
        some { degrees, tuning := h.record.isRunning } := by
      simp only [acceptance?, hset]
    rw [obey, attempt, haccepted, hset]
    cases hrunning : h.record.isRunning with
    | false => simp [BoardHeater.restingTarget, hstep.priorTarget? hrunning, Acceptance.latest]
    | true =>
        -- the target that is written is the experiment's, and its end drops it
        have hauto : h.control.priorTarget?.isSome = true :=
          (ActiveControl.isSome_priorTarget? _).trans (hstep.symm.trans hrunning)
        obtain ⟨priorTarget, hprior⟩ := Option.isSome_iff_exists.mp hauto
        simp [BoardHeater.restingTarget, hprior, Acceptance.latest]
  · simp [obey, attempt, acceptance?, hset, Acceptance.latest]

theorem restingTarget_startAutotune (hstep : h.InStep) (target time : α) :
    (h.obey (.startAutotune target time)).restingTarget = h.restingTarget := by
  refine obey_invariant (P := fun k => k.restingTarget = h.restingTarget) rfl ?_
  intro h' hattempt
  obtain ⟨record, relay, hrecord, rfl⟩ := startAutotune_eq_ok hattempt
  exact (hstep.restingTarget (Record.start_eq_ok hrecord).1).symm

theorem restingTarget_perform (hstep : h.InStep) {event : HeaterEvent α}
    (hevent : ∀ time, event ≠ .command (.shutdown time)) :
    (h.perform event).restingTarget =
      Acceptance.latest h.restingTarget ((h.acceptance? event).toList.filter (!·.tuning)) := by
  cases event with
  | activate time => exact Follows.restingTarget (.inl (h.activate_undisturbed time))
  | tick sample target time => exact (h.tick_follows sample target time).restingTarget
  | command command =>
      cases command with
      | setTemp degrees => exact restingTarget_setTemp hstep degrees
      | startAutotune target time => exact restingTarget_startAutotune hstep target time
      | setGains gains =>
          change (h.setGains gains).restingTarget = h.restingTarget
          unfold BoardHeater.restingTarget
          change (h.control.mapResting _).priorTarget?.getD h.target = _
          cases h.control <;> rfl
      | abortAutotune time =>
          refine obey_invariant (P := fun k => k.restingTarget = h.restingTarget) rfl ?_
          intro h' hattempt
          rw [(abortAutotune_eq_ok hattempt).2]
          exact (h.endAutotune_follows ..).restingTarget
      | shutdown time => exact absurd rfl (hevent time)

theorem restingTarget_replay (hstep : h.InStep) {events : List (HeaterEvent α)}
    (hevents : ∀ time, .command (.shutdown time) ∉ events) :
    (h.replay events).restingTarget =
      Acceptance.latest h.restingTarget ((h.acceptances events).filter (!·.tuning)) := by
  induction events generalizing h with
  | nil => rfl
  | cons event rest ih =>
      have hfirst := restingTarget_perform hstep fun time heq =>
        hevents time (heq ▸ List.mem_cons_self)
      have hrest := ih (hstep.perform event) fun time hmem =>
        hevents time (List.mem_cons_of_mem event hmem)
      rw [replay_cons, hrest, hfirst, acceptances, List.filter_append, Acceptance.latest_append]

end resting

/-- Of a heater that was never shut down and has no experiment under way, the target is the last
temperature that was accepted outside of experiments, or zero. It is the last one accepted at all
unless that one came during an experiment and was different. -/
theorem target_eq_last_accepted_iff (name : String) (settings : HeaterSettings α)
    (events : List (HeaterEvent α)) (hevents : ∀ time, .command (.shutdown time) ∉ events)
    (hidle : ((create name settings).replay events).record.isRunning = false) :
    let target := ((create name settings).replay events).target
    let accepted := (create name settings).acceptances events
    target = Acceptance.latest 0.0 (accepted.filter (!·.tuning)) ∧
    (target = Acceptance.latest 0.0 accepted ↔
      ∀ acceptance, accepted.getLast? = some acceptance → acceptance.tuning = true →
        acceptance.degrees = target) := by
  intro target accepted
  have hstep := (InStep.create name settings).replay events
  have htarget : target = Acceptance.latest 0.0 (accepted.filter (!·.tuning)) :=
    (hstep.restingTarget hidle).symm.trans
      (restingTarget_replay (InStep.create name settings) hevents)
  refine ⟨htarget, ?_⟩
  rcases List.eq_nil_or_concat accepted with hnil | ⟨earlier, last, hconcat⟩
  · rw [htarget, hnil]
    exact iff_of_true rfl nofun
  · rw [List.concat_eq_append] at hconcat
    have hlatest : Acceptance.latest 0.0 accepted = last.degrees := by
      rw [hconcat, Acceptance.latest_append]
      rfl
    have hlast : accepted.getLast? = some last := by
      rw [hconcat, List.getLast?_concat]
    rw [hlatest, hlast]
    constructor
    · intro hsame acceptance hlatest _
      obtain rfl := Option.some.inj hlatest
      exact hsame.symm
    · intro hkept
      cases htuning : last.tuning with
      | true => exact (hkept last rfl htuning).symm
      | false =>
          rw [htarget, hconcat, List.filter_append, Acceptance.latest_append,
            List.filter_cons_of_pos (by simp [htuning])]
          rfl

/-- A heater is set to 210 degrees, and an experiment towards 200 is aborted. -/
def retuned (during : List (HeaterEvent Float)) : List (HeaterEvent Float) :=
  [.command (.setTemp 210.0), .command (.startAutotune 200.0 1.0)] ++ during ++
    [.command (.abortAutotune 2.0)]

def plainHeater : BoardHeater Float :=
  create "extruder" (HeaterConfig.onBoard "/dev/ttyACM1" 10.0 450.0).settings

theorem undisturbed_experiment_keeps_target :
    (plainHeater.replay (retuned [])).target = 210.0 := by
  have hkept := (target_eq_last_accepted_iff "extruder"
    (HeaterConfig.onBoard "/dev/ttyACM1" 10.0 450.0).settings (retuned []) (by simp [retuned])
    (by decide +kernel)).1
  exact hkept.trans (by decide +kernel)

/-- Switched off in the course of the experiment, it is back at 210 degrees after it. -/
theorem experiment_undoes_switching_off :
    (plainHeater.replay (retuned [.command (.setTemp 0.0)])).record.isRunning = false ∧
    (plainHeater.replay (retuned [.command (.setTemp 0.0)])).target = 210.0 ∧
    Acceptance.latest 0.0 (plainHeater.acceptances (retuned [.command (.setTemp 0.0)])) = 0.0 := by
  decide +kernel

end BoardHeater

end HeaterHost
