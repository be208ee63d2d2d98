import Mathlib.Data.List.Basic
import HeaterHost.Proofs.Heater.Experiment
import HeaterHost.Proofs.Heater.GainsInForce
import HeaterHost.Proofs.Heater.RelayInCharge

/-!
# The books of the experiments

The record of a heater says what its control does: a run is open while an experiment drives the
heater, and it is closed, with its time and its outcome, when the experiment ends. Failed runs leave
no gains behind, so that the tuned gains are those of the last run that was completed.
-/

namespace HeaterHost

open Autotune

namespace Autotune

variable {α : Type}

def RunState.isCompleted : RunState α → Bool
  | .completed => true
  | _ => false

namespace Run

/-- A run has its end unless it is open, and gains exactly if it was completed. -/
structure WellKept (run : Run α) : Prop where
  finished : run.finishedAt = none ↔ run.state.isRunning = true
  gains : run.gains.isSome = true ↔ run.state.isCompleted = true

def tunedGains? (run : Run α) : Option (Gains α) :=
  if run.state.isCompleted then run.gains else none

/-- The gains of the last run that was completed. -/
def lastTuned (runs : List (Run α)) : Option (Gains α) :=
  (runs.filterMap tunedGains?).getLast?

theorem lastTuned_append (earlier later : List (Run α)) :
    lastTuned (earlier ++ later) = (lastTuned later).or (lastTuned earlier) := by
  unfold lastTuned
  rw [List.filterMap_append, List.getLast?_append]

/-- A run that is still open has no gains yet. -/
theorem WellKept.gains_of_open {run : Run α} (hkept : run.WellKept)
    (hopen : run.state.isRunning = true) : run.gains = none := by
  cases hgains : run.gains with
  | none => rfl
  | some gains =>
      have hcompleted := hkept.gains.mp (by rw [hgains]; rfl)
      cases hstate : run.state <;> rw [hstate] at hopen hcompleted
      case running => cases hcompleted
      all_goals cases hopen

end Run

namespace Record

def WellKept (r : Record α) : Prop :=
  ∀ run, r.run = some run → run.WellKept

/-- The run that is closed between two states of a record. -/
def closed? (before after : Record α) : Option (Run α) :=
  if before.isRunning && !after.isRunning then after.run else none

/-- What can be entered in a record at a time: nothing, the end of the run that is open, or a new
run where none is open. -/
inductive Entry (r : Record α) : Record α → Prop
  | nothing : Entry r r
  | closing (relay : Relay α) (result : Except (FailReason α) (Gains α)) (time : α)
      (hrunning : r.isRunning = true) : Entry r (r.finish relay result time)
  | opening (target time : α) (hidle : r.isRunning = false) :
      Entry r { r with run := some { target, startedAt := time } }

theorem isRunning_iff {r : Record α} :
    r.isRunning = true ↔ ∃ run, r.run = some run ∧ run.state.isRunning = true := by
  cases hrun : r.run with
  | none => simp [isRunning, state, hrun, RunState.isRunning]
  | some run => simp [isRunning, state, hrun]

theorem openRun?_eq_some_iff {r : Record α} {run : Run α} :
    r.openRun? = some run ↔ r.run = some run ∧ run.state.isRunning = true :=
  Option.filter_eq_some_iff

theorem start_eq_error_iff [Scalar α] {r : Record α} {target minTemp time : α} {limits : Limits α}
    {error : AutotuneError α} :
    (r.start target minTemp limits time).2 = .error error ↔
      (∃ run, r.openRun? = some run ∧ error = .alreadyRunning run.target) ∨
      (r.openRun? = none ∧ (target ≤ minTemp ∨ limits.maxTemp ≤ target) ∧
        error = .targetOutOfRange target minTemp limits.maxTemp) := by
  cases hopen : r.openRun? with
  | some run => simp [start, hopen, eq_comm]
  | none =>
      by_cases hrange : target ≤ minTemp ∨ limits.maxTemp ≤ target
      · simp [start, hopen, hrange, eq_comm]
      · simp [start, hopen, hrange]

theorem finish_wellKept {r : Record α} (hkept : r.WellKept) (hrunning : r.isRunning = true)
    (relay : Relay α) (result : Except (FailReason α) (Gains α)) (time : α) :
    (r.finish relay result time).WellKept := by
  obtain ⟨run, hrun, hopen⟩ := isRunning_iff.mp hrunning
  have hgains := (hkept run hrun).gains_of_open hopen
  intro closed hclosed
  cases result with
  | ok gains =>
      simp only [finish, hrun, Option.some.injEq] at hclosed
      subst hclosed
      exact ⟨iff_of_false (Option.some_ne_none time) Bool.false_ne_true, iff_of_true rfl rfl⟩
  | error reason =>
      simp only [finish, hrun, Option.some.injEq] at hclosed
      subst hclosed
      refine ⟨iff_of_false (Option.some_ne_none time) Bool.false_ne_true, ?_⟩
      rw [hgains]
      exact iff_of_false Bool.false_ne_true Bool.false_ne_true

/-- Only the end of a run with gains moves the tuned gains. -/
theorem tuned_finish {r : Record α} (hrunning : r.isRunning = true) (relay : Relay α)
    (result : Except (FailReason α) (Gains α)) (time : α) :
    (r.finish relay result time).tuned =
      ((r.closed? (r.finish relay result time)).bind Run.tunedGains?).or r.tuned := by
  obtain ⟨run, hrun, -⟩ := isRunning_iff.mp hrunning
  rw [closed?, hrunning, isRunning_finish]
  cases result with
  | ok gains => simp [finish, hrun, Run.tunedGains?, RunState.isCompleted]
  | error reason => simp [finish, hrun, Run.tunedGains?, RunState.isCompleted]

namespace Entry

variable {r r' : Record α}

theorem wellKept (hentry : r.Entry r') (hkept : r.WellKept) : r'.WellKept := by
  cases hentry with
  | nothing => exact hkept
  | closing relay result time hrunning => exact finish_wellKept hkept hrunning relay result time
  | opening target time hidle =>
      intro run hrun
      obtain rfl := Option.some.inj hrun
      exact ⟨iff_of_true rfl rfl, iff_of_false Bool.false_ne_true Bool.false_ne_true⟩

theorem tuned (hentry : r.Entry r') :
    r'.tuned = ((r.closed? r').bind Run.tunedGains?).or r.tuned := by
  cases hentry with
  | nothing =>
      have hnone : r.closed? r = none := by
        cases hrunning : r.isRunning <;> simp [closed?, hrunning]
      rw [hnone]
      rfl
  | closing relay result time hrunning => exact tuned_finish hrunning relay result time
  | opening target time hidle =>
      have hnone : r.closed? { r with run := some { target, startedAt := time } } = none := by
        rw [closed?, hidle]
        rfl
      rw [hnone]
      rfl

end Entry

end Record

end Autotune

namespace BoardHeater

variable {α : Type} [Scalar α]

/-- The runs that are closed in the course of events, oldest first. -/
def closedRuns (h : BoardHeater α) : List (HeaterEvent α) → List (Run α)
  | [] => []
  | event :: rest =>
      (h.record.closed? (h.perform event).record).toList ++ (h.perform event).closedRuns rest

variable {h : BoardHeater α}

/-! ### What an event enters in the record -/

theorem InStep.perform_entry (hstep : h.InStep) (event : HeaterEvent α) :
    h.record.Entry (h.perform event).record := by
  rcases h.perform_record_cases event with
    hsame | ⟨hbegun, relay, result, time, hclosed⟩ | ⟨target, time, _, -, hstart, hopened⟩
  · rw [hsame]
    exact .nothing
  · rw [hclosed]
    exact .closing relay result time (hstep.trans hbegun)
  · rw [hopened]
    exact .opening target time (startAutotune_eq_started hstart).1

theorem InStep.replay_wellKept (hstep : h.InStep) (hkept : h.record.WellKept)
    (events : List (HeaterEvent α)) : (h.replay events).record.WellKept := by
  induction events generalizing h with
  | nil => exact hkept
  | cons event rest ih =>
      exact ih (hstep.perform event) ((hstep.perform_entry event).wellKept hkept)

theorem InStep.replay_tuned (hstep : h.InStep) (events : List (HeaterEvent α)) :
    (h.replay events).record.tuned = (Run.lastTuned (h.closedRuns events)).or h.record.tuned := by
  induction events generalizing h with
  | nil => rfl
  | cons event rest ih =>
      have hfirst := (hstep.perform_entry event).tuned
      have hone : ∀ closed : Option (Run α),
          Run.lastTuned closed.toList = closed.bind Run.tunedGains? := by
        intro closed
        cases closed with
        | none => rfl
        | some run => cases hgains : run.tunedGains? <;> simp [Run.lastTuned, hgains]
      rw [replay_cons, ih (hstep.perform event), hfirst, closedRuns, Run.lastTuned_append, hone,
        Option.or_assoc]

/-! ### What an experiment is refused for -/

/-- An experiment is refused if one is under way, or else if its target is out of range, and for
nothing else. -/
theorem startAutotune_eq_error_iff (target time : α) (error : HeaterError α) :
    (h.startAutotune target time).2 = .error error ↔
      (∃ run, h.record.run = some run ∧ run.state.isRunning = true ∧
        error = .autotune (.alreadyRunning run.target)) ∨
      (h.record.isRunning = false ∧
        (target ≤ h.settings.minTemp ∨ h.settings.maxTemp ≤ target) ∧
        error = .autotune (.targetOutOfRange target h.settings.minTemp h.settings.maxTemp)) := by
  have hpassed : (h.startAutotune target time).2 = .error error ↔
      ∃ reason, (h.record.start target h.settings.minTemp h.settings.tuneLimits time).2 =
        .error reason ∧ error = .autotune reason := by
    rcases h.startAutotune_cases target time with
      ⟨record, relay, hrecord, heq⟩ | ⟨reason, hrecord, heq⟩ <;> rw [heq, hrecord]
    · simp
    · simp [eq_comm]
  rw [hpassed]
  simp only [Record.start_eq_error_iff, Record.openRun?_eq_some_iff, Record.openRun?_eq_none_iff]
  constructor
  · rintro ⟨reason, ⟨run, ⟨hrun, hopen⟩, rfl⟩ | ⟨hidle, hrange, rfl⟩, rfl⟩
    · exact .inl ⟨run, hrun, hopen, rfl⟩
    · exact .inr ⟨hidle, hrange, rfl⟩
  · rintro (⟨run, hrun, hopen, rfl⟩ | ⟨hidle, hrange, rfl⟩)
    · exact ⟨_, .inl ⟨run, ⟨hrun, hopen⟩, rfl⟩, rfl⟩
    · exact ⟨_, .inr ⟨hidle, hrange, rfl⟩, rfl⟩

/-- After every run of a heater its record and its control agree. An experiment drives the heater
exactly while a run is open; the run on record has its end unless it is open, and gains exactly if
it was completed; the tuned gains are those of the last completed run. The PID computes with the
gains that were given last, and it is in charge while no run is open. An experiment that is refused,
because one is under way or for its target, changes nothing. -/
theorem experiment_books_agree (name : String) (settings : HeaterSettings α)
    (events : List (HeaterEvent α)) :
    let h := (create name settings).replay events
    let gains := HeaterEvent.latestGains settings.gains events
    h.control.isAutotune = h.record.isRunning ∧
    (∀ run, h.record.run = some run →
      (run.finishedAt = none ↔ run.state.isRunning = true) ∧
      (run.gains.isSome = true ↔ run.state.isCompleted = true)) ∧
    h.record.tuned = Run.lastTuned ((create name settings).closedRuns events) ∧
    h.gains = gains ∧ h.control.resting.RunsOn settings.maxPower gains ∧
    (h.record.isRunning = false → h.control = .pid h.control.resting) ∧
    (∀ target time, (∃ error, (h.startAutotune target time).2 = .error error) ↔
      h.record.isRunning = true ∨ target ≤ settings.minTemp ∨ settings.maxTemp ≤ target) ∧
    ∀ target time error, (h.startAutotune target time).2 = .error error →
      (h.startAutotune target time).1 = h := by
  intro h gains
  have hstart := InStep.create name settings
  have hstep : h.InStep := hstart.replay events
  have hsettings : h.settings = settings := replay_settings ..
  have hruns : h.control.resting.RunsOn settings.maxPower gains :=
    replay_runsOn (h := create name settings)
      (Pid.create_runsOn settings.gains settings.maxPower settings.smoothTime) events
  refine ⟨hstep.symm, ?_, ?_, hruns.held, hruns, ?_, ?_, ?_⟩
  · intro run hrun
    have hkept := hstart.replay_wellKept (by intro run hrun; cases hrun) events run hrun
    exact ⟨hkept.finished, hkept.gains⟩
  · have htuned := hstart.replay_tuned events
    rw [htuned]
    exact Option.or_none
  · intro hidle
    exact ActiveControl.eq_pid_of_not_isAutotune (hstep.symm.trans hidle)
  · intro target time
    simp only [startAutotune_eq_error_iff, hsettings]
    constructor
    · rintro ⟨_, ⟨run, hrun, hrunning, -⟩ | ⟨-, hrange, -⟩⟩
      · exact .inl (Record.isRunning_iff.mpr ⟨run, hrun, hrunning⟩)
      · exact .inr hrange
    · intro hrefused
      cases hrunning : h.record.isRunning with
      | true =>
          obtain ⟨run, hrun, hopen⟩ := Record.isRunning_iff.mp hrunning
          exact ⟨_, .inl ⟨run, hrun, hopen, rfl⟩⟩
      | false =>
          rw [hrunning] at hrefused
          exact ⟨_, .inr ⟨rfl, hrefused.resolve_left Bool.false_ne_true, rfl⟩⟩
  · intro target time error hrefused
    rcases h.startAutotune_cases target time with ⟨record, relay, -, heq⟩ | ⟨reason, -, heq⟩ <;>
      rw [heq] at hrefused ⊢
    cases hrefused

end BoardHeater

end HeaterHost
