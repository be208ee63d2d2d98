import HeaterHost.Autotune.Relay
import HeaterHost.Fault

/-!
The record of a heater's experiments: the latest run and the gains of the last one that
succeeded. One run at a time is open.
-/

namespace HeaterHost.Autotune

inductive AutotuneError (α : Type) where
  | alreadyRunning (target : α)
  | notRunning
  | targetOutOfRange (target low high : α)
deriving Repr

def AutotuneError.message : AutotuneError Float → String
  | .alreadyRunning target => s!"autotune already running towards {Decimal.fixed 1 target}"
  | .notRunning => "no autotune running"
  | .targetOutOfRange target low high =>
      let range := s!"({Decimal.fixed 1 low}:{Decimal.fixed 1 high})"
      s!"autotune target {Decimal.fixed 1 target} out of range {range}"

inductive RunState (α : Type) where
  | idle
  | running
  | completed
  | failed (reason : FailReason α)
deriving Repr

def RunState.isRunning {α : Type} : RunState α → Bool
  | .running => true
  | _ => false

def RunState.value : RunState Float → Value
  | .idle => .record [("state", .text "idle")]
  | .running => .record [("state", .text "running")]
  | .completed => .record [("state", .text "completed")]
  | .failed reason => .record (("state", .text "failed") :: reason.fields)

structure Run (α : Type) where
  target : α
  startedAt : α
  finishedAt : Option α := none
  state : RunState α := .running
  gains : Option (Gains α) := none
  peaks : List (Peak α) := []
  sampleCount : Nat := 0
deriving Repr

def Run.value (run : Run Float) : Value :=
  .record [
    ("target", .number run.target),
    ("started_at", .number run.startedAt),
    ("finished_at", .ofNumber? run.finishedAt),
    ("state", run.state.value),
    ("gains", Gains.value? run.gains),
    ("peaks", .list (run.peaks.map Peak.value))]

structure Record (α : Type) where
  run : Option (Run α) := none
  tuned : Option (Gains α) := none
deriving Repr

namespace Record

variable {α : Type}

def state (r : Record α) : RunState α :=
  match r.run with
  | none => .idle
  | some run => run.state

def isRunning (r : Record α) : Bool :=
  r.state.isRunning

def openRun? (r : Record α) : Option (Run α) :=
  r.run.filter fun run => run.state.isRunning

/-- Opens a run and gives its relay. The target must lie strictly between the temperature
limits. -/
def start [Scalar α] (r : Record α) (target minTemp : α) (limits : Limits α) (time : α) :
    Record α × Except (AutotuneError α) (Relay α) :=
  match r.openRun? with
  | some run => (r, .error (.alreadyRunning run.target))
  | none =>
      if target ≤ minTemp ∨ limits.maxTemp ≤ target then
        (r, .error (.targetOutOfRange target minTemp limits.maxTemp))
      else
        ({ r with run := some { target, startedAt := time } },
          .ok (Relay.start target limits time))

def finish (r : Record α) (relay : Relay α) (result : Except (FailReason α) (Gains α))
    (time : α) : Record α :=
  match r.run with
  | none => r
  | some run =>
      let run := { run with
        finishedAt := some time, peaks := relay.peaks, sampleCount := relay.sampleCount }
      match result with
      | .ok gains =>
          { run := some { run with state := .completed, gains := some gains }, tuned := some gains }
      | .error reason => { r with run := some { run with state := .failed reason } }

def value (r : Record Float) : Value :=
  .record [
    ("state", r.state.value),
    ("tuned", Gains.value? r.tuned),
    ("last_run", (r.run.map Run.value).getD .null)]

end Record

end HeaterHost.Autotune
