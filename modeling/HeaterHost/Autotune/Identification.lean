import HeaterHost.Gains
import HeaterHost.Value

/-!
Gains from the swings of a heater. The amplitude and the period of the swings under a relay give
the gain at which the loop would swing by itself, and the rules of Ziegler and Nichols give PID
gains from it.
-/

namespace HeaterHost.Autotune

structure Peak (α : Type) where
  time : α
  temp : α
  high : Bool
deriving Repr

/-- Why an experiment ended without gains. -/
inductive FailReason (α : Type) where
  | timeout (elapsed : α)
  | overTemperature (temp : α)
  | noOscillation
  | aborted
deriving Repr

def FailReason.message : FailReason Float → String
  | .timeout elapsed => s!"timed out after {Decimal.fixed 0 elapsed}s"
  | .overTemperature temp => s!"temperature {Decimal.fixed 1 temp} exceeded max_temp"
  | .noOscillation => "no usable oscillation"
  | .aborted => "aborted"

def FailReason.name {α : Type} : FailReason α → String
  | .timeout _ => "timeout"
  | .overTemperature _ => "over_temperature"
  | .noOscillation => "no_oscillation"
  | .aborted => "aborted"

def FailReason.fields (reason : FailReason Float) : List (String × Value) :=
  ("reason", .text reason.name) :: match reason with
    | .timeout elapsed => [("elapsed", .number elapsed)]
    | .overTemperature temp => [("temp", .number temp)]
    | .noOscillation | .aborted => []

def FailReason.value (reason : FailReason Float) : Value :=
  .record reason.fields

def Peak.value (peak : Peak Float) : Value :=
  .record [("time", .number peak.time), ("temp", .number peak.temp), ("high", .flag peak.high)]

variable {α : Type} [Scalar α]

def total (xs : List α) : α :=
  xs.foldl (· + ·) 0.0

def mean (xs : List α) : α :=
  total xs / Scalar.ofCount xs.length

def swings (peaks : List (Peak α)) : List α :=
  List.zipWith (fun a b => Scalar.abs (b.temp - a.temp)) peaks (peaks.drop 1)

def periods (peaks : List (Peak α)) : List α :=
  List.zipWith (fun a b => b.time - a.time) peaks (peaks.drop 2)

/-- The gains of swings with an amplitude and a period, under a relay that goes by `relay` to
either side of its mean. -/
def gainsOfSwing (relay amplitude period : α) : Gains α :=
  let ultimate := 4.0 * relay / (Scalar.pi * amplitude)
  let kp := 0.6 * ultimate * Gains.unit
  { kp, ki := kp / (period / 2.0), kd := kp * (period / 8.0) }

/-- The gains of a list of peaks. Swings that are too flat, or too few of them, tell nothing. -/
def gainsOfPeaks (peaks : List (Peak α)) (relay : α) : Except (FailReason α) (Gains α) :=
  if peaks.length < 3 then .error .noOscillation
  else
    let amplitude := mean (swings peaks) / 2.0
    let period := mean (periods peaks)
    if amplitude < 0.1 ∨ period ≤ 0.0 then .error .noOscillation
    else .ok (gainsOfSwing relay amplitude period)

end HeaterHost.Autotune
