import HeaterHost.Autotune.Identification
import HeaterHost.Sample

/-!
The relay experiment. The heater alternates between full power and none around the target, and
the extreme temperature of each phase is recorded when the relay switches. Enough of these peaks
tell how the heater swings, and from that come its gains.
-/

namespace HeaterHost.Autotune

structure Limits (α : Type) where
  maxPower : α
  maxTemp : α
  /-- How far below the target the relay switches on again. -/
  delta : α
  timeout : α
deriving Repr

inductive RelayStep (α : Type) where
  | carryOn (power : α)
  | finished (result : Except (FailReason α) (Gains α))

structure Relay (α : Type) where
  target : α
  limits : Limits α
  startedAt : α
  heating : Bool := true
  /-- Time and temperature of the extreme reading of this phase: the lowest while heating, the
  highest while off. -/
  extreme : Option (α × α) := none
  peaks : List (Peak α) := []
  sampleCount : Nat := 0
deriving Repr

def requiredPeaks : Nat := 12

def warmupPeaks : Nat := 4

def maxSamples : Nat := 20000

namespace Relay

variable {α : Type} [Scalar α]

def start (target : α) (limits : Limits α) (time : α) : Relay α :=
  { target, limits, startedAt := time }

def power (r : Relay α) : α :=
  if r.heating then r.limits.maxPower else 0.0

def expired? (r : Relay α) (time : α) : Option (FailReason α) :=
  let elapsed := time - r.startedAt
  if r.limits.timeout < elapsed then some (.timeout elapsed) else none

/-- The extreme of the phase with a further reading. Of equal temperatures the first counts. -/
def extremeWith (r : Relay α) (time temp : α) : α × α :=
  match r.extreme with
  | none => (time, temp)
  | some old =>
      let beyond := if r.heating then decide (temp < old.2) else decide (old.2 < temp)
      if beyond then (time, temp) else old

def switchesAt (r : Relay α) (temp : α) : Bool :=
  if r.heating then decide (r.target ≤ temp) else decide (temp ≤ r.target - r.limits.delta)

/-- Takes in a reading that is within bounds. A phase that ends leaves its extreme as a peak: a
trough after heating, a crest after a time without power. -/
def advance (r : Relay α) (time temp : α) : Relay α :=
  let extreme := r.extremeWith time temp
  let sampleCount := if r.sampleCount < maxSamples then r.sampleCount + 1 else r.sampleCount
  if r.switchesAt temp then
    { r with
      heating := !r.heating
      extreme := none
      peaks := r.peaks ++ [{ time := extreme.1, temp := extreme.2, high := !r.heating }]
      sampleCount }
  else { r with extreme := some extreme, sampleCount }

/-- What the relay asks for after a reading; the gains once there are enough peaks. The peaks
are only counted when the relay has just switched. -/
def outcome (before after : Relay α) (temp : α) : RelayStep α :=
  if before.switchesAt temp && decide (requiredPeaks ≤ after.peaks.length) then
    .finished (gainsOfPeaks (after.peaks.drop warmupPeaks) (after.limits.maxPower / 2.0))
  else .carryOn after.power

def feed (r : Relay α) (sample : Sample α) (time : α) : Relay α × RelayStep α :=
  match r.expired? time with
  | some reason => (r, .finished (.error reason))
  | none =>
      if r.limits.maxTemp < sample.value then
        (r, .finished (.error (.overTemperature sample.value)))
      else
        let after := r.advance sample.timestamp sample.value
        (after, r.outcome after sample.value)

end Relay

end HeaterHost.Autotune
