import HeaterHost.Scalar

/-!
Bang-bang control. The heater runs at full power until the temperature is a band above the
target, and stays off until it is a band below.
-/

namespace HeaterHost

structure Hysteresis (α : Type) where
  maxPower : α
  band : α
  heating : Bool
deriving Repr

namespace Hysteresis

variable {α : Type} [Scalar α]

def create (maxPower band : α) : Hysteresis α :=
  { maxPower, band, heating := false }

def update (c : Hysteresis α) (temp target : α) : Hysteresis α :=
  { c with
    heating := if c.heating then !decide (target + c.band ≤ temp)
      else decide (temp ≤ target - c.band) }

def power (c : Hysteresis α) : α :=
  if c.heating then c.maxPower else 0.0

def isBusy (c : Hysteresis α) (smoothed target : α) : Bool :=
  smoothed < target - c.band

end Hysteresis

end HeaterHost
