import HeaterHost.Config.Basic
import HeaterHost.Autotune.Record

/-!
What a heater keeps of its section, the check of a requested temperature, and why a heater
refuses a command.
-/

namespace HeaterHost

structure HeaterSettings (α : Type) where
  gains : Gains α
  minTemp : α
  maxTemp : α
  maxPower : α
  smoothTime : α
  extrudeTemp : α
  reportTime : α
  maxDelta : α
  tuneDelta : α
  tuneTimeout : α
deriving Repr

def HeaterConfig.settings (c : HeaterConfig) : HeaterSettings Float :=
  { gains := c.gains
    minTemp := c.minTemp
    maxTemp := c.maxTemp
    maxPower := c.maxPower
    smoothTime := c.smoothTime
    extrudeTemp := c.extrudeTemp
    reportTime := c.reportTime
    maxDelta := c.maxDelta
    tuneDelta := c.tuneDelta
    tuneTimeout := c.tuneTimeout }

def HeaterSettings.tuneLimits {α : Type} (s : HeaterSettings α) : Autotune.Limits α :=
  { maxPower := s.maxPower
    maxTemp := s.maxTemp
    delta := s.tuneDelta
    timeout := s.tuneTimeout }

inductive HeaterError (α : Type) where
  | targetOutOfRange (target low high : α)
  | notOnBoard
  | autotune (error : Autotune.AutotuneError α)
deriving Repr

def HeaterError.message : HeaterError Float → String
  | .targetOutOfRange target low high =>
      let range := s!"({Decimal.fixed 1 low}:{Decimal.fixed 1 high})"
      s!"Requested temperature ({Decimal.fixed 1 target}) out of range {range}"
  | .notOnBoard => "Command not defined for this heater"
  | .autotune error => error.message

/-- Checks a requested temperature. Zero switches the heater off and always passes. -/
def checkTarget {α : Type} [Scalar α] (degrees low high : α) : Except (HeaterError α) Unit :=
  if degrees != 0.0 && (decide (degrees < low) || decide (high < degrees)) then
    .error (.targetOutOfRange degrees low high)
  else .ok ()

def Sample.isConsumed {α : Type} [BEq α] (sample : Sample α) (last : Option α) : Bool :=
  last.any (· == sample.timestamp)

end HeaterHost
