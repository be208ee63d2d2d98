import HeaterHost.Scalar

/-!
A lumped thermal model of a hotend with a slow thermistor, stepped forward in short times. The
thermistor has no noise: no board that is simulated here is given any.
-/

namespace HeaterHost.Simulator

structure Thermal (α : Type) where
  temp : α
  sensorTemp : α
  ambient : α
  /-- Degrees per second at full power, losses left aside. -/
  heatRate : α
  /-- The part of the excess over ambient that is lost in a second. -/
  lossCoeff : α
  /-- The part of its lag that the thermistor makes up in a second. -/
  sensorLag : α
deriving Repr

namespace Thermal

variable {α : Type} [Scalar α]

def hotend : Thermal α :=
  { temp := 25.0
    sensorTemp := 25.0
    ambient := 25.0
    heatRate := 12.0
    lossCoeff := 0.02
    sensorLag := 0.8 }

def setTemperature (m : Thermal α) (temp : α) : Thermal α :=
  { m with temp, sensorTemp := temp }

def longestStep : α := 0.05

def shortStep (m : Thermal α) (power h : α) : Thermal α :=
  let gain := power * m.heatRate * h
  let loss := m.lossCoeff * (m.temp - m.ambient) * h
  let temp := m.temp + (gain - loss)
  let follow := Scalar.least (m.sensorLag * h) 1.0
  { m with temp, sensorTemp := m.sensorTemp + follow * (temp - m.sensorTemp) }

/-- Short steps until no time remains, at most `fuel` of them. -/
def shortSteps (power : α) : (fuel : Nat) → α → Thermal α → Thermal α
  | 0, _, m => m
  | fuel + 1, remaining, m =>
      if 0.0 < remaining then
        let h := Scalar.least remaining longestStep
        shortSteps power fuel (remaining - h) (m.shortStep power h)
      else m

/-- The number of short steps that are enough for a time. Rounding may add a few. -/
def stepBound (remaining : α) : Nat :=
  let whole := Scalar.ceiling (remaining / longestStep)
  whole + whole / 1000 + 8

def step (m : Thermal α) (power dt : α) : Thermal α :=
  let remaining := Scalar.greatest dt 0.0
  shortSteps (Scalar.clamp 0.0 1.0 power) (stepBound remaining) remaining m

def measured (m : Thermal α) : α :=
  m.sensorTemp

end Thermal

end HeaterHost.Simulator
