import HeaterHost.Scalar

/-!
The smoothed temperature of a heater. It follows the readings with a time constant, and tells
whether the heater is warm enough to extrude.
-/

namespace HeaterHost

structure Smoothing (α : Type) where
  inverseTime : α
  extrudeTemp : α
  lastTime : Option α
  smoothed : α
  last : α
  canExtrude : Bool
deriving Repr

namespace Smoothing

variable {α : Type} [Scalar α]

def create (smoothTime extrudeTemp : α) : Smoothing α :=
  { inverseTime := 1.0 / smoothTime
    extrudeTemp
    lastTime := none
    smoothed := 0.0
    last := 0.0
    canExtrude := decide (extrudeTemp ≤ 0.0) }

/-- The smoothed temperature after a reading. The first reading is taken as it is; a later one
counts by the part of the smoothing time that has passed, at most as a whole. -/
def follow (s : Smoothing α) (time temp : α) : α :=
  match s.lastTime with
  | none => temp
  | some last =>
      let part := Scalar.least ((time - last) * s.inverseTime) 1.0
      s.smoothed + (temp - s.smoothed) * part

def update (s : Smoothing α) (time temp : α) : Smoothing α :=
  let smoothed := s.follow time temp
  { s with
    lastTime := some time
    smoothed
    last := temp
    canExtrude := decide (s.extrudeTemp ≤ smoothed) }

end Smoothing

end HeaterHost
