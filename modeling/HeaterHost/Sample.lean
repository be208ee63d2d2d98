import HeaterHost.Scalar

/-!
Temperature samples. A sample never changes once it is published; a newer one takes its place.
-/

namespace HeaterHost

def absoluteZero {α : Type} [Scalar α] : α :=
  -273.15

/-- One reading of a sensor: host time in seconds, degrees Celsius, and whether the reading
succeeded. -/
structure Sample (α : Type) where
  timestamp : α
  value : α
  valid : Bool
deriving Repr

def Sample.reading {α : Type} (timestamp value : α) : Sample α :=
  { timestamp, value, valid := true }

/-- A reading that failed. It keeps the time of the last good one, so that it ages. -/
def Sample.failed {α : Type} (timestamp value : α) : Sample α :=
  { timestamp, value, valid := false }

/-- The failed reading that repeats the time and value of `s`. -/
def Sample.lost {α : Type} (s : Sample α) : Sample α :=
  Sample.failed s.timestamp s.value

def Sample.missing : Sample Float :=
  Sample.failed negativeInfinity 0.0

def Sample.age {α : Type} [Sub α] (s : Sample α) (time : α) : α :=
  time - s.timestamp

end HeaterHost
