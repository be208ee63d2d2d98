import HeaterHost.Window
import HeaterHost.Sample
import HeaterHost.Value

/-!
The recent readings of a sensor, for graphs of the temperature.
-/

namespace HeaterHost

/-- The newest valid samples of a sensor, oldest first. -/
structure TemperatureStore (α : Type) where
  capacity : Nat
  samples : List (Sample α) := []
deriving Repr

namespace TemperatureStore

variable {α : Type}

/-- The newest sample. -/
def latest (store : TemperatureStore α) : Option (Sample α) :=
  store.samples.getLast?

/-- Whether a sample repeats the newest one. A failed reading repeats the time of the last good
one. -/
def isRepeat [BEq α] (store : TemperatureStore α) (sample : Sample α) : Bool :=
  store.latest.any fun last => last.timestamp == sample.timestamp

/-- Takes in a sample. Failed readings and repeats are passed over. -/
def add [BEq α] (store : TemperatureStore α) (sample : Sample α) : TemperatureStore α :=
  if !sample.valid || store.isRepeat sample then store
  else { store with samples := pushWithin store.capacity store.samples sample }

def status (store : TemperatureStore Float) : Value :=
  .record [("temperatures", .list (store.samples.map fun sample => .hundredths sample.value))]

end TemperatureStore

end HeaterHost
