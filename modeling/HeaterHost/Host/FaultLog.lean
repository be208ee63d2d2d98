import HeaterHost.Fault
import HeaterHost.Window
import HeaterHost.NameMap

/-!
The host's fault log: the faults that are active, by source, and the latest changes.
-/

namespace HeaterHost

structure FaultEvent where
  source : String
  /-- The fault that arose; none if the source recovered. -/
  fault : Option (Fault Float)

structure FaultLog where
  active : NameMap (Fault Float) := .empty
  /-- The latest changes, oldest first. -/
  history : List FaultEvent := []

namespace FaultLog

def historyLimit : Nat := 100

def remember (log : FaultLog) (event : FaultEvent) : FaultLog :=
  { log with history := pushWithin historyLimit log.history event }

def report (log : FaultLog) (source : String) (fault : Fault Float) : FaultLog :=
  { log with active := log.active.insert source fault }.remember { source, fault := some fault }

def clear (log : FaultLog) (source : String) : FaultLog :=
  if log.active.contains source then
    { log with active := log.active.erase source }.remember { source, fault := none }
  else log

def note (log : FaultLog) (source : String) : FaultSignal Float → FaultLog
  | .raised fault => log.report source fault
  | .cleared => log.clear source

/-- Takes in all that a source has to say, newest first. -/
def noteAll (log : FaultLog) (source : String) (signals : List (FaultSignal Float)) : FaultLog :=
  signals.foldr (fun signal log => log.note source signal) log

def activeValue (log : FaultLog) : Value :=
  .record (log.active.mapValues fun _ fault => fault.value).entries

def historyValue (log : FaultLog) : Value :=
  .list (log.history.map fun event =>
    .record [("source", .text event.source), ("fault", Fault.value? event.fault)])

def status (log : FaultLog) : Value :=
  .record [("active", log.activeValue), ("history", log.historyValue)]

end FaultLog

end HeaterHost
