import HeaterHost.Config.Validate
import HeaterHost.Host.Basic

/-!
Setting a host up from its heater sections: all of it, or nothing if one section is in error. A
start from a configuration lays the wires and sets the tasks going, section by section.
-/

namespace HeaterHost

structure HeaterPlan (ω : Type) where
  config : HeaterConfig
  /-- The wire to the board and the name of its far end. Without a wire there is no sensor. -/
  wire : Option (ω × String)
  capacity : Nat := Host.storeCapacity

inductive SetupError where
  | config (error : ConfigError)
  | immeasurable (heater : String)

variable {ω : Type}

def HeaterPlan.sensor (p : HeaterPlan ω) (name : String) :
    Except SetupError (Option (Sensor ω)) :=
  match p.wire with
  | none => .ok none
  | some (wire, endpoint) =>
      match Span.ofSeconds? p.config.reportTime with
      | none => .error (.immeasurable name)
      | some reportTime =>
          .ok (some (Sensor.create name endpoint p.config.gains reportTime p.capacity wire))

def HeaterPlan.station (p : HeaterPlan ω) (name : String) : Except SetupError (Station ω) := do
  match p.config.heater name with
  | .error error => throw (.config error)
  | .ok (.stock heater) => return { heater := .stock heater }
  | .ok (.board heater) => return { heater := .board heater, sensor := ← p.sensor name }

def HeaterPlan.checkedStation (p : HeaterPlan ω) (name : String) :
    Except SetupError (Station ω) := do
  match p.config.validate name with
  | .error error => throw (.config error)
  | .ok () => p.station name

def Host.stationsOf : List (String × HeaterPlan ω) →
    Except SetupError (List (String × Station ω))
  | [] => .ok []
  | (name, plan) :: rest => do
      let station ← plan.checkedStation name
      return (name, station) :: (← stationsOf rest)

def Host.setUp (plans : NameMap (HeaterPlan ω)) (tracker : Gcode.Tracker) :
    Except SetupError (Host ω) := do
  return { stations := { entries := ← stationsOf plans.entries }, tracker }

/-! ### Starting from a configuration -/

/-- What a start does to the world around it. -/
inductive StartAct where
  | connect (heater : String)
  | spawnSampler (heater : String)
  | spawnControl (heater : String)
deriving Repr, DecidableEq

/-- A start takes down its acts, also those before an error. -/
abbrev Starting (α : Type) := ExceptT SetupError (StateM (List StartAct)) α

namespace Starting

variable {α : Type}

def act (a : StartAct) : Starting Unit :=
  modify fun acts => acts ++ [a]

/-- How a start ends, and its acts. Those of before come first. -/
def outcome (x : Starting α) (before : List StartAct := []) :
    Except SetupError α × List StartAct :=
  (ExceptT.run x).run before

def ofConfigResult : Except ConfigError α → Starting α
  | .ok a => pure a
  | .error error => throw (.config error)

end Starting

namespace Host

open Starting

/-- The sensor and the heater of a section that wants a board, and the two tasks that drive
them. -/
def startBoard (wire : String → HeaterConfig → ω × String) (name : String)
    (options : HeaterConfig) : Starting (Station ω) := do
  act (.connect name)
  let (line, endpoint) := wire name options
  match Span.ofSeconds? options.reportTime with
  | none => throw (.immeasurable name)
  | some reportTime =>
      let sensor := Sensor.create name endpoint options.gains reportTime storeCapacity line
      let heater ← ofConfigResult (options.boardHeater name)
      act (.spawnSampler name)
      act (.spawnControl name)
      return { heater := .board heater, sensor := some sensor }

def startSection (wire : String → HeaterConfig → ω × String) (name : String)
    (options : HeaterConfig) : Starting (Station ω) := do
  match (← ofConfigResult (options.path name)) with
  | .board => startBoard wire name options
  | .stock => return { heater := .stock (StockHeater.create name options.control options.settings) }

def startSections (wire : String → HeaterConfig → ω × String) :
    List (String × HeaterConfig) → Starting (List (String × Station ω))
  | [] => return []
  | (name, options) :: rest => do
      let station ← startSection wire name options
      return (name, station) :: (← startSections wire rest)

/-- Checks every section, and then starts them one by one. -/
def start (config : Config) (wire : String → HeaterConfig → ω × String)
    (tracker : Gcode.Tracker) : Starting (Host ω) := do
  ofConfigResult config.validate
  return { stations := { entries := ← startSections wire config.heaters.entries }, tracker }

/-- The host of a configuration. -/
def ofConfig (config : Config) (wire : String → HeaterConfig → ω × String)
    (tracker : Gcode.Tracker) : Except SetupError (Host ω) :=
  (start config wire tracker).outcome.1

end Host

end HeaterHost
