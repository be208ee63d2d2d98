import HeaterHost.Gcode.Tracker
import HeaterHost.Heater.Basic
import HeaterHost.Host.FaultLog
import HeaterHost.Sensor.Status

/-!
The host: its heaters with their sensors, the fault log, the command tracker, and the named objects
that answer status queries.
-/

namespace HeaterHost

open Gcode (Tracker)

/-- A heater with its sensor. Only heaters on INO boards have one. -/
structure Station (ω : Type) where
  heater : Heater Float
  sensor : Option (Sensor ω) := none

structure Host (ω : Type) where
  stations : NameMap (Station ω) := .empty
  faults : FaultLog := {}
  tracker : Tracker

namespace Host

variable {ω : Type}

def storeCapacity : Nat := 1200

/-- Delivers what the heater of a station has for its sensor, and what both have for the fault
log, and puts the station into its place. -/
def settle (h : Host ω) (name : String) (station : Station ω) : Host ω :=
  match station.heater with
  | .stock _ => { h with stations := h.stations.insert name station }
  | .board heater =>
      let faults := h.faults.noteAll name heater.signals
      let sensor := station.sensor.map fun sensor =>
        heater.outbox.foldr (fun command sensor => sensor.push command) sensor
      let faults := match sensor with
        | none => faults
        | some sensor => faults.noteAll sensor.faultSource sensor.signals
      { h with
        faults
        stations := h.stations.insert name {
          heater := .board heater.collected
          sensor := sensor.map fun sensor => { sensor with signals := [] } } }

def sensor? (h : Host ω) (name : String) : Option (Sensor ω) :=
  (h.stations.get? name).bind fun station => station.sensor

def withSensor (h : Host ω) (name : String) (f : Sensor ω → Sensor ω) : Host ω :=
  match h.stations.get? name with
  | none => h
  | some station => h.settle name { station with sensor := station.sensor.map f }

/-- The latest sample of a station. Without a sensor there is none. -/
def Station.sample (station : Station ω) : Sample Float :=
  match station.sensor with
  | none => Sample.missing
  | some sensor => sensor.view.sample

def tickOn (h : Host ω) (name : String) (sample : Sample Float) (time : Float) : Host ω :=
  match h.stations.get? name with
  | none => h
  | some station =>
      let heater := station.heater.tick sample station.heater.target time
      h.settle name { station with heater }

def tick (h : Host ω) (name : String) (time : Float) : Host ω :=
  match h.stations.get? name with
  | none => h
  | some station => h.tickOn name (Station.sample station) time

def mapBoard (h : Host ω) (name : String) (f : BoardHeater Float → BoardHeater Float) :
    Host ω :=
  match h.stations.get? name with
  | some { heater := .board heater, sensor } =>
      h.settle name { heater := .board (f heater), sensor }
  | _ => h

def sampledHeaters (h : Host ω) : List String :=
  (h.stations.entries.filter fun (_, station) => station.sensor.isSome).map (·.1)

inductive StatusObject where
  | heater (name : String)
  | sensor (name : String)
  | store (name : String)
  | tracker
  | faults
deriving Repr, DecidableEq

def stationObjects (name : String) (station : Station ω) : List (String × StatusObject) :=
  let own := (name, StatusObject.heater name)
  if station.sensor.isSome then
    [("ino_sensor " ++ name, .sensor name), ("temperature_store " ++ name, .store name), own]
  else [own]

/-- The objects by name. Where two have one name the later counts, and those of the host itself
come last. -/
def objects (h : Host ω) : NameMap StatusObject :=
  NameMap.ofList (h.stations.entries.flatMap (fun (name, station) => stationObjects name station) ++
    [("gcode_tracker", .tracker), ("faults", .faults)])

def statusOf (h : Host ω) (time : Float) : StatusObject → Value
  | .heater name => ((h.stations.get? name).map fun station => station.heater.status).getD .null
  | .sensor name => ((h.sensor? name).map fun sensor => sensor.view.status).getD .null
  | .store name =>
      (((h.sensor? name).bind fun sensor => sensor.view.store?).map (·.status)).getD .null
  | .tracker => h.tracker.status time
  | .faults => h.faults.status

/-- The status values of objects by name. Unknown names are left out. -/
def query (h : Host ω) (names : List String) (time : Float) : Value :=
  let objects := h.objects
  .record (NameMap.ofList (names.filterMap fun name =>
    (objects.get? name).map fun object => (name, h.statusOf time object))).entries

end Host

end HeaterHost
