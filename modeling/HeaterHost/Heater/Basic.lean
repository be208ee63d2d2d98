import HeaterHost.Heater.Board
import HeaterHost.Heater.Stock

/-!
A configured heater, whichever way it is driven.
-/

namespace HeaterHost

inductive Heater (α : Type) where
  | stock (heater : StockHeater α)
  | board (heater : BoardHeater α)
deriving Repr

namespace Heater

variable {α : Type} [Scalar α]

def name : Heater α → String
  | stock h => h.name
  | board h => h.name

def target : Heater α → α
  | stock h => h.target
  | board h => h.target

def power : Heater α → α
  | stock h => h.lastPower
  | board h => h.lastPower

def isOnBoard : Heater α → Bool
  | stock _ => false
  | board _ => true

def board? : Heater α → Except (HeaterError α) (BoardHeater α)
  | stock _ => .error .notOnBoard
  | board h => .ok h

def setTemp : Heater α → α → Heater α × Except (HeaterError α) Unit
  | stock h, degrees => (h.setTemp degrees).map stock id
  | board h, degrees => (h.setTemp degrees).map board id

def tick : Heater α → Sample α → α → α → Heater α
  | stock h, sample, target, _ => stock (h.tick sample target)
  | board h, sample, target, time => board (h.tick sample target time)

def status : Heater Float → Value
  | stock h => h.status
  | board h => h.status

end Heater

def HeaterConfig.heater (c : HeaterConfig) (name : String) :
    Except ConfigError (Heater Float) := do
  match (← c.path name) with
  | .stock => return .stock (StockHeater.create name c.control c.settings)
  | .board => return .board (← c.boardHeater name)

end HeaterHost
