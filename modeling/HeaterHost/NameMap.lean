/-!
Maps from names to values, in the order of the names. Names are compared by code point.
-/

namespace HeaterHost

structure NameMap (α : Type) where
  entries : List (String × α) := []

namespace NameMap

variable {α β : Type}

def empty : NameMap α := {}

def insertEntry (name : String) (value : α) : List (String × α) → List (String × α)
  | [] => [(name, value)]
  | (other, old) :: rest =>
      if name < other then (name, value) :: (other, old) :: rest
      else if name = other then (name, value) :: rest
      else (other, old) :: insertEntry name value rest

/-- The map with `name` sent to `value`. -/
def insert (m : NameMap α) (name : String) (value : α) : NameMap α :=
  { entries := insertEntry name value m.entries }

/-- The map of a list of pairs; of two pairs with one name the later counts. -/
def ofList (pairs : List (String × α)) : NameMap α :=
  pairs.foldl (fun m (name, value) => m.insert name value) empty

def get? (m : NameMap α) (name : String) : Option α :=
  (m.entries.find? fun (other, _) => other == name).map (·.2)

def erase (m : NameMap α) (name : String) : NameMap α :=
  { entries := m.entries.filter fun (other, _) => other != name }

def contains (m : NameMap α) (name : String) : Bool :=
  (m.get? name).isSome

def names (m : NameMap α) : List String :=
  m.entries.map (·.1)

def size (m : NameMap α) : Nat :=
  m.entries.length

def mapValues (m : NameMap α) (f : String → α → β) : NameMap β :=
  { entries := m.entries.map fun (name, value) => (name, f name value) }

end NameMap

end HeaterHost
