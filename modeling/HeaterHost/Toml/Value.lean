/-!
The values of a TOML document, and the rules by which its lines build up tables.

A table can come into being in three ways: by a header of its own, on the way to a deeper header,
or on the way of a dotted key. What may be added to it later depends on the way.
-/

namespace HeaterHost.Toml

/-- A finished value. Dates and times are recognised but not interpreted. -/
inductive Value where
  | text (s : String)
  | integer (n : Int)
  | float (x : Float)
  | boolean (b : Bool)
  | datetime
  | array (items : List Value)
  | table (entries : List (String × Value))

inductive Origin where
  | header
  | passed
  | dotted
deriving DecidableEq

/-- A part of a document that is still being built. Values written out in full are closed. -/
inductive Node where
  | closed (value : Value)
  | table (origin : Origin) (entries : List (String × Node))
  | tables (elements : List (List (String × Node)))

abbrev Entries := List (String × Node)

mutual

def Node.value : Node → Value
  | .closed value => value
  | .table _ entries => .table (Node.entryValues entries)
  | .tables elements => .array (Node.elementValues elements)

def Node.entryValues : List (String × Node) → List (String × Value)
  | [] => []
  | (key, node) :: rest => (key, node.value) :: Node.entryValues rest

def Node.elementValues : List (List (String × Node)) → List Value
  | [] => []
  | entries :: rest => .table (Node.entryValues entries) :: Node.elementValues rest

end

namespace Entries

def get? (entries : Entries) (key : String) : Option Node :=
  (entries.find? fun (other, _) => other == key).map (·.2)

/-- The entries with `key` sent to `node`. -/
def put (key : String) (node : Node) : Entries → Entries
  | [] => [(key, node)]
  | (other, old) :: rest =>
      if other == key then (key, node) :: rest else (other, old) :: put key node rest

def changeLast (f : Entries → Option Entries) : List Entries → Option (List Entries)
  | [] => none
  | [entries] => (f entries).map ([·])
  | first :: rest => (changeLast f rest).map (first :: ·)

/-- Whether a dotted key may go on into a table, which is the one that it sets a key of if no
steps are left. Tables with a header stay shut; those that a header passed can only be passed. -/
def admitsDotted (origin : Origin) (isLast : Bool) : Bool :=
  origin == .dotted || (origin == .passed && !isLast)

/-- Changes the table at the end of a path, making the tables on the way. A dotted key must not
reach into an array of tables. -/
def under (dotted : Bool) (f : Entries → Option Entries) :
    List String → Entries → Option Entries
  | [], entries => f entries
  | key :: path, entries =>
      match entries.get? key with
      | none =>
          (under dotted f path []).map fun inner =>
            entries.put key (.table (if dotted then .dotted else .passed) inner)
      | some (.table origin inner) =>
          if dotted && !admitsDotted origin path.isEmpty then none
          else (under dotted f path inner).map fun inner => entries.put key (.table origin inner)
      | some (.tables elements) =>
          if dotted then none
          else (changeLast (under dotted f path) elements).map fun elements =>
            entries.put key (.tables elements)
      | some (.closed _) => none

def lastKey? (path : List String) : Option (List String × String) :=
  path.getLast?.map fun key => (path.dropLast, key)

/-- Opens the table of a header `[path]`. Each table has one header at most. -/
def openTable (path : List String) (entries : Entries) : Option Entries := do
  let (before, key) ← lastKey? path
  under false (fun inner =>
    match inner.get? key with
    | none => some (inner.put key (.table .header []))
    | some (.table .passed old) => some (inner.put key (.table .header old))
    | some _ => none) before entries

/-- Opens a further table of a header `[[path]]`. -/
def openElement (path : List String) (entries : Entries) : Option Entries := do
  let (before, key) ← lastKey? path
  under false (fun inner =>
    match inner.get? key with
    | none => some (inner.put key (.tables [[]]))
    | some (.tables elements) => some (inner.put key (.tables (elements ++ [[]])))
    | some _ => none) before entries

/-- Sets a key, which may be dotted. No key is set twice. -/
def set (path : List String) (value : Value) (entries : Entries) : Option Entries := do
  let (before, key) ← lastKey? path
  under true (fun inner =>
    match inner.get? key with
    | none => some (inner.put key (.closed value))
    | some _ => none) before entries

end Entries

end HeaterHost.Toml
