import HeaterHost.Decimal.Notation

/-!
Status values: what the host's objects answer when they are asked for their state.
-/

namespace HeaterHost

/-- A tree of named values. A number that is not finite is written as `null`. -/
inductive Value where
  | null
  | flag (b : Bool)
  | count (n : Nat)
  | number (x : Float)
  | text (s : String)
  | list (items : List Value)
  | record (fields : List (String × Value))

namespace Value

/-- A text, or `null`. -/
def ofText? (s : Option String) : Value :=
  (s.map text).getD null

/-- A number, or `null`. -/
def ofNumber? (x : Option Float) : Value :=
  (x.map number).getD null

def texts (items : List String) : Value :=
  list (items.map text)

def hundredths (x : Float) : Value :=
  number (Decimal.roundWhole (x * 100.0) / 100.0)

end Value

end HeaterHost
