import HeaterHost.Text.Blank

/-!
Whole numbers written in decimal: an optional sign, then at least one ASCII digit and nothing
else. A number outside its range is refused like any other text.
-/

namespace HeaterHost.Text

def digit? (c : Char) : Option Nat :=
  if c.isDigit then some (c.toNat - '0'.toNat) else none

/-- The value of a run of digits read after `acc`. -/
def digits? (acc : Nat) : List Char → Option Nat
  | [] => some acc
  | c :: cs => (digit? c).bind fun d => digits? (10 * acc + d) cs

def natural? : List Char → Option Nat
  | [] => none
  | c :: cs => digits? 0 (c :: cs)

/-- An unsigned number below `bound`; a plus sign may stand in front. -/
def unsigned? (bound : Nat) (cs : List Char) : Option Nat :=
  let digits := match cs with
    | '+' :: rest => rest
    | _ => cs
  (natural? digits).filter (· < bound)

/-- A signed number `n` with `-bound ≤ n < bound`. -/
def signed? (bound : Nat) (cs : List Char) : Option Int :=
  match cs with
  | '-' :: rest => ((natural? rest).filter (· ≤ bound)).map fun n => -(n : Int)
  | _ => (unsigned? bound cs).map fun n => (n : Int)

def unsigned32? (s : String) : Option Nat :=
  unsigned? 0x100000000 s.toList

def unsigned64? (s : String) : Option Nat :=
  unsigned? 0x10000000000000000 s.toList

def signed64? (s : String) : Option Int :=
  signed? 0x8000000000000000 s.toList

end HeaterHost.Text
