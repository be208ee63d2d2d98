import HeaterHost.Decimal.Binary

/-!
The shortest decimal that reads back to a given double, and of the shortest ones the nearest.

A decimal reads back to `m * 2 ^ q` when it lies in the interval of numbers that round to it;
the ends belong to the interval when `m` is even. If a grid of decimals has a point in the
interval, then one of the two grid points next to the double lies in it, so it is enough to try
these two on ever finer grids.
-/

namespace HeaterHost.Decimal

/-- A positive decimal number `digits * 10 ^ scale`. -/
structure Digits where
  digits : Nat
  scale : Int
deriving Repr, DecidableEq

/-- The numbers that round to one double, as multiples of the unit `num / den`. -/
structure Interval where
  low : Nat
  value : Nat
  high : Nat
  closed : Bool
  num : Nat
  den : Nat

/-- The interval of `mantissa * 2 ^ exponent`. Below a power of two the gap is half as wide. -/
def Interval.around (mantissa : Nat) (exponent : Int) : Interval :=
  let below := if mantissa == 1 <<< 52 && exponent > -1074 then 1 else 2
  let (num, den) := quotient 1 (exponent - 2)
  { low := 4 * mantissa - below
    value := 4 * mantissa
    high := 4 * mantissa + 2
    closed := mantissa % 2 == 0
    num
    den }

/-- Whether the point `n * num / den` lies in the interval. -/
def Interval.contains (i : Interval) (n num den : Nat) : Bool :=
  let point := n * num * i.den
  let scale := i.num * den
  if i.closed then i.low * scale ≤ point && point ≤ i.high * scale
  else i.low * scale < point && point < i.high * scale

/-- The power `10 ^ scale` as a quotient. -/
def powerOfTen : Int → Nat × Nat
  | .ofNat e => (Nat.pow 10 e, 1)
  | .negSucc e => (1, Nat.pow 10 (e + 1))

/-- The point of the grid `10 ^ scale` that lies in the interval and nearest its value. -/
def Interval.onGrid? (i : Interval) (scale : Int) : Option Nat :=
  let (num, den) := powerOfTen scale
  let above := i.value * i.num * den
  let unit := num * i.den
  let below := above / unit
  let twice := 2 * (above % unit)
  let fitsBelow := 0 < below && i.contains below num den
  let fitsAbove := i.contains (below + 1) num den
  if fitsBelow && fitsAbove then
    if twice < unit || (twice == unit && below % 2 == 0) then some below else some (below + 1)
  else if fitsBelow then some below
  else if fitsAbove then some (below + 1)
  else none

/-- The first grid from `scale` downwards with a point in the interval. -/
def Interval.firstGrid (i : Interval) (scale : Int) : Nat → Digits
  | 0 => { digits := (i.onGrid? scale).getD 0, scale }
  | tries + 1 =>
      match i.onGrid? scale with
      | some digits => { digits, scale }
      | none => i.firstGrid (scale - 1) tries

/-- The number of decimal digits of `n`. -/
def digitCount (n : Nat) : Nat :=
  (Nat.repr n).length

/-- A scale at which at most one digit stands in front of the point. -/
def topScale (mantissa : Nat) (exponent : Int) : Int :=
  let (num, den) := quotient mantissa exponent
  if den ≤ num then digitCount (num / den)
  else -((digitCount (den / num) : Nat) : Int) + 1

def Digits.normal (d : Digits) : Nat → Digits
  | 0 => d
  | steps + 1 =>
      if d.digits != 0 && d.digits % 10 == 0 then
        Digits.normal { digits := d.digits / 10, scale := d.scale + 1 } steps
      else d

/-- The shortest decimal that reads back to `mantissa * 2 ^ exponent`. -/
def shortest (mantissa : Nat) (exponent : Int) : Digits :=
  if mantissa == 0 then { digits := 0, scale := 0 }
  else ((Interval.around mantissa exponent).firstGrid (topScale mantissa exponent) 20).normal 20

end HeaterHost.Decimal
