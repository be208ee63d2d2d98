import HeaterHost.Decimal.Shortest
import HeaterHost.Text.Numeral

/-!
Reading a double from text. The nearest double is taken, ties to even; numbers too large become
infinite and numbers too small become zero.
-/

namespace HeaterHost.Decimal

/-- The double nearest `digits * 10 ^ scale`. Beyond the range of doubles the answer is known
without the power. -/
def toFloat (digits : Nat) (scale : Int) : Float :=
  if digits == 0 then 0.0
  else
    let top := scale + digitCount digits
    if 310 < top then 1.0 / 0.0
    else if top < -330 then 0.0
    else match scale with
      | .ofNat e => Float.ofScientific digits false e
      | .negSucc e => Float.ofScientific digits true (e + 1)

/-- An exponent: empty, or `e` or `E`, a sign and digits. -/
def exponent? : List Char → Option Int
  | [] => some 0
  | 'e' :: rest | 'E' :: rest =>
      match rest with
      | '+' :: digits => (Text.natural? digits).map fun n => (n : Int)
      | '-' :: digits => (Text.natural? digits).map fun n => -(n : Int)
      | _ => (Text.natural? rest).map fun n => (n : Int)
  | _ => none

/-- A number without sign: digits with an optional point among or around them, then an
optional exponent. -/
def magnitude? (cs : List Char) : Option Float :=
  let whole := cs.takeWhile Char.isDigit
  let rest := cs.dropWhile Char.isDigit
  let (fraction, rest) := match rest with
    | '.' :: tail => (tail.takeWhile Char.isDigit, tail.dropWhile Char.isDigit)
    | _ => ([], rest)
  match Text.natural? (whole ++ fraction), exponent? rest with
  | some digits, some power => some (toFloat digits (power - fraction.length))
  | _, _ => none

def named? (cs : List Char) : Option Float :=
  match String.ofList (cs.map Char.toLower) with
  | "inf" | "infinity" => some (1.0 / 0.0)
  | "nan" => some (0.0 / 0.0)
  | _ => none

def read? (s : String) : Option Float :=
  let (negative, cs) := match s.toList with
    | '-' :: rest => (true, rest)
    | '+' :: rest => (false, rest)
    | cs => (false, cs)
  ((named? cs).or (magnitude? cs)).map fun x => if negative then -x else x

end HeaterHost.Decimal
