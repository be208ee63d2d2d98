/-!
Doubles taken apart. A finite double is an exact number `± mantissa * 2 ^ exponent`; rounding
and printing work on that number in whole arithmetic.
-/

namespace HeaterHost.Decimal

inductive Binary where
  | nan
  | infinite (negative : Bool)
  | finite (negative : Bool) (mantissa : Nat) (exponent : Int)
deriving Repr, DecidableEq

/-- The parts of a double, read off its bits. -/
def Binary.ofFloat (x : Float) : Binary :=
  let bits := x.toBits.toNat
  let negative := bits >>> 63 == 1
  let exponent : Nat := (bits >>> 52) % 2048
  let fraction : Nat := bits % (1 <<< 52)
  if exponent == 2047 then
    if fraction == 0 then .infinite negative else .nan
  else if exponent == 0 then
    .finite negative fraction (-1074)
  else
    .finite negative (fraction + (1 <<< 52)) ((exponent : Int) - 1075)

/-- A quotient rounded to the nearest whole number, a half going to the even neighbour. -/
def roundEven (num den : Nat) : Nat :=
  let whole := num / den
  let twice := 2 * (num % den)
  if twice < den then whole
  else if den < twice then whole + 1
  else whole + whole % 2

/-- A quotient rounded to the nearest whole number, a half going up. -/
def roundUp (num den : Nat) : Nat :=
  (2 * num + den) / (2 * den)

/-- The number `mantissa * 2 ^ exponent` as a quotient of whole numbers. -/
def quotient (mantissa : Nat) (exponent : Int) : Nat × Nat :=
  match exponent with
  | .ofNat e => (mantissa <<< e, 1)
  | .negSucc e => (mantissa, 1 <<< (e + 1))

/-- Whether a double is neither infinite nor NaN. -/
def isFinite (x : Float) : Bool :=
  match Binary.ofFloat x with
  | .finite .. => true
  | _ => false

/-- The nearest whole number as a double, a half going away from zero. The sign is kept, also
of a zero; infinities and NaN stay. -/
def roundWhole (x : Float) : Float :=
  match Binary.ofFloat x with
  | .finite negative mantissa (.negSucc e) =>
      let whole := Float.ofNat (roundUp mantissa (1 <<< (e + 1)))
      if negative then -whole else whole
  | _ => x

/-- The nearest whole number limited to 64 signed bits, a half going away from zero. NaN
gives 0. -/
def roundToSigned64 (x : Float) : Int :=
  match Binary.ofFloat x with
  | .nan => 0
  | .infinite negative => if negative then -0x8000000000000000 else 0x7FFFFFFFFFFFFFFF
  | .finite negative mantissa exponent =>
      let (num, den) := quotient mantissa exponent
      let whole := roundUp num den
      if negative then -(min whole 0x8000000000000000 : Nat)
      else (min whole 0x7FFFFFFFFFFFFFFF : Nat)

/-- The least whole number not below `x`; 0 for a negative or non-finite `x`. -/
def ceiling (x : Float) : Nat :=
  match Binary.ofFloat x with
  | .finite false mantissa exponent =>
      let (num, den) := quotient mantissa exponent
      (num + den - 1) / den
  | _ => 0

end HeaterHost.Decimal
