import HeaterHost.Toml.Value
import HeaterHost.Toml.Datetime
import HeaterHost.Decimal.Reading

/-!
Values written without quotes: booleans, dates and times, integers and floats.
-/

namespace HeaterHost.Toml.Literal

/-- The text without its underscores, each of which must stand between two digits. -/
def ungrouped? (isDigit : Char → Bool) : (before : Bool) → List Char → Option (List Char)
  | _, [] => some []
  | before, '_' :: rest =>
      match rest with
      | c :: _ => if before && isDigit c then ungrouped? isDigit false rest else none
      | [] => none
  | _, c :: rest => (ungrouped? isDigit (isDigit c) rest).map (c :: ·)

def digitIn? (base : Nat) (c : Char) : Option Nat :=
  let n := c.toNat
  let value :=
    if c.isDigit then n - 48
    else if 97 ≤ n && n ≤ 102 then n - 87
    else if 65 ≤ n && n ≤ 70 then n - 55
    else 16
  if value < base then some value else none

/-- The value of a number in a base, read after `acc`. -/
def digitsIn? (base acc : Nat) : List Char → Option Nat
  | [] => some acc
  | c :: cs => (digitIn? base c).bind fun d => digitsIn? base (base * acc + d) cs

def inRange (n : Int) : Bool :=
  -0x80000000000000000000000000000000 ≤ n && n < 0x100000000000000000000000000000000

def based? (base : Nat) (cs : List Char) : Option Int := do
  let digits ← ungrouped? (fun c => (digitIn? base c).isSome) false cs
  guard (!digits.isEmpty)
  let n ← digitsIn? base 0 digits
  guard (inRange n)
  return n

def zeroLed (digits : List Char) : Bool :=
  digits.length > 1 && digits.head? == some '0'

def decimal? (cs : List Char) : Option Nat := do
  let digits ← ungrouped? Char.isDigit false cs
  guard (!zeroLed digits)
  Text.natural? digits

def float? (cs : List Char) : Option Float := do
  let text ← ungrouped? Char.isDigit false cs
  let whole := text.takeWhile Char.isDigit
  guard (!whole.isEmpty && !zeroLed whole)
  match text.dropWhile Char.isDigit with
  | '.' :: rest => guard (!(rest.takeWhile Char.isDigit).isEmpty)
  | _ => pure ()
  let x ← Decimal.magnitude? text
  guard (Decimal.isFinite x)
  return x

def number? (negative : Bool) (cs : List Char) : Option Value :=
  match String.ofList cs with
  | "inf" => some (.float (if negative then -1.0 / 0.0 else 1.0 / 0.0))
  | "nan" => some (.float (if negative then -(0.0 / 0.0) else 0.0 / 0.0))
  | _ =>
      if cs.any fun c => c == '.' || c == 'e' || c == 'E' then
        (float? cs).map fun x => .float (if negative then -x else x)
      else
        ((decimal? cs).map fun n => if negative then -(n : Int) else n).bind fun n =>
          if inRange n then some (.integer n) else none

/-- Whether a text starts like a date or a time. -/
def startsDatetime (cs : List Char) : Bool :=
  let rest := cs.dropWhile Char.isDigit
  rest.length < cs.length && (rest.head? == some '-' || rest.head? == some ':')

def value? (cs : List Char) : Option Value :=
  match cs with
  | ['t', 'r', 'u', 'e'] => some (.boolean true)
  | ['f', 'a', 'l', 's', 'e'] => some (.boolean false)
  | '+' :: rest => number? false rest
  | '-' :: rest => number? true rest
  | '0' :: 'x' :: rest => (based? 16 rest).map .integer
  | '0' :: 'o' :: rest => (based? 8 rest).map .integer
  | '0' :: 'b' :: rest => (based? 2 rest).map .integer
  | _ =>
      if startsDatetime cs then
        if Datetime.accepts cs then some .datetime else none
      else number? false cs

end HeaterHost.Toml.Literal
