import HeaterHost.Decimal.Shortest

/-!
The three ways in which a double is written: precise (a point or an exponent is always there),
plain (positional, a whole number without a point) and with a fixed number of places.
-/

namespace HeaterHost.Decimal

structure Style where
  /-- Whole numbers end in `.0`. -/
  wholePoint : Bool
  /-- Numbers from `10 ^ 16` on and below `10 ^ -4` are written with an exponent. -/
  exponents : Bool

/-- Keeps the kind of number visible: `1.0`, `1e16`, `1.5e-7`. -/
def Style.precise : Style :=
  { wholePoint := true, exponents := true }

/-- Positional whatever the size: `1`, `0.0000001`. -/
def Style.plain : Style :=
  { wholePoint := false, exponents := false }

def signed (negative : Bool) (text : String) : String :=
  if negative then "-" ++ text else text

/-- A row of `n` zeros. -/
def zeros (n : Nat) : String :=
  String.ofList (List.replicate n '0')

def positional (d : Digits) (wholePoint : Bool) : String :=
  let text := Nat.repr d.digits
  match d.scale with
  | .ofNat e =>
      let whole := if d.digits == 0 then "0" else text ++ zeros e
      if wholePoint then whole ++ ".0" else whole
  | .negSucc e =>
      let places := e + 1
      let padded := zeros (places + 1 - text.length) ++ text
      let cut := padded.length - places
      String.ofList (padded.toList.take cut) ++ "." ++ String.ofList (padded.toList.drop cut)

def scientific (d : Digits) : String :=
  let text := (Nat.repr d.digits).toList
  let power := d.scale + (text.length - 1 : Nat)
  let tail := text.drop 1
  let mantissa := text.take 1 ++ (if tail.isEmpty then [] else '.' :: tail)
  String.ofList mantissa ++ "e" ++ toString power

def Style.render (style : Style) (d : Digits) : String :=
  let top := d.scale + digitCount d.digits
  if style.exponents && d.digits != 0 && (16 < top || top < -3) then scientific d
  else positional d style.wholePoint

def Style.text (style : Style) (x : Float) : String :=
  match Binary.ofFloat x with
  | .nan => "NaN"
  | .infinite negative => signed negative "inf"
  | .finite negative mantissa exponent =>
      signed negative (style.render (shortest mantissa exponent))

def precise (x : Float) : String :=
  Style.precise.text x

def plain (x : Float) : String :=
  Style.plain.text x

/-- The number `n` in units of `10 ^ -places`. -/
def withPlaces (places n : Nat) : String :=
  let text := Nat.repr n
  let padded := zeros (places + 1 - text.length) ++ text
  let cut := padded.length - places
  let whole := String.ofList (padded.toList.take cut)
  if places == 0 then whole else whole ++ "." ++ String.ofList (padded.toList.drop cut)

/-- A double rounded to `places` decimal places; the exact value decides, a half goes to the
even neighbour. -/
def fixed (places : Nat) (x : Float) : String :=
  match Binary.ofFloat x with
  | .nan => "NaN"
  | .infinite negative => signed negative "inf"
  | .finite negative mantissa exponent =>
      let (num, den) := quotient mantissa exponent
      signed negative (withPlaces places (roundEven (num * Nat.pow 10 places) den))

end HeaterHost.Decimal
