import HeaterHost.Decimal.Reading

/-!
JSON as far as a request needs it: texts are read, everything else is only passed over. What is
passed over is held to the grammar; what is read must also be a text or a number that exists.
-/

namespace HeaterHost.Web.Json

def afterBlanks (cs : List Char) : List Char :=
  cs.dropWhile fun c => c == ' ' || c == '\t' || c == '\n' || c == '\r'

def hexDigit? (c : Char) : Option Nat :=
  if c.isDigit then some (c.toNat - 0x30)
  else if 'a' ≤ c && c ≤ 'f' then some (c.toNat - 0x57)
  else if 'A' ≤ c && c ≤ 'F' then some (c.toNat - 0x37)
  else none

def unit? : List Char → Option (Nat × List Char)
  | a :: b :: c :: d :: rest => do
      let high := 0x10 * (← hexDigit? a) + (← hexDigit? b)
      let low := 0x10 * (← hexDigit? c) + (← hexDigit? d)
      return (0x100 * high + low, rest)
  | _ => none

/-- The character of an escaped code unit, or of two that form a pair, read after the `u`. A unit
that is half of a pair and stands alone is no character; it can only be passed over. -/
def unicode? (isRead : Bool) (cs : List Char) : Option (Char × List Char) := do
  let (first, rest) ← unit? cs
  if first.isValidChar then return (Char.ofNat first, rest)
  else if !isRead then return ('\uFFFD', rest)
  else
    guard (first < 0xDC00)
    match rest with
    | '\\' :: 'u' :: rest =>
        let (second, rest) ← unit? rest
        guard (0xDC00 ≤ second && second < 0xE000)
        return (Char.ofNat (0x10000 + 0x400 * (first - 0xD800) + (second - 0xDC00)), rest)
    | _ => none

/-- The character of an escape, read after its backslash, and what follows. -/
def escape? (isRead : Bool) : List Char → Option (Char × List Char)
  | '"' :: rest => some ('"', rest)
  | '\\' :: rest => some ('\\', rest)
  | '/' :: rest => some ('/', rest)
  | 'b' :: rest => some ('\x08', rest)
  | 'f' :: rest => some ('\x0c', rest)
  | 'n' :: rest => some ('\n', rest)
  | 'r' :: rest => some ('\r', rest)
  | 't' :: rest => some ('\t', rest)
  | 'u' :: rest => unicode? isRead rest
  | _ => none

def text? (isRead : Bool) : (fuel : Nat) → (acc : List Char) → List Char →
    Option (String × List Char)
  | 0, _, _ | _ + 1, _, [] => none
  | fuel + 1, acc, c :: rest =>
      if c == '"' then some (String.ofList acc.reverse, rest)
      else if c == '\\' then
        (escape? isRead rest).bind fun (e, rest) => text? isRead fuel (e :: acc) rest
      else if c.toNat < 0x20 then none
      else text? isRead fuel (c :: acc) rest

def digits? (cs : List Char) : Option (List Char × List Char) :=
  let digits := cs.takeWhile Char.isDigit
  if digits.isEmpty then none else some (digits, cs.dropWhile Char.isDigit)

def fraction? : List Char → Option (List Char × List Char)
  | '.' :: rest => digits? rest
  | rest => some ([], rest)

def exponent? : List Char → Option (Int × List Char)
  | 'e' :: rest | 'E' :: rest => do
      let (isNegative, rest) := match rest with
        | '-' :: rest => (true, rest)
        | '+' :: rest => (false, rest)
        | rest => (false, rest)
      let (digits, rest) ← digits? rest
      let n ← Text.natural? digits
      return (if isNegative then -n else n, rest)
  | rest => some (0, rest)

/-- A number without its sign, and what follows. A number that is read must not be too large for a
double. -/
def number? (isRead : Bool) (cs : List Char) : Option (List Char) := do
  let (whole, rest) ← digits? cs
  guard (whole.length == 1 || whole.head? != some '0')
  let (fraction, rest) ← fraction? rest
  let (exponent, rest) ← exponent? rest
  let digits ← Text.natural? (whole ++ fraction)
  guard (!isRead || Decimal.isFinite (Decimal.toFloat digits (exponent - fraction.length)))
  return rest

def afterScalar? (isRead : Bool) (cs : List Char) : Option (List Char) :=
  match cs with
  | '"' :: rest => (text? isRead (rest.length + 1) [] rest).map (·.2)
  | '-' :: rest => number? isRead rest
  | 'n' :: 'u' :: 'l' :: 'l' :: rest | 't' :: 'r' :: 'u' :: 'e' :: rest
  | 'f' :: 'a' :: 'l' :: 's' :: 'e' :: rest => some rest
  | _ => number? isRead cs

def afterColon? (cs : List Char) : Option (List Char) :=
  match afterBlanks cs with
  | ':' :: rest => some rest
  | _ => none

mutual

/-- What follows a value that is passed over. -/
def afterValue? : (fuel : Nat) → List Char → Option (List Char)
  | 0, _ => none
  | fuel + 1, cs =>
      match afterBlanks cs with
      | '{' :: rest =>
          match afterBlanks rest with
          | '}' :: rest => some rest
          | rest => afterFields? fuel rest
      | '[' :: rest =>
          match afterBlanks rest with
          | ']' :: rest => some rest
          | rest => afterItems? fuel rest
      | rest => afterScalar? false rest

def afterFields? : (fuel : Nat) → List Char → Option (List Char)
  | 0, _ => none
  | fuel + 1, cs =>
      match afterBlanks cs with
      | '"' :: rest => do
          let (_, rest) ← text? false (rest.length + 1) [] rest
          let rest ← afterColon? rest
          let rest ← afterValue? fuel rest
          match afterBlanks rest with
          | ',' :: rest => afterFields? fuel rest
          | '}' :: rest => some rest
          | _ => none
      | _ => none

def afterItems? : (fuel : Nat) → List Char → Option (List Char)
  | 0, _ => none
  | fuel + 1, cs => do
      let rest ← afterValue? fuel cs
      match afterBlanks rest with
      | ',' :: rest => afterItems? fuel rest
      | ']' :: rest => some rest
      | _ => none

end

end HeaterHost.Web.Json
