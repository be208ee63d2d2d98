import HeaterHost.Decimal.Binary

/-!
Time on the host's monotonic clock. Instants and spans count nanoseconds; the host's
calculations see an instant as seconds in a double.
-/

namespace HeaterHost

abbrev Instant := Nat

/-- A length of time in nanoseconds. -/
abbrev Span := Nat

def Span.second : Span := 1000000000

/-- One millisecond, the grain of the timers. -/
def Span.millisecond : Span := 1000000

def Span.ofMillis (n : Nat) : Span :=
  n * Span.millisecond

def Instant.seconds (t : Instant) : Float :=
  Float.ofNat (t / Span.second) + Float.ofNat (t % Span.second) / 1000000000.0

/-- The instant at which a timer set for `t` goes off: timers have a grain of a millisecond and
are never early. -/
def Instant.timer (t : Instant) : Instant :=
  (t + Span.millisecond - 1) / Span.millisecond * Span.millisecond

/-- The span of a number of seconds, to the nearest nanosecond. Negative and non-finite numbers
have none, nor have those of `2 ^ 64` seconds and more. -/
def Span.ofSeconds? (x : Float) : Option Span :=
  match Decimal.Binary.ofFloat x with
  | .finite negative mantissa exponent =>
      let (num, den) := Decimal.quotient mantissa exponent
      let nanos := Decimal.roundEven (num * Span.second) den
      if negative && mantissa != 0 then none
      else if nanos < 0x10000000000000000 * Span.second then some nanos
      else none
  | _ => none

/-- The clock counts its seconds with 63 bits. -/
def Instant.endOfTime : Instant := 0x8000000000000000 * Span.second

/-- Whether there is an instant that is so much later. -/
def Instant.hasAfter (t : Instant) (span : Span) : Bool :=
  t + span < Instant.endOfTime

def Span.inUnit (span unit : Span) (places : Nat) (name : String) : String :=
  let fraction := (Nat.repr (span % unit)).toList
  let padded := List.replicate (places - fraction.length) '0' ++ fraction
  let kept := (padded.reverse.dropWhile (· == '0')).reverse
  let text := if kept.isEmpty then "" else "." ++ String.ofList kept
  Nat.repr (span / unit) ++ text ++ name

/-- The span in the largest unit that is not above it: `1.5s`, `100ms`, `20µs`, `7ns`. -/
def Span.text (span : Span) : String :=
  if Span.second ≤ span then span.inUnit Span.second 9 "s"
  else if Span.millisecond ≤ span then span.inUnit Span.millisecond 6 "ms"
  else if 1000 ≤ span then span.inUnit 1000 3 "µs"
  else Nat.repr span ++ "ns"

end HeaterHost
