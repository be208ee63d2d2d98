import HeaterHost.Decimal.Binary

/-!
The arithmetic that the control laws are written in. The host computes with doubles; the laws
only need the operations below, so that they can also be read over exact numbers.
-/

namespace HeaterHost

/-- Numbers a control law can compute with. No law is asked for: doubles have a NaN, for which
every comparison is false. -/
class Scalar (α : Type) extends Add α, Sub α, Mul α, Div α, Neg α, LE α, LT α, BEq α,
    OfScientific α where
  decidableLE : DecidableLE α
  decidableLT : DecidableLT α
  abs : α → α
  ofCount : Nat → α
  pi : α
  ceiling : α → Nat

attribute [reducible, instance] Scalar.decidableLE Scalar.decidableLT

namespace Scalar

variable {α : Type} [Scalar α]

/-- The smaller of two numbers; a NaN gives way to the other. -/
def least (a b : α) : α :=
  if a < b then a else if b == b then b else a

/-- The larger of two numbers; a NaN gives way to the other. -/
def greatest (a b : α) : α :=
  if b < a then a else if b == b then b else a

/-- The number of `[low, high]` nearest to `x`; a NaN passes through. Only meaningful for
`low ≤ high`. -/
def clamp (low high x : α) : α :=
  let raised := if x < low then low else x
  if high < raised then high else raised

end Scalar

instance : Scalar Float where
  decidableLE := inferInstance
  decidableLT := inferInstance
  abs := Float.abs
  ofCount := Float.ofNat
  pi := 3.141592653589793
  ceiling := Decimal.ceiling

/-- The quiet NaN that stands for a missing number. -/
def notANumber : Float :=
  0.0 / 0.0

def negativeInfinity : Float :=
  -1.0 / 0.0

end HeaterHost
