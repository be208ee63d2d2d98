import HeaterHost.Scalar
import HeaterHost.Decimal.Notation

/-!
PID gains in host units: a gain of 255 turns an error of one degree into full power.
-/

namespace HeaterHost

structure Gains (α : Type) where
  kp : α
  ki : α
  kd : α
deriving Repr

def Gains.unit {α : Type} [Scalar α] : α :=
  255.0

def Gains.text (g : Gains Float) : String :=
  let kp := Decimal.fixed 3 g.kp
  let ki := Decimal.fixed 3 g.ki
  let kd := Decimal.fixed 3 g.kd
  s!"Kp={kp} Ki={ki} Kd={kd}"

end HeaterHost
