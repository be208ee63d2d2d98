import HeaterHost.Gains

/-!
The commands that a board understands.
-/

namespace HeaterHost.Wire

inductive DeviceCommand (α : Type) where
  | queryTelemetry
  | setTarget (degrees : α)
  | setPower (power : α)
  | setGains (gains : Gains α)
  | resetErrorFlags
  | setFrequency (hertz : Nat)
  | firmwareVersion
  | readPidValues
deriving Repr

namespace DeviceCommand

/-- The text of a command. Temperatures and gains are written with all their digits, powers with
three places. -/
def text : DeviceCommand Float → String
  | queryTelemetry => "d"
  | setTarget degrees => "s " ++ Decimal.precise degrees
  | setPower power => "pwr " ++ Decimal.fixed 3 power
  | setGains gains =>
      let kp := Decimal.precise gains.kp
      let ki := Decimal.precise gains.ki
      let kd := Decimal.precise gains.kd
      s!"kp {kp};ki {ki};kd {kd}"
  | resetErrorFlags => "q"
  | setFrequency hertz => s!"f {hertz}"
  | firmwareVersion => "v"
  | readPidValues => "a"

def replyStart {α : Type} : DeviceCommand α → Option String
  | firmwareVersion => some "version:"
  | readPidValues => some "kp:"
  | _ => none

end DeviceCommand

end HeaterHost.Wire
