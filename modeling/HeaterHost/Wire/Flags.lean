import HeaterHost.Text.Blank

/-!
The error flags of a board: a row of digits, one for each condition, filled with zeros on the
left to six places.
-/

namespace HeaterHost.Wire

structure DeviceFlags where
  raw : String
deriving Repr, DecidableEq

namespace DeviceFlags

def labels : List String :=
  ["open circuit", "no heartbeat", "heating slow", "heating fast", "no temp read"]

def parse (field : String) : DeviceFlags :=
  { raw := String.ofList (Text.padStart '0' 6 (Text.trimmed field.toList)) }

def none : DeviceFlags :=
  parse "0"

def isSet (flags : DeviceFlags) (place : Nat) : Bool :=
  flags.raw.toUTF8.toList[place]? == some '1'.toUInt8

def openCircuit (flags : DeviceFlags) : Bool :=
  flags.isSet 0

def noTempRead (flags : DeviceFlags) : Bool :=
  flags.isSet 4

def invalidatesReading (flags : DeviceFlags) : Bool :=
  flags.openCircuit || flags.noTempRead

def active (flags : DeviceFlags) : List String :=
  (labels.zipIdx.filter fun (_, place) => flags.isSet place).map (·.1)

def any (flags : DeviceFlags) : Bool :=
  !flags.active.isEmpty

def text (flags : DeviceFlags) : String :=
  String.intercalate " | " (flags.raw :: flags.active)

end DeviceFlags

end HeaterHost.Wire
