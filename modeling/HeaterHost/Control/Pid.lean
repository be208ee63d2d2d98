import HeaterHost.Gains

/-!
Positional PID control. The slope of the temperature is smoothed over a minimum time, and the
integral is kept only while the output is not limited.
-/

namespace HeaterHost

/-- A PID controller. The scaled gains turn degrees into a fraction of full power. -/
structure Pid (α : Type) where
  gains : Gains α
  kp : α
  ki : α
  kd : α
  maxPower : α
  /-- The shortest time over which a slope is taken. -/
  slopeTime : α
  /-- The integral at which its term alone asks for the most power. -/
  integralLimit : α
  lastTemp : α
  lastTime : α
  slope : α
  integral : α
deriving Repr

namespace Pid

variable {α : Type} [Scalar α]

def ambient : α := 25.0

/-- Changes the gains. What has been accumulated stays, the integral within its new limit. -/
def setGains (pid : Pid α) (gains : Gains α) : Pid α :=
  let ki := gains.ki / Gains.unit
  let limit := if 0.0 < ki then pid.maxPower / ki else 0.0
  { pid with
    gains
    kp := gains.kp / Gains.unit
    ki
    kd := gains.kd / Gains.unit
    integralLimit := limit
    integral := Scalar.clamp 0.0 limit pid.integral }

def create (gains : Gains α) (maxPower slopeTime : α) : Pid α :=
  setGains
    { gains
      kp := 0.0
      ki := 0.0
      kd := 0.0
      maxPower
      slopeTime
      integralLimit := 0.0
      lastTemp := ambient
      lastTime := 0.0
      slope := 0.0
      integral := 0.0 } gains

def reset (pid : Pid α) : Pid α :=
  { pid with slope := 0.0, integral := 0.0 }

/-- The slope after a reading: over the time since the last one, or mixed with the old slope if
that time is short. -/
def slopeAfter (pid : Pid α) (time temp : α) : α :=
  let elapsed := time - pid.lastTime
  let rise := temp - pid.lastTemp
  if pid.slopeTime ≤ elapsed then rise / elapsed
  else (pid.slope * (pid.slopeTime - elapsed) + rise) / pid.slopeTime

def integralAfter (pid : Pid α) (time temp target : α) : α :=
  Scalar.clamp 0.0 pid.integralLimit
    (pid.integral + (target - temp) * (time - pid.lastTime))

def demand (pid : Pid α) (time temp target : α) : α :=
  pid.kp * (target - temp) + pid.ki * pid.integralAfter time temp target -
    pid.kd * pid.slopeAfter time temp

def output (pid : Pid α) (time temp target : α) : α :=
  Scalar.clamp 0.0 pid.maxPower (pid.demand time temp target)

/-- The controller after a reading. The integral moves only while the output is the demand. -/
def update (pid : Pid α) (time temp target : α) : Pid α :=
  { pid with
    lastTemp := temp
    lastTime := time
    slope := pid.slopeAfter time temp
    integral :=
      if pid.demand time temp target == pid.output time temp target then
        pid.integralAfter time temp target
      else pid.integral }

def isBusy (pid : Pid α) (smoothed target : α) : Bool :=
  (1.0 : α) < Scalar.abs (target - smoothed) || (0.1 : α) < Scalar.abs pid.slope

def hasIntegralRange (pid : Pid α) : Bool :=
  (0.0 : α) ≤ pid.integralLimit

/-- Whether the integral and the output both have a range. A controller made for a checked
section always has. -/
def hasRanges (pid : Pid α) : Bool :=
  pid.hasIntegralRange && (0.0 : α) ≤ pid.maxPower

end Pid

end HeaterHost
