import HeaterHost.Decimal.Reading
import HeaterHost.Gains
import HeaterHost.Simulator.Thermal
import HeaterHost.Text.Numeral
import HeaterHost.Time

/-!
A simulated INO board: it obeys commands, answers queries, and can be told to misbehave as real
boards do.
-/

namespace HeaterHost.Simulator

/-- The ways in which a board misbehaves. -/
structure Switches where
  /-- New connections are refused. -/
  offline : Bool := false
  /-- Telemetry queries stay without an answer. -/
  mute : Bool := false
  /-- Telemetry comes without a temperature. -/
  malformed : Bool := false
  /-- A frame that is not text goes ahead of every answer. -/
  garbage : Bool := false
  /-- An error line goes ahead of the answer to a console query. -/
  chatter : Bool := false
deriving Repr

structure Board where
  model : Thermal Float
  target : Float := 0.0
  power : Float := 0.0
  gains : Gains Float := { kp := 0.0, ki := 0.0, kd := 0.0 }
  frequency : Nat := 0
  flags : String := "000000"
  tick : Nat := 0
  lastStep : Option Instant := none
deriving Repr

namespace Board

def firmware : String := "ino-sim 1.0.0"

def lastTick : Nat := 0xFFFFFFFFFFFFFFFF

def advance (b : Board) (now : Instant) : Board :=
  let model := match b.lastStep with
    | some last => b.model.step b.power (Instant.seconds (now - last))
    | none => b.model
  { b with model, lastStep := some now }

def telemetry (b : Board) (s : Switches) : List String :=
  if s.mute then []
  else if s.malformed then [s!"tick:{b.tick}, err:{b.flags}"]
  else
    let hundredths := Decimal.roundToSigned64 (b.model.measured * 100.0)
    let reading := s!"tick:{b.tick}, T_a:{hundredths}, T_set:{Decimal.plain b.target}"
    [s!"{reading}, pwr:{Decimal.fixed 3 b.power}, err:{b.flags}"]

def console (s : Switches) (line : String) : List String :=
  (if s.chatter then ["ERROR heating slow"] else []) ++ [line]

def gainsLine (b : Board) : String :=
  let kp := Decimal.plain b.gains.kp
  let ki := Decimal.plain b.gains.ki
  let kd := Decimal.plain b.gains.kd
  s!"kp:{kp} ki:{ki} kd:{kd}"

def setting {β : Type} (b : Board) (value? : Option β) (what text : String)
    (set : β → Board) : Board × List String :=
  match value? with
  | some value => (set value, [])
  | none => (b, [s!"ERROR bad {what} '{text}'"])

/-- Obeys one command, given by its words. A query beyond the last tick has no result. -/
def obey (b : Board) (s : Switches) (now : Instant) (command : String) (name : String)
    (arg : Option String) : Option (Board × List String) :=
  match name, arg with
  | "d", _ =>
      let b := b.advance now
      if b.tick < lastTick then
        let b := { b with tick := b.tick + 1 }
        some (b, b.telemetry s)
      else none
  | "s", some text =>
      some (b.setting (Decimal.read? text) "target" text fun target => { b with target })
  | "pwr", some text =>
      some (b.setting (Decimal.read? text) "power" text fun power =>
        { b.advance now with power := Scalar.clamp 0.0 1.0 power })
  | "kp", some text =>
      some (b.setting (Decimal.read? text) "gain" text fun kp =>
        { b with gains := { b.gains with kp } })
  | "ki", some text =>
      some (b.setting (Decimal.read? text) "gain" text fun ki =>
        { b with gains := { b.gains with ki } })
  | "kd", some text =>
      some (b.setting (Decimal.read? text) "gain" text fun kd =>
        { b with gains := { b.gains with kd } })
  | "f", some text =>
      some (b.setting (Text.unsigned32? text) "frequency" text fun frequency =>
        { b with frequency })
  | "q", _ => some ({ b with flags := "000000" }, [])
  | "v", _ => some (b, console s ("version: " ++ firmware))
  | "a", _ => some (b, console s b.gainsLine)
  | _, _ => some (b, [s!"ERROR unknown command '{command}'"])

/-- Obeys a list of commands in order. If one has no result the board stays as it was then, and
the answers are lost. -/
def obeyAll (b : Board) (s : Switches) (now : Instant) :
    List (List Char) → Board × Option (List String)
  | [] => (b, some [])
  | command :: rest =>
      let words := (Text.words command).map String.ofList
      match b.obey s now (String.ofList command) (words.headD "") words[1]? with
      | none => (b.advance now, none)
      | some (b, replies) =>
          let (b, more) := b.obeyAll s now rest
          (b, more.map (replies ++ ·))

def commands (frame : String) : List (List Char) :=
  ((frame.toList.splitOn ';').map Text.trimmed).filter fun command => !command.isEmpty

def handle (b : Board) (s : Switches) (now : Instant) (frame : String) :
    Board × Option (List String) :=
  b.obeyAll s now (commands frame)

end Board

end HeaterHost.Simulator
