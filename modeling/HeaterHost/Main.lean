import HeaterHost.Config.Reading
import HeaterHost.Host.Schedule
import HeaterHost.Host.Setup
import HeaterHost.Simulator.Line

/-!
The command line of the program: it tries a configuration out on simulated boards. Every line of
the input is a command line for the host, and a second passes after each.
-/

namespace HeaterHost.CommandLine

open Simulator

def hotendLine (name : String) : Line × String :=
  ({ farEnd := .board { name, board := { model := .hotend } } }, "sim:" ++ name)

def outcomeText : Except Gcode.CommandError String → String
  | .ok text => text
  | .error error => "error: " ++ error.message

def setupText : SetupError → String
  | .config error => error.message
  | .immeasurable heater => s!"[heaters.{heater}] report_time is too long"

/-- The host of a configuration, with simulated boards. Prints get numbers for identifiers. -/
def simulated (config : Config) : Except SetupError (Schedule Line) := do
  let tracker := Gcode.Tracker.ofConfig config.tracker toString
  let host ← Host.ofConfig config (fun name _ => hotendLine name) tracker
  return (Schedule.start host 0).advanceTo 0

def exchange (schedule : Schedule Line) (line : String) : Schedule Line × String :=
  let (schedule, outcome) := schedule.execute line
  (schedule.advanceTo (schedule.now + Span.second), outcomeText outcome)

def contents (path : String) : IO (Except IoError ByteArray) := do
  try
    return .ok (← IO.FS.readBinFile path)
  catch error =>
    match error with
    | .noFileOrDirectory .. => return .error .noSuchFile
    | _ => return .error .isDirectory

def converse (start : Schedule Line) : IO Unit := do
  let input ← IO.getStdin
  let mut schedule := start
  let mut line ← input.getLine
  while !line.isEmpty do
    let (next, text) := exchange schedule line
    IO.println text
    schedule := next
    line ← input.getLine
  for (name, text) in schedule.shutdown.host.tracker.files do
    IO.print s!"{name}:\n{text}"

def run (path : String) : IO UInt32 := do
  match Config.load (← contents path) with
  | .error error =>
      IO.eprintln error.message
      return 1
  | .ok config =>
      match simulated config with
      | .error error =>
          IO.eprintln (setupText error)
          return 1
      | .ok schedule =>
          converse schedule
          return 0

end HeaterHost.CommandLine

/-- The configuration is `printer.toml` unless another file is named. -/
def main (args : List String) : IO UInt32 :=
  HeaterHost.CommandLine.run (args.headD "printer.toml")
