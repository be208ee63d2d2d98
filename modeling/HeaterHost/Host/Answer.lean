import HeaterHost.Link.Basic
import HeaterHost.Text.Blank
import HeaterHost.Wire.Command

/-!
Finding the answer to a query on a board's console. Somebody who waits there takes lines whenever
the host has to wait, and then finds only the latest of those that arrived in the meantime.
-/

namespace HeaterHost

open Wire

/-- How long the answer to a query may take. -/
def replyTimeout : Span := 2 * Span.second

/-- The lines that are found by somebody who waits at the console, out of lines that arrived at
one time. -/
def lastOnes (lines : List ConsoleLine) : List ConsoleLine :=
  lines.drop (lines.length - Link.consoleLimit)

/-- The lines that are found by somebody who waits at the console from the start, oldest first. -/
def found (lines : List ConsoleLine) : List ConsoleLine :=
  (lines.splitBy fun a b => a.time == b.time).flatMap lastOnes

def Wire.DeviceCommand.isAnsweredBy (command : DeviceCommand Float) (text : String) : Bool :=
  match command.replyStart with
  | none => true
  | some start => (Text.afterStart start.toList text.toList).isSome

/-- The console after its first `seen` lines, oldest first. -/
def Link.consoleAfter (l : Link) (seen : Nat) : List ConsoleLine :=
  l.console.reverse.drop seen

def Link.consoleCount (l : Link) (time : Instant) : Nat :=
  (l.console.filter fun line => line.time ≤ time).length

/-- The first line that answers a command before a deadline, out of the lines after the first
`seen`. -/
def Link.answer? (l : Link) (seen : Nat) (command : DeviceCommand Float) (deadline : Instant) :
    Option ConsoleLine :=
  (found (l.consoleAfter seen)).find? fun line =>
    line.time < deadline && command.isAnsweredBy line.text

end HeaterHost
