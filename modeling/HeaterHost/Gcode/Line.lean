import HeaterHost.Decimal.Reading
import HeaterHost.Heater.Settings
import HeaterHost.NameMap

/-!
Command lines: a name and `KEY=VALUE` words, up to a semicolon. Names and keys do not depend on
letter case; values keep theirs and lose the double quotes around them.
-/

namespace HeaterHost.Gcode

inductive CommandError where
  | unknown (name : String)
  | missingParameter (command param : String)
  | invalidParameter (command param value : String)
  | unknownHeater (name : String)
  | heater (error : HeaterError Float)
deriving Repr

def CommandError.message : CommandError → String
  | .unknown name => "Unknown command: " ++ name
  | .missingParameter command param => s!"{command}: missing parameter {param}"
  | .invalidParameter command param value =>
      s!"{command}: invalid value '{value}' for {param}"
  | .unknownHeater name => s!"Unknown heater '{name}'"
  | .heater error => error.message

def defaultHeater : String := "extruder"

structure Line where
  name : String
  params : NameMap String

namespace Line

/-- A parameter: what stands before and after the first equals sign of a word. -/
def param? (word : List Char) : Option (String × String) :=
  (Text.cutAt '=' word).map fun (key, value) =>
    (String.ofList (Text.asciiUpper key), String.ofList (Text.stripBoth (· == '"') value))

/-- The part of a line before its comment. -/
def code (line : String) : List Char :=
  line.toList.takeWhile (· != ';')

/-- Reads a line; blank lines and lines that are all comment have no command. Of two parameters
with one key the later counts. -/
def parse? (line : String) : Option Line :=
  match Text.words (code line) with
  | [] => none
  | name :: words =>
      some {
        name := String.ofList (Text.asciiUpper name)
        params := NameMap.ofList (words.filterMap param?) }

def get? (line : Line) (key : String) : Option String :=
  line.params.get? key

def missing (line : Line) (param : String) : CommandError :=
  .missingParameter line.name param

def invalid (line : Line) (param value : String) : CommandError :=
  .invalidParameter line.name param value

/-- A parameter that is a finite number, with the value it has if it is left out. -/
def number (line : Line) (param : String) (default : Option Float) : Except CommandError Float :=
  match line.get? param, default with
  | some text, _ =>
      match (Decimal.read? text).filter Decimal.isFinite with
      | some value => .ok value
      | none => .error (line.invalid param text)
  | none, some value => .ok value
  | none, none => .error (line.missing param)

/-- A parameter that is a finite number and not negative. -/
def nonNegative (line : Line) (param : String) : Except CommandError Float := do
  let value ← line.number param none
  if value < 0.0 then throw (line.invalid param (Decimal.plain value))
  return value

def count (line : Line) (param : String) : Except CommandError Nat :=
  match line.get? param with
  | none => .error (line.missing param)
  | some text =>
      match Text.unsigned32? text with
      | some value => .ok value
      | none => .error (line.invalid param text)

def heaterName (line : Line) : Except CommandError String :=
  match line.get? "HEATER", line.get? "T" with
  | some name, _ => .ok name
  | none, none => .ok defaultHeater
  | none, some text =>
      match Text.unsigned32? text with
      | some 0 => .ok defaultHeater
      | some tool => .ok s!"{defaultHeater}{tool}"
      | none => .error (line.invalid "T" text)

end Line

end HeaterHost.Gcode
