import HeaterHost.Config.Basic
import HeaterHost.Text.Blank

/-!
The command tracker: the latest command line and how many there were, and a capture of all lines
in files of batches, each print with files of its own.
-/

namespace HeaterHost.Gcode

inductive Capture where
  | off
  | unwritable
  | directory (files : NameMap String)

/-- The tracker. Each print has an identifier of its own; `freshId` gives that of the `n`-th. -/
structure Tracker where
  batchSize : Nat
  freshId : Nat → String
  capture : Capture
  lastLine : Option String := none
  count : Nat := 0
  printId : String := "NO_ID_KLIPPER"
  prints : Nat := 0
  /-- The captured lines that are not written yet, newest first. -/
  batch : List String := []
  /-- The number of the next file of the print. It has to stay below `2 ^ 32`. -/
  batchNumber : Nat := 0

namespace Tracker

def create (batchSize : Nat) (freshId : Nat → String) (capture : Capture) : Tracker :=
  { batchSize := max batchSize 1, freshId, capture }

/-- The tracker of a section. The directory of its captures is new and empty. -/
def ofConfig (c : TrackerConfig) (freshId : Nat → String) : Tracker :=
  create c.batchSize freshId (if c.outputDir.isSome then .directory .empty else .off)

def printFile? (line : String) : Option String := do
  let cs := Text.trimmed line.toList
  let _ ← Text.afterStart "SDCARD_PRINT_FILE".toList (Text.asciiUpper cs)
  let rest ← Text.afterFirst "FILENAME=".toList cs
  let path := Text.stripBoth (· == '"') (Text.trimmed rest)
  let file := Text.afterLast '/' path
  if file.isEmpty then none else some (String.ofList file)

def isCapturing (t : Tracker) : Bool :=
  match t.capture with
  | .off => false
  | .unwritable | .directory _ => true

def fileName (t : Tracker) : String :=
  s!"{t.printId}_gcode_{t.batchNumber}.csv"

/-- Whether a file can have a name: at most 255 bytes, none of them zero. -/
def isFileName (name : String) : Bool :=
  name.utf8ByteSize ≤ 255 && name.toList.all (· != '\x00')

def append (files : NameMap String) (name text : String) : NameMap String :=
  files.insert name ((files.get? name).getD "" ++ text)

/-- Writes the batch to a file of its own. What cannot be written is lost. -/
def writeBatch (t : Tracker) : Tracker :=
  if t.batch.isEmpty then t
  else
    let capture := match t.capture with
      | .directory files =>
          if isFileName t.fileName then
            .directory (append files t.fileName (String.join t.batch.reverse))
          else .directory files
      | other => other
    { t with capture, batch := [], batchNumber := t.batchNumber + 1 }

def startPrint (t : Tracker) (file : String) : Tracker :=
  let t := t.writeBatch
  { t with
    prints := t.prints + 1
    printId := file ++ "_" ++ t.freshId (t.prints + 1)
    batchNumber := 0 }

def countLine (t : Tracker) (line : String) : Tracker :=
  { t with count := t.count + 1, lastLine := some line }

def captureLine (t : Tracker) (line : String) (time : Float) : Tracker :=
  if t.isCapturing then
    let t := { t with batch := s!"{t.count},{Decimal.plain time},{line}\n" :: t.batch }
    if t.batchSize ≤ t.batch.length then t.writeBatch else t
  else t

def record (t : Tracker) (line : String) (time : Float) : Tracker :=
  let t := match printFile? line with
    | some file => t.startPrint file
    | none => t
  (t.countLine line).captureLine line time

def flush (t : Tracker) : Tracker :=
  t.writeBatch

def files (t : Tracker) : List (String × String) :=
  match t.capture with
  | .directory files => files.entries
  | .off | .unwritable => []

def status (t : Tracker) (time : Float) : Value :=
  .record [
    ("eventtime", .number time),
    ("current_gcode_line", .ofText? t.lastLine),
    ("current_gcode_line_count", .count t.count),
    ("current_print_id", .text t.printId)]

end Tracker

end HeaterHost.Gcode
