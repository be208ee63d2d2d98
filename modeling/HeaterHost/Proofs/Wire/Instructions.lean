import HeaterHost.Sensor.Basic
import HeaterHost.Simulator.Line
import HeaterHost.Proofs.Decimal.Characters
import HeaterHost.Proofs.Text.Bytes

/-!
# The instructions in a frame

What a host writes is a row of instructions, each a name with or without an argument, and each
ended by a semicolon. A board takes the row apart again just as it was put together. A frame of
orders is told from a query for telemetry, and from the frame that a new session begins with, by
its bytes alone.
-/

namespace HeaterHost.Wire

open Simulator Text

structure Instruction where
  name : String
  arg : Option String := none

namespace Instruction

def text (i : Instruction) : String :=
  match i.arg with
  | none => i.name
  | some arg => i.name ++ " " ++ arg

/-- Name and argument are texts that nothing takes apart. -/
structure Legible (i : Instruction) : Prop where
  name : Solid i.name.toList
  arg : ∀ arg ∈ i.arg, Solid arg.toList

def frameText (row : List Instruction) : String :=
  row.foldr (fun i rest => i.text ++ ";" ++ rest) ""

theorem toList_frameText_cons (i : Instruction) (row : List Instruction) :
    (frameText (i :: row)).toList = i.text.toList ++ ';' :: (frameText row).toList := by
  change (i.text ++ ";" ++ frameText row).toList = _
  rw [String.toList_append, String.toList_append, List.append_assoc]
  rfl

theorem frameText_append (row row' : List Instruction) :
    frameText (row ++ row') = frameText row ++ frameText row' := by
  induction row with
  | nil => exact (String.empty_append).symm
  | cons i row ih =>
      change i.text ++ ";" ++ frameText (row ++ row') = i.text ++ ";" ++ frameText row ++ _
      rw [ih, String.append_assoc, String.append_assoc, String.append_assoc]

namespace Legible

variable {i : Instruction}

theorem bare {name : String} (hname : Solid name.toList) : Legible { name } :=
  ⟨hname, by rintro _ ⟨⟩⟩

theorem withArg {name arg : String} (hname : Solid name.toList) (harg : Solid arg.toList) :
    Legible { name, arg := some arg } := by
  refine ⟨hname, ?_⟩
  rintro _ ⟨⟩
  exact harg

theorem words_text (hi : i.Legible) :
    (words i.text.toList).map String.ofList = i.name :: i.arg.toList := by
  obtain ⟨name, _ | arg⟩ := i
  · rw [text, hi.name.words_eq]
    simp
  · have htext : (name ++ " " ++ arg).toList = name.toList ++ ' ' :: arg.toList := by
      rw [String.toList_append, String.toList_append, List.append_assoc]
      rfl
    rw [text, htext, hi.name.words_append (hi.arg arg rfl)]
    simp

theorem trimmed_text (hi : i.Legible) : trimmed i.text.toList = i.text.toList := by
  obtain ⟨name, _ | arg⟩ := i
  · exact hi.name.trimmed_eq
  · have htext : (name ++ " " ++ arg).toList = name.toList ++ " ".toList ++ arg.toList := by
      rw [String.toList_append, String.toList_append]
    rw [text, htext]
    exact hi.name.trimmed_append (hi.arg arg rfl) _

/-- A character that is neither a semicolon, nor a zero, nor the space before the argument. -/
theorem notMem_text (hi : i.Legible) {c : Char} (hc : isSolid c = false) (hspace : c ≠ ' ') :
    c ∉ i.text.toList := by
  have hno : ∀ cs, Solid cs → c ∉ cs := by
    intro cs hcs hmem
    rw [hcs.all c hmem] at hc
    cases hc
  obtain ⟨name, _ | arg⟩ := i
  · exact hno _ hi.name
  · rw [text, String.toList_append, String.toList_append, List.mem_append, List.mem_append]
    rintro ((hname | hmark) | harg)
    · exact hno _ hi.name hname
    · exact hspace (List.mem_singleton.mp hmark)
    · exact hno _ (hi.arg arg rfl) harg

theorem text_ne_nil (hi : i.Legible) : i.text.toList ≠ [] := by
  intro hnil
  have hwords := hi.words_text
  rw [hnil] at hwords
  cases hwords

end Legible

/-- A board finds in a frame the instructions that were written into it. -/
theorem commands_frameText {row : List Instruction} (hrow : ∀ i ∈ row, i.Legible) :
    Board.commands (frameText row) = row.map fun i => i.text.toList := by
  induction row with
  | nil => rfl
  | cons i row ih =>
      obtain ⟨hi, hrest⟩ := List.forall_mem_cons.mp hrow
      have hsemicolon : ';' ∉ i.text.toList := hi.notMem_text rfl (by decide)
      rw [Board.commands, toList_frameText_cons,
        List.splitOn_append_cons_self_of_not_mem hsemicolon, List.map_cons, hi.trimmed_text,
        List.filter_cons_of_pos (by simpa using hi.text_ne_nil), List.map_cons]
      exact congrArg (i.text.toList :: ·) (ih hrest)

theorem zero_notMem_frameText {row : List Instruction} (hrow : ∀ i ∈ row, i.Legible) :
    '\x00' ∉ (frameText row).toList := by
  induction row with
  | nil => exact List.not_mem_nil
  | cons i row ih =>
      obtain ⟨hi, hrest⟩ := List.forall_mem_cons.mp hrow
      rw [toList_frameText_cons, List.mem_append, List.mem_cons]
      rintro (htext | hmark | hlater)
      · exact hi.notMem_text rfl (by decide) htext
      · cases hmark
      · exact ih hrest hlater

end Instruction

/-! ### What a command sets -/

namespace DeviceCommand

variable {α : Type}

def power? : DeviceCommand α → Option α
  | setPower power => some power
  | _ => none

def target? : DeviceCommand α → Option α
  | setTarget degrees => some degrees
  | _ => none

def gains? : DeviceCommand α → Option (Gains α)
  | setGains gains => some gains
  | _ => none

def frequency? : DeviceCommand α → Option Nat
  | setFrequency hertz => some hertz
  | _ => none

end DeviceCommand

/-! ### Commands as rows of instructions -/

namespace DeviceCommand

def instructions : DeviceCommand Float → List Instruction
  | queryTelemetry => [{ name := "d" }]
  | setTarget degrees => [{ name := "s", arg := some (Decimal.precise degrees) }]
  | setPower power => [{ name := "pwr", arg := some (Decimal.fixed 3 power) }]
  | setGains gains => [
      { name := "kp", arg := some (Decimal.precise gains.kp) },
      { name := "ki", arg := some (Decimal.precise gains.ki) },
      { name := "kd", arg := some (Decimal.precise gains.kd) }]
  | resetErrorFlags => [{ name := "q" }]
  | setFrequency hertz => [{ name := "f", arg := some (Nat.repr hertz) }]
  | firmwareVersion => [{ name := "v" }]
  | readPidValues => [{ name := "a" }]

theorem legible_instructions (command : DeviceCommand Float) :
    ∀ i ∈ command.instructions, i.Legible := by
  cases command with
  | setTarget degrees =>
      exact List.forall_mem_singleton.mpr
        (.withArg (.of_all (by decide)) (Decimal.solid_precise degrees))
  | setPower power =>
      exact List.forall_mem_singleton.mpr
        (.withArg (.of_all (by decide)) (Decimal.solid_fixed 3 power))
  | setGains gains =>
      simp only [instructions, List.forall_mem_cons]
      exact ⟨.withArg (.of_all (by decide)) (Decimal.solid_precise gains.kp),
        .withArg (.of_all (by decide)) (Decimal.solid_precise gains.ki),
        .withArg (.of_all (by decide)) (Decimal.solid_precise gains.kd), by simp⟩
  | setFrequency hertz =>
      exact List.forall_mem_singleton.mpr
        (.withArg (.of_all (by decide)) (Decimal.solid_repr hertz))
  | _ => exact List.forall_mem_singleton.mpr (.bare (.of_all (by decide)))

/-- With the semicolon that every frame ends in, a command is written as its instructions. -/
theorem text_eq (command : DeviceCommand Float) :
    command.text ++ ";" = Instruction.frameText command.instructions := by
  cases command with
  | setGains gains =>
      rw [← String.toList_inj]
      simp [text, instructions, Instruction.frameText, Instruction.text, toString]
  | setFrequency hertz =>
      rw [← String.toList_inj]
      simp [text, instructions, Instruction.frameText, Instruction.text, toString]
  | _ =>
      rw [← String.toList_inj]
      simp [text, instructions, Instruction.frameText, Instruction.text]

/-! ### Frames by their bytes -/

def body (command : DeviceCommand Float) : List UInt8 :=
  bytes (command.text ++ ";")

def letter {α : Type} : DeviceCommand α → Char
  | queryTelemetry => 'd'
  | setTarget _ => 's'
  | setPower _ => 'p'
  | setGains _ => 'k'
  | resetErrorFlags => 'q'
  | setFrequency _ => 'f'
  | firmwareVersion => 'v'
  | readPidValues => 'a'

theorem names_instructions {command : DeviceCommand Float} (hquery : command.letter ≠ 'd')
    (hpower : command.letter ≠ 'p') : ∀ i ∈ command.instructions, i.name ≠ "d" ∧ i.name ≠ "pwr" := by
  cases command with
  | queryTelemetry => exact absurd rfl hquery
  | setPower power => exact absurd rfl hpower
  | _ => simp [instructions]

theorem head?_text (command : DeviceCommand Float) :
    command.text.toList.head? = some command.letter := by
  cases command <;> simp [text, letter, toString]

theorem text_eq_of_body_eq {text text' : String} (hbody : bytes (text ++ ";") = bytes (text' ++ ";")) :
    text = text' := by
  have htext := congrArg String.toList (bytes_injective hbody)
  rw [String.toList_append, String.toList_append] at htext
  exact String.toList_inj.mp (List.append_cancel_right htext)

theorem letter_eq_of_body_eq {command other : DeviceCommand Float}
    (hbody : command.body = other.body) : command.letter = other.letter := by
  have hhead := command.head?_text
  rw [text_eq_of_body_eq hbody, head?_text] at hhead
  exact (Option.some.inj hhead).symm

theorem body_ne_query {command : DeviceCommand Float} (hcommand : command ≠ .queryTelemetry) :
    command.body ≠ queryTelemetry.body := by
  intro hbody
  have hletter := letter_eq_of_body_eq hbody
  cases command with
  | queryTelemetry => exact hcommand rfl
  | _ => simp [letter] at hletter

end DeviceCommand

/-- The text of the frame that gives a board its gains and resets its flags. -/
def uploadText (gains : Gains Float) : String :=
  (DeviceCommand.setGains gains).text ++ ";" ++ DeviceCommand.text .resetErrorFlags

def uploadBody (gains : Gains Float) : List UInt8 :=
  bytes (uploadText gains ++ ";")

theorem head?_uploadText (gains : Gains Float) : (uploadText gains).toList.head? = some 'k' := by
  simp [uploadText, DeviceCommand.text, toString]

/-- No command is written as that frame: only gains start like it, and they end in a number. -/
theorem text_ne_uploadText (command : DeviceCommand Float) (gains : Gains Float) :
    command.text ≠ uploadText gains := by
  intro htext
  have hletter := command.head?_text
  rw [htext, head?_uploadText] at hletter
  cases command with
  | setGains other =>
      obtain ⟨front, last, hlast⟩ := (Decimal.solid_precise other.kd).eq_concat
      have hnumeral : Decimal.isNumeral last = true :=
        Decimal.allNumeral_text _ other.kd last (by
          change last ∈ (Decimal.precise other.kd).toList
          rw [hlast]
          simp)
      have hleft : (DeviceCommand.setGains other).text.toList.getLast? = some last := by
        simp [DeviceCommand.text, toString, hlast, List.getLast?_append, List.getLast?_cons]
      have hright : (uploadText gains).toList.getLast? = some 'q' := by
        simp [uploadText, DeviceCommand.text, List.getLast?_append]
      rw [htext, hright] at hleft
      cases hleft
      cases hnumeral
  | _ => simp [DeviceCommand.letter] at hletter

theorem body_ne_uploadBody (command : DeviceCommand Float) (gains : Gains Float) :
    command.body ≠ uploadBody gains := by
  intro hbody
  exact text_ne_uploadText command gains (DeviceCommand.text_eq_of_body_eq hbody)

/-- Whether a frame is one that somebody ordered: neither a query for telemetry nor the frame that
a board is first given. -/
def isOrder (gains : Gains Float) (body : List UInt8) : Bool :=
  body != DeviceCommand.queryTelemetry.body && body != uploadBody gains

inductive Sent (gains : Gains Float) : List UInt8 → Prop
  | query : Sent gains DeviceCommand.queryTelemetry.body
  | upload : Sent gains (uploadBody gains)
  | order (command : DeviceCommand Float) (hcommand : command ≠ .queryTelemetry) :
      Sent gains command.body

theorem isOrder_query (gains : Gains Float) :
    isOrder gains DeviceCommand.queryTelemetry.body = false := by
  simp [isOrder]

theorem isOrder_upload (gains : Gains Float) : isOrder gains (uploadBody gains) = false := by
  simp [isOrder]

theorem isOrder_body (gains : Gains Float) {command : DeviceCommand Float}
    (hcommand : command ≠ .queryTelemetry) : isOrder gains command.body = true := by
  have hquery := DeviceCommand.body_ne_query hcommand
  have hupload := body_ne_uploadBody command gains
  simp [isOrder, hquery, hupload]

/-! ### Frames on a line -/

theorem uploadText_eq (gains : Gains Float) :
    uploadText gains ++ ";" = Instruction.frameText
      ((DeviceCommand.setGains gains).instructions ++ DeviceCommand.resetErrorFlags.instructions) := by
  rw [Instruction.frameText_append, ← DeviceCommand.text_eq, ← DeviceCommand.text_eq, uploadText,
    String.append_assoc]

theorem encodeFrame_eq (text : String) : encodeFrame text = bytes (text ++ ";") ++ [terminator] := by
  have hsemicolon : bytes ";" = [';'.toUInt8] := by
    rw [bytes_eq]
    rfl
  rw [bytes_append, hsemicolon, List.append_assoc]
  rfl

/-- A line without a zero in it goes over the wire as one frame. -/
theorem bodies_encodeFrame {text : String} (htext : '\x00' ∉ (text ++ ";").toList) :
    BoardLine.bodies (encodeFrame text) = [bytes (text ++ ";")] := by
  have hzero : terminator ∉ bytes (text ++ ";") := by
    intro hmem
    exact htext (zero_mem_bytes_iff.mp hmem)
  rw [BoardLine.bodies, encodeFrame_eq, List.splitOn_append_cons_self_of_not_mem hzero,
    List.splitOn_nil]
  rfl

theorem bodies_command (command : DeviceCommand Float) :
    BoardLine.bodies (encodeFrame command.text) = [command.body] := by
  refine bodies_encodeFrame ?_
  rw [command.text_eq]
  exact Instruction.zero_notMem_frameText command.legible_instructions

theorem bodies_upload (gains : Gains Float) :
    BoardLine.bodies (encodeFrame (uploadText gains)) = [uploadBody gains] := by
  refine bodies_encodeFrame ?_
  rw [uploadText_eq]
  exact Instruction.zero_notMem_frameText (List.forall_mem_append.mpr
    ⟨DeviceCommand.legible_instructions _, DeviceCommand.legible_instructions _⟩)

end HeaterHost.Wire
