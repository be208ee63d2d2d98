import HeaterHost.Proofs.Decimal.RoundTrip
import HeaterHost.Proofs.Simulator.Board
import HeaterHost.Proofs.Text.Numeral

/-!
# What a board does for the commands in a frame

A board that does not misbehave performs the commands that were packed into a frame, one after the
other, with the very numbers that the host had in mind; only a power is rounded on its way.
-/

namespace HeaterHost

open Text Wire

namespace Wire.DeviceCommand

/-- The flags that a command leaves. -/
def flags? : DeviceCommand Float → Option String
  | resetErrorFlags => some "000000"
  | _ => none

def isTelemetryQuery : DeviceCommand Float → Bool
  | queryTelemetry => true
  | _ => false

/-- Whether a command asks for an answer. -/
def isQuery : DeviceCommand Float → Bool
  | queryTelemetry | firmwareVersion | readPidValues => true
  | _ => false

/-- Whether the time up to a command counts for the temperature. -/
def heats : DeviceCommand Float → Bool
  | queryTelemetry | setPower _ => true
  | _ => false

/-- A frequency has 32 bits. -/
def Fits (command : DeviceCommand Float) : Prop :=
  ∀ hertz, command = setFrequency hertz → hertz < 2 ^ 32

/-- The text of a frame with several commands in it. -/
def packed (commands : List (DeviceCommand Float)) : String :=
  ";".intercalate (commands.map text)

end Wire.DeviceCommand

namespace Simulator.Board

/-- The power that a board sets for a command: in three places, and between zero and one. -/
def limited (power : Float) : Float :=
  Scalar.clamp 0.0 1.0 (Decimal.rounded 3 power)

/-- What a board does for a command, and what it answers. -/
def perform (b : Board) (now : Instant) : DeviceCommand Float → Board × List String
  | .queryTelemetry =>
      let b := { b.advance now with tick := b.tick + 1 }
      (b, b.telemetry {})
  | .setTarget degrees => ({ b with target := degrees }, [])
  | .setPower power => ({ b.advance now with power := limited power }, [])
  | .setGains gains => ({ b with gains }, [])
  | .resetErrorFlags => ({ b with flags := "000000" }, [])
  | .setFrequency hertz => ({ b with frequency := hertz }, [])
  | .firmwareVersion => (b, ["version: " ++ firmware])
  | .readPidValues => (b, [b.gainsLine])

/-- Performs commands in order, each at its time. -/
def performAll (b : Board) : List (Instant × DeviceCommand Float) → Board × List String
  | [] => (b, [])
  | (now, command) :: rest =>
      let (b, replies) := b.perform now command
      let (b, more) := b.performAll rest
      (b, replies ++ more)

/-- Commands that are all performed at one time. -/
def timed (now : Instant) (commands : List (DeviceCommand Float)) :
    List (Instant × DeviceCommand Float) :=
  commands.map fun command => (now, command)

theorem timed_append (now : Instant) (commands later : List (DeviceCommand Float)) :
    timed now (commands ++ later) = timed now commands ++ timed now later :=
  List.map_append

theorem map_snd_timed (now : Instant) (commands : List (DeviceCommand Float)) :
    (timed now commands).map (·.2) = commands := by
  rw [timed, List.map_map]
  exact List.map_id commands

variable {b : Board} {now : Instant}

theorem performAll_append (schedule later : List (Instant × DeviceCommand Float)) :
    b.performAll (schedule ++ later) =
      (((b.performAll schedule).1.performAll later).1,
        (b.performAll schedule).2 ++ ((b.performAll schedule).1.performAll later).2) := by
  induction schedule generalizing b with
  | nil => rfl
  | cons entry schedule ih =>
      simp only [List.cons_append, performAll, ih, List.append_assoc]

/-! ### Frames -/

theorem obeyAll_append {s : Switches} {words : List (List Char)} (rest : List (List Char))
    {b' : Board} {replies : List String} (hall : b.obeyAll s now words = (b', some replies)) :
    b.obeyAll s now (words ++ rest) =
      ((b'.obeyAll s now rest).1, (b'.obeyAll s now rest).2.map (replies ++ ·)) := by
  induction words generalizing b replies with
  | nil =>
      cases hall
      simp
  | cons command words ih =>
      rw [obeyAll] at hall
      rw [List.cons_append, obeyAll]
      dsimp only at hall ⊢
      split at hall
      case h_1 => cases hall
      case h_2 middle first hobey =>
        cases hlater : middle.obeyAll s now words with
        | mk last answer =>
            rw [hlater] at hall
            cases answer with
            | none => cases hall
            | some more =>
                cases hall
                rw [ih hlater, Option.map_map]
                congr 2
                funext replies
                simp

theorem obeyAll_singleton {s : Switches} {i : Instruction} (hi : i.Legible) {b' : Board}
    {replies : List String} (hobey : b.obey s now i.text i.name i.arg = some (b', replies)) :
    b.obeyAll s now [i.text.toList] = (b', some replies) := by
  rw [obeyAll_cons b s now hi, hobey]
  simp [obeyAll]

theorem unsigned32?_repr {n : Nat} (hn : n < 2 ^ 32) : unsigned32? (Nat.repr n) = some n :=
  unsigned?_eq_some_iff.mpr ⟨unsigned_repr n, hn⟩

/-- The words of a command make a board perform it. -/
theorem obeyAll_instructions {command : DeviceCommand Float} (hfits : command.Fits)
    (htick : command.isTelemetryQuery = true → b.tick < lastTick) :
    b.obeyAll {} now (command.instructions.map fun i => i.text.toList) =
      ((b.perform now command).1, some (b.perform now command).2) := by
  have hlegible := command.legible_instructions
  have hprecise : ∀ x, Decimal.read? (Decimal.precise x) = some x := Decimal.read?_precise
  cases command with
  | queryTelemetry =>
      have hlt : (b.advance now).tick < lastTick := htick rfl
      apply obeyAll_singleton (hlegible _ List.mem_cons_self)
      simp only [obey, hlt, ↓reduceIte]
      rfl
  | setTarget degrees =>
      apply obeyAll_singleton (hlegible _ List.mem_cons_self)
      simp only [obey, hprecise, setting]
      rfl
  | setPower power =>
      apply obeyAll_singleton (hlegible _ List.mem_cons_self)
      simp only [obey, Decimal.read?_fixed, setting]
      rfl
  | setGains gains =>
      simp only [DeviceCommand.instructions, List.forall_mem_cons] at hlegible
      obtain ⟨hkp, hki, hkd, -⟩ := hlegible
      simp only [DeviceCommand.instructions, List.map_cons, List.map_nil]
      rw [obeyAll_cons b {} now hkp]
      simp only [obey, hprecise, setting]
      rw [obeyAll_cons _ {} now hki]
      simp only [obey, hprecise, setting]
      rw [obeyAll_singleton hkd (by simp only [obey, hprecise, setting]; rfl)]
      rfl
  | setFrequency hertz =>
      apply obeyAll_singleton (hlegible _ List.mem_cons_self)
      simp only [obey, unsigned32?_repr (hfits hertz rfl), setting]
      rfl
  | resetErrorFlags => exact obeyAll_singleton (hlegible _ List.mem_cons_self) rfl
  | firmwareVersion => exact obeyAll_singleton (hlegible _ List.mem_cons_self) rfl
  | readPidValues => exact obeyAll_singleton (hlegible _ List.mem_cons_self) rfl

theorem tick_perform (command : DeviceCommand Float) :
    (b.perform now command).1.tick = b.tick + if command.isTelemetryQuery then 1 else 0 := by
  cases command <;> rfl

/-- A row of instructions makes a board perform the commands that it comes from. -/
theorem obeyAll_group {group : List (DeviceCommand Float)}
    (hfits : ∀ command ∈ group, command.Fits)
    (htick : b.tick + group.countP DeviceCommand.isTelemetryQuery ≤ lastTick) :
    b.obeyAll {} now ((group.flatMap DeviceCommand.instructions).map fun i => i.text.toList) =
      ((b.performAll (timed now group)).1,
        some (b.performAll (timed now group)).2) := by
  induction group generalizing b with
  | nil => rfl
  | cons command group ih =>
      obtain ⟨hcommand, hrest⟩ := List.forall_mem_cons.mp hfits
      rw [List.countP_cons] at htick
      have hfirst := @obeyAll_instructions b now command hcommand (by
        intro hquery
        rw [if_pos hquery] at htick
        omega)
      rw [List.flatMap_cons, List.map_append, obeyAll_append _ hfirst, ih hrest (by
        rw [tick_perform]
        omega)]
      rfl

/-! ### Packed frames -/

theorem packed_cons_cons (command next : DeviceCommand Float) (group : List (DeviceCommand Float)) :
    DeviceCommand.packed (command :: next :: group) ++ ";" =
      command.text ++ ";" ++ (DeviceCommand.packed (next :: group) ++ ";") := by
  rw [DeviceCommand.packed, List.map_cons, List.map_cons, String.intercalate_cons_cons,
    String.append_assoc]
  rfl

theorem packed_eq_frameText {group : List (DeviceCommand Float)} (hne : group ≠ []) :
    DeviceCommand.packed group ++ ";" =
      Instruction.frameText (group.flatMap DeviceCommand.instructions) := by
  induction group with
  | nil => exact absurd rfl hne
  | cons command group ih =>
      rw [List.flatMap_cons, Instruction.frameText_append, ← DeviceCommand.text_eq]
      cases group with
      | nil =>
          rw [DeviceCommand.packed, List.map_singleton, String.intercalate_singleton]
          exact (String.append_empty).symm
      | cons next group => rw [packed_cons_cons, ih (List.cons_ne_nil next group)]

theorem legible_group (group : List (DeviceCommand Float)) :
    ∀ i ∈ group.flatMap DeviceCommand.instructions, i.Legible := by
  intro i hi
  obtain ⟨command, -, hmem⟩ := List.mem_flatMap.mp hi
  exact command.legible_instructions i hmem

/-- A frame without a command is a lone semicolon, in which there is nothing to obey. -/
theorem packed_nil : DeviceCommand.packed [] ++ ";" = ";" := by
  rw [DeviceCommand.packed, List.map_nil, String.intercalate_nil, String.empty_append]

theorem zero_notMem_packed (group : List (DeviceCommand Float)) :
    '\x00' ∉ (DeviceCommand.packed group ++ ";").toList := by
  by_cases hne : group = []
  · rw [hne, packed_nil]
    decide
  · rw [packed_eq_frameText hne]
    exact Instruction.zero_notMem_frameText (legible_group group)

/-- **A frame makes a board perform the commands that were packed into it.** -/
theorem handle_packed {group : List (DeviceCommand Float)} (hfits : ∀ command ∈ group, command.Fits)
    (htick : b.tick + group.countP DeviceCommand.isTelemetryQuery ≤ lastTick) :
    b.handle {} now (DeviceCommand.packed group ++ ";") =
      ((b.performAll (timed now group)).1,
        some (b.performAll (timed now group)).2) := by
  by_cases hne : group = []
  · rw [hne, packed_nil]
    rfl
  · rw [packed_eq_frameText hne, handle, Instruction.commands_frameText (legible_group group)]
    exact obeyAll_group hfits htick

/-! ### What commands leave -/

/-- A line that answers a query, and is not mistaken for an error. -/
inductive AnswerTo : DeviceCommand Float → String → Prop
  | telemetry {reply : String} (hreply : isTelemetry reply = true) :
      AnswerTo .queryTelemetry reply
  | version : AnswerTo .firmwareVersion ("version: " ++ firmware)
  | gains (b : Board) : AnswerTo .readPidValues b.gainsLine

theorem AnswerTo.not_error {command : DeviceCommand Float} {reply : String}
    (hanswer : AnswerTo command reply) : isDeviceError reply = false := by
  cases hanswer with
  | telemetry hreply =>
      cases htext : reply.toList with
      | nil => simp [isDeviceError, htext, afterStart]
      | cons c rest =>
          have hc : c = 't' := by
            by_contra hne
            simp [isTelemetry, htext, afterStart, Ne.symm hne] at hreply
          simp [isDeviceError, htext, afterStart, hc]
  | version => rfl
  | gains b => simp [isDeviceError, gainsLine, afterStart, toString]

theorem not_error_of_answers {commands : List (DeviceCommand Float)} {replies : List String}
    (hanswers : List.Forall₂ AnswerTo commands replies) :
    ∀ reply ∈ replies, isDeviceError reply = false := by
  induction hanswers with
  | nil => exact fun _ hmem => absurd hmem List.not_mem_nil
  | cons hanswer _ ih => exact List.forall_mem_cons.mpr ⟨hanswer.not_error, ih⟩

theorem isTelemetry_telemetry (b : Board) :
    ∃ reply, b.telemetry {} = [reply] ∧ isTelemetry reply = true := by
  refine ⟨_, rfl, ?_⟩
  simp [isTelemetry, afterStart, toString]

theorem answers_perform (command : DeviceCommand Float) :
    List.Forall₂ AnswerTo ([command].filter DeviceCommand.isQuery) (b.perform now command).2 := by
  cases command with
  | queryTelemetry =>
      obtain ⟨reply, hreply, htelemetry⟩ :=
        isTelemetry_telemetry { b.advance now with tick := b.tick + 1 }
      change List.Forall₂ AnswerTo [.queryTelemetry]
        ({ b.advance now with tick := b.tick + 1 }.telemetry {})
      rw [hreply]
      exact .cons (.telemetry htelemetry) .nil
  | firmwareVersion => exact .cons .version .nil
  | readPidValues => exact .cons (.gains b) .nil
  | _ => exact .nil

variable {schedule : List (Instant × DeviceCommand Float)}

/-- What nothing but some commands sets has the value of the last of them. -/
theorem last_performAll {β : Type} {field : Board → β} {set? : DeviceCommand Float → Option β}
    (hstep : ∀ (b : Board) (now : Instant) (command : DeviceCommand Float),
      field (b.perform now command).1 = (set? command).getD (field b)) :
    field (b.performAll schedule).1 =
      ((schedule.map (·.2)).filterMap set?).getLastD (field b) := by
  induction schedule generalizing b with
  | nil => rfl
  | cons entry schedule ih =>
      obtain ⟨now, command⟩ := entry
      rw [performAll, List.map_cons]
      dsimp only
      rw [ih, hstep]
      cases hset : set? command with
      | none => rw [List.filterMap_cons_none hset, Option.getD_none]
      | some value => rw [List.filterMap_cons_some hset, List.getLastD_cons, Option.getD_some]

theorem answers_performAll :
    List.Forall₂ AnswerTo ((schedule.map (·.2)).filter DeviceCommand.isQuery)
      (b.performAll schedule).2 := by
  induction schedule generalizing b with
  | nil => exact .nil
  | cons entry schedule ih =>
      obtain ⟨now, command⟩ := entry
      rw [List.map_cons, ← List.singleton_append, List.filter_append]
      exact List.rel_append (answers_perform command) ih

theorem tick_performAll :
    (b.performAll schedule).1.tick =
      b.tick + (schedule.map (·.2)).countP DeviceCommand.isTelemetryQuery := by
  induction schedule generalizing b with
  | nil => rfl
  | cons entry schedule ih =>
      obtain ⟨now, command⟩ := entry
      rw [performAll, List.map_cons, List.countP_cons]
      dsimp only
      rw [ih, tick_perform]
      omega

theorem model_performAll (hidle : ∀ entry ∈ schedule, entry.2.heats = false) :
    (b.performAll schedule).1.model = b.model ∧
      (b.performAll schedule).1.lastStep = b.lastStep := by
  induction schedule generalizing b with
  | nil => exact ⟨rfl, rfl⟩
  | cons entry schedule ih =>
      obtain ⟨now, command⟩ := entry
      obtain ⟨hcommand, hrest⟩ := List.forall_mem_cons.mp hidle
      obtain ⟨hmodel, hstep⟩ := ih (b := (b.perform now command).1) hrest
      rw [performAll]
      dsimp only
      rw [hmodel, hstep]
      cases command with
      | queryTelemetry => cases hcommand
      | setPower => cases hcommand
      | _ => exact ⟨rfl, rfl⟩

theorem limited_range (power : Float) :
    if power.isNaN then limited power = power else 0.0 ≤ limited power ∧ limited power ≤ 1.0 := by
  have hbounds : (0.0 : Float) ≤ 1.0 := by decide +kernel
  split
  case isTrue hnan => rw [limited, Decimal.rounded_of_isNaN hnan, Double.clamp_of_isNaN hnan]
  case isFalse hnumber =>
    apply Double.clamp_bounds hbounds
    rw [Decimal.isNaN_rounded]
    exact Bool.eq_false_of_not_eq_true hnumber

/-- What is left when a board has performed commands: every setting is that of the last command for
it, and only the queries are answered. -/
structure Performed (b : Board) (commands : List (DeviceCommand Float)) (b' : Board)
    (replies : List String) : Prop where
  target : b'.target = (commands.filterMap DeviceCommand.target?).getLastD b.target
  gains : b'.gains = (commands.filterMap DeviceCommand.gains?).getLastD b.gains
  frequency : b'.frequency = (commands.filterMap DeviceCommand.frequency?).getLastD b.frequency
  flags : b'.flags = (commands.filterMap DeviceCommand.flags?).getLastD b.flags
  power : b'.power = ((commands.filterMap DeviceCommand.power?).map limited).getLastD b.power
  range : ∀ power, (commands.filterMap DeviceCommand.power?).getLast? = some power →
    if power.isNaN then b'.power = power else 0.0 ≤ b'.power ∧ b'.power ≤ 1.0
  tick : b'.tick = b.tick + commands.countP DeviceCommand.isTelemetryQuery
  model : (∀ command ∈ commands, command.heats = false) →
    b'.model = b.model ∧ b'.lastStep = b.lastStep
  answers : List.Forall₂ AnswerTo (commands.filter DeviceCommand.isQuery) replies

theorem performed (b : Board) (schedule : List (Instant × DeviceCommand Float)) :
    b.Performed (schedule.map (·.2)) (b.performAll schedule).1 (b.performAll schedule).2 := by
  have hpower : (b.performAll schedule).1.power =
      (((schedule.map (·.2)).filterMap DeviceCommand.power?).map limited).getLastD b.power := by
    rw [List.map_filterMap]
    refine last_performAll ?_
    intro b now command
    cases command <;> rfl
  refine ⟨last_performAll ?_, last_performAll ?_, last_performAll ?_, last_performAll ?_, hpower,
    ?_, tick_performAll, ?_, answers_performAll⟩
  · intro b now command
    cases command <;> rfl
  · intro b now command
    cases command <;> rfl
  · intro b now command
    cases command <;> rfl
  · intro b now command
    cases command <;> rfl
  · intro power hlast
    rw [hpower, List.getLastD_eq_getLast?, List.getLast?_map, hlast]
    exact limited_range power
  · intro hidle
    exact model_performAll (fun entry hentry => hidle entry.2 (List.mem_map_of_mem hentry))

end Simulator.Board

end HeaterHost
