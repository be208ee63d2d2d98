import HeaterHost.Proofs.Sensor.Books

/-!
# The delivery of commands

A write that returns only says that a frame is on the line. When a step leaves a valid sample
nothing on the line is unread any more, and the commands that came before the step were handled in
their order exactly if none of their frames went down with a session. Nobody writes a frame again
that was lost, so that a lost zero stays lost.
-/

namespace HeaterHost

open Simulator Wire

/-- A sensor on a lossy line, with what was asked of it. -/
structure Exchange where
  sensor : Sensor LossyLine
  /-- Until when the step that has begun waits for its answer. -/
  waiting : Option Instant := none
  /-- All commands that were pushed, oldest first. -/
  pushed : List (DeviceCommand Float) := []
  /-- Those among them that came before the last step began. -/
  due : List (DeviceCommand Float) := []

inductive ExchangeEvent where
  | push (command : DeviceCommand Float)
  | beginStep
  | finishStep
  | move (m : Move)

namespace Exchange

/-- The exchange after an event. A step begins only when the one before it is over. -/
def perform (x : Exchange) : ExchangeEvent → Exchange
  | .push command =>
      { x with sensor := x.sensor.push command, pushed := x.pushed ++ [command] }
  | .beginStep =>
      match x.waiting with
      | some _ => x
      | none =>
          let (sensor, ending) := x.sensor.begin
          { x with sensor, waiting := ending.toOption, due := x.pushed }
  | .finishStep =>
      match x.waiting with
      | none => x
      | some deadline => { x with sensor := (x.sensor.finish deadline).1, waiting := none }
  | .move m =>
      { x with sensor := { x.sensor with
        session := { x.sensor.session with wire := x.sensor.session.wire.move m } } }

def replay (x : Exchange) (events : List ExchangeEvent) : Exchange :=
  events.foldl perform x

/-- A sensor that has not been used, on a line with the given turns to a board. -/
def start (name : String) (gains : Gains Float) (reportTime : Span) (capacity : Nat)
    (board : Board) (turns : List Turn) : Exchange :=
  { sensor := Sensor.create name ("sim:" ++ name) gains reportTime capacity
      { far := { name, board }, turns } }

def line (x : Exchange) : LossyLine :=
  x.sensor.session.wire

end Exchange

/-! ### Handled and lost frames -/

namespace Simulator.LossyLine

variable {gains : Gains Float} {l : LossyLine}

/-- Once nothing is unread, every frame was either handled or lost. -/
theorem countP_written (hunread : l.unread = []) (p : List UInt8 → Bool) :
    l.written.countP p = l.handled.countP p + l.lost.countP p := by
  rw [written, handled, lost, hunread, List.append_nil]
  induction l.fates with
  | nil => rfl
  | cons fate fates ih =>
      obtain ⟨body, flag⟩ := fate
      cases flag <;> simp [List.countP_cons] at ih ⊢ <;> omega

theorem mem_lost {body : List UInt8} : body ∈ l.lost ↔ (body, false) ∈ l.fates := by
  simp [lost]

theorem orders_eq_of_none_lost (hunread : l.unread = [])
    (hnone : ∀ body ∈ l.orders gains, body ∉ l.lost) :
    l.orders gains = l.handled.filter (isOrder gains) := by
  have hfates : l.fates.filter (isOrder gains ∘ (·.1)) =
      (l.fates.filter (·.2)).filter (isOrder gains ∘ (·.1)) := by
    rw [List.filter_filter]
    apply List.filter_congr
    rintro ⟨body, flag⟩ hfate
    cases flag with
    | true => simp
    | false =>
        have hwritten : body ∈ l.written :=
          List.mem_append_left _ (List.mem_map.mpr ⟨_, hfate, rfl⟩)
        have hnot : ¬ isOrder gains body = true := by
          intro horder
          have hmem : body ∈ l.orders gains := List.mem_filter.mpr ⟨hwritten, horder⟩
          exact hnone body hmem (mem_lost.mpr hfate)
        simp [hnot]
  rw [orders, written, hunread, List.append_nil, List.filter_map, hfates, handled,
    List.filter_map]

/-- The orders were all handled, in their order, exactly if none of them was lost. -/
theorem orders_sublist_handled_iff (hunread : l.unread = []) :
    (l.orders gains).Sublist l.handled ↔ ∀ body ∈ l.orders gains, body ∉ l.lost := by
  constructor
  · intro hsublist body hbody hlost
    have horder : isOrder gains body = true := (List.mem_filter.mp hbody).2
    have hlength : (l.orders gains).length ≤ l.handled.countP (isOrder gains) := by
      have hkept := (hsublist.filter (isOrder gains)).length_le
      simp only [orders, List.filter_filter, Bool.and_self] at hkept
      rwa [List.countP_eq_length_filter]
    have hcount := countP_written hunread (isOrder gains)
    have hpos : 0 < l.lost.countP (isOrder gains) :=
      List.countP_pos_iff.mpr ⟨body, hlost, horder⟩
    rw [orders, ← List.countP_eq_length_filter] at hlength
    omega
  · intro hnone
    rw [orders_eq_of_none_lost hunread hnone]
    exact List.filter_sublist

/-- The board has the power of the last power frame, if that one was not lost. -/
theorem Sound.power_of_orders (hsound : l.Sound gains) (hunread : l.unread = [])
    {earlier later : List (DeviceCommand Float)} {power : Float}
    (horders : l.orders gains = (earlier ++ .setPower power :: later).map DeviceCommand.body)
    (hlast : ∀ command ∈ later, ∀ other, command ≠ .setPower other)
    (hkept : (DeviceCommand.setPower power).body ∉ l.lost) :
    l.far.board.power = Board.toldPower power := by
  rw [orders, written, hunread, List.append_nil, List.map_append, List.map_cons] at horders
  obtain ⟨front, back, hsplit, -, hback⟩ := List.filter_eq_append_iff.mp horders
  obtain ⟨skipped, rest, rfl, -, -, hrest⟩ := List.filter_eq_cons_iff.mp hback
  rw [← List.append_assoc] at hsplit
  obtain ⟨before, after, hfates, -, hafter⟩ := List.map_eq_append_iff.mp hsplit
  obtain ⟨⟨body, flag⟩, final, rfl, rfl, hfinal⟩ := List.map_eq_cons_iff.mp hafter
  have hflag : flag = true := by
    cases flag with
    | true => rfl
    | false =>
        refine absurd (mem_lost.mpr ?_) hkept
        rw [hfates]
        exact List.mem_append_right _ List.mem_cons_self
  subst hflag
  refine hsound.tells ((before.filter (·.2)).map (·.1)) power ((final.filter (·.2)).map (·.1)) ?_ ?_
  · rw [handled, hfates, List.filter_append, List.map_append, List.filter_cons_of_pos rfl,
      List.map_cons]
  · rintro body hbody other rfl
    have hmem : (DeviceCommand.setPower other).body ∈ rest := by
      rw [← hfinal]
      exact List.map_subset _ List.filter_sublist.subset hbody
    have horder : isOrder gains (DeviceCommand.setPower other).body = true :=
      isOrder_body gains (by rintro ⟨⟩)
    have hlater := List.mem_filter.mpr ⟨hmem, horder⟩
    rw [hrest] at hlater
    obtain ⟨command, hcommand, hbody'⟩ := List.mem_map.mp hlater
    have hletter := DeviceCommand.letter_eq_of_body_eq hbody'
    cases command with
    | setPower set => exact hlast _ hcommand set rfl
    | _ => simp [DeviceCommand.letter] at hletter

end Simulator.LossyLine

namespace Exchange

/-- The books of an exchange. While a step waits, its query is the last frame on the line, and the
orders that were written are those that were due when it began. -/
structure Kept (gains : Gains Float) (x : Exchange) : Prop where
  books : x.sensor.Booked gains (if x.waiting.isSome then 1 else 0) x.pushed
  pushed : ∀ command ∈ x.pushed, command ≠ .queryTelemetry
  asked : x.waiting.isSome = true →
    x.sensor.session.link.isOpen = true ∧ Session.Asked x.line.unread
  due : x.waiting.isSome = true → x.line.orders gains = x.due.map DeviceCommand.body

variable {gains : Gains Float} {x : Exchange}

theorem Kept.push (hx : x.Kept gains) {command : DeviceCommand Float}
    (hcommand : command ≠ .queryTelemetry) : (x.perform (.push command)).Kept gains := by
  have hsession : (x.sensor.push command).session = x.sensor.session := by
    unfold Sensor.push
    split <;> rfl
  refine ⟨hx.books.push hcommand, ?_, fun hwaiting => ?_, fun hwaiting => ?_⟩
  · exact List.forall_mem_append.mpr ⟨hx.pushed, List.forall_mem_singleton.mpr hcommand⟩
  · change (x.sensor.push command).session.link.isOpen = true ∧
      Session.Asked (x.sensor.push command).session.wire.unread
    rw [hsession]
    exact hx.asked hwaiting
  · change (x.sensor.push command).session.wire.orders gains = _
    rw [hsession]
    exact hx.due hwaiting

theorem Kept.beginStep (hx : x.Kept gains) : (x.perform .beginStep).Kept gains := by
  unfold perform
  dsimp only
  cases hwaiting : x.waiting with
  | some deadline => exact hx
  | none =>
      have hbooks := hx.books
      rw [hwaiting] at hbooks
      cases hbegin : x.sensor.begin with
      | mk sensor ending =>
          rcases Sensor.begin_books hbooks hbegin with ⟨hnone, hover⟩ | ⟨hsome, hrest⟩
          · dsimp only
            rw [hnone]
            exact ⟨hover, hx.pushed, nofun, nofun⟩
          · obtain ⟨hasked, hopen, hlast, hpending, hqueue⟩ := hrest
            refine ⟨?_, hx.pushed, fun _ => ⟨hopen, hlast⟩, fun _ => ?_⟩
            · dsimp only
              rw [if_pos hsome]
              exact hasked
            · have hledger := hasked.ledger
              rw [hpending, hqueue, List.append_nil, List.map_nil, List.append_nil] at hledger
              exact hledger

theorem Kept.finishStep (hx : x.Kept gains) : (x.perform .finishStep).Kept gains := by
  unfold perform
  dsimp only
  cases hwaiting : x.waiting with
  | none => exact hx
  | some deadline =>
      have hbooks := hx.books
      rw [hwaiting] at hbooks
      obtain ⟨hopen, hlast⟩ := hx.asked (by rw [hwaiting]; rfl)
      have hfinished := (Sensor.finish_books deadline hbooks hopen hlast).1
      exact ⟨hfinished, hx.pushed, nofun, nofun⟩

theorem Kept.move (hx : x.Kept gains) (m : Move) : (x.perform (.move m)).Kept gains := by
  have hmove := LossyLine.advanced_move hx.books.attuned.sound m
  have horders := LossyLine.orders_congr gains hmove.written
  refine ⟨hx.books.withSession (hx.books.attuned.advance hmove) horders, hx.pushed, ?_, ?_⟩
  · intro hwaiting
    obtain ⟨hopen, hlast⟩ := hx.asked hwaiting
    exact ⟨hopen, hlast.suffix hmove.unread⟩
  · intro hwaiting
    exact horders.trans (hx.due hwaiting)

theorem Kept.replay (hx : x.Kept gains) {events : List ExchangeEvent}
    (hevents : ∀ command, .push command ∈ events → command ≠ .queryTelemetry) :
    (x.replay events).Kept gains := by
  induction events generalizing x with
  | nil => exact hx
  | cons event events ih =>
      have hrest : ∀ command, .push command ∈ events → command ≠ .queryTelemetry := by
        intro command hmem
        exact hevents command (List.mem_cons_of_mem _ hmem)
      apply ih _ hrest
      cases event with
      | push command => exact hx.push (hevents command List.mem_cons_self)
      | beginStep => exact hx.beginStep
      | finishStep => exact hx.finishStep
      | move m => exact hx.move m

theorem start_kept (name : String) (gains : Gains Float) (reportTime : Span) (capacity : Nat)
    {board : Board} (hclean : board.Clean) (turns : List Turn) :
    (start name gains reportTime capacity board turns).Kept gains := by
  have htells : Tells [] board.power := by
    intro before last after hsplit
    simp at hsplit
  have hsound : (start name gains reportTime capacity board turns).line.Sound gains :=
    ⟨nofun, hclean, htells⟩
  exact ⟨⟨rfl, rfl, ⟨hsound, nofun, nofun⟩, rfl, nofun⟩, nofun, nofun, nofun⟩

/-- Every step that leaves a valid sample. Nothing that was written is unread any more. The commands
that were pushed before the step began have all been handled, in their order, exactly if none of
their frames was lost with a session, be it in this step or in one before; and unless the last
power among them was lost it is the power of the board. -/
theorem due_handled_iff_none_lost (name : String) (gains : Gains Float) (reportTime : Span)
    (capacity : Nat) (board : Board) (turns : List Turn) (events : List ExchangeEvent)
    (deadline : Instant) (hclean : '\x00' ∉ board.flags.toList)
    (hevents : ∀ command, .push command ∈ events → command ≠ .queryTelemetry)
    (hwaiting : ((start name gains reportTime capacity board turns).replay events).waiting =
      some deadline)
    (hvalid : (((start name gains reportTime capacity board turns).replay events).perform
      .finishStep).sensor.view.sample.valid = true) :
    let x := ((start name gains reportTime capacity board turns).replay events).perform .finishStep
    x.line.unread = [] ∧
      ((x.due.map DeviceCommand.body).Sublist x.line.handled ↔
        ∀ command ∈ x.due, command.body ∉ x.line.lost) ∧
      ∀ earlier power later, x.due = earlier ++ .setPower power :: later →
        (∀ command ∈ later, ∀ other, command ≠ .setPower other) →
        (DeviceCommand.setPower power).body ∉ x.line.lost →
        x.line.far.board.power = Board.toldPower power := by
  have hkept := (start_kept name gains reportTime capacity hclean turns).replay hevents
  generalize (start name gains reportTime capacity board turns).replay events = x at *
  have hbooks := hkept.books
  rw [hwaiting] at hbooks
  obtain ⟨hopen, hlast⟩ := hkept.asked (by rw [hwaiting]; rfl)
  have hdue := hkept.due (by rw [hwaiting]; rfl)
  obtain ⟨hfinished, hsame, htaken⟩ :=
    Sensor.finish_books deadline hbooks hopen hlast
  have hfinish : x.perform .finishStep =
      { x with sensor := (x.sensor.finish deadline).1, waiting := none } := by
    rw [perform, hwaiting]
  rw [hfinish] at hvalid ⊢
  have hunread := htaken hvalid
  have horders := hsame.trans hdue
  dsimp only [line]
  refine ⟨hunread, ?_, ?_⟩
  · rw [← horders, LossyLine.orders_sublist_handled_iff hunread, horders, List.forall_mem_map]
  · intro earlier power later hsplit hlater hpower
    rw [hsplit] at horders
    exact hfinished.attuned.sound.power_of_orders hunread horders hlater hpower

/-! ### A zero that is lost -/

/-- The turns of a line whose board reads only while a step waits, and in the second step not at
all. -/
def benchTurns : List Turn :=
  [{}, {}, {}, {}, { moves := [.handle, .handle, .handle] }, {}, {}, {}, {}, {},
    { moves := [.handle] }]

def bench : Exchange :=
  start "extruder" { kp := 1.0, ki := 0.0, kd := 0.0 } 100000000 10 { model := Thermal.hotend }
    benchTurns

def heated : List ExchangeEvent :=
  [.push (.setPower 0.6), .beginStep]

/-- The zero after it is written, the line drops before the board has read it, and the step fails.
The next one connects anew and waits for its answer. -/
def parked : List ExchangeEvent :=
  heated ++ [.finishStep, .push (.setPower 0.0), .beginStep, .move .drop, .finishStep, .beginStep]

theorem heated_bench_has_power :
    ((bench.replay heated).perform .finishStep).line.far.board.power = Board.toldPower 0.6 := by
  have hwaiting : (bench.replay heated).waiting = some 100000000 := by decide +kernel
  have hvalid : ((bench.replay heated).perform .finishStep).sensor.view.sample.valid = true := by
    decide +kernel
  have hnone : ((bench.replay heated).perform .finishStep).line.lost = [] := by decide +kernel
  have hdue : ((bench.replay heated).perform .finishStep).due = [.setPower 0.6] := by
    rw [perform, hwaiting]
    rfl
  obtain ⟨-, -, hpower⟩ := due_handled_iff_none_lost "extruder" _ 100000000 10 _ benchTurns heated
    100000000 (by decide) (by simp [heated]) hwaiting hvalid
  refine hpower [] 0.6 [] hdue nofun ?_
  rw [← bench, hnone]
  exact List.not_mem_nil

/-- The zero was pushed before a step that leaves a valid sample, and the board still heats. -/
theorem parked_bench_heats :
    let x := (bench.replay parked).perform .finishStep
    x.sensor.view.sample.valid = true ∧
      x.due.map DeviceCommand.text = ["pwr 0.600", "pwr 0.000"] ∧
      (DeviceCommand.setPower 0.0).body ∉ x.line.handled ∧
      (DeviceCommand.setPower 0.0).body ∈ x.line.lost ∧ x.line.far.board.power = 0.6 := by
  decide +kernel

end Exchange

end HeaterHost
