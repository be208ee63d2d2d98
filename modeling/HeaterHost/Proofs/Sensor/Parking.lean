import HeaterHost.Proofs.Link.Tap
import HeaterHost.Proofs.Sensor.History
import HeaterHost.Simulator.Line

/-!
# Parking the board

A sensor that is shut down parks its board if its session is open, and does not connect anew for
it. The session is open exactly if the last step was answered. A board that was told to heat and
then answered once with nonsense is not parked, though it could be reached.
-/

namespace HeaterHost

open Wire

/-- Whether a line takes the frames of these commands, one after the other. -/
def Transport.takes {ω : Type} [Transport ω] (wire : ω) : List (DeviceCommand Float) → Bool
  | [] => true
  | command :: rest =>
      match Transport.write wire (encodeFrame command.text) with
      | (.ok (), wire) => takes wire rest
      | (.error _, _) => false

namespace Session

variable {ω : Type} [Transport ω] {s s' : Session ω} {command : DeviceCommand Float}

theorem takes_of_send_ok (hopen : s.link.isOpen = true)
    (hsend : s.send command.text = (s', .ok ())) (rest : List (DeviceCommand Float)) :
    Transport.takes s.wire (command :: rest) = Transport.takes s'.wire rest := by
  rw [send_of_isOpen hopen] at hsend
  unfold writeFrame at hsend
  split at hsend
  case h_1 wire hwrite =>
    cases hsend
    rw [Transport.takes, hwrite]
  case h_2 => cases hsend

theorem takes_of_send_error {error : LinkError} (hopen : s.link.isOpen = true)
    (hsend : s.send command.text = (s', .error error)) (rest : List (DeviceCommand Float)) :
    Transport.takes s.wire (command :: rest) = false := by
  rw [send_of_isOpen hopen] at hsend
  unfold writeFrame at hsend
  split at hsend
  case h_1 => cases hsend
  case h_2 failure wire hwrite => rw [Transport.takes, hwrite]

end Session

namespace Sensor

variable {ω : Type} [Transport ω]

/-! ### When the session is open -/

theorem replay_concat (clock : ω → Float) (s : Sensor ω) (events : List (SensorEvent ω))
    (event : SensorEvent ω) :
    s.replay clock (events ++ [event]) = (s.replay clock events).perform clock event :=
  List.foldl_concat ..

/-- The last step of a run was answered. -/
def LastHeard (clock : ω → Float) (s : Sensor ω) (events : List (SensorEvent ω)) : Prop :=
  ∃ earlier later, events = earlier ++ .step :: later ∧ .step ∉ later ∧
    ∃ session telemetry, (s.replay clock earlier).Hears session telemetry

theorem lastHeard_step (clock : ω → Float) (s : Sensor ω) (events : List (SensorEvent ω)) :
    s.LastHeard clock (events ++ [.step]) ↔
      ∃ session telemetry, (s.replay clock events).Hears session telemetry := by
  constructor
  · rintro ⟨earlier, later, hevents, hlater, hheard⟩
    rcases List.eq_nil_or_concat later with rfl | ⟨front, last, rfl⟩
    · obtain ⟨rfl, -⟩ := List.append_inj' hevents rfl
      exact hheard
    · rw [List.concat_eq_append, ← List.cons_append, ← List.append_assoc] at hevents
      obtain ⟨-, hlast⟩ := List.append_inj' hevents rfl
      refine absurd ?_ hlater
      rw [List.concat_eq_append, ← hlast]
      exact List.mem_append_right _ List.mem_cons_self
  · intro hheard
    exact ⟨events, [], rfl, List.not_mem_nil, hheard⟩

theorem lastHeard_concat (clock : ω → Float) (s : Sensor ω) (events : List (SensorEvent ω))
    (event : SensorEvent ω) (hevent : event ≠ .step) :
    s.LastHeard clock (events ++ [event]) ↔ s.LastHeard clock events := by
  constructor
  · rintro ⟨earlier, later, hevents, hlater, hheard⟩
    rcases List.eq_nil_or_concat later with rfl | ⟨front, last, rfl⟩
    · obtain ⟨-, hstep⟩ := List.append_inj' hevents rfl
      exact absurd (List.head_eq_of_cons_eq hstep) hevent
    · rw [List.concat_eq_append, ← List.cons_append, ← List.append_assoc] at hevents
      obtain ⟨hfront, -⟩ := List.append_inj' hevents rfl
      rw [List.concat_eq_append] at hlater
      exact ⟨earlier, front, hfront, fun h => hlater (List.mem_append_left _ h), hheard⟩
  · rintro ⟨earlier, later, rfl, hlater, hheard⟩
    refine ⟨earlier, later ++ [event], by simp, ?_, hheard⟩
    rw [List.mem_append, List.mem_singleton, not_or]
    exact ⟨hlater, hevent.symm⟩

/-- After a run the session is open exactly if the last step was answered. -/
theorem replay_isOpen_iff (clock : ω → Float) {s : Sensor ω}
    (hclosed : s.session.link.isOpen = false) (events : List (SensorEvent ω)) :
    (s.replay clock events).session.link.isOpen = true ↔ s.LastHeard clock events := by
  induction events using List.reverseRecOn with
  | nil =>
      refine iff_of_false (by rw [replay, List.foldl_nil, hclosed]; exact Bool.false_ne_true) ?_
      rintro ⟨earlier, later, hevents, -⟩
      simp at hevents
  | append_singleton events event ih =>
      rw [replay_concat]
      cases event with
      | push command =>
          rw [lastHeard_concat clock s events (.push command) nofun, ← ih]
          unfold perform push
          dsimp only
          split <;> rfl
      | step => rw [lastHeard_step, ← stepBy_isOpen_iff clock, perform]
      | disturb change =>
          rw [lastHeard_concat clock s events (.disturb change) nofun, ← ih]
          rfl

/-! ### What is written -/

/-- Commands are sent as long as the line takes them. -/
theorem sendWhilePossible_tap {session : Session (Tapped ω)} (hopen : session.link.isOpen = true)
    (commands : List (DeviceCommand Float)) :
    (sendWhilePossible session commands).wire.attempts = session.wire.attempts ∧
      ∃ delivered, delivered <+: commands ∧
        (sendWhilePossible session commands).wire.frames =
          session.wire.frames ++ delivered.map (encodeFrame ·.text) ∧
        (delivered = commands ↔ Transport.takes session.wire commands = true) := by
  induction commands generalizing session with
  | nil => exact ⟨rfl, [], List.prefix_rfl, (List.append_nil _).symm, iff_of_true rfl rfl⟩
  | cons command rest ih =>
      cases hsend : session.send command.text with
      | mk sent result =>
          rw [sendWhilePossible, hsend]
          cases result with
          | ok _ =>
              have hwrites := Session.send_ok_of_isOpen hopen hsend
              obtain ⟨hattempts, delivered, hprefix, hframes, hall⟩ := ih hwrites.isOpen
              refine ⟨hattempts.trans hwrites.attempts, command :: delivered, ?_, ?_, ?_⟩
              · exact List.cons_prefix_cons.mpr ⟨rfl, hprefix⟩
              · dsimp only
                rw [hframes, hwrites.frames, List.append_assoc]
                rfl
              · rw [List.cons_inj_right, hall, Session.takes_of_send_ok hopen hsend]
          | error error =>
              have hquiet := (Session.send_error_of_isOpen hopen hsend).1
              refine ⟨hquiet.attempts, [], List.nil_prefix, ?_, ?_⟩
              · exact hquiet.frames.trans (List.append_nil _).symm
              · rw [Session.takes_of_send_error hopen hsend]
                exact iff_of_false nofun Bool.false_ne_true

theorem park_session_of_isOpen {s : Sensor ω} (hopen : s.session.link.isOpen = true) :
    s.park.session = (sendWhilePossible s.session parkCommands).close := by
  rw [park, if_pos hopen]

theorem park_session_of_not_isOpen {s : Sensor ω} (hclosed : s.session.link.isOpen = false) :
    s.park.session = s.session.close := by
  rw [park, if_neg (by rw [hclosed]; exact Bool.false_ne_true)]

/-- The frames that park a board: the target zero, then the power zero. -/
theorem parkCommands_frames :
    parkCommands.map (encodeFrame ·.text) = [encodeFrame "s 0.0", encodeFrame "pwr 0.000"] := by
  have htexts : parkCommands.map DeviceCommand.text = ["s 0.0", "pwr 0.000"] := by decide +kernel
  exact congrArg (List.map encodeFrame) htexts

theorem park_tap_of_isOpen {s : Sensor (Tapped ω)} (hopen : s.session.link.isOpen = true) :
    s.park.session.wire.attempts = s.session.wire.attempts ∧
      (s.park.session.wire.frames =
          s.session.wire.frames ++ parkCommands.map (encodeFrame ·.text) ↔
        Transport.takes s.session.wire parkCommands = true) := by
  obtain ⟨hattempts, delivered, hprefix, hframes, hall⟩ :=
    sendWhilePossible_tap hopen parkCommands
  rw [park_session_of_isOpen hopen, ← hall]
  refine ⟨hattempts, ?_⟩
  change (sendWhilePossible s.session parkCommands).wire.frames = _ ↔ _
  rw [hframes, List.append_cancel_left_eq]
  refine ⟨fun hmap => hprefix.eq_of_length ?_, fun h => h ▸ rfl⟩
  simpa using congrArg List.length hmap

theorem park_tap_of_not_isOpen {s : Sensor (Tapped ω)} (hclosed : s.session.link.isOpen = false) :
    s.park.session.wire.attempts = s.session.wire.attempts ∧
      s.park.session.wire.frames = s.session.wire.frames := by
  rw [park_session_of_not_isOpen hclosed]
  exact ⟨rfl, rfl⟩

/-- **A shutdown parks the board of an open session.** After any run a shutdown closes the session
and makes no attempt to connect. The session that it finds is open exactly if the last step was
answered. If it is not, the shutdown writes nothing. What the shutdown writes is the target zero and
after it the power zero exactly if the session is open and the line takes both frames. -/
theorem park_zeroes_open_board (clock : Tapped ω → Float) (name endpoint : String)
    (gains : Gains Float) (reportTime : Span) (capacity : Nat) (wire : Tapped ω)
    (events : List (SensorEvent (Tapped ω))) :
    let start := create name endpoint gains reportTime capacity wire
    let s := start.replay clock events
    s.park.session.link.state = .closed ∧
      s.park.session.wire.attempts = s.session.wire.attempts ∧
      (s.session.link.isOpen = true ↔ start.LastHeard clock events) ∧
      (s.session.link.isOpen = false → s.park.session.wire.frames = s.session.wire.frames) ∧
      (s.park.session.wire.frames =
          s.session.wire.frames ++ [encodeFrame "s 0.0", encodeFrame "pwr 0.000"] ↔
        s.session.link.isOpen = true ∧ Transport.takes s.session.wire parkCommands = true) := by
  intro start s
  have hlast : s.session.link.isOpen = true ↔ start.LastHeard clock events :=
    replay_isOpen_iff clock rfl events
  rw [← parkCommands_frames]
  cases hopen : s.session.link.isOpen with
  | true =>
      obtain ⟨hattempts, hframes⟩ := park_tap_of_isOpen hopen
      exact ⟨rfl, hattempts, hopen ▸ hlast, nofun, hframes.trans (and_iff_right rfl).symm⟩
  | false =>
      obtain ⟨hattempts, hframes⟩ := park_tap_of_not_isOpen hopen
      refine ⟨rfl, hattempts, hopen ▸ hlast, fun _ => hframes, iff_of_false ?_ nofun⟩
      rw [hframes]
      simp [parkCommands]

/-! ### A board that is left heating -/

/-- A sensor on a simulated board, with a tap on its line. -/
def tappedBench : Sensor (Tapped Simulator.Line) :=
  create "extruder" "sim:extruder" { kp := 13.41, ki := 30.91, kd := 1.46 } 100000000 10
    { wire := { farEnd := .board { name := "extruder", board := { model := .hotend } } } }

/-- From now on the board leaves the temperature out of its telemetry. -/
def garble (t : Tapped Simulator.Line) : Tapped Simulator.Line :=
  match t.wire.farEnd with
  | .board line => { t with wire := { t.wire with
      farEnd := .board { line with switches := { malformed := true } } } }
  | _ => t

/-- The board is told to heat, a step is answered, and the next one with nonsense. -/
def garbledRun : List (SensorEvent (Tapped Simulator.Line)) :=
  [.push (.setPower 0.6), .step, .disturb garble, .step]

def boardPower (t : Tapped Simulator.Line) : Option Float :=
  match t.wire.farEnd with
  | .board line => some line.board.power
  | _ => none

/-- The board could be reached at the shutdown, by a connection and both writes. Nothing is written,
and the board heats on. -/
theorem garbled_bench_heats_after_shutdown :
    let s := tappedBench.replay hostClock garbledRun
    (Transport.connect s.session.wire).1.isOk = true ∧
      Transport.takes (Transport.connect s.session.wire).2 parkCommands = true ∧
      s.session.link.state = .faulted ∧
      s.park.session.link.state = .closed ∧
      ¬ [encodeFrame "s 0.0", encodeFrame "pwr 0.000"] <:+ s.park.session.wire.frames ∧
      boardPower s.park.session.wire = some 0.6 := by
  decide +kernel

end Sensor

end HeaterHost
