import HeaterHost.Host.Dispatch
import HeaterHost.Proofs.Gcode.Bookkeeping
import HeaterHost.Proofs.Heater.Queue
import HeaterHost.Proofs.Heater.Ranges
import HeaterHost.Proofs.Host.RecentReading
import HeaterHost.Proofs.Text.Cuts

/-!
# What a command line can do

A line that is carried out changes one station, the one that it names. What it can change there is
little: the heater takes on a command with finite numbers, or one more order waits in the queue of
the sensor. A line that is refused spares every station, however far it came, since a heater checks
what it is asked for before it changes anything. Either way the tracker has noted the line, unless
it has no command in it.
-/

namespace HeaterHost

open Gcode Wire

/-- The commands that a line can give a heater. -/
def HeaterCommand.Admitted : HeaterCommand Float → Prop
  | .setTemp degrees => Decimal.isFinite degrees = true
  | .setGains gains =>
      (Decimal.isFinite gains.kp = true ∧ ¬ gains.kp < 0.0) ∧
      (Decimal.isFinite gains.ki = true ∧ ¬ gains.ki < 0.0) ∧
      (Decimal.isFinite gains.kd = true ∧ ¬ gains.kd < 0.0)
  | .startAutotune target _ => Decimal.isFinite target = true
  | .abortAutotune _ => True
  | .shutdown _ => False

/-- A heater of either kind is given a command. The host's own heater knows only temperatures. -/
def Heater.attempt {α : Type} [Scalar α] :
    Heater α → HeaterCommand α → Heater α × Except (HeaterError α) Unit
  | .stock h, .setTemp degrees => (h.setTemp degrees).map .stock id
  | .stock h, _ => (.stock h, .error .notOnBoard)
  | .board h, command => (h.attempt command).map .board id

theorem Heater.attempt_cases {α : Type} [Scalar α] (heater : Heater α)
    (command : HeaterCommand α) :
    (∃ h degrees, heater = .stock h ∧ command = .setTemp degrees ∧
      checkTarget degrees h.minTemp h.maxTemp = .ok () ∧
      heater.attempt command = (.stock { h with target := degrees }, .ok ())) ∨
    (∃ h h', heater = .board h ∧ h.attempt command = (h', .ok ()) ∧
      heater.attempt command = (.board h', .ok ())) ∨
    ∃ error, heater.attempt command = (heater, .error error) := by
  cases heater with
  | stock h =>
      cases command with
      | setTemp degrees =>
          rcases h.setTemp_cases degrees with ⟨hcheck, heq⟩ | ⟨error, heq⟩
          · exact .inl ⟨h, degrees, rfl, rfl, hcheck, by rw [attempt, heq]; rfl⟩
          · exact .inr (.inr ⟨error, by rw [attempt, heq]; rfl⟩)
      | _ => exact .inr (.inr ⟨_, rfl⟩)
  | board h =>
      rcases h.attempt_cases command with ⟨h', heq⟩ | ⟨error, heq⟩
      · exact .inr (.inl ⟨h, h', rfl, heq, by rw [attempt, heq]; rfl⟩)
      · exact .inr (.inr ⟨error, by rw [attempt, heq]; rfl⟩)

namespace Gcode.Line

variable {line : Line} {param : String} {value : Float}

theorem parse?_eq_none_iff {text : String} :
    parse? text = none ↔ ∀ c ∈ code text, Text.isBlank c = true := by
  rw [← Text.words_eq_nil_iff, parse?]
  split
  case h_1 hwords => exact iff_of_true rfl hwords
  case h_2 name words hwords => exact iff_of_false nofun (by rw [hwords]; nofun)

theorem isFinite_of_number {default : Option Float}
    (hdefault : ∀ x, default = some x → Decimal.isFinite x = true)
    (hnumber : line.number param default = .ok value) : Decimal.isFinite value = true := by
  unfold number at hnumber
  split at hnumber
  · split at hnumber
    case h_1 hread =>
      cases hnumber
      exact (Option.filter_eq_some_iff.mp hread).2
    case h_2 => cases hnumber
  · cases hnumber
    exact hdefault value rfl
  · cases hnumber

theorem isFinite_of_required (hnumber : line.number param none = .ok value) :
    Decimal.isFinite value = true := by
  refine isFinite_of_number ?_ hnumber
  intro x hnone
  cases hnone

theorem nonNegative_eq_ok (hnumber : line.nonNegative param = .ok value) :
    Decimal.isFinite value = true ∧ ¬ value < 0.0 := by
  unfold nonNegative at hnumber
  obtain ⟨read, hread, hchecked⟩ := Except.bind_eq_ok hnumber
  by_cases hnegative : read < 0.0
  · rw [if_pos hnegative] at hchecked
    cases hchecked
  · rw [if_neg hnegative] at hchecked
    cases hchecked
    exact ⟨isFinite_of_required hread, hnegative⟩

end Gcode.Line

namespace Host

variable {ω : Type}

/-- What a line that is carried out makes of a host, of which it addresses one station. -/
inductive LineEffect (h : Host ω) (name : String) (station : Station ω) : Host ω → Prop
  | nothing : LineEffect h name station h
  | heater (command : HeaterCommand Float) (hadmitted : command.Admitted) (heater : Heater Float)
      (hattempt : station.heater.attempt command = (heater, .ok ())) :
      LineEffect h name station (h.settle name { station with heater })
  | order (sensor : Sensor ω) (hsensor : station.sensor = some sensor)
      (command : DeviceCommand Float) (hcommand : command.target? = none) :
      LineEffect h name station
        (h.settle name { station with sensor := some (sensor.push command) })

/-- The line addresses a station, and this is what becomes of the host. -/
def Serves (h : Host ω) (line : Line) (k : Host ω) : Prop :=
  ∃ name station, line.heaterName = .ok name ∧ h.stations.get? name = some station ∧
    h.LineEffect name station k

/-- A host that no station of has changed. One of them may have been settled. -/
def Spared (h k : Host ω) : Prop :=
  k = h ∨ ∃ name station, h.stations.get? name = some station ∧ k = h.settle name station

/-- A line that is carried out serves a station, and one that is refused spares them all. -/
def Answers (h : Host ω) (line : Line) : Host ω × Except CommandError Reply → Prop
  | (k, .ok _) => h.Serves line k
  | (k, .error _) => h.Spared k

variable {h k : Host ω} {line : Line}

theorem addressed_eq_ok {name : String} {station : Station ω}
    (haddressed : h.addressed line = .ok (name, station)) :
    line.heaterName = .ok name ∧ h.stations.get? name = some station := by
  unfold addressed at haddressed
  obtain ⟨read, hname, hfound⟩ := Except.bind_eq_ok haddressed
  cases hget : h.stations.get? read with
  | none =>
      rw [hget] at hfound
      cases hfound
  | some found =>
      rw [hget] at hfound
      cases hfound
      exact ⟨hname, hget⟩

theorem addressedBoard_eq_ok {name : String} {station : Station ω} {heater : BoardHeater Float}
    (haddressed : h.addressedBoard line = .ok (name, station, heater)) :
    line.heaterName = .ok name ∧ h.stations.get? name = some station ∧
      station.heater = .board heater := by
  unfold addressedBoard at haddressed
  obtain ⟨⟨read, found⟩, hfound, hboard⟩ := Except.bind_eq_ok haddressed
  cases hheater : found.heater with
  | stock stock =>
      simp only [hheater, Heater.board?] at hboard
      cases hboard
  | board board =>
      simp only [hheater, Heater.board?] at hboard
      cases hboard
      obtain ⟨hname, hget⟩ := addressed_eq_ok hfound
      exact ⟨hname, hget, hheater⟩

/-! ### What the actions do -/

theorem Action.outcome_bind {α β : Type} (x : Action ω α) (f : α → Action ω β) (h : Host ω) :
    (x >>= f).outcome h =
      match x.outcome h with
      | (k, .ok a) => (f a).outcome k
      | (k, .error error) => (k, .error error) := by
  have hrun : (ExceptT.run (x >>= f)).run h =
      match (ExceptT.run x).run h with
      | (.ok a, k) => (ExceptT.run (f a)).run k
      | (.error error, k) => (.error error, k) := by
    rw [ExceptT.run_bind, StateT.run_bind]
    rcases (ExceptT.run x).run h with ⟨_ | _, k⟩ <;> rfl
  rw [Action.outcome, Action.outcome, hrun]
  rcases (ExceptT.run x).run h with ⟨_ | _, k⟩ <;> rfl

theorem Action.outcome_get (h : Host ω) : (get : Action ω (Host ω)).outcome h = (h, .ok h) := rfl

theorem Action.outcome_read {α : Type} (x : Except CommandError α) (h : Host ω) :
    (liftM x : Action ω α).outcome h = (h, x) := by
  cases x <;> rfl

/-- A line that cannot be read, or addresses nothing, is refused before anything is done. -/
theorem answers_of_read {α : Type} {x : Except CommandError α} {f : α → Action ω Reply}
    (hf : ∀ a, x = .ok a → h.Answers line ((f a).outcome h)) :
    h.Answers line (((liftM x : Action ω α) >>= f).outcome h) := by
  cases x with
  | error error => exact .inl rfl
  | ok a => exact hf a rfl

theorem conclude_answers {name : String} {station : Station ω}
    (hname : line.heaterName = .ok name) (hget : h.stations.get? name = some station)
    (command : HeaterCommand Float) (hadmitted : command.Admitted) (text : String) :
    h.Answers line
      ((conclude name station (station.heater.attempt command) text).outcome h) := by
  have hserved : ∀ heater, station.heater.attempt command = (heater, .ok ()) →
      h.Answers line
        ((conclude name station (station.heater.attempt command) text).outcome h) := by
    intro heater hattempt
    rw [hattempt]
    exact ⟨name, station, hname, hget, .heater command hadmitted heater hattempt⟩
  rcases station.heater.attempt_cases command with
    ⟨_, _, -, -, -, hattempt⟩ | ⟨_, _, -, -, hattempt⟩ | ⟨error, hattempt⟩
  · exact hserved _ hattempt
  · exact hserved _ hattempt
  · rw [hattempt]
    exact .inr ⟨name, station, hget, rfl⟩

theorem changeBoard_answers
    {change : BoardHeater Float → BoardHeater Float × Except (HeaterError Float) Unit}
    (command : HeaterCommand Float) (hadmitted : command.Admitted)
    (hchange : ∀ heater : BoardHeater Float, change heater = heater.attempt command)
    (text : String → String) : h.Answers line ((changeBoard line change text).outcome h) := by
  refine answers_of_read (x := h.addressedBoard line) ?_
  rintro ⟨name, station, heater⟩ haddressed
  obtain ⟨hname, hget, hheater⟩ := addressedBoard_eq_ok haddressed
  have hattempt : (change heater).map Heater.board id = station.heater.attempt command := by
    rw [hheater, Heater.attempt, hchange]
  dsimp only
  rw [hattempt]
  exact conclude_answers hname hget command hadmitted (text name)

/-- An order for a board waits at its sensor, or it is refused. -/
theorem commandBoard_outcome (h : Host ω) (line : Line) (command : DeviceCommand Float) :
    (∃ error, (commandBoard line command).outcome h = (h, .error error)) ∨
    ∃ name station sensor, line.heaterName = .ok name ∧ h.stations.get? name = some station ∧
      station.sensor = some sensor ∧
      (commandBoard line command).outcome h =
        (h.settle name { station with sensor := some (sensor.push command) }, .ok name) := by
  rw [commandBoard, Action.outcome_bind, Action.outcome_get]
  dsimp only
  rw [Action.outcome_bind, Action.outcome_read]
  cases haddressed : h.addressedBoard line with
  | error error => exact .inl ⟨error, rfl⟩
  | ok found =>
      obtain ⟨name, station, heater⟩ := found
      obtain ⟨hname, hget, -⟩ := addressedBoard_eq_ok haddressed
      cases hsensor : station.sensor with
      | none => exact .inl ⟨.unknownHeater name, by simp only [hsensor]; rfl⟩
      | some sensor =>
          refine .inr ⟨name, station, sensor, hname, hget, hsensor, ?_⟩
          simp only [hsensor]
          rfl

theorem commandBoard_answers (command : DeviceCommand Float)
    (hcommand : command.target? = none) (answer : String → Reply) :
    h.Answers line
      ((commandBoard line command >>= fun name => pure (answer name)).outcome h) := by
  rw [Action.outcome_bind]
  rcases h.commandBoard_outcome line command with
    ⟨error, heq⟩ | ⟨name, station, sensor, hname, hget, hsensor, heq⟩ <;> rw [heq]
  · exact .inl rfl
  · exact ⟨name, station, hname, hget, .order sensor hsensor command hcommand⟩

theorem setTemperature_answers : h.Answers line ((setTemperature line).outcome h) := by
  refine answers_of_read (x := line.number "TARGET" (some 0.0)) fun target hnumber => ?_
  refine answers_of_read (x := h.addressed line) ?_
  rintro ⟨name, station⟩ haddressed
  obtain ⟨hname, hget⟩ := addressed_eq_ok haddressed
  have hfinite : Decimal.isFinite target = true := by
    refine Line.isFinite_of_number ?_ hnumber
    rintro x ⟨⟩
    decide +kernel
  have hattempt : station.heater.setTemp target = station.heater.attempt (.setTemp target) := by
    cases station.heater <;> rfl
  dsimp only
  rw [hattempt]
  exact conclude_answers hname hget (.setTemp target) hfinite _

theorem tune_answers (time : Float) : h.Answers line ((tune line time).outcome h) := by
  refine answers_of_read (x := line.number "PID" none) fun target hnumber => ?_
  exact changeBoard_answers (.startAutotune target time)
    (Line.isFinite_of_required hnumber) (fun _ => rfl) _

theorem setGains_answers : h.Answers line ((setGains line).outcome h) := by
  refine answers_of_read (x := line.nonNegative "KP") fun kp hkp => ?_
  refine answers_of_read (x := line.nonNegative "KI") fun ki hki => ?_
  refine answers_of_read (x := line.nonNegative "KD") fun kd hkd => ?_
  exact changeBoard_answers (.setGains { kp, ki, kd })
    ⟨Line.nonNegative_eq_ok hkp, Line.nonNegative_eq_ok hki, Line.nonNegative_eq_ok hkd⟩
    (fun _ => rfl) _

theorem readTuned_answers : h.Answers line ((readTuned line).outcome h) := by
  refine answers_of_read (x := h.addressedBoard line) ?_
  rintro ⟨name, station, heater⟩ haddressed
  obtain ⟨hname, hget, -⟩ := addressedBoard_eq_ok haddressed
  exact ⟨name, station, hname, hget, .nothing⟩

theorem debugOutput_answers : h.Answers line ((debugOutput line).outcome h) := by
  refine answers_of_read (x := h.addressedBoard line) ?_
  rintro ⟨name, station, heater⟩ haddressed
  obtain ⟨hname, hget, -⟩ := addressedBoard_eq_ok haddressed
  dsimp only
  cases station.sensor with
  | none => exact .inl rfl
  | some sensor => exact ⟨name, station, hname, hget, .nothing⟩

/-- Whatever its command, a line is carried out at the station it addresses, or refused. -/
theorem run_answers (line : Line) (time : Float) (h : Host ω) :
    h.Answers line ((run line time).outcome h) := by
  unfold run
  split
  · exact tune_answers time
  · exact tune_answers time
  · exact changeBoard_answers (.abortAutotune time) trivial (fun _ => rfl) _
  · exact readTuned_answers
  · exact setGains_answers
  · exact setGains_answers
  · exact setTemperature_answers
  · refine answers_of_read (x := line.count "F") fun frequency _ => ?_
    exact commandBoard_answers (.setFrequency frequency) rfl _
  · exact commandBoard_answers .resetErrorFlags rfl _
  · exact commandBoard_answers .firmwareVersion rfl _
  · exact commandBoard_answers .readPidValues rfl _
  · exact debugOutput_answers
  · exact .inl rfl

theorem LineEffect.get?_of_ne {name other : String} {station : Station ω}
    (heffect : h.LineEffect name station k) (hne : other ≠ name) :
    k.stations.get? other = h.stations.get? other := by
  cases heffect with
  | nothing => rfl
  | heater command hadmitted heater hattempt => exact h.settle_get?_of_ne hne _
  | order sensor hsensor command hcommand => exact h.settle_get?_of_ne hne _

theorem settle_tracker (h : Host ω) (name : String) (station : Station ω) :
    (h.settle name station).tracker = h.tracker := by
  unfold settle
  split <;> rfl

theorem LineEffect.tracker {name : String} {station : Station ω}
    (heffect : h.LineEffect name station k) : k.tracker = h.tracker := by
  cases heffect with
  | nothing => rfl
  | heater command hadmitted heater hattempt => exact h.settle_tracker name _
  | order sensor hsensor command hcommand => exact h.settle_tracker name _

def noted (h : Host ω) (line : String) (time : Float) : Host ω :=
  { h with tracker := h.tracker.record (Text.trim line) time }

theorem noted_stations (h : Host ω) (line : String) (time : Float) :
    (h.noted line time).stations = h.stations := by
  simp only [noted]

theorem noted_faults (h : Host ω) (line : String) (time : Float) :
    (h.noted line time).faults = h.faults := by
  simp only [noted]

theorem noted_tracker (h : Host ω) (line : String) (time : Float) :
    (h.noted line time).tracker = h.tracker.record (Text.trim line) time := by
  simp only [noted]

theorem execute_of_blank {line : String} (hparse : Line.parse? line = none) (time : Float) :
    h.execute line time = (h, .ok (.text "")) := by
  simp only [execute, hparse]

/-- A line with a command is noted, and then it is carried out or refused. -/
theorem execute_answers {text : String} (hparse : Line.parse? text = some line) (time : Float) :
    (h.noted text time).Answers line (h.execute text time) := by
  have hrun := run_answers line time (h.noted text time)
  unfold noted at hrun ⊢
  simpa only [execute, hparse] using hrun

theorem spared_of_execute_eq_error {text : String} (hparse : Line.parse? text = some line)
    {time : Float} {error : CommandError} (hrefused : (h.execute text time).2 = .error error) :
    (h.noted text time).Spared (h.execute text time).1 := by
  have hanswers := execute_answers (h := h) hparse time
  generalize h.execute text time = outcome at hanswers hrefused ⊢
  obtain ⟨k, result⟩ := outcome
  cases hrefused
  exact hanswers

theorem serves_of_execute_eq_ok {text : String} (hparse : Line.parse? text = some line)
    {time : Float} {reply : Reply} (hdone : (h.execute text time).2 = .ok reply) :
    (h.noted text time).Serves line (h.execute text time).1 := by
  have hanswers := execute_answers (h := h) hparse time
  generalize h.execute text time = outcome at hanswers hdone ⊢
  obtain ⟨k, result⟩ := outcome
  cases hdone
  exact hanswers

end Host

end HeaterHost
