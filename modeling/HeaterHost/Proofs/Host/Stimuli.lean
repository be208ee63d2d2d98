import HeaterHost.Proofs.Host.CommandLines
import HeaterHost.Proofs.Host.Startup

/-!
# Hosts between two stimuli

Lines come in from outside while heaters tick and sensors make their steps. Whatever happens to a
host, what a heater has to say is collected before anything else happens, and settling a station
from which nothing waits to be collected changes nothing. So a line that is refused leaves no trace
but in the tracker.
-/

namespace HeaterHost

open Gcode Wire

variable {ω : Type}

/-- Nothing waits to be collected from the heater of the station, or from its sensor. -/
def Station.Collected (station : Station ω) : Prop :=
  ∀ heater, station.heater = .board heater →
    heater.outbox = [] ∧ heater.signals = [] ∧
      ∀ sensor, station.sensor = some sensor → sensor.signals = []

namespace Host

/-- What a host that runs has to deal with: lines, ticks on any samples, the steps of its sensors,
and the end. -/
inductive Stimulus where
  | line (text : String) (time : Float)
  | tick (name : String) (sample : Sample Float) (time : Float)
  | shutdown (name : String) (time : Float)
  | beginStep (name : String)
  | finishStep (name : String) (deadline : Instant)
  | elapse (name : String) (time : Instant)
  | park (name : String)

section react

variable [Transport ω]

def react (h : Host ω) : Stimulus → Host ω
  | .line text time => (h.execute text time).1
  | .tick name sample time => h.tickOn name sample time
  | .shutdown name time => h.mapBoard name fun heater => heater.shutdown time
  | .beginStep name => h.withSensor name fun sensor => sensor.begin.1
  | .finishStep name deadline => h.withSensor name fun sensor => (sensor.finish deadline).1
  | .elapse name time => h.withSensor name fun sensor => sensor.elapse time
  | .park name => h.withSensor name fun sensor => sensor.park

def reactAll (h : Host ω) (stimuli : List Stimulus) : Host ω :=
  stimuli.foldl react h

end react

/-! ### Settled hosts -/

def Settled (h : Host ω) : Prop :=
  ∀ name station, h.stations.get? name = some station → station.Collected

theorem settle_collected (h : Host ω) (name : String) (station settled : Station ω)
    (hget : (h.settle name station).stations.get? name = some settled) : settled.Collected := by
  obtain ⟨heater, sensor⟩ := station
  cases heater with
  | stock heater =>
      obtain rfl := Option.some.inj ((NameMap.get?_insert_self ..).symm.trans hget)
      intro board hboard
      cases hboard
  | board heater =>
      obtain rfl := Option.some.inj ((h.settle_get?_self name heater sensor).symm.trans hget)
      intro board hboard
      cases hboard
      refine ⟨rfl, rfl, ?_⟩
      intro after hafter
      obtain ⟨before, -, rfl⟩ := Option.map_eq_some_iff.mp hafter
      rfl

namespace Settled

variable {h k : Host ω}

/-- Settling leaves a host settled, whatever is put in the place of the station. -/
theorem settle (hsettled : h.Settled) (name : String) (station : Station ω) :
    (h.settle name station).Settled := by
  intro other found hget
  by_cases hname : other = name
  · subst hname
    exact h.settle_collected other station found hget
  · rw [h.settle_get?_of_ne hname station] at hget
    exact hsettled other found hget

/-- Settling a station of a settled host once more changes nothing. -/
theorem settle_same (hsettled : h.Settled) {name : String} {station : Station ω}
    (hget : h.stations.get? name = some station) :
    (h.settle name station).faults = h.faults ∧
      ∀ other, (h.settle name station).stations.get? other = h.stations.get? other := by
  have hcollected := hsettled name station hget
  obtain ⟨heater, sensor⟩ := station
  cases heater with
  | stock heater =>
      refine ⟨rfl, fun other => ?_⟩
      by_cases hother : other = name
      · rw [hother, hget]
        exact NameMap.get?_insert_self ..
      · exact h.settle_get?_of_ne hother _
  | board heater =>
      obtain ⟨houtbox, hsignals, hsensor⟩ := hcollected heater rfl
      refine ⟨?_, fun other => ?_⟩
      · simp only [Host.settle, houtbox, hsignals]
        cases sensor with
        | none => rfl
        | some sensor =>
            simp only [Option.map_some, List.foldr_nil, hsensor sensor rfl]
            rfl
      · by_cases hother : other = name
        · have hheater : heater.collected = heater := by
            rw [BoardHeater.collected, ← houtbox, ← hsignals]
          have hsame : sensor.map (supplied heater) = sensor := by
            cases sensor with
            | none => rfl
            | some sensor =>
                rw [Option.map_some, supplied, houtbox, ← hsensor sensor rfl]
                rfl
          rw [hother, settle_get?_self, hheater, hsame, hget]
        · exact h.settle_get?_of_ne hother _

theorem spared (hsettled : h.Settled) (hspared : h.Spared k) :
    k.faults = h.faults ∧ ∀ name, k.stations.get? name = h.stations.get? name := by
  rcases hspared with rfl | ⟨name, station, hget, rfl⟩
  · exact ⟨rfl, fun _ => rfl⟩
  · exact hsettled.settle_same hget

theorem lineEffect (hsettled : h.Settled) {name : String} {station : Station ω}
    (heffect : h.LineEffect name station k) : k.Settled := by
  cases heffect with
  | nothing => exact hsettled
  | heater command hadmitted heater hattempt => exact hsettled.settle name _
  | order sensor hsensor command hcommand => exact hsettled.settle name _

theorem noted (hsettled : h.Settled) (text : String) (time : Float) :
    (h.noted text time).Settled := by
  intro name station hget
  rw [noted_stations] at hget
  exact hsettled name station hget

theorem execute (hsettled : h.Settled) (text : String) (time : Float) :
    (h.execute text time).1.Settled := by
  cases hparse : Line.parse? text with
  | none =>
      rw [execute_of_blank hparse]
      exact hsettled
  | some line =>
      have hnoted := hsettled.noted text time
      cases houtcome : (h.execute text time).2 with
      | error error =>
          intro name station hget
          rw [(hnoted.spared (spared_of_execute_eq_error hparse houtcome)).2] at hget
          exact hnoted name station hget
      | ok reply =>
          obtain ⟨name, station, -, -, heffect⟩ := serves_of_execute_eq_ok hparse houtcome
          exact hnoted.lineEffect heffect

theorem withSensor (hsettled : h.Settled) (name : String) (f : Sensor ω → Sensor ω) :
    (h.withSensor name f).Settled := by
  unfold Host.withSensor
  split
  · exact hsettled
  · exact hsettled.settle name _

variable [Transport ω]

theorem react (hsettled : h.Settled) (stimulus : Stimulus) : (h.react stimulus).Settled := by
  cases stimulus with
  | line text time => exact hsettled.execute text time
  | tick name sample time =>
      change (h.tickOn name sample time).Settled
      unfold Host.tickOn
      split
      · exact hsettled
      · exact hsettled.settle name _
  | shutdown name time =>
      change (h.mapBoard name _).Settled
      unfold Host.mapBoard
      split
      · exact hsettled.settle name _
      · exact hsettled
  | beginStep name => exact hsettled.withSensor name _
  | finishStep name deadline => exact hsettled.withSensor name _
  | elapse name time => exact hsettled.withSensor name _
  | park name => exact hsettled.withSensor name _

theorem reactAll (hsettled : h.Settled) (stimuli : List Stimulus) :
    (h.reactAll stimuli).Settled := by
  induction stimuli generalizing h with
  | nil => exact hsettled
  | cons stimulus rest ih => exact ih (hsettled.react stimulus)

end Settled

/-! ### Hosts that are set up -/

theorem mem_stationsOf {plans : List (String × HeaterPlan ω)}
    {stations : List (String × Station ω)} (hstations : stationsOf plans = .ok stations)
    {name : String} {station : Station ω} (hmem : (name, station) ∈ stations) :
    ∃ plan, (name, plan) ∈ plans ∧ HeaterPlan.checkedStation plan name = .ok station := by
  induction plans generalizing stations with
  | nil =>
      cases hstations
      cases hmem
  | cons first rest ih =>
      unfold stationsOf at hstations
      obtain ⟨own, hchecked, hstations⟩ := Except.bind_eq_ok hstations
      obtain ⟨others, hothers, hstations⟩ := Except.bind_eq_ok hstations
      cases hstations
      rcases List.mem_cons.mp hmem with heq | hmem
      · cases heq
        exact ⟨first.2, List.mem_cons_self .., hchecked⟩
      · obtain ⟨plan, hplan, hstation⟩ := ih hothers hmem
        exact ⟨plan, List.mem_cons_of_mem _ hplan, hstation⟩

end Host

/-- Nothing has happened to a station that is set up. -/
theorem HeaterPlan.checkedStation_collected {p : HeaterPlan ω} {name : String}
    {station : Station ω} (hstation : p.checkedStation name = .ok station) :
    station.Collected := by
  intro heater hheater
  obtain ⟨-, ⟨-, rfl⟩ | ⟨-, sensor, hsensor, rfl⟩⟩ := HeaterPlan.checkedStation_cases hstation
  · cases hheater
  · cases hheater
    refine ⟨rfl, rfl, ?_⟩
    rintro sensor rfl
    obtain ⟨_, _, _, rfl⟩ := HeaterPlan.sensor_eq_ok hsensor
    rfl

namespace Host

theorem setUp_settled {plans : NameMap (HeaterPlan ω)} {tracker : Tracker} {start : Host ω}
    (hsetup : setUp plans tracker = .ok start) : start.Settled := by
  unfold setUp at hsetup
  obtain ⟨stations, hstations, hsetup⟩ := Except.bind_eq_ok hsetup
  cases hsetup
  intro name station hget
  obtain ⟨entry, hentry, rfl⟩ := Option.map_eq_some_iff.mp hget
  obtain ⟨plan, -, hchecked⟩ := mem_stationsOf hstations (List.mem_of_find?_eq_some hentry)
  exact HeaterPlan.checkedStation_collected hchecked

/-! ### Lines that are refused, and lines that are carried out -/

theorem Spared.tracker {h k : Host ω} (hspared : h.Spared k) : k.tracker = h.tracker := by
  rcases hspared with rfl | ⟨name, station, -, rfl⟩
  · rfl
  · exact h.settle_tracker name station

/-- A settled host shows no trace of a line that is refused, but in the tracker. -/
theorem Settled.execute_eq_error {h : Host ω} (hsettled : h.Settled) {line : String}
    {time : Float} {error : CommandError} (hrefused : (h.execute line time).2 = .error error) :
    (h.execute line time).1.tracker = h.tracker.record (Text.trim line) time ∧
      (h.execute line time).1.faults = h.faults ∧
      ∀ name, (h.execute line time).1.stations.get? name = h.stations.get? name := by
  cases hparse : Line.parse? line with
  | none =>
      rw [execute_of_blank hparse] at hrefused
      cases hrefused
  | some command =>
      have hspared := spared_of_execute_eq_error hparse hrefused
      obtain ⟨hfaults, hstations⟩ := (hsettled.noted line time).spared hspared
      refine ⟨?_, ?_, ?_⟩
      · rw [hspared.tracker, noted_tracker]
      · rw [hfaults, noted_faults]
      · intro name
        rw [hstations name, noted_stations]

theorem execute_eq_ok {h : Host ω} {line : String} {command : Line} {time : Float} {reply : Reply}
    (hparse : Line.parse? line = some command) (hdone : (h.execute line time).2 = .ok reply) :
    (h.execute line time).1.tracker = h.tracker.record (Text.trim line) time ∧
      ∃ name, command.heaterName = .ok name ∧ ∀ other, other ≠ name →
        (h.execute line time).1.stations.get? other = h.stations.get? other := by
  obtain ⟨name, station, hname, -, heffect⟩ := serves_of_execute_eq_ok hparse hdone
  refine ⟨?_, name, hname, ?_⟩
  · rw [heffect.tracker, noted_tracker]
  · intro other hne
    rw [heffect.get?_of_ne hne, noted_stations]

variable [Transport ω]

/-- Take a host that is set up from sections that are accepted, as `ofConfig_eq_setUp` says of the
one that is started, after any run of lines, ticks, steps and shutdowns. A line without a command
does nothing at all to it. A line that is refused moves the tracker and nothing else: no heater, no
queue, no sensor and not the log of faults. A line that is carried out moves the tracker, and
changes no station besides the one that it names. The tracker counts the line and keeps it as the
last, and a print begins with it only if it names a file. -/
theorem execute_touches_one_station (plans : NameMap (HeaterPlan ω)) (tracker : Tracker)
    (start : Host ω) (hsetup : setUp plans tracker = .ok start) (stimuli : List Stimulus)
    (line : String) (time : Float) :
    let h := start.reactAll stimuli
    let after := (h.execute line time).1
    let noted := h.tracker.record (Text.trim line) time
    ((∀ c ∈ Line.code line, Text.isBlank c = true) →
      h.execute line time = (h, .ok (.text ""))) ∧
    (∀ error, (h.execute line time).2 = .error error →
      after.tracker = noted ∧ after.faults = h.faults ∧
        ∀ name, after.stations.get? name = h.stations.get? name) ∧
    (∀ command reply, Line.parse? line = some command → (h.execute line time).2 = .ok reply →
      after.tracker = noted ∧ ∃ name, command.heaterName = .ok name ∧
        ∀ other, other ≠ name → after.stations.get? other = h.stations.get? other) ∧
    noted.count = h.tracker.count + 1 ∧ noted.lastLine = some (Text.trim line) ∧
    (Tracker.printFile? (Text.trim line) = none → noted.printId = h.tracker.printId) := by
  intro h after noted
  have hsettled : h.Settled := (setUp_settled hsetup).reactAll stimuli
  refine ⟨?_, ?_, ?_, Tracker.record_books h.tracker (Text.trim line) time⟩
  · intro hblank
    exact execute_of_blank (h := h) (Line.parse?_eq_none_iff.mpr hblank) time
  · intro error hrefused
    exact hsettled.execute_eq_error hrefused
  · intro command reply hparse hdone
    exact execute_eq_ok hparse hdone

/-- An extruder is heated, and then an experiment runs in it. -/
def tuningLines : List Stimulus :=
  [.line "SET_HEATER_TEMPERATURE HEATER=extruder TARGET=200" 0.0,
    .line "TUNE HEATER=extruder PID=240" 0.5]

/-- While the experiment runs, another one is refused. -/
theorem second_experiment_touches_nothing :
    ∃ start error, ofConfig extruderAndBed simulatedWire (.create 1 (fun _ => "") .off) =
        .ok start ∧
      let h := start.reactAll tuningLines
      let outcome := h.execute "TUNE HEATER=extruder PID=230" 1.0
      outcome.2 = .error error ∧ outcome.1.tracker.count = h.tracker.count + 1 ∧
        ∀ name, outcome.1.stations.get? name = h.stations.get? name := by
  have hrun : (ofConfig extruderAndBed simulatedWire (.create 1 (fun _ => "") .off)).toOption.map
      (fun start => ((start.reactAll tuningLines).execute
        "TUNE HEATER=extruder PID=230" 1.0).2.toBool) = some false := by
    decide +kernel
  have hsame := ofConfig_eq_setUp extruderAndBed_accepted extruderAndBed_fits simulatedWire
    (.create 1 (fun _ => "") .off)
  cases hstart : ofConfig extruderAndBed simulatedWire (.create 1 (fun _ => "") .off) with
  | error error =>
      rw [hstart] at hrun
      cases hrun
  | ok start =>
      obtain ⟨-, hrefused, -, hcount, -⟩ := execute_touches_one_station _ _ start
        (hsame.symm.trans hstart) tuningLines "TUNE HEATER=extruder PID=230" 1.0
      rw [hstart] at hrun
      have hfailed : ((start.reactAll tuningLines).execute
          "TUNE HEATER=extruder PID=230" 1.0).2.toBool = false := Option.some.inj hrun
      refine ⟨start, ?_⟩
      generalize start.reactAll tuningLines = h at hrefused hcount hfailed ⊢
      cases hresult : (h.execute "TUNE HEATER=extruder PID=230" 1.0).2 with
      | ok reply =>
          rw [hresult] at hfailed
          cases hfailed
      | error error =>
          obtain ⟨htracker, -, hstations⟩ := hrefused error hresult
          refine ⟨error, rfl, hresult, ?_, hstations⟩
          rw [htracker, hcount]

end Host

end HeaterHost
