import HeaterHost.Host.Setup
import HeaterHost.Simulator.Line
import HeaterHost.Proofs.Heater.Run
import HeaterHost.Proofs.Host.Stations
import HeaterHost.Proofs.NameMap
import HeaterHost.Proofs.Sensor.Acceptance
import Mathlib.Data.List.Induction
import Mathlib.Tactic.ByContra

/-!
# No heat without a recent good reading

The steps of the sensors, the control ticks and the commands to the heaters come in any order, and
the wires do what they want. Whatever came before, a tick that leaves a heater with any power was
given a sample which the heater's own sensor accepted not too long ago.
-/

namespace HeaterHost

open Wire

/-- What can happen to a host. The two halves of a sensor's step are events of their own, so that
ticks and commands can come while it waits for the answer. -/
inductive HostEvent where
  | beginStep (name : String)
  | finishStep (name : String) (deadline : Instant)
  | elapse (name : String) (time : Instant)
  | tick (name : String) (time : Float)
  | command (name : String) (command : HeaterCommand Float)

namespace Host

variable {ω : Type}

def power? (h : Host ω) (name : String) : Option Float :=
  (h.stations.get? name).map fun station => station.heater.power

section run

variable [Transport ω]

def perform (h : Host ω) : HostEvent → Host ω
  | .beginStep name => h.withSensor name fun sensor => sensor.begin.1
  | .finishStep name deadline => h.withSensor name fun sensor => (sensor.finish deadline).1
  | .elapse name time => h.withSensor name fun sensor => sensor.elapse time
  | .tick name time => h.tick name time
  | .command name command => h.mapBoard name fun heater => heater.obey command

def replay (h : Host ω) (events : List HostEvent) : Host ω :=
  events.foldl perform h

theorem replay_append (h : Host ω) (before after : List HostEvent) :
    h.replay (before ++ after) = (h.replay before).replay after :=
  List.foldl_append

end run

/-! ### Settling a station -/

def supplied (heater : BoardHeater Float) (sensor : Sensor ω) : Sensor ω :=
  { heater.outbox.foldr (fun command sensor => sensor.push command) sensor with signals := [] }

@[simp] theorem supplied_view (heater : BoardHeater Float) (sensor : Sensor ω) :
    (supplied heater sensor).view = sensor.view :=
  sensor.foldr_push_view heater.outbox

theorem settle_get?_self (h : Host ω) (name : String) (heater : BoardHeater Float)
    (sensor : Option (Sensor ω)) :
    (h.settle name { heater := .board heater, sensor }).stations.get? name =
      some { heater := .board heater.collected, sensor := sensor.map (supplied heater) } := by
  simp only [settle, NameMap.get?_insert_self, Option.map_map]
  rfl

theorem settle_get?_of_ne (h : Host ω) {name other : String} (hne : other ≠ name)
    (station : Station ω) :
    (h.settle name station).stations.get? other = h.stations.get? other := by
  unfold settle
  split <;> exact NameMap.get?_insert_of_ne _ hne _

theorem withSensor_get?_of_ne (h : Host ω) {name other : String} (hne : other ≠ name)
    (f : Sensor ω → Sensor ω) :
    (h.withSensor name f).stations.get? other = h.stations.get? other := by
  unfold withSensor
  split
  · rfl
  · exact h.settle_get?_of_ne hne _

theorem mapBoard_get?_of_ne (h : Host ω) {name other : String} (hne : other ≠ name)
    (f : BoardHeater Float → BoardHeater Float) :
    (h.mapBoard name f).stations.get? other = h.stations.get? other := by
  unfold mapBoard
  split
  · exact h.settle_get?_of_ne hne _
  · rfl

theorem tickOn_get?_of_ne (h : Host ω) {name other : String} (hne : other ≠ name)
    (sample : Sample Float) (time : Float) :
    (h.tickOn name sample time).stations.get? other = h.stations.get? other := by
  unfold tickOn
  split
  · rfl
  · exact h.settle_get?_of_ne hne _

theorem tick_get?_of_ne (h : Host ω) {name other : String} (hne : other ≠ name) (time : Float) :
    (h.tick name time).stations.get? other = h.stations.get? other := by
  unfold tick
  split
  · rfl
  · exact h.tickOn_get?_of_ne hne _ time

/-! ### A station whose samples are vouched for -/

/-- The station of a name has a safe heater of these settings, and every valid sample of its sensor
is vouched for. -/
def Guarded (h : Host ω) (name : String) (settings : HeaterSettings Float)
    (vouched : Sample Float → Prop) : Prop :=
  ∃ heater sensor, h.stations.get? name = some { heater := .board heater, sensor } ∧
    heater.settings = settings ∧ heater.PowerSafe ∧
    ∀ s, sensor = some s → s.view.sample.valid = true → vouched s.view.sample

namespace Guarded

variable {h : Host ω} {name : String} {settings : HeaterSettings Float}
  {vouched : Sample Float → Prop}

theorem mono (hguarded : h.Guarded name settings vouched) {vouched' : Sample Float → Prop}
    (himp : ∀ sample, vouched sample → vouched' sample) : h.Guarded name settings vouched' := by
  obtain ⟨heater, sensor, hget, hsettings, hsafe, hvouched⟩ := hguarded
  exact ⟨heater, sensor, hget, hsettings, hsafe, fun s hs hvalid => himp _ (hvouched s hs hvalid)⟩

theorem of_get?_eq (hguarded : h.Guarded name settings vouched) {k : Host ω}
    (heq : k.stations.get? name = h.stations.get? name) : k.Guarded name settings vouched := by
  obtain ⟨heater, sensor, hget, hrest⟩ := hguarded
  exact ⟨heater, sensor, heq.trans hget, hrest⟩

/-- Settling delivers commands and clears signals; neither touches what is guarded. -/
theorem settle (h : Host ω) {heater : BoardHeater Float} {sensor : Option (Sensor ω)}
    (hsettings : heater.settings = settings) (hsafe : heater.PowerSafe)
    (hvouched : ∀ s, sensor = some s → s.view.sample.valid = true → vouched s.view.sample) :
    (h.settle name { heater := .board heater, sensor }).Guarded name settings vouched := by
  refine ⟨heater.collected, sensor.map (supplied heater), h.settle_get?_self name heater sensor,
    hsettings, ⟨hsafe.parked, hsafe.marked, hsafe.unseen⟩, ?_⟩
  intro s hs hvalid
  obtain ⟨before, hbefore, rfl⟩ := Option.map_eq_some_iff.mp hs
  rw [supplied_view] at hvalid ⊢
  exact hvouched before hbefore hvalid

theorem withSensor (hguarded : h.Guarded name settings vouched) {vouched' : Sample Float → Prop}
    {f : Sensor ω → Sensor ω}
    (hf : ∀ s, h.sensor? name = some s → (s.view.sample.valid = true → vouched s.view.sample) →
      (f s).view.sample.valid = true → vouched' (f s).view.sample) :
    (h.withSensor name f).Guarded name settings vouched' := by
  obtain ⟨heater, sensor, hget, hsettings, hsafe, hvouched⟩ := hguarded
  simp only [Host.withSensor, hget]
  refine settle h hsettings hsafe ?_
  intro s hs hvalid
  obtain ⟨before, hbefore, rfl⟩ := Option.map_eq_some_iff.mp hs
  refine hf before ?_ (hvouched before hbefore) hvalid
  simp only [Host.sensor?, hget, Option.bind_some]
  exact hbefore

theorem mapBoard (hguarded : h.Guarded name settings vouched)
    {f : BoardHeater Float → BoardHeater Float}
    (hsettings : ∀ heater, (f heater).settings = heater.settings)
    (hsafe : ∀ heater, heater.PowerSafe → (f heater).PowerSafe) :
    (h.mapBoard name f).Guarded name settings vouched := by
  obtain ⟨heater, sensor, hget, hkept, hbefore, hvouched⟩ := hguarded
  simp only [Host.mapBoard, hget]
  exact settle h ((hsettings heater).trans hkept) (hsafe heater hbefore) hvouched

theorem tick (hguarded : h.Guarded name settings vouched) (time : Float) :
    (h.tick name time).Guarded name settings vouched := by
  obtain ⟨heater, sensor, hget, hsettings, hsafe, hvouched⟩ := hguarded
  simp only [Host.tick, Host.tickOn, hget]
  exact settle h ((BoardHeater.tick_settings ..).trans hsettings) (hsafe.tick ..) hvouched

variable [Transport ω]

/-- An event vouches for a sample only if it ends a step that accepts it. -/
theorem perform (hguarded : h.Guarded name settings vouched) (event : HostEvent) :
    (h.perform event).Guarded name settings fun sample =>
      vouched sample ∨ ∃ deadline sensor, event = .finishStep name deadline ∧
        h.sensor? name = some sensor ∧ sensor.Accepts deadline sample := by
  cases event with
  | beginStep other =>
      by_cases hname : name = other
      · subst hname
        refine hguarded.withSensor fun s _ hvouched hvalid => .inl ?_
        rcases s.begin_sample with hsame | hfailed
        · rw [hsame] at hvalid ⊢
          exact hvouched hvalid
        · rw [hfailed] at hvalid
          cases hvalid
      · exact (hguarded.of_get?_eq (h.withSensor_get?_of_ne hname _)).mono fun _ => .inl
  | finishStep other deadline =>
      by_cases hname : name = other
      · subst hname
        refine hguarded.withSensor fun s hs _ hvalid => .inr ?_
        exact ⟨deadline, s, rfl, hs, s.finish_accepts deadline hvalid⟩
      · exact (hguarded.of_get?_eq (h.withSensor_get?_of_ne hname _)).mono fun _ => .inl
  | elapse other time =>
      by_cases hname : name = other
      · subst hname
        exact hguarded.withSensor fun s _ hvouched hvalid => .inl (hvouched hvalid)
      · exact (hguarded.of_get?_eq (h.withSensor_get?_of_ne hname _)).mono fun _ => .inl
  | tick other time =>
      by_cases hname : name = other
      · subst hname
        exact (hguarded.tick time).mono fun _ => .inl
      · exact (hguarded.of_get?_eq (h.tick_get?_of_ne hname time)).mono fun _ => .inl
  | command other command =>
      by_cases hname : name = other
      · subst hname
        exact (hguarded.mapBoard (fun heater => heater.obey_settings command)
          fun heater hsafe => hsafe.obey command).mono fun _ => .inl
      · exact (hguarded.of_get?_eq (h.mapBoard_get?_of_ne hname _)).mono fun _ => .inl

/-- After a run every valid sample was accepted by the end of some step of the run. -/
theorem replay (hguarded : h.Guarded name settings fun _ => False) (events : List HostEvent) :
    (h.replay events).Guarded name settings fun sample =>
      ∃ before deadline after sensor, events = before ++ .finishStep name deadline :: after ∧
        (h.replay before).sensor? name = some sensor ∧ sensor.Accepts deadline sample := by
  induction events using List.reverseRecOn with
  | nil => exact hguarded.mono fun _ => False.elim
  | append_singleton before event ih =>
      rw [replay_append]
      refine (ih.perform event).mono ?_
      rintro sample (⟨early, deadline, late, sensor, hsplit, hsensor, haccepts⟩ |
        ⟨deadline, sensor, rfl, hsensor, haccepts⟩)
      · exact ⟨early, deadline, late ++ [event], sensor, by simp [hsplit], hsensor, haccepts⟩
      · exact ⟨before, deadline, [], sensor, rfl, hsensor, haccepts⟩

omit [Transport ω] in
/-- A tick that leaves power was given a valid sample, which is not too old and not too hot. -/
theorem tick_sample (hguarded : h.Guarded name settings vouched) {time power : Float}
    (hpower : (h.tick name time).power? name = some power) (hheats : power ≠ 0.0) :
    ∃ sensor, h.sensor? name = some sensor ∧ vouched sensor.view.sample ∧
      ¬ 2.0 * settings.reportTime < sensor.view.sample.age time ∧
      ¬ settings.maxTemp < sensor.view.sample.value := by
  obtain ⟨heater, sensor, hget, hsettings, hsafe, hvouched⟩ := hguarded
  have hticked : (h.tick name time).power? name =
      some (heater.tick (Station.sample { heater := .board heater, sensor }) heater.target
        time).lastPower := by
    simp only [Host.power?, Host.tick, Host.tickOn, hget, Heater.tick]
    rw [settle_get?_self]
    rfl
  have hleft : power = _ := (Option.some.inj (hticked.symm.trans hpower)).symm
  have husable : heater.Usable (Station.sample { heater := .board heater, sensor }) time := by
    by_contra hunusable
    exact hheats (hleft.trans (hsafe.tick_lastPower_of_unusable hunusable heater.target))
  have hfresh := husable.fresh
  have hrange := husable.inRange
  simp only [BoardHeater.isStale, BoardHeater.staleAfter, Bool.or_eq_false_iff,
    Bool.not_eq_false', decide_eq_false_iff_not, hsettings] at hfresh
  rw [hsettings] at hrange
  cases hsensor : sensor with
  | none =>
      rw [hsensor] at hfresh
      cases hfresh.1
  | some s =>
      rw [hsensor] at hfresh hrange
      refine ⟨s, ?_, hvouched s hsensor hfresh.1, hfresh.2, hrange⟩
      simp only [Host.sensor?, hget, Option.bind_some]
      exact hsensor

end Guarded

end Host

/-! ### Stations of a board -/

theorem HeaterConfig.path_of_wantsBoard {c : HeaterConfig} {name : String} {kind : HeaterPath}
    (hboard : c.wantsBoard = true) (hpath : c.path name = .ok kind) : kind = .board := by
  simp only [HeaterConfig.path, hboard, ↓reduceIte] at hpath
  split at hpath
  · cases hpath
  · split at hpath
    · cases hpath
    · cases hpath
      rfl

/-- The station of a section for a board: a heater that is off, and a sensor without a reading. -/
theorem HeaterPlan.checkedStation_eq_ok {ω : Type} {p : HeaterPlan ω} {name : String}
    {station : Station ω} (hboard : p.config.wantsBoard = true)
    (hstation : p.checkedStation name = .ok station) :
    station.heater = .board (BoardHeater.create name p.config.settings) ∧
      ∀ s, station.sensor = some s → s.view.sample.valid = false := by
  obtain ⟨-, hlaid | hlaid⟩ := HeaterPlan.checkedStation_cases hstation
  · cases HeaterConfig.path_of_wantsBoard hboard hlaid.1
  · obtain ⟨-, sensor, hsensor, rfl⟩ := hlaid
    refine ⟨rfl, ?_⟩
    rintro s rfl
    obtain ⟨endpoint, reportTime, wire, rfl⟩ := HeaterPlan.sensor_eq_ok hsensor
    rfl

namespace Host

variable {ω : Type} [Transport ω]

/-- No heat without a recent good reading. Take a checked section for a board, and any sequence of
sensor steps, ticks and commands from the host in which its station stands. If a tick then leaves
the heater with a power that is not zero, its sample is the one that some step of the sequence
accepted: it was read off a line of telemetry that parses, no flag takes it back (the text of the
flags has no one in the first place and none in the fifth), it lies in the range that is believed
and not above the section's maximum, and it is not older than two report times. -/
theorem heat_needs_recent_reading (p : HeaterPlan ω) (name : String) (station : Station ω)
    (start : Host ω) (events : List HostEvent) (time power : Float)
    (hboard : p.config.wantsBoard = true) (hstation : p.checkedStation name = .ok station)
    (hstart : start.stations.get? name = some station)
    (hpower : ((start.replay events).tick name time).power? name = some power)
    (hheats : power ≠ 0.0) :
    ∃ (before after : List HostEvent) (deadline : Instant) (stepping sensor : Sensor ω)
      (session : Session ω) (telemetry : Telemetry) (line : String),
      events = before ++ .finishStep name deadline :: after ∧
      (start.replay before).sensor? name = some stepping ∧
      stepping.session.await deadline = (session, .ok telemetry) ∧
      isTelemetry line = true ∧ Telemetry.parse line = .ok telemetry ∧
      telemetry.flags.openCircuit = false ∧ telemetry.flags.noTempRead = false ∧
      ¬ telemetry.flags.HasOneAt 0 ∧ ¬ telemetry.flags.HasOneAt 4 ∧
      (start.replay events).sensor? name = some sensor ∧
      sensor.view.sample = Sample.reading session.now.seconds telemetry.temperature ∧
      -273.15 ≤ telemetry.temperature ∧ telemetry.temperature ≤ 1000.0 ∧
      ¬ p.config.maxTemp < telemetry.temperature ∧
      ¬ 2.0 * p.config.reportTime < time - session.now.seconds := by
  obtain ⟨hheater, hsensor⟩ := HeaterPlan.checkedStation_eq_ok hboard hstation
  have hguarded : start.Guarded name p.config.settings fun _ => False := by
    refine ⟨_, station.sensor, ?_, rfl, .create name p.config.settings, ?_⟩
    · rw [hstart, ← hheater]
    · intro s hs hvalid
      rw [hsensor s hs] at hvalid
      cases hvalid
  obtain ⟨sensor, hget, hvouched, hrecent, hcool⟩ :=
    (hguarded.replay events).tick_sample hpower hheats
  obtain ⟨before, deadline, after, stepping, hsplit, hstepping, haccepts⟩ := hvouched
  obtain ⟨session, telemetry, line, hawait, hline, hparse, hcredible, hsample⟩ := haccepts
  obtain ⟨hlow, hhigh⟩ := hcredible.temperature_bounds
  obtain ⟨hopen, hread⟩ := Sensor.unflagged_iff.mp ⟨hcredible.connected, hcredible.read⟩
  rw [hsample] at hrecent hcool
  exact ⟨before, after, deadline, stepping, sensor, session, telemetry, line, hsplit, hstepping,
    hawait, hline, hparse, hcredible.connected, hcredible.read, hopen, hread, hget, hsample, hlow,
    hhigh, hcool, hrecent⟩

end Host

/-! ### A run that heats -/

/-- A section whose board answers the first query with a reading of 25 degrees. -/
def benchPlan : HeaterPlan Simulator.Line :=
  { config := HeaterConfig.onBoard "/dev/ttyACM1" 10.0 450.0
    wire := some (
      { farEnd := .script { entries := [.accept {
          answers := [[], [], [.bytes "tick:1, T_a:2500\x00".toUTF8.toList]]
          writesLeft := none }] } },
      "script:extruder") }

def benchRun (station : Station Simulator.Line) : Option Float :=
  let start : Host Simulator.Line :=
    { stations := NameMap.empty.insert "extruder" station
      tracker := Gcode.Tracker.create 1 (fun _ => "") .off }
  ((start.replay [.command "extruder" (.setTemp 200.0), .beginStep "extruder",
    .finishStep "extruder" 100000000]).tick "extruder" 0.05).power? "extruder"

theorem bench_heat_has_recent_reading :
    ∃ (station : Station Simulator.Line) (session : Session Simulator.Line)
      (telemetry : Telemetry),
      benchPlan.checkedStation "extruder" = .ok station ∧ benchRun station = some 1.0 ∧
      telemetry.flags.noTempRead = false ∧ telemetry.temperature ≤ 1000.0 ∧
      ¬ 450.0 < telemetry.temperature ∧ ¬ 2.0 * minReportTime < 0.05 - session.now.seconds := by
  have hrun : (benchPlan.checkedStation "extruder").toOption.bind benchRun = some 1.0 := by
    decide +kernel
  cases hstation : benchPlan.checkedStation "extruder" with
  | error error =>
      rw [hstation] at hrun
      cases hrun
  | ok station =>
      rw [hstation] at hrun
      have hpower : benchRun station = some 1.0 := hrun
      obtain ⟨_, _, _, _, _, session, telemetry, _, -, -, -, -, -, -, hread, -, -, -, -, -, hhigh, hcool,
        hrecent⟩ := Host.heat_needs_recent_reading benchPlan "extruder" station _ _ 0.05 1.0 rfl
          hstation (NameMap.get?_insert_self ..) hpower (by decide +kernel)
      exact ⟨station, session, telemetry, rfl, hpower, hread, hhigh, hcool, hrecent⟩

end HeaterHost
