import HeaterHost.Proofs.Config.Accepted
import HeaterHost.Proofs.Heater.SafeTarget
import HeaterHost.Proofs.Host.Stimuli
import HeaterHost.Proofs.Sensor.Waiting

/-!
# No line sets an unsafe target

Lines come in from outside while heaters tick and sensors make their steps. Every target then came
through a line, and the line's number was finite: what a heater heats towards, what its experiments
do, and what waits for its board is zero or within the limits of its section.
-/

namespace HeaterHost

open Autotune Double Gcode Wire

theorem HeaterCommand.Admitted.isFinite_of_mem_orders {command : HeaterCommand Float}
    {target : Float} (hadmitted : command.Admitted)
    (horder : DeviceCommand.setTarget target ∈ command.orders) :
    Decimal.isFinite target = true := by
  rcases HeaterCommand.setTarget_mem_orders horder with rfl | ⟨time, rfl⟩ | ⟨⟨time, rfl⟩, -⟩
  · exact hadmitted
  · exact hadmitted
  · exact hadmitted.elim

/-! ### Heaters of either kind -/

namespace Heater

/-- The target of a heater is safe, and on a board all that depends on it. -/
def Confined (low high : Float) : Heater Float → Prop
  | stock h => h.minTemp = low ∧ h.maxTemp = high ∧ SafeTarget low high h.target
  | board h => h.Confined low high

variable {heater heater' : Heater Float} {low high : Float}

theorem Confined.target (hconfined : heater.Confined low high) :
    SafeTarget low high heater.target := by
  cases heater with
  | stock h => exact hconfined.2.2
  | board h => exact hconfined.vetted.target

theorem stock_tick_limits (h : StockHeater Float) (sample : Sample Float) (target : Float) :
    (h.tick sample target).minTemp = h.minTemp ∧ (h.tick sample target).maxTemp = h.maxTemp ∧
      (h.tick sample target).target = h.target := by
  unfold StockHeater.tick
  split
  · exact ⟨rfl, rfl, rfl⟩
  · split
    · exact ⟨rfl, rfl, rfl⟩
    · exact ⟨rfl, rfl, rfl⟩

variable (hlow : low.isNaN = false) (hhigh : high.isNaN = false)

include hlow hhigh

theorem Confined.tick (hconfined : heater.Confined low high) (sample : Sample Float)
    (target time : Float) : (heater.tick sample target time).Confined low high := by
  cases heater with
  | stock h =>
      obtain ⟨hmin, hmax, htarget⟩ := stock_tick_limits h sample target
      refine ⟨hmin.trans hconfined.1, hmax.trans hconfined.2.1, ?_⟩
      rw [htarget]
      exact hconfined.2.2
  | board h =>
      have hticked : (h.perform (.tick sample target time)).Confined low high := by
        refine BoardHeater.Confined.perform hlow hhigh hconfined ?_
        intro asked horder
        exact absurd horder (BoardHeater.setTarget_notMem_orders_tick sample target time asked)
      exact hticked

/-- The finite number of a line becomes a target only where it passes the check of its command. -/
theorem Confined.attempt (hconfined : heater.Confined low high) {command : HeaterCommand Float}
    (hadmitted : command.Admitted) (hattempt : heater.attempt command = (heater', .ok ())) :
    heater'.Confined low high := by
  rcases heater.attempt_cases command with
    ⟨h, degrees, rfl, rfl, hcheck, heq⟩ | ⟨h, h', rfl, hboard, heq⟩ | ⟨_, heq⟩ <;>
    rw [heq] at hattempt <;> cases hattempt
  · rw [hconfined.1, hconfined.2.1] at hcheck
    exact ⟨hconfined.1, hconfined.2.1, .of_checkTarget hlow hhigh hadmitted hcheck⟩
  · have hobeyed : (h.perform (.command command)).Confined low high := by
      refine BoardHeater.Confined.perform hlow hhigh hconfined ?_
      intro target horder
      rw [BoardHeater.orders_of_attempt hboard] at horder
      exact hadmitted.isFinite_of_mem_orders horder
    rwa [BoardHeater.perform_of_attempt hboard] at hobeyed

end Heater

theorem BoardHeater.Confined.shutdown {h : BoardHeater Float} {low high : Float}
    (hlow : low.isNaN = false) (hhigh : high.isNaN = false) (hconfined : h.Confined low high)
    (time : Float) : (h.shutdown time).Confined low high := by
  have hobeyed : (h.perform (.command (.shutdown time))).Confined low high := by
    refine hconfined.perform hlow hhigh ?_
    intro target horder
    have hattempt : h.attempt (.shutdown time) = (h.shutdown time, .ok ()) := rfl
    rw [BoardHeater.orders_of_attempt hattempt] at horder
    rcases HeaterCommand.setTarget_mem_orders horder with heq | ⟨_, heq⟩ | ⟨-, rfl⟩
    · cases heq
    · cases heq
    · exact (SafeTarget.zero low high).finite
  exact hobeyed

/-! ### Stations -/

variable {ω : Type}

/-- The heater of a station is confined, and what waits for its board has safe targets. -/
structure Station.Confined (low high : Float) (station : Station ω) : Prop where
  heater : station.heater.Confined low high
  waiting : ∀ sensor, station.sensor = some sensor → ∀ command ∈ sensor.waiting,
    command.TargetSatisfies (SafeTarget low high)

namespace Host

/-- There is a station of the name, and it is confined. -/
def Confines (h : Host ω) (name : String) (low high : Float) : Prop :=
  ∃ station, h.stations.get? name = some station ∧ station.Confined low high

namespace Confines

variable {h k : Host ω} {name : String} {low high : Float}

theorem of_get?_eq (hconfines : h.Confines name low high)
    (heq : k.stations.get? name = h.stations.get? name) : k.Confines name low high := by
  obtain ⟨station, hget, hconfined⟩ := hconfines
  exact ⟨station, heq.trans hget, hconfined⟩

/-- What a heater has queued is safe, so that it may wait at the sensor. -/
theorem settle (h : Host ω) (name : String) {station : Station ω}
    (hconfined : station.Confined low high) : (h.settle name station).Confines name low high := by
  obtain ⟨heater, sensor⟩ := station
  cases heater with
  | stock heater => exact ⟨_, NameMap.get?_insert_self .., hconfined⟩
  | board heater =>
      refine ⟨_, h.settle_get?_self name heater sensor, hconfined.heater.collected, ?_⟩
      intro supplied hsupplied command hmem
      obtain ⟨before, hbefore, rfl⟩ := Option.map_eq_some_iff.mp hsupplied
      rcases Sensor.mem_waiting_of_foldr_push hmem with hwaiting | hqueued
      · exact hconfined.waiting before hbefore command hwaiting
      · exact hconfined.heater.vetted.queued command hqueued

theorem withSensor (hconfines : h.Confines name low high) (other : String)
    {f : Sensor ω → Sensor ω} (hf : ∀ sensor, (f sensor).waiting ⊆ sensor.waiting) :
    (h.withSensor other f).Confines name low high := by
  by_cases hname : name = other
  · subst hname
    obtain ⟨station, hget, hconfined⟩ := hconfines
    simp only [Host.withSensor, hget]
    refine settle h name ⟨hconfined.heater, ?_⟩
    intro sensor hsensor command hmem
    obtain ⟨before, hbefore, rfl⟩ := Option.map_eq_some_iff.mp hsensor
    exact hconfined.waiting before hbefore command (hf before hmem)
  · exact hconfines.of_get?_eq (h.withSensor_get?_of_ne hname f)

variable (hlow : low.isNaN = false) (hhigh : high.isNaN = false)

include hlow hhigh

theorem tickOn (hconfines : h.Confines name low high) (other : String) (sample : Sample Float)
    (time : Float) : (h.tickOn other sample time).Confines name low high := by
  by_cases hname : name = other
  · subst hname
    obtain ⟨station, hget, hconfined⟩ := hconfines
    simp only [Host.tickOn, hget]
    exact settle h name ⟨hconfined.heater.tick hlow hhigh .., hconfined.waiting⟩
  · exact hconfines.of_get?_eq (h.tickOn_get?_of_ne hname sample time)

theorem shutdown (hconfines : h.Confines name low high) (other : String) (time : Float) :
    (h.mapBoard other fun heater => heater.shutdown time).Confines name low high := by
  by_cases hname : name = other
  · subst hname
    obtain ⟨⟨heater, sensor⟩, hget, hconfined⟩ := hconfines
    cases heater with
    | stock heater =>
        simp only [Host.mapBoard, hget]
        exact ⟨_, hget, hconfined⟩
    | board heater =>
        simp only [Host.mapBoard, hget]
        exact settle h name ⟨hconfined.heater.shutdown hlow hhigh time, hconfined.waiting⟩
  · exact hconfines.of_get?_eq (h.mapBoard_get?_of_ne hname _)

theorem lineEffect {station : Station ω} (hget : h.stations.get? name = some station)
    (hconfined : station.Confined low high) (heffect : h.LineEffect name station k) :
    k.Confines name low high := by
  cases heffect with
  | nothing => exact ⟨station, hget, hconfined⟩
  | heater command hadmitted heater hattempt =>
      exact settle h name
        ⟨hconfined.heater.attempt hlow hhigh hadmitted hattempt, hconfined.waiting⟩
  | order sensor hsensor command hcommand =>
      refine settle h name ⟨hconfined.heater, ?_⟩
      rintro _ ⟨⟩ waiting hmem
      rcases Sensor.mem_waiting_of_push hmem with hbefore | rfl
      · exact hconfined.waiting sensor hsensor waiting hbefore
      · exact .of_target?_eq_none hcommand

theorem serves {line : Line} (hconfines : h.Confines name low high) (hserves : h.Serves line k) :
    k.Confines name low high := by
  obtain ⟨other, addressed, -, haddressed, heffect⟩ := hserves
  by_cases hname : name = other
  · subst hname
    obtain ⟨station, hget, hconfined⟩ := hconfines
    obtain rfl : station = addressed := Option.some.inj (hget.symm.trans haddressed)
    exact lineEffect hlow hhigh hget hconfined heffect
  · exact hconfines.of_get?_eq (heffect.get?_of_ne hname)

omit hlow hhigh in
theorem spared (hconfines : h.Confines name low high) (hspared : h.Spared k) :
    k.Confines name low high := by
  rcases hspared with rfl | ⟨other, addressed, haddressed, rfl⟩
  · exact hconfines
  · by_cases hname : name = other
    · subst hname
      obtain ⟨station, hget, hconfined⟩ := hconfines
      obtain rfl : station = addressed := Option.some.inj (hget.symm.trans haddressed)
      exact settle h name hconfined
    · exact hconfines.of_get?_eq (h.settle_get?_of_ne hname addressed)

theorem execute (hconfines : h.Confines name low high) (text : String) (time : Float) :
    (h.execute text time).1.Confines name low high := by
  cases hparse : Line.parse? text with
  | none =>
      rw [execute_of_blank hparse]
      exact hconfines
  | some line =>
      have hnoted : (h.noted text time).Confines name low high :=
        hconfines.of_get?_eq (by rw [noted_stations])
      cases houtcome : (h.execute text time).2 with
      | error error => exact hnoted.spared (spared_of_execute_eq_error hparse houtcome)
      | ok reply => exact hnoted.serves hlow hhigh (serves_of_execute_eq_ok hparse houtcome)

end Confines

/-! ### A host that runs -/

section run

variable [Transport ω]

namespace Confines

variable {h : Host ω} {name : String} {low high : Float}
  (hlow : low.isNaN = false) (hhigh : high.isNaN = false)

include hlow hhigh

theorem react (hconfines : h.Confines name low high) (stimulus : Stimulus) :
    (h.react stimulus).Confines name low high := by
  cases stimulus with
  | line text time => exact hconfines.execute hlow hhigh text time
  | tick other sample time => exact hconfines.tickOn hlow hhigh other sample time
  | shutdown other time => exact hconfines.shutdown hlow hhigh other time
  | beginStep other =>
      exact hconfines.withSensor other fun sensor => sensor.begin_waiting.subset
  | finishStep other deadline =>
      refine hconfines.withSensor other ?_
      intro sensor
      rw [Sensor.finish_waiting]
      exact List.Subset.refl _
  | elapse other time => exact hconfines.withSensor other fun _ => List.Subset.refl _
  | park other => exact hconfines.withSensor other fun _ => List.Subset.refl _

theorem reactAll (hconfines : h.Confines name low high) (stimuli : List Stimulus) :
    (h.reactAll stimuli).Confines name low high := by
  induction stimuli generalizing h with
  | nil => exact hconfines
  | cons stimulus rest ih => exact ih (hconfines.react hlow hhigh stimulus)

end Confines

end run

end Host

/-- A station that is set up has a target of zero, and nothing waits in it. -/
theorem HeaterPlan.checkedStation_confined {p : HeaterPlan ω} {name : String}
    {station : Station ω} (hstation : p.checkedStation name = .ok station) :
    p.config.Accepted name ∧ station.Confined p.config.minTemp p.config.maxTemp := by
  obtain ⟨hvalid, hlaid⟩ := HeaterPlan.checkedStation_cases hstation
  refine ⟨HeaterConfig.validate_eq_ok_iff.mp hvalid, ?_⟩
  rcases hlaid with ⟨-, rfl⟩ | ⟨-, sensor, hsensor, rfl⟩
  · refine ⟨⟨rfl, rfl, .zero ..⟩, ?_⟩
    intro sensor hsensor
    cases hsensor
  · refine ⟨BoardHeater.Confined.create name p.config.settings, ?_⟩
    rintro sensor rfl command hmem
    obtain ⟨endpoint, reportTime, wire, rfl⟩ := HeaterPlan.sensor_eq_ok hsensor
    cases hmem

namespace Host

variable [Transport ω]

/-- No line sets an unsafe target. In a host that is set up from sections that are accepted, as
`ofConfig_eq_setUp` says of the host of a configuration, and after any run of lines, ticks, steps and
shutdowns, the target of every heater is zero or within the limits of its section. So are the targets
of the experiment under way and of the run on record, the target that comes back after it, and every
target that waits for the board. None of them is a NaN or infinite. -/
theorem lines_set_safe_targets (plans : NameMap (HeaterPlan ω)) (tracker : Tracker)
    (start : Host ω) (hsetup : setUp plans tracker = .ok start) (stimuli : List Stimulus)
    (name : String) (plan : HeaterPlan ω) (hplan : plans.get? name = some plan) :
    ∃ station, (start.reactAll stimuli).stations.get? name = some station ∧
      SafeTarget plan.config.minTemp plan.config.maxTemp station.heater.target ∧
      (∀ heater relay resume prior, station.heater = .board heater →
        heater.control = .autotune relay resume prior →
        SafeTarget plan.config.minTemp plan.config.maxTemp relay.target ∧
          SafeTarget plan.config.minTemp plan.config.maxTemp prior) ∧
      (∀ heater run, station.heater = .board heater → heater.record.run = some run →
        SafeTarget plan.config.minTemp plan.config.maxTemp run.target) ∧
      (∀ sensor target, station.sensor = some sensor → .setTarget target ∈ sensor.waiting →
        SafeTarget plan.config.minTemp plan.config.maxTemp target) := by
  obtain ⟨station, hget, hchecked⟩ := setUp_get? hsetup hplan
  obtain ⟨haccepted, hconfined⟩ := HeaterPlan.checkedStation_confined hchecked
  have hstart : start.Confines name plan.config.minTemp plan.config.maxTemp :=
    ⟨station, hget, hconfined⟩
  obtain ⟨after, hafter, hheld⟩ :=
    hstart.reactAll haccepted.isNaN_minTemp haccepted.isNaN_maxTemp stimuli
  refine ⟨after, hafter, hheld.heater.target, ?_, ?_, ?_⟩
  · intro heater relay resume prior hboard hcontrol
    have hheater := hheld.heater
    rw [hboard] at hheater
    refine ⟨hheater.relay relay ?_, hheater.vetted.priorTarget prior ?_⟩
    · rw [hcontrol]
      rfl
    · rw [hcontrol]
      rfl
  · intro heater run hboard hrun
    have hheater := hheld.heater
    rw [hboard] at hheater
    exact hheater.run run hrun
  · intro sensor target hsensor hmem
    exact hheld.waiting sensor hsensor (.setTarget target) hmem

end Host

/-- A target, an experiment, and two targets that are refused. -/
def benchLines : List Host.Stimulus :=
  [.line "SET_HEATER_TEMPERATURE HEATER=extruder TARGET=200" 0.0,
    .line "TUNE HEATER=extruder PID=240" 0.0,
    .tick "extruder" (Sample.reading 0.0 25.0) 0.0,
    .line "SET_HEATER_TEMPERATURE HEATER=extruder TARGET=nan" 0.0,
    .line "SET_HEATER_TEMPERATURE HEATER=extruder TARGET=500" 0.0]

def benchHost : Except SetupError (Host Simulator.Line) :=
  Host.setUp (NameMap.empty.insert "extruder" benchPlan) (Tracker.create 1 (fun _ => "") .off)

def benchTarget (start : Host Simulator.Line) : Option Float :=
  ((start.reactAll benchLines).stations.get? "extruder").map fun station => station.heater.target

theorem bench_lines_set_safe_target :
    ∃ start station, benchHost = .ok start ∧
      (start.reactAll benchLines).stations.get? "extruder" = some station ∧
      station.heater.target = 240.0 ∧ SafeTarget 10.0 450.0 station.heater.target := by
  have hrun : benchHost.toOption.bind benchTarget = some 240.0 := by decide +kernel
  obtain ⟨start, hstart, htarget⟩ := Option.bind_eq_some_iff.mp hrun
  have hsetup : benchHost = .ok start := by
    cases hhost : benchHost with
    | error error =>
        rw [hhost] at hstart
        cases hstart
    | ok host =>
        rw [hhost] at hstart
        cases hstart
        rfl
  obtain ⟨station, hget, hsafe, -⟩ :=
    Host.lines_set_safe_targets _ _ start hsetup benchLines "extruder" benchPlan
      (NameMap.get?_insert_self ..)
  rw [benchTarget, hget] at htarget
  simp only [benchPlan, HeaterConfig.onBoard] at hsafe
  exact ⟨start, station, hsetup, hget, Option.some.inj htarget, hsafe⟩

end HeaterHost
