import HeaterHost.Host.Schedule
import HeaterHost.Simulator.Line
import HeaterHost.Proofs.Config.Accepted
import HeaterHost.Proofs.Host.Stations
import HeaterHost.Proofs.NameMap

/-!
# Starting a host

A start that is refused has done nothing: every section is checked before the first one is started.
Once the sections are accepted none of the errors further on can occur, and the section's type of
heater alone says what becomes of it.
-/

namespace HeaterHost

variable {ω : Type}

namespace Starting

variable {α β : Type}

theorem outcome_bind (x : Starting α) (f : α → Starting β) (before : List StartAct) :
    (x >>= f).outcome before =
      match x.outcome before with
      | (.ok a, acts) => (f a).outcome acts
      | (.error error, acts) => (.error error, acts) := by
  simp only [outcome, ExceptT.run_bind, StateT.run_bind]
  rcases hx : (ExceptT.run x).run before with ⟨_ | a, acts⟩ <;> rfl

/-- Once the first part has succeeded, the rest goes on from its acts. -/
theorem outcome_bind_of_ok {x : Starting α} {f : α → Starting β} {before acts : List StartAct}
    {a : α} (hx : x.outcome before = (.ok a, acts)) :
    (x >>= f).outcome before = (f a).outcome acts := by
  rw [outcome_bind, hx]

theorem outcome_bind_of_error {x : Starting α} {f : α → Starting β}
    {before acts : List StartAct} {error : SetupError}
    (hx : x.outcome before = (.error error, acts)) :
    (x >>= f).outcome before = (.error error, acts) := by
  rw [outcome_bind, hx]

@[simp] theorem outcome_pure (a : α) (before : List StartAct) :
    (pure a : Starting α).outcome before = (.ok a, before) := rfl

@[simp] theorem outcome_act (a : StartAct) (before : List StartAct) :
    (act a).outcome before = (.ok (), before ++ [a]) := rfl

theorem outcome_ofConfigResult_of_ok {x : Except ConfigError α} {a : α} (hx : x = .ok a)
    (before : List StartAct) : (ofConfigResult x).outcome before = (.ok a, before) := by
  rw [hx]
  rfl

theorem outcome_ofConfigResult_of_error {x : Except ConfigError α} {error : ConfigError}
    (hx : x = .error error) (before : List StartAct) :
    (ofConfigResult x).outcome before = (.error (.config error), before) := by
  rw [hx]
  rfl

end Starting

/-! ### What becomes of a section -/

/-- A heater on a board with a sensor on the wire of the section, or a heater of the host's own
without a sensor. -/
inductive Station.Serves (wire : String → HeaterConfig → ω × String) (name : String)
    (options : HeaterConfig) : Station ω → Prop
  | board (wants : options.wantsBoard = true) (reportTime : Span)
      (fits : Span.ofSeconds? options.reportTime = some reportTime) :
      Serves wire name options {
        heater := .board (BoardHeater.create name options.settings)
        sensor := some (Sensor.create name (wire name options).2 options.gains reportTime
          Host.storeCapacity (wire name options).1) }
  | stock (declines : options.wantsBoard = false) :
      Serves wire name options {
        heater := .stock (StockHeater.create name options.control options.settings)
        sensor := none }

/-- Its connector is asked for once, and it gets a sampler and a control loop, if and only if it
wants a board. -/
def HeaterConfig.startActs (name : String) (options : HeaterConfig) : List StartAct :=
  if options.wantsBoard then [.connect name, .spawnSampler name, .spawnControl name] else []

/-- The report time of a section that wants a board can be measured. -/
def HeaterConfig.FitsSpan (options : HeaterConfig) : Prop :=
  options.wantsBoard = true → (Span.ofSeconds? options.reportTime).isSome = true

theorem HeaterConfig.boardHeater_eq_ok {options : HeaterConfig} {name : String}
    (hvalid : options.validate name = .ok ()) (hpath : options.path name = .ok .board) :
    options.boardHeater name = .ok (BoardHeater.create name options.settings) := by
  simp only [boardHeater, hvalid, hpath]
  rfl

namespace Host

open Starting

section sections

variable {wire : String → HeaterConfig → ω × String} {name : String} {options : HeaterConfig}

theorem startBoard_outcome {reportTime : Span} (hvalid : options.validate name = .ok ())
    (hpath : options.path name = .ok .board)
    (hspan : Span.ofSeconds? options.reportTime = some reportTime) (before : List StartAct) :
    (startBoard wire name options).outcome before =
      (.ok {
        heater := .board (BoardHeater.create name options.settings)
        sensor := some (Sensor.create name (wire name options).2 options.gains reportTime
          storeCapacity (wire name options).1) },
        before ++ [.connect name, .spawnSampler name, .spawnControl name]) := by
  have hheater := HeaterConfig.boardHeater_eq_ok hvalid hpath
  simp only [startBoard, hspan, outcome_bind, outcome_act, outcome_ofConfigResult_of_ok hheater,
    outcome_pure, List.append_assoc, List.cons_append, List.nil_append]

variable (wire) in
theorem startSection_outcome (hvalid : options.validate name = .ok ())
    (hfits : options.FitsSpan) (before : List StartAct) :
    ∃ station, Station.Serves wire name options station ∧
      (startSection wire name options).outcome before =
        (.ok station, before ++ options.startActs name) := by
  obtain ⟨kind, hpath, -⟩ := (HeaterConfig.validate_eq_ok_iff.mp hvalid).path
  have hkind := HeaterConfig.eq_board_iff_of_path hpath
  rw [startSection, outcome_bind_of_ok (outcome_ofConfigResult_of_ok hpath before)]
  cases kind with
  | board =>
      have hwants := hkind.mp rfl
      obtain ⟨reportTime, hspan⟩ := Option.isSome_iff_exists.mp (hfits hwants)
      refine ⟨_, .board hwants reportTime hspan, ?_⟩
      rw [HeaterConfig.startActs, if_pos hwants]
      exact startBoard_outcome hvalid hpath hspan before
  | stock =>
      have hdeclines : options.wantsBoard = false := by
        simpa using mt hkind.mpr (by simp)
      refine ⟨_, .stock hdeclines, ?_⟩
      rw [HeaterConfig.startActs, hdeclines, outcome_pure]
      simp

variable (wire) in
theorem startSections_outcome {sections : List (String × HeaterConfig)}
    (hvalid : ∀ name options, (name, options) ∈ sections → options.validate name = .ok ())
    (hfits : ∀ name options, (name, options) ∈ sections → options.FitsSpan)
    (before : List StartAct) :
    ∃ stations,
      List.Forall₂ (fun own station => station.1 = own.1 ∧
        Station.Serves wire own.1 own.2 station.2) sections stations ∧
      (startSections wire sections).outcome before =
        (.ok stations, before ++ sections.flatMap fun own => own.2.startActs own.1) := by
  induction sections generalizing before with
  | nil => exact ⟨[], .nil, by simp [startSections]⟩
  | cons first rest ih =>
      obtain ⟨name, options⟩ := first
      obtain ⟨station, hserves, hfirst⟩ := startSection_outcome wire
        (hvalid name options (List.mem_cons_self ..)) (hfits name options (List.mem_cons_self ..))
        before
      obtain ⟨stations, hstations, hrest⟩ := ih
        (fun name options hmem => hvalid name options (List.mem_cons_of_mem _ hmem))
        (fun name options hmem => hfits name options (List.mem_cons_of_mem _ hmem))
        (before ++ options.startActs name)
      refine ⟨(name, station) :: stations, .cons ⟨rfl, hserves⟩ hstations, ?_⟩
      rw [startSections, outcome_bind_of_ok hfirst, outcome_bind_of_ok hrest, outcome_pure]
      simp

end sections

/-! ### The plans of a configuration -/

/-- A wire goes to every section that wants a board. -/
def planOf (wire : String → HeaterConfig → ω × String) (name : String) (options : HeaterConfig) :
    HeaterPlan ω :=
  { config := options
    wire := if options.wantsBoard then some (wire name options) else none }

theorem checkedStation_of_serves {wire : String → HeaterConfig → ω × String} {name : String}
    {options : HeaterConfig} {station : Station ω} (hvalid : options.validate name = .ok ())
    (hserves : Station.Serves wire name options station) :
    (planOf wire name options).checkedStation name = .ok station := by
  obtain ⟨kind, hpath, -⟩ := (HeaterConfig.validate_eq_ok_iff.mp hvalid).path
  have hkind := HeaterConfig.eq_board_iff_of_path hpath
  cases hserves with
  | board wants reportTime fits =>
      obtain rfl := hkind.mpr wants
      have hheater : options.heater name =
          .ok (.board (BoardHeater.create name options.settings)) := by
        rw [HeaterConfig.heater, hpath]
        exact congrArg (Except.map Heater.board) (HeaterConfig.boardHeater_eq_ok hvalid hpath)
      simp only [HeaterPlan.checkedStation, HeaterPlan.station, HeaterPlan.sensor, planOf, hvalid,
        hheater, wants, ↓reduceIte, fits]
      rfl
  | stock declines =>
      cases kind with
      | board => simp [declines] at hkind
      | stock =>
          have hheater : options.heater name =
              .ok (.stock (StockHeater.create name options.control options.settings)) := by
            rw [HeaterConfig.heater, hpath]
            rfl
          simp only [HeaterPlan.checkedStation, HeaterPlan.station, planOf, hvalid, hheater]
          rfl

theorem stationsOf_of_serves {wire : String → HeaterConfig → ω × String}
    {sections : List (String × HeaterConfig)} {stations : List (String × Station ω)}
    (hvalid : ∀ name options, (name, options) ∈ sections → options.validate name = .ok ())
    (hserves : List.Forall₂ (fun own station => station.1 = own.1 ∧
      Station.Serves wire own.1 own.2 station.2) sections stations) :
    stationsOf (sections.map fun own => (own.1, planOf wire own.1 own.2)) = .ok stations := by
  induction hserves with
  | nil => rfl
  | @cons own station rest stations hfirst hrest ih =>
      obtain ⟨name, options⟩ := own
      obtain ⟨_, station⟩ := station
      obtain ⟨rfl, hserves⟩ := hfirst
      have hchecked := checkedStation_of_serves
        (hvalid _ options (List.mem_cons_self ..)) hserves
      have hothers := ih fun name options hmem => hvalid name options (List.mem_cons_of_mem _ hmem)
      simp only [List.map_cons, stationsOf, hchecked, hothers]
      rfl

/-! ### The tasks -/

/-- The names of the sections that want a board. -/
def boardNames (sections : List (String × HeaterConfig)) : List String :=
  (sections.filter fun own => own.2.wantsBoard).map (·.1)

theorem sensors_of_serves {wire : String → HeaterConfig → ω × String}
    {sections : List (String × HeaterConfig)} {stations : List (String × Station ω)}
    (hserves : List.Forall₂ (fun own station => station.1 = own.1 ∧
      Station.Serves wire own.1 own.2 station.2) sections stations) :
    (stations.filter fun station => station.2.sensor.isSome).map (·.1) = boardNames sections := by
  induction hserves with
  | nil => rfl
  | @cons own station rest stations hfirst hrest ih =>
      obtain ⟨name, station⟩ := station
      obtain ⟨rfl, hserves⟩ := hfirst
      cases hserves with
      | board wants reportTime fits => simpa [boardNames, wants] using ih
      | stock declines => simpa [boardNames, declines] using ih

/-- The timers of a schedule at its start: those of the stations with a sensor, due at once. -/
theorem start_timers_mem {host : Host ω} {now : Instant} {name : String} {timers : Timers}
    (hget : (Schedule.start host now).timers.get? name = some timers) :
    name ∈ host.sampledHeaters ∧ timers.control = some now ∧ timers.sample = some now := by
  obtain ⟨⟨key, station⟩, hstation, htimers⟩ :=
    List.mem_filterMap.mp (NameMap.mem_of_get?_ofList hget)
  obtain ⟨sensor, hsensor, heq⟩ := Option.map_eq_some_iff.mp htimers
  cases heq
  refine ⟨List.mem_map.mpr ⟨(name, station), List.mem_filter.mpr ⟨hstation, ?_⟩, rfl⟩, rfl, rfl⟩
  simp [hsensor]

theorem start_timers_isSome {host : Host ω} {now : Instant} {name : String}
    (hsampled : name ∈ host.sampledHeaters) :
    ((Schedule.start host now).timers.get? name).isSome = true := by
  obtain ⟨⟨key, station⟩, hstation, rfl⟩ := List.mem_map.mp hsampled
  obtain ⟨hstation, hsensor⟩ := List.mem_filter.mp hstation
  obtain ⟨sensor, hsensor⟩ := Option.isSome_iff_exists.mp hsensor
  let timers : Timers :=
    { period := sensor.session.link.timeout, control := some now, sample := some now }
  refine NameMap.isSome_get?_ofList.mpr (List.mem_map.mpr ⟨(key, timers), ?_, rfl⟩)
  refine List.mem_filterMap.mpr ⟨(key, station), hstation, ?_⟩
  change station.sensor.map _ = _
  rw [hsensor]
  rfl

/-- A control loop and a sampler run for the stations with a sensor, and for no others. -/
theorem start_timers (host : Host ω) (now : Instant) (name : String) :
    (((Schedule.start host now).timers.get? name).map fun t => (t.control, t.sample)) =
      if name ∈ host.sampledHeaters then some (some now, some now) else none := by
  cases hget : (Schedule.start host now).timers.get? name with
  | none =>
      rw [if_neg]
      · rfl
      · intro hsampled
        have hsome : ((Schedule.start host now).timers.get? name).isSome = true :=
          start_timers_isSome hsampled
        rw [hget] at hsome
        cases hsome
  | some timers =>
      obtain ⟨hsampled, hcontrol, hsample⟩ := start_timers_mem hget
      rw [if_pos hsampled, Option.map_some, hcontrol, hsample]

/-! ### Accepted and refused -/

theorem start_of_refused {config : Config} {error : ConfigError}
    (hrefused : config.validate = .error error) (wire : String → HeaterConfig → ω × String)
    (tracker : Gcode.Tracker) :
    (start config wire tracker).outcome = (.error (.config error), []) := by
  exact outcome_bind_of_error (outcome_ofConfigResult_of_error hrefused [])

theorem start_of_accepted {config : Config} (hvalid : config.validate = .ok ())
    (hfits : ∀ name options, (name, options) ∈ config.heaters.entries → options.FitsSpan)
    (wire : String → HeaterConfig → ω × String) (tracker : Gcode.Tracker) :
    ∃ stations,
      List.Forall₂ (fun own station => station.1 = own.1 ∧
        Station.Serves wire own.1 own.2 station.2) config.heaters.entries stations ∧
      (start config wire tracker).outcome =
        (.ok { stations := { entries := stations }, tracker },
          config.heaters.entries.flatMap fun own => own.2.startActs own.1) := by
  obtain ⟨stations, hserves, hsections⟩ := startSections_outcome wire
    (fun name options => Config.validate_of_mem hvalid) hfits []
  refine ⟨stations, hserves, ?_⟩
  have hchecked := outcome_ofConfigResult_of_ok hvalid []
  rw [start, outcome_bind_of_ok hchecked, outcome_bind_of_ok hsections, outcome_pure,
    List.nil_append]

/-- A host that is started stands as one that is set up from the plans of its sections. -/
theorem ofConfig_eq_setUp {config : Config} (hvalid : config.validate = .ok ())
    (hfits : ∀ name options, (name, options) ∈ config.heaters.entries → options.FitsSpan)
    (wire : String → HeaterConfig → ω × String) (tracker : Gcode.Tracker) :
    ofConfig config wire tracker =
      setUp (config.heaters.mapValues fun name options => planOf wire name options) tracker := by
  obtain ⟨stations, hserves, houtcome⟩ := start_of_accepted hvalid hfits wire tracker
  have hstations := stationsOf_of_serves (fun name options => Config.validate_of_mem hvalid) hserves
  have hsetup : setUp
      (config.heaters.mapValues fun name options => planOf wire name options) tracker =
        .ok { stations := { entries := stations }, tracker } := by
    rw [setUp, NameMap.mapValues]
    exact congrArg (Except.map fun entries => Host.mk { entries } {} tracker) hstations
  rw [ofConfig, houtcome, hsetup]

/-! ### Report times that cannot be measured -/

section immeasurable

variable {wire : String → HeaterConfig → ω × String}

/-- The connector has been asked for when the report time turns out to be too long. -/
theorem startSection_of_immeasurable {name : String} {options : HeaterConfig}
    (hvalid : options.validate name = .ok ()) (hlong : ¬ options.FitsSpan)
    (before : List StartAct) :
    (startSection wire name options).outcome before =
      (.error (.immeasurable name), before ++ [.connect name]) := by
  obtain ⟨kind, hpath, -⟩ := (HeaterConfig.validate_eq_ok_iff.mp hvalid).path
  obtain ⟨hwants, hspan⟩ := Classical.not_imp.mp hlong
  obtain rfl := (HeaterConfig.eq_board_iff_of_path hpath).mpr hwants
  rw [startSection, outcome_bind_of_ok (outcome_ofConfigResult_of_ok hpath before)]
  have hnone : Span.ofSeconds? options.reportTime = none :=
    Option.not_isSome_iff_eq_none.mp hspan
  rw [startBoard, hnone, outcome_bind_of_ok (outcome_act ..)]
  rfl

variable (wire) in
theorem startSections_of_immeasurable {sections : List (String × HeaterConfig)}
    (hvalid : ∀ name options, (name, options) ∈ sections → options.validate name = .ok ())
    (hlong : ∃ name options, (name, options) ∈ sections ∧ ¬ options.FitsSpan)
    (before : List StartAct) :
    ∃ heater acts, (startSections wire sections).outcome before =
      (.error (.immeasurable heater), acts) := by
  induction sections generalizing before with
  | nil =>
      obtain ⟨_, _, hmem, -⟩ := hlong
      cases hmem
  | cons first rest ih =>
      obtain ⟨name, options⟩ := first
      have hfirst := hvalid name options (List.mem_cons_self ..)
      by_cases hfits : options.FitsSpan
      · obtain ⟨station, -, hstarted⟩ := startSection_outcome wire hfirst hfits before
        obtain ⟨heater, acts, hrest⟩ := ih
          (fun name options hmem => hvalid name options (List.mem_cons_of_mem _ hmem))
          (by
            obtain ⟨other, others, hmem, hother⟩ := hlong
            rcases List.mem_cons.mp hmem with heq | hmem
            · cases heq
              exact absurd hfits hother
            · exact ⟨other, others, hmem, hother⟩)
          (before ++ options.startActs name)
        refine ⟨heater, acts, ?_⟩
        rw [startSections, outcome_bind_of_ok hstarted]
        exact outcome_bind_of_error hrest
      · refine ⟨name, before ++ [.connect name], ?_⟩
        rw [startSections]
        exact outcome_bind_of_error (startSection_of_immeasurable hfirst hfits before)

variable (wire) in
theorem ofConfig_of_immeasurable {config : Config} (hvalid : config.validate = .ok ())
    (hlong : ∃ name options, (name, options) ∈ config.heaters.entries ∧ ¬ options.FitsSpan)
    (tracker : Gcode.Tracker) :
    ∃ heater, ofConfig config wire tracker = .error (.immeasurable heater) := by
  obtain ⟨heater, acts, hsections⟩ := startSections_of_immeasurable wire
    (fun name options => Config.validate_of_mem hvalid) hlong []
  have hchecked := outcome_ofConfigResult_of_ok hvalid []
  refine ⟨heater, ?_⟩
  rw [ofConfig, start, outcome_bind_of_ok hchecked, outcome_bind_of_error hsections]

end immeasurable

/-! ### All or nothing -/

/-- Take any configuration, accepted or not, in which the report times of the sections for boards
can be measured. If it is refused, the start fails with the same error and has asked for no
connector and set no task going. If it is accepted, the start succeeds: section by section, one for
a board has its connector asked for once and its sampler and its control loop set going, and comes
to a heater on a board with a sensor on that connector; any other section comes to a stock heater
without a sensor, whatever the type of its sensor is. The tasks that run are those of the sections
for boards. -/
theorem start_all_or_nothing (config : Config) (wire : String → HeaterConfig → ω × String)
    (tracker : Gcode.Tracker)
    (hfits : ∀ name options, (name, options) ∈ config.heaters.entries → options.FitsSpan) :
    let started := (start config wire tracker).outcome
    ofConfig config wire tracker = started.1 ∧
    (∀ error, config.validate = .error error → started = (.error (.config error), [])) ∧
    (config.validate = .ok () → ∃ host,
      started.1 = .ok host ∧
      started.2 = config.heaters.entries.flatMap (fun own =>
        if own.2.wantsBoard then
          [.connect own.1, .spawnSampler own.1, .spawnControl own.1]
        else []) ∧
      List.Forall₂ (fun own station => station.1 = own.1 ∧
        Station.Serves wire own.1 own.2 station.2)
        config.heaters.entries host.stations.entries ∧
      ∀ now name, ((Schedule.start host now).timers.get? name).map
          (fun t => (t.control, t.sample)) =
        if name ∈ boardNames config.heaters.entries then some (some now, some now) else none) := by
  intro started
  refine ⟨rfl, ?_, ?_⟩
  · intro error hrefused
    exact start_of_refused hrefused wire tracker
  · intro hvalid
    obtain ⟨stations, hserves, houtcome⟩ := start_of_accepted hvalid hfits wire tracker
    refine ⟨_, congrArg Prod.fst houtcome, congrArg Prod.snd houtcome, hserves, ?_⟩
    intro now name
    rw [start_timers, ← sensors_of_serves hserves]
    rfl

/-- An extruder on a board, and a bed that only names the board's sensor. -/
def extruderAndBed : Config :=
  { heaters := NameMap.ofList [
      ("extruder", .onBoard "/dev/ttyACM1" 10.0 450.0),
      ("bed", { HeaterConfig.onBoard "/dev/ttyACM2" 10.0 120.0 with heaterType := none })] }

theorem extruderAndBed_accepted : extruderAndBed.validate = .ok () :=
  Except.eq_ok_of_toBool (by decide +kernel)

theorem extruderAndBed_entries : extruderAndBed.heaters.entries = [
    ("bed", { HeaterConfig.onBoard "/dev/ttyACM2" 10.0 120.0 with heaterType := none }),
    ("extruder", .onBoard "/dev/ttyACM1" 10.0 450.0)] := by rfl

theorem extruderAndBed_fits (name : String) (options : HeaterConfig)
    (hmem : (name, options) ∈ extruderAndBed.heaters.entries) : options.FitsSpan := by
  intro hwants
  rw [extruderAndBed_entries] at hmem
  rcases List.mem_pair.mp hmem with heq | heq <;> cases heq
  · cases hwants
  · decide +kernel

theorem extruderAndBed_starts :
    (∀ name options, (name, options) ∈ extruderAndBed.heaters.entries → options.FitsSpan) ∧
    ∃ host : Host Unit,
      (start extruderAndBed (fun name _ => ((), name)) (.create 1 (fun _ => "") .off)).outcome =
        (.ok host,
          [.connect "extruder", .spawnSampler "extruder", .spawnControl "extruder"]) := by
  obtain ⟨host, hhost, hacts, -⟩ := (start_all_or_nothing extruderAndBed
    (fun name _ => ((), name)) (.create 1 (fun _ => "") .off) extruderAndBed_fits).2.2
      extruderAndBed_accepted
  refine ⟨extruderAndBed_fits, host, Prod.ext hhost (hacts.trans ?_)⟩
  rw [extruderAndBed_entries]
  rfl

def simulatedWire (name : String) (_ : HeaterConfig) : Simulator.Line × String :=
  ({ farEnd := .board { name, board := { model := .hotend } } }, "sim:" ++ name)

end Host

end HeaterHost
