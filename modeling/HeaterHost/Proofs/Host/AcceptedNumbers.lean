import Mathlib.Data.List.Forall2
import HeaterHost.Proofs.Double.Seconds
import HeaterHost.Proofs.Heater.Ranges
import HeaterHost.Proofs.Host.Startup
import HeaterHost.Proofs.Sensor.Timeout

/-!
# What the numbers of an accepted section can do

The power limit and the gains of an accepted section never leave a clamp without a range. Its report
time is only bounded from below. From `2 ^ 64` seconds on there is no span for it and the host does
not start. Below, the host starts, but whoever adds the report time to the present needs an instant
before the end of time: a sensor that waits for an answer, and a timer whose tick comes late. From
`2 ^ 63` seconds on there is never one.
-/

namespace HeaterHost

open Double

namespace HeaterConfig.Accepted

variable {c : HeaterConfig} {heater : String}

theorem isFinite_reportTime (haccepted : c.Accepted heater) :
    Decimal.isFinite c.reportTime = true :=
  haccepted.finite "report_time" c.reportTime (by simp [numericOptions])

/-- A board is never asked more often than it can answer. -/
theorem tenth_le_reportTime (haccepted : c.Accepted heater) (hwants : c.wantsBoard = true) :
    ¬ c.reportTime < 0.1 := by
  obtain ⟨kind, hpath, hchecked⟩ := haccepted.path
  obtain rfl := (eq_board_iff_of_path hpath).mpr hwants
  simp only [checkPath, bind_eq_ok_iff, require_eq_ok_iff, Bool.not_eq_true',
    decide_eq_false_iff_not] at hchecked
  exact hchecked.2.2.2

theorem fitsSpan_iff (haccepted : c.Accepted heater) :
    c.FitsSpan ↔ (c.wantsBoard = true → c.reportTime < tooManySeconds) := by
  unfold FitsSpan
  refine forall_congr' fun hwants => ?_
  exact (span_of_tenth_le haccepted.isFinite_reportTime (haccepted.tenth_le_reportTime hwants)).1

end HeaterConfig.Accepted

variable {ω : Type} [Transport ω]

/-- Only a tick that is late has to be counted from the present, so only after such a tick can a
timer be left without a next one. -/
theorem Timers.following_isSome_iff (period : Span) (due now : Instant) :
    (following period due now).isSome = true ↔
      now ≤ due + lateness ∨ now + period < Instant.endOfTime := by
  have hafter : Instant.hasAfter now period = true ↔ now + period < Instant.endOfTime :=
    decide_eq_true_iff
  unfold following
  split
  case isTrue hlate =>
    rw [← hafter, or_iff_right (Nat.not_le.mpr hlate)]
    split
    case isTrue hreached => exact iff_of_true rfl hreached
    case isFalse hbeyond => exact iff_of_false nofun hbeyond
  case isFalse hpunctual =>
    refine iff_of_true ?_ (.inl (Nat.not_lt.mp hpunctual))
    split <;> rfl

/-- A sensor that has a report time for its timeout. Whatever happens to it, it can wait for an
answer exactly if the answer may take until some instant, and timers that go by the report time
always have a next tick, except after one that was late and from which there is no such instant. -/
structure Sensor.Copes (reportTime : Float) (sensor : Sensor ω) : Prop where
  span : Span.ofSeconds? reportTime = some sensor.timeout
  lasting : 0 < sensor.timeout
  ends : sensor.timeout < Instant.endOfTime ↔ reportTime < endlessSeconds
  waits : ∀ clock events, (sensor.replay clock events).canWait = true ↔
    (sensor.replay clock events).now + sensor.timeout < Instant.endOfTime
  ticks : ∀ due now, (Timers.following sensor.timeout due now).isSome = true ↔
    now ≤ due + Timers.lateness ∨ now + sensor.timeout < Instant.endOfTime

/-- A station whose numbers never get in its way, but for a report time that reaches to the end of
time: whatever happens to its heater, every clamp has a range. -/
structure Station.Copes (options : HeaterConfig) (station : Station ω) : Prop where
  sensor : ∀ sensor, station.sensor = some sensor → sensor.Copes options.reportTime
  board : ∀ heater, station.heater = .board heater → ∀ events,
    (heater.replay events).control.resting.hasRanges = true ∧
      0.0 ≤ (heater.replay events).settings.maxPower
  stock : ∀ heater, station.heater = .stock heater → ∀ events,
    (heater.replay events).hasRanges = true ∧
      ∀ sample target, (heater.replay events).admits sample target = true

theorem Station.Serves.copes {wire : String → HeaterConfig → ω × String} {name : String}
    {options : HeaterConfig} {station : Station ω} (haccepted : options.Accepted name)
    (hserves : Serves wire name options station) : station.Copes options := by
  have hpower := haccepted.maxPower.1
  have hfinite := haccepted.isFinite_maxPower
  cases hserves with
  | board wants reportTime fits =>
      have hspan := (span_of_tenth_le haccepted.isFinite_reportTime
        (haccepted.tenth_le_reportTime wants)).2 reportTime fits
      refine ⟨?_, ?_, ?_⟩
      · intro sensor hsensor
        obtain rfl := Option.some.inj hsensor
        exact
          { span := fits
            lasting := hspan.1
            ends := hspan.2
            waits := Sensor.replay_canWait_iff _
            ticks := Timers.following_isSome_iff reportTime }
      · intro heater hheater events
        obtain rfl := Heater.board.inj hheater
        refine ⟨BoardHeater.replay_hasRanges name options.settings hpower hfinite events, ?_⟩
        rw [BoardHeater.replay_settings]
        exact le_of_lt hpower
      · intro heater hheater
        cases hheater
  | stock declines =>
      refine ⟨?_, ?_, ?_⟩
      · intro sensor hsensor
        cases hsensor
      · intro heater hheater
        cases hheater
      intro heater hheater events
      obtain rfl := Heater.stock.inj hheater
      have hranged := (StockHeater.Ranged.create name options.control options.settings hpower
        hfinite).replay events
      exact ⟨hranged.hasRanges, hranged.admits⟩

namespace Host

/-- An accepted configuration starts if and only if the report time of every section for a board is
below `2 ^ 64` seconds, and a report time that is not is the only thing that can go wrong. Once it is
started, no clamp of any heater is ever without a range, and every report time is longer than
nothing. A sensor can then wait for its answers, and a timer with its report time can go on after a
tick that was late, if and only if one report time after the present is still before the end of
time; with a report time of `2 ^ 63` seconds or more it never is. -/
theorem accepted_runs_iff_measurable (config : Config) (wire : String → HeaterConfig → ω × String)
    (tracker : Gcode.Tracker) (hvalid : config.validate = .ok ()) :
    ((∃ host, ofConfig config wire tracker = .ok host) ↔
      ∀ name options, (name, options) ∈ config.heaters.entries → options.wantsBoard = true →
        options.reportTime < tooManySeconds) ∧
    (∀ error, ofConfig config wire tracker = .error error →
      ∃ name, error = .immeasurable name) ∧
    ∀ host, ofConfig config wire tracker = .ok host →
      List.Forall₂ (fun own station => station.1 = own.1 ∧ station.2.Copes own.2)
        config.heaters.entries host.stations.entries := by
  have haccepted : ∀ name options, (name, options) ∈ config.heaters.entries →
      options.Accepted name := fun name options hmem =>
    HeaterConfig.validate_eq_ok_iff.mp (Config.validate_of_mem hvalid hmem)
  by_cases hfits : ∀ name options, (name, options) ∈ config.heaters.entries → options.FitsSpan
  · obtain ⟨stations, hserves, houtcome⟩ := start_of_accepted hvalid hfits wire tracker
    have hstarted : ofConfig config wire tracker =
        .ok { stations := { entries := stations }, tracker } := congrArg Prod.fst houtcome
    refine ⟨iff_of_true ⟨_, hstarted⟩ ?_, ?_, ?_⟩
    · intro name options hmem
      exact (haccepted name options hmem).fitsSpan_iff.mp (hfits name options hmem)
    · intro error herror
      cases hstarted.symm.trans herror
    · intro host hhost
      cases hstarted.symm.trans hhost
      have hboth : List.Forall₂ (fun own station => own.2.Accepted own.1 ∧ station.1 = own.1 ∧
          Station.Serves wire own.1 own.2 station.2) config.heaters.entries stations :=
        (List.forall₂_and_left _ _).mpr ⟨fun own hmem => haccepted own.1 own.2 hmem, hserves⟩
      exact hboth.imp fun _ _ hown => ⟨hown.2.1, hown.2.2.copes hown.1⟩
  · have hlong : ∃ name options, (name, options) ∈ config.heaters.entries ∧
        ¬ options.FitsSpan := by
      push Not at hfits
      exact hfits
    obtain ⟨heater, hfailed⟩ := ofConfig_of_immeasurable wire hvalid hlong tracker
    refine ⟨iff_of_false ?_ ?_, ?_, ?_⟩
    · rintro ⟨host, hhost⟩
      cases hfailed.symm.trans hhost
    · intro hshort
      obtain ⟨name, options, hmem, hunfit⟩ := hlong
      exact hunfit ((haccepted name options hmem).fitsSpan_iff.mpr (hshort name options hmem))
    · intro error herror
      cases hfailed.symm.trans herror
      exact ⟨heater, rfl⟩
    · intro host hhost
      cases hfailed.symm.trans hhost

theorem extruderAndBed_runs :
    extruderAndBed.validate = .ok () ∧
    ∃ host, ofConfig extruderAndBed simulatedWire (.create 1 (fun _ => "") .off) = .ok host ∧
      List.Forall₂ (fun own station => station.1 = own.1 ∧ station.2.Copes own.2)
        extruderAndBed.heaters.entries host.stations.entries := by
  have hshort : ∀ own ∈ extruderAndBed.heaters.entries, own.2.reportTime < tooManySeconds := by
    decide +kernel
  obtain ⟨hstarts, -, hcopes⟩ := accepted_runs_iff_measurable extruderAndBed simulatedWire
    (.create 1 (fun _ => "") .off) extruderAndBed_accepted
  obtain ⟨host, hhost⟩ := hstarts.mpr fun name options hmem _ => hshort (name, options) hmem
  exact ⟨extruderAndBed_accepted, host, hhost, hcopes host hhost⟩

/-- An extruder on a board with a report time of its own. -/
def extruderEvery (reportTime : Float) : Config :=
  { heaters := NameMap.empty.insert "extruder"
      { HeaterConfig.onBoard "/dev/ttyACM1" 10.0 450.0 with reportTime } }

def startedEvery (reportTime : Float) : Except SetupError (Host Simulator.Line) :=
  ofConfig (extruderEvery reportTime) simulatedWire (.create 1 (fun _ => "") .off)

/-- Whether the sensor can wait for an answer once the clock has come to a time. -/
def canWaitAt (time : Instant) (reportTime : Float) : Option Bool :=
  ((startedEvery reportTime).toOption.bind fun host => host.sensor? "extruder").map fun sensor =>
    (sensor.elapse time).canWait

/-- Three report times that are accepted. With the first the host does not start, with the second
its sensor can never wait, and with the third it cannot any more after seventeen minutes. -/
theorem overlong_report_times_are_accepted :
    (extruderEvery 1e300).validate.toBool = true ∧ (startedEvery 1e300).toBool = false ∧
    (extruderEvery 1e19).validate.toBool = true ∧ (startedEvery 1e19).toBool = true ∧
    canWaitAt 0 1e19 = some false ∧
    (extruderEvery 9223372036854774784.0).validate.toBool = true ∧
    canWaitAt 0 9223372036854774784.0 = some true ∧
    canWaitAt (1024 * Span.second) 9223372036854774784.0 = some false := by
  decide +kernel

end Host

end HeaterHost
