import HeaterHost.Proofs.Heater.PowerRefresh
import HeaterHost.Proofs.Host.Stations

/-!
# Report times at which a power expires

In exact numbers, and with ticks that are a report time apart, the longest wait for a power is met:
a heater that is on at full power all the time sends it again in the first tick that reaches the
refresh time. From this follows which report times keep within the five seconds that the board takes
a power for. Those that do not are accepted in a section as well.
-/

namespace HeaterHost

open Double Wire

/-- With even ticks the power is sent again after as many of them as reach the refresh time. -/
theorem refreshDelay_self {gap : ℝ} (hgap : 0 < gap) :
    refreshDelay gap gap = ⌈15 / 4 / gap⌉₊ * gap := by
  rw [refreshDelay, refreshSpan_eq]
  refine min_eq_left ?_
  have hceil : (⌈15 / 4 / gap⌉₊ : ℝ) ≤ 15 / 4 / gap + 1 :=
    (Nat.ceil_lt_add_one (by positivity)).le
  calc (⌈15 / 4 / gap⌉₊ : ℝ) * gap ≤ (15 / 4 / gap + 1) * gap := by gcongr
    _ = 15 / 4 + gap := by field_simp

/-- That is no later than five seconds if a tick falls in between. -/
theorem refreshDelay_self_le_iff {gap : ℝ} (hgap : 0 < gap) :
    refreshDelay gap gap ≤ 5 ↔ ∃ ticks : ℕ, 15 / 4 ≤ ticks * gap ∧ ticks * gap ≤ 5 := by
  rw [refreshDelay_self hgap]
  constructor
  · intro hdelay
    exact ⟨_, (div_le_iff₀ hgap).mp (Nat.le_ceil _), hdelay⟩
  · rintro ⟨ticks, hlate, hend⟩
    have hceil : ⌈15 / 4 / gap⌉₊ ≤ ticks := Nat.ceil_le.mpr ((div_le_iff₀ hgap).mpr hlate)
    calc (⌈15 / 4 / gap⌉₊ : ℝ) * gap ≤ ticks * gap := by gcongr
      _ ≤ 5 := hend

theorem RefreshedWithin.mono {α : Type} [Scalar α] {clock : Clock α} {bound bound' : ℝ}
    (hle : bound ≤ bound') {sent next : SentPower α}
    (hwithin : RefreshedWithin clock bound sent next) : RefreshedWithin clock bound' sent next :=
  fun hon => (hwithin hon).trans hle

namespace BoardHeater

/-- A section whose heater can be on: its power passes the deadband, and it may heat to something
above zero. -/
structure CanHeat (settings : HeaterSettings ℝ) : Prop where
  power : 1 / 20 ≤ settings.maxPower
  temp : 0 < settings.maxTemp
  range : settings.minTemp ≤ settings.maxTemp
  report : 0 < settings.reportTime

/-- A tick one degree below the target, when a sample is due. -/
noncomputable def heatingTick (settings : HeaterSettings ℝ) (count : ℕ) : HeaterEvent ℝ :=
  .tick (Sample.reading (count * settings.reportTime) (settings.maxTemp - 1)) settings.maxTemp
    (count * settings.reportTime)

/-- Gains with which one degree asks for all the power there is, and then ticks one degree below the
target. -/
noncomputable def heatingUp (settings : HeaterSettings ℝ) (count : ℕ) : List (HeaterEvent ℝ) :=
  [.command (.setGains ⟨255 * settings.maxPower, 0, 0⟩), .command (.setTemp settings.maxTemp)] ++
    (List.range count).map (heatingTick settings)

theorem heatingUp_succ (settings : HeaterSettings ℝ) (count : ℕ) :
    heatingUp settings (count + 1) =
      heatingUp settings count ++ [heatingTick settings count] := by
  rw [heatingUp, heatingUp, List.range_succ, List.map_append, List.append_assoc]
  rfl

/-- The heater is in the course of such a run, before the tick of this number. -/
structure HeatsUp (settings : HeaterSettings ℝ) (count : ℕ) (h : BoardHeater ℝ) : Prop where
  state : h.state ≠ .shutdown
  kept : h.settings = settings
  control : ∃ law, h.control = .pid law ∧ law.kp = settings.maxPower ∧ law.ki = 0 ∧ law.kd = 0 ∧
    law.maxPower = settings.maxPower
  unread : ∀ time ∈ h.lastSample, time < count * settings.reportTime

variable {settings : HeaterSettings ℝ} {count : ℕ} {h : BoardHeater ℝ}

namespace HeatsUp

theorem supplied (hheats : HeatsUp settings count h) (hcan : CanHeat settings) :
    h.Supplied (heatingTick settings count) := by
  refine ⟨(usable_congr (h.readied_settings _) _ _).mpr ⟨?_, ?_⟩, ?_⟩
  · have hreport := hcan.report
    have hfresh : ¬ (2.0 * settings.reportTime : ℝ) <
        count * settings.reportTime - count * settings.reportTime := by
      rw [Scalar.two_real, sub_self]
      linarith
    simp only [isStale, staleAfter, hheats.kept, Sample.age, Sample.reading]
    simpa using hfresh
  · rw [hheats.kept]
    simp [Sample.reading]
  · cases hlast : h.lastSample with
    | none => rfl
    | some time =>
        have hearlier := hheats.unread time hlast
        exact decide_eq_false hearlier.ne

/-- Each tick asks for all the power. -/
theorem perform_eq (hheats : HeatsUp settings count h) (hcan : CanHeat settings) :
    ∃ k : BoardHeater ℝ, HeatsUp settings (count + 1) k ∧
      Sends (some (count * settings.reportTime)) h k [] ∧
      h.perform (heatingTick settings count) =
        k.setPower (count * settings.reportTime) settings.maxPower false := by
  obtain ⟨law, hcontrol, hkp, hki, hkd, hlimit⟩ := hheats.control
  obtain ⟨husable, hnew⟩ := hheats.supplied hcan
  have hready := readied_of_pid hcontrol (count * settings.reportTime)
  have hlaw : (h.readied (count * settings.reportTime)).acknowledged.control = .pid law := by
    rw [acknowledged_control, hready, activate_control]
    exact hcontrol
  have hpositive : 0 ≤ settings.maxPower := le_trans (by norm_num) hcan.power
  have hoff : ¬ settings.maxTemp ≤ 0 := not_le.mpr hcan.temp
  have hpower : (h.readied (count * settings.reportTime)).acknowledged.pidPower law
      (Sample.reading (count * settings.reportTime) (settings.maxTemp - 1)) settings.maxTemp =
        settings.maxPower := by
    rw [pidPower, acknowledged_settings, readied_settings, hheats.kept]
    simp only [Sample.reading, Pid.output, Pid.demand, hkp, hki, hkd, hlimit, Scalar.clamp_real,
      Scalar.zero_real, hoff, if_false]
    simp [hpositive]
  have hconsults : h.Consults _ _ := ⟨hheats.state, husable, hnew⟩
  have htick := hconsults.tick_eq settings.maxTemp
  rw [consume_of_pid hlaw, hpower] at htick
  refine ⟨_, ⟨?_, ?_, ?_, ?_⟩, ?_, htick⟩
  · exact mt (acknowledged_state_eq_shutdown_iff _).mp
      (mt readied_state_eq_shutdown_iff.mp hheats.state)
  · change (h.readied _).acknowledged.settings = settings
    rw [acknowledged_settings, readied_settings, hheats.kept]
  · exact ⟨_, rfl, hkp, hki, hkd, hlimit⟩
  · rintro _ ⟨⟩
    have hreport := hcan.report
    change (count * settings.reportTime : ℝ) < (count + 1 : ℕ) * settings.reportTime
    push_cast
    linarith
  · have hactive : Sends (some (count * settings.reportTime)) h
        (h.readied (count * settings.reportTime)) [] := by
      rw [hready]
      exact h.activate_sends _
    have hsends := hactive.trans (h.readied _).acknowledged_sends
    exact ⟨hsends.queued, hsends.kept, hsends.last, hsends.idle⟩

theorem setPower (hheats : HeatsUp settings count h) (time power : ℝ) (force : Bool) :
    HeatsUp settings count (h.setPower time power force) := by
  rcases h.setPower_cases time power force with ⟨-, -, heq⟩ | heq <;> rw [heq]
  · exact hheats
  · exact ⟨hheats.state, hheats.kept, hheats.control, hheats.unread⟩

theorem perform (hheats : HeatsUp settings count h) (hcan : CanHeat settings) :
    HeatsUp settings (count + 1) (h.perform (heatingTick settings count)) := by
  obtain ⟨k, hnext, -, heq⟩ := hheats.perform_eq hcan
  rw [heq]
  exact hnext.setPower ..

/-- The power is held back as long as it does not have to be sent again. -/
theorem silent (hheats : HeatsUp settings count h) (hcan : CanHeat settings)
    (hpower : h.lastPower = settings.maxPower)
    (hearly : count * settings.reportTime < h.refreshTime) :
    (h.perform (heatingTick settings count)).lastPower = settings.maxPower ∧
      (h.perform (heatingTick settings count)).refreshTime = h.refreshTime ∧
      h.sentAt (heatingTick settings count) = [] := by
  obtain ⟨k, -, hsends, heq⟩ := hheats.perform_eq hcan
  obtain ⟨hsame, hrefresh⟩ := hsends.kept rfl
  have hsmall : Scalar.abs (settings.maxPower - k.lastPower) < deadband := by
    rw [hsame, hpower, sub_self]
    norm_num [deadband, Scalar.literal_real]
  rw [setPower_of_early (hrefresh ▸ hearly) hsmall] at heq
  rw [← heq] at hsame hrefresh hsends
  exact ⟨hsame.trans hpower, hrefresh, sentAt_of_silent hsends.sentPowers_eq⟩

/-- The power is sent to a heater that is off, and when it has to be sent again. -/
theorem sends (hheats : HeatsUp settings count h) (hcan : CanHeat settings)
    (hsent : h.lastPower = 0 ∨
      h.lastPower = settings.maxPower ∧ h.refreshTime ≤ count * settings.reportTime) :
    (h.perform (heatingTick settings count)).lastPower = settings.maxPower ∧
      (h.perform (heatingTick settings count)).refreshTime =
        count * settings.reportTime + 15 / 4 ∧
      h.sentAt (heatingTick settings count) =
        [⟨count * settings.reportTime, settings.maxPower⟩] := by
  obtain ⟨k, -, hsends, heq⟩ := hheats.perform_eq hcan
  obtain ⟨hsame, hrefresh⟩ := hsends.kept rfl
  have hpositive := hcan.power
  have hpassed : k.setPower (count * settings.reportTime) settings.maxPower false =
      { k with
        refreshTime := count * settings.reportTime + 0.75 * maxHeatTime
        lastPower := settings.maxPower
        outbox := .setPower settings.maxPower :: k.outbox } := by
    rcases hsent with hoff | ⟨hon, hlate⟩
    · rcases k.setPower_cases (count * settings.reportTime) settings.maxPower false with
        ⟨-, hsmall, -⟩ | hpassed
      · rw [hsame, hoff, sub_zero, Scalar.abs_real, abs_of_nonneg (by linarith)] at hsmall
        norm_num [deadband, Scalar.literal_real] at hsmall
        linarith
      · exact hpassed
    · refine setPower_of_due ⟨?_, ?_⟩ _ _
      · refine decide_eq_false ?_
        rw [hsame, hon, Scalar.zero_real]
        exact (by linarith : (0 : ℝ) < settings.maxPower).ne'
      · rw [hrefresh]
        exact not_lt.mpr hlate
  rw [hpassed] at heq
  have hqueued : Sends (some (count * settings.reportTime)) h
      (h.perform (heatingTick settings count)) [settings.maxPower] := by
    rw [heq]
    exact hsends.trans (.passed k _ _)
  refine ⟨?_, ?_, ?_⟩
  · rw [heq]
  · rw [heq, ← refreshSpan_eq]
    rfl
  · change (h.sentPowers (heatingTick settings count)).map _ = _
    rw [hqueued.sentPowers_eq]
    rfl

end HeatsUp

theorem heatsUp_start (name : String) (hcan : CanHeat settings) :
    let h := (create name settings).replay (heatingUp settings 0)
    HeatsUp settings 0 h ∧ h.lastPower = 0.0 ∧
      (create name settings).powerLog (heatingUp settings 0) = [] := by
  intro h
  have hheld : ¬ (settings.maxTemp < settings.minTemp ∨ settings.maxTemp < settings.maxTemp) := by
    rw [not_or, not_lt]
    exact ⟨hcan.range, lt_irrefl _⟩
  have heq : h = _ := obey_setTemp_of_inRange
    (h := (create name settings).setGains ⟨255 * settings.maxPower, 0, 0⟩) (.inr hheld)
  have hunit : (Gains.unit : ℝ) = 255 := by
    norm_num [Gains.unit, Scalar.literal_real]
  rw [heq]
  refine ⟨⟨nofun, rfl, ⟨_, rfl, ?_, ?_, ?_, rfl⟩, nofun⟩, rfl, rfl⟩
  · change 255 * settings.maxPower / Gains.unit = settings.maxPower
    rw [hunit]
    exact mul_div_cancel_left₀ _ (by norm_num)
  · exact zero_div _
  · exact zero_div _

theorem heatsUp_heatingUp (name : String) (hcan : CanHeat settings) (count : ℕ) :
    HeatsUp settings count ((create name settings).replay (heatingUp settings count)) := by
  induction count with
  | zero => exact (heatsUp_start name hcan).1
  | succ count ih =>
      rw [heatingUp_succ, replay_append]
      exact ih.perform hcan

theorem heatingUp_steady (name : String) (hcan : CanHeat settings) (count : ℕ) :
    Steady Clock.exact settings.reportTime settings.reportTime (create name settings)
      (heatingUp settings count) := by
  induction count with
  | zero => exact (Steady.nil.command (.setGains _) rfl).command (.setTemp _) rfl
  | succ count ih =>
      have hlast : ∀ tick ∈ lastTick? (heatingUp settings count),
          tick + settings.reportTime = count * settings.reportTime := by
        cases count with
        | zero => exact nofun
        | succ earlier =>
            rw [heatingUp_succ, lastTick?_concat]
            rintro _ ⟨⟩
            push_cast
            ring
      rw [heatingUp_succ]
      have hsupplied := (heatsUp_heatingUp name hcan count).supplied hcan
      exact ih.tick trivial (fun tick htick => (hlast tick htick).le)
        (fun tick htick => (hlast tick htick).ge) hsupplied

theorem powerLog_heatingUp_succ (name : String) (settings : HeaterSettings ℝ) (count : ℕ) :
    (create name settings).powerLog (heatingUp settings (count + 1)) =
      (create name settings).powerLog (heatingUp settings count) ++
        ((create name settings).replay (heatingUp settings count)).sentAt
          (heatingTick settings count) := by
  rw [heatingUp_succ, powerLog_append, powerLog, powerLog, List.append_nil]

/-- Before the ticks reach the refresh time, only the first of them sends its power. -/
theorem powerLog_heatingUp (name : String) (hcan : CanHeat settings) (count : ℕ)
    (hearly : (count : ℝ) * settings.reportTime < 15 / 4) :
    let h := (create name settings).replay (heatingUp settings (count + 1))
    h.lastPower = settings.maxPower ∧ h.refreshTime = 15 / 4 ∧
      (create name settings).powerLog (heatingUp settings (count + 1)) =
        [⟨0, settings.maxPower⟩] := by
  induction count with
  | zero =>
      obtain ⟨hstart, hoff, hlog⟩ := heatsUp_start name hcan
      rw [Scalar.zero_real] at hoff
      obtain ⟨hpower, hrefresh, hsent⟩ := hstart.sends hcan (.inl hoff)
      rw [powerLog_heatingUp_succ, hlog, hsent, heatingUp_succ, replay_append]
      refine ⟨hpower, hrefresh.trans ?_, ?_⟩
      · rw [Nat.cast_zero, zero_mul, zero_add]
      · rw [Nat.cast_zero, zero_mul, List.nil_append]
  | succ count ih =>
      have hreport := hcan.report
      have hbefore : (count : ℝ) * settings.reportTime < 15 / 4 := by
        push_cast at hearly
        linarith
      obtain ⟨hpower, hrefresh, hlog⟩ := ih hbefore
      obtain ⟨hpower', hrefresh', hsilent⟩ := (heatsUp_heatingUp name hcan (count + 1)).silent hcan
        hpower (hrefresh ▸ hearly)
      rw [powerLog_heatingUp_succ, hlog, hsilent, heatingUp_succ, replay_append]
      exact ⟨hpower', hrefresh'.trans hrefresh, rfl⟩

/-- The first power is sent again as late as the ticks allow. -/
theorem powerLog_heatingUp_refreshed (name : String) (hcan : CanHeat settings) :
    let ticks := ⌈15 / 4 / settings.reportTime⌉₊
    (create name settings).powerLog (heatingUp settings (ticks + 1)) =
      [⟨0, settings.maxPower⟩, ⟨ticks * settings.reportTime, settings.maxPower⟩] := by
  intro ticks
  have hreport := hcan.report
  obtain ⟨earlier, hticks⟩ : ∃ earlier, ticks = earlier + 1 :=
    Nat.exists_eq_succ_of_ne_zero (Nat.ceil_pos.mpr (by positivity)).ne'
  obtain ⟨hmore, hfew⟩ := (Nat.ceil_eq_iff (by omega)).mp (hticks : ⌈_⌉₊ = _)
  rw [Nat.add_sub_cancel, lt_div_iff₀ hreport] at hmore
  rw [div_le_iff₀ hreport] at hfew
  obtain ⟨hpower, hrefresh, hlog⟩ := powerLog_heatingUp name hcan earlier hmore
  obtain ⟨-, -, hsent⟩ := (heatsUp_heatingUp name hcan (earlier + 1)).sends hcan
    (.inr ⟨hpower, hrefresh ▸ hfew⟩)
  rw [hticks, powerLog_heatingUp_succ, hlog, hsent]
  rfl

/-- **A power is sent again within the delay of the ticks, which may be longer than the board takes
it for.** In a steady run, whatever the section and the commands in between, a power other than zero
is followed by the next one within `refreshDelay`; this is at most three and three quarter seconds
and the time to another tick. In exact numbers and with a tick in each report time, all such runs
keep within five seconds exactly if a multiple of the report time falls between the refresh time and
the end of the five seconds. -/
theorem power_refreshed_within_delay (name : String) (settings : HeaterSettings Float)
    (ideal : HeaterSettings ℝ) (hcan : CanHeat ideal) :
    (∀ low high : ℝ, 0 < low → low ≤ high →
      ∀ events, Steady .doubles low high (create name settings) events →
        ((create name settings).powerLog events).IsChain
          (RefreshedWithin .doubles (refreshDelay low high))) ∧
    let gap := ideal.reportTime
    ((∀ events, Steady .exact gap gap (create name ideal) events →
        ((create name ideal).powerLog events).IsChain (RefreshedWithin .exact 5)) ↔
      ∃ ticks : ℕ, 15 / 4 ≤ ticks * gap ∧ ticks * gap ≤ 5) := by
  refine ⟨?_, ?_⟩
  · intro low high hpos hle events hsteady
    exact hsteady.refreshed (PowerSafe.create name settings) rfl (by decide +kernel) hpos hle
  · intro gap
    have hreport : 0 < gap := hcan.report
    have hzero : ((0.0 : ℝ) == 0.0) = true := decide_eq_true rfl
    rw [← refreshDelay_self_le_iff hreport]
    constructor
    · intro hall
      have hchain := hall _ (heatingUp_steady name hcan (⌈15 / 4 / gap⌉₊ + 1))
      rw [powerLog_heatingUp_refreshed name hcan, List.isChain_pair] at hchain
      have hon : (ideal.maxPower == 0.0) = false := by
        refine decide_eq_false ?_
        rw [Scalar.zero_real]
        exact ((by norm_num : (0 : ℝ) < 1 / 20).trans_le hcan.power).ne'
      have hwait := hchain hon
      rw [refreshDelay_self hreport]
      simpa [Clock.exact] using hwait
    · intro hdelay events hsteady
      have hchain := hsteady.refreshed (PowerSafe.create name ideal) rfl hzero hreport le_rfl
      exact hchain.imp fun _ _ => RefreshedWithin.mono hdelay

/-- Three ticks on a cold heater. -/
def coldTicks (gap : Float) : List (HeaterEvent Float) :=
  [.command (.setTemp 200.0), .tick (Sample.reading 0.0 25.0) 200.0 0.0,
    .tick (Sample.reading gap 25.0) 200.0 gap,
    .tick (Sample.reading (gap + gap) 25.0) 200.0 (gap + gap)]

/-- They are a steady run if the doubles that stand for their times are evenly spaced. -/
theorem coldTicks_steady {start : BoardHeater Float} {gap : Float} (hfirst : IsFinite gap)
    (hlast : IsFinite (gap + gap)) (heven : toReal (gap + gap) = toReal gap + toReal gap)
    (hsupplied : ∀ count < 4, ∀ event ∈ (coldTicks gap)[count]?,
      (start.replay ((coldTicks gap).take count)).Supplied event) :
    Steady .doubles (toReal gap) (toReal gap) start (coldTicks gap) := by
  have hzero : toReal 0.0 = 0 := by
    rw [toReal_of_height one_pos (by decide +kernel : height (parts 0.0) * (1 : ℕ) = 0 * unitSteps)]
    norm_num
  have hset : Steady .doubles (toReal gap) (toReal gap) start [.command (.setTemp 200.0)] :=
    Steady.nil.command (.setTemp 200.0) rfl
  have hstart : Steady .doubles (toReal gap) (toReal gap) start ((coldTicks gap).take 2) :=
    hset.tick ⟨by decide +kernel, by decide +kernel⟩ nofun nofun (hsupplied 1 (by norm_num) _ rfl)
  have hnext : Steady .doubles (toReal gap) (toReal gap) start ((coldTicks gap).take 3) := by
    have hgap : toReal 0.0 + toReal gap = toReal gap := by rw [hzero, zero_add]
    refine hstart.tick hfirst ?_ ?_ (hsupplied 2 (by norm_num) _ rfl)
    · rintro _ ⟨⟩
      exact hgap.le
    · rintro _ ⟨⟩
      exact hgap.ge
  refine hnext.tick hlast ?_ ?_ (hsupplied 3 (by norm_num) _ rfl)
  · rintro _ ⟨⟩
    exact heven.ge
  · rintro _ ⟨⟩
    exact heven.le

/-- Ticks two seconds apart send the power again after four seconds. In exact numbers, seventeen
tenths of a second are a report time that steps over the five. -/
theorem two_second_ticks_refresh :
    let c := { HeaterConfig.onBoard "/dev/ttyACM1" 10.0 450.0 with reportTime := 2.0 }
    let start := create "extruder" c.settings
    let ideal : HeaterSettings ℝ :=
      { gains := ⟨0, 0, 0⟩, minTemp := 10, maxTemp := 450, maxPower := 1, smoothTime := 1,
        extrudeTemp := 170, reportTime := 17 / 10, maxDelta := 2, tuneDelta := 5,
        tuneTimeout := 1200 }
    c.validate "extruder" = .ok () ∧ 0 < toReal 2.0 ∧ toReal 2.0 ≤ toReal 2.0 ∧
    Steady .doubles (toReal 2.0) (toReal 2.0) start (coldTicks 2.0) ∧
    start.powerLog (coldTicks 2.0) = [⟨0.0, 1.0⟩, ⟨4.0, 1.0⟩] ∧
    toReal 4.0 - toReal 0.0 ≤ refreshDelay (toReal 2.0) (toReal 2.0) ∧
    CanHeat ideal ∧
    ¬ ∀ events, Steady .exact ideal.reportTime ideal.reportTime (create "extruder" ideal) events →
      ((create "extruder" ideal).powerLog events).IsChain (RefreshedWithin .exact 5) := by
  intro c start ideal
  have hvalid : c.validate "extruder" = .ok () := Except.eq_ok_of_toBool (by decide +kernel)
  have htwo : toReal 2.0 = (2 : ℤ) / (1 : ℕ) := toReal_of_height one_pos (by decide +kernel)
  have hfour : toReal (2.0 + 2.0) = (4 : ℤ) / (1 : ℕ) :=
    toReal_of_height one_pos (by decide +kernel)
  have hpos : 0 < toReal 2.0 := by
    rw [htwo]
    norm_num
  have hsteady : Steady .doubles (toReal 2.0) (toReal 2.0) start (coldTicks 2.0) := by
    refine coldTicks_steady ⟨by decide +kernel, by decide +kernel⟩
      ⟨by decide +kernel, by decide +kernel⟩ ?_ (by decide +kernel)
    rw [hfour, htwo]
    norm_num
  have hlog : start.powerLog (coldTicks 2.0) = [⟨0.0, 1.0⟩, ⟨4.0, 1.0⟩] := by decide +kernel
  have hcan : CanHeat ideal := by
    constructor <;> norm_num [ideal]
  obtain ⟨hwithin, hexact⟩ := power_refreshed_within_delay "extruder" c.settings ideal hcan
  have hchain := hwithin _ _ hpos le_rfl _ hsteady
  refine ⟨hvalid, hpos, le_rfl, hsteady, hlog, ?_, hcan, ?_⟩
  · rw [hlog, List.isChain_pair] at hchain
    exact hchain (by decide +kernel)
  · intro hall
    obtain ⟨ticks, hlate, hend⟩ := hexact.mp hall
    change (15 / 4 : ℝ) ≤ ticks * (17 / 10) at hlate
    change ticks * (17 / 10 : ℝ) ≤ 5 at hend
    -- two ticks are too few, and three too many
    have hmore : 2 < ticks := by
      have hreal : (2 : ℝ) < ticks := by linarith
      exact_mod_cast hreal
    have hfew : ticks < 3 := by
      have hreal : (ticks : ℝ) < 3 := by linarith
      exact_mod_cast hreal
    omega

/-- Ticks that are two and six tenths of a second apart step over the refresh time and over the five
seconds at once. -/
theorem coldTicks_let_power_expire :
    let c := { HeaterConfig.onBoard "/dev/ttyACM1" 10.0 450.0 with reportTime := 2.6 }
    let start := create "extruder" c.settings
    c.validate "extruder" = .ok () ∧
    Steady .doubles (toReal c.reportTime) (toReal c.reportTime) start (coldTicks c.reportTime) ∧
    start.powerLog (coldTicks c.reportTime) = [⟨0.0, 1.0⟩, ⟨5.2, 1.0⟩] ∧
    ¬ (start.powerLog (coldTicks c.reportTime)).IsChain (RefreshedWithin .doubles 5) := by
  intro c start
  have hvalid : c.validate "extruder" = .ok () := Except.eq_ok_of_toBool (by decide +kernel)
  have hgap : toReal c.reportTime = (5854679515581645 : ℤ) / (2 ^ 51 : ℕ) :=
    toReal_of_height (by norm_num) (by decide +kernel)
  have hlast : toReal (c.reportTime + c.reportTime) = (5854679515581645 : ℤ) / (2 ^ 50 : ℕ) :=
    toReal_of_height (by norm_num) (by decide +kernel)
  have hlog : start.powerLog (coldTicks c.reportTime) = [⟨0.0, 1.0⟩, ⟨5.2, 1.0⟩] := by
    decide +kernel
  refine ⟨hvalid, ?_, hlog, ?_⟩
  · refine coldTicks_steady ⟨by decide +kernel, by decide +kernel⟩
      ⟨by decide +kernel, by decide +kernel⟩ ?_ (by decide +kernel)
    rw [hlast, hgap]
    norm_num
  · have hend : toReal 5.2 = (5854679515581645 : ℤ) / (2 ^ 50 : ℕ) :=
      toReal_of_height (by norm_num) (by decide +kernel)
    have hstart : toReal 0.0 = (0 : ℤ) / (1 : ℕ) := toReal_of_height one_pos (by decide +kernel)
    rw [hlog, List.isChain_pair]
    intro hwithin
    have hwait := hwithin (by decide +kernel)
    change toReal 5.2 - toReal 0.0 ≤ 5 at hwait
    rw [hend, hstart] at hwait
    norm_num at hwait

end BoardHeater

end HeaterHost
