import HeaterHost.Proofs.Control.Integral
import HeaterHost.Proofs.Config.Accepted
import HeaterHost.Proofs.Heater.Orders
import HeaterHost.Proofs.Host.Stations

/-!
# A PID after an experiment

While an experiment drives a heater its PID takes no readings in. When the experiment ends the PID
forgets its integral and its slope, but not the time of its last reading. So the first reading
afterwards is integrated over the time since that one, which is longer ago than the experiment.
-/

namespace HeaterHost

open Autotune Double

/-- A PID that has nothing accumulated. -/
structure Pid.Forgetful {α : Type} [Scalar α] (law : Pid α) : Prop where
  integral : law.integral = 0.0
  slope : law.slope = 0.0

theorem Pid.Forgetful.update_integral {α : Type} [Scalar α] {law : Pid α}
    (hforgotten : law.Forgetful) (time temp target : α) :
    (law.update time temp target).integral =
      if law.demand time temp target == law.output time temp target then
        Scalar.clamp 0.0 law.integralLimit (0.0 + (target - temp) * (time - law.lastTime))
      else 0.0 := by
  have hafter : law.integralAfter time temp target =
      Scalar.clamp 0.0 law.integralLimit (0.0 + (target - temp) * (time - law.lastTime)) := by
    rw [Pid.integralAfter, hforgotten.integral]
  rw [← hafter, ← hforgotten.integral]
  rfl

/-- In exact numbers, when the first reading adds no more than the error times the time since some
earlier moment. -/
theorem Pid.Forgetful.update_integral_le_iff {law : Pid ℝ} (hforgotten : law.Forgetful)
    {time seen : ℝ} (hown : law.lastTime ≤ time) (hseen : seen ≤ time) (temp target : ℝ) :
    (law.update time temp target).integral ≤ max 0 (target - temp) * (time - seen) ↔
      law.demand time temp target ≠ law.output time temp target ∨ target ≤ temp ∨
        law.integralLimit ≤ (target - temp) * (time - seen) ∨ seen ≤ law.lastTime := by
  have hnonneg : 0 ≤ max 0 (target - temp) * (time - seen) :=
    mul_nonneg (le_max_left _ _) (sub_nonneg.mpr hseen)
  rw [hforgotten.update_integral]
  split
  case isTrue hequal =>
    have hfree : law.demand time temp target = law.output time temp target :=
      of_decide_eq_true hequal
    rw [Scalar.clamp_real, Scalar.zero_real, zero_add]
    rcases le_or_gt target temp with hcold | hheat
    · refine iff_of_true (le_trans ?_ hnonneg) (.inr (.inl hcold))
      have hproduct : (target - temp) * (time - law.lastTime) ≤ 0 :=
        mul_nonpos_of_nonpos_of_nonneg (sub_nonpos.mpr hcold) (sub_nonneg.mpr hown)
      rw [max_eq_right hproduct]
      exact min_le_right _ _
    · have herror : 0 < target - temp := sub_pos.mpr hheat
      have hproduct : 0 ≤ (target - temp) * (time - law.lastTime) :=
        mul_nonneg herror.le (sub_nonneg.mpr hown)
      rw [max_eq_left hproduct, max_eq_right herror.le, min_le_iff, mul_le_mul_iff_right₀ herror,
        sub_le_sub_iff_left]
      refine ⟨fun hbound => .inr (.inr hbound), fun hcases => ?_⟩
      exact (hcases.resolve_left (not_not_intro hfree)).resolve_left (not_le.mpr hheat)
  case isFalse hlimited =>
    rw [Scalar.zero_real]
    exact iff_of_true hnonneg (.inl fun hfree => hlimited (decide_eq_true hfree))

namespace BoardHeater

section runs

variable {α : Type} [Scalar α] {h : BoardHeater α}

/-! ### The readings of the PID -/

/-- The reading that the PID of a heater takes in. -/
def pidReading? (h : BoardHeater α) : HeaterEvent α → Option (Sample α)
  | .tick sample _ time =>
      if h.Consults sample time ∧ (h.readied time).control.isAutotune = false then some sample
      else none
  | _ => none

def pidReadings (h : BoardHeater α) : List (HeaterEvent α) → List (Sample α)
  | [] => []
  | event :: rest => (h.pidReading? event).toList ++ (h.perform event).pidReadings rest

/-- The time that the PID has after a run: that of its last reading, if it took one. -/
def pidTime (h : BoardHeater α) (events : List (HeaterEvent α)) : α :=
  ((h.pidReadings events).getLast?.map Sample.timestamp).getD h.control.resting.lastTime

theorem tick_control_of_pid {sample : Sample α} {time : α} (hconsults : h.Consults sample time)
    (hpid : (h.readied time).control.isAutotune = false) (target : α) :
    (h.tick sample target time).control =
      .pid ((h.readied time).control.resting.update sample.timestamp sample.value target) := by
  have hlaw : (h.readied time).acknowledged.control = .pid (h.readied time).control.resting :=
    (acknowledged_control _).trans (ActiveControl.eq_pid_of_not_isAutotune hpid)
  rw [hconsults.tick_eq, consume_of_pid hlaw, setPower_control]

theorem pidReading?_eq_some {event : HeaterEvent α} {sample : Sample α}
    (hread : h.pidReading? event = some sample) :
    ∃ target time, event = .tick sample target time ∧ h.Consults sample time ∧
      (h.readied time).control.isAutotune = false := by
  cases event with
  | tick sample' target time =>
      simp only [pidReading?] at hread
      split at hread
      case isTrue hreads =>
        cases hread
        exact ⟨target, time, rfl, hreads⟩
      case isFalse => cases hread
  | _ => cases hread

/-- Without a reading the PID waits, forgets, or gets new gains. -/
theorem perform_unread {C : ActiveControl α → Prop} (hlasting : ActiveControl.Lasting C)
    (hcontrol : C h.control) {event : HeaterEvent α} (hunread : h.pidReading? event = none)
    (hgains : ∀ gains, C (h.setGains gains).control)
    (hstart : ∀ target time h', h.startAutotune target time = (h', .ok ()) → C h'.control) :
    C (h.perform event).control := by
  refine hlasting.perform hcontrol (fun gains _ => hgains gains)
    (fun target time h' _ => hstart target time h') ?_
  rintro sample target time rfl hstate husable hnew law hlaw
  have hreads : h.Consults sample time ∧ (h.readied time).control.isAutotune = false :=
    ⟨⟨hstate, husable, hnew⟩, by rw [hlaw]; rfl⟩
  rw [pidReading?, if_pos hreads] at hunread
  cases hunread

theorem perform_lastTime (h : BoardHeater α) (event : HeaterEvent α) :
    (h.perform event).control.resting.lastTime =
      ((h.pidReading? event).map Sample.timestamp).getD h.control.resting.lastTime := by
  cases hread : h.pidReading? event with
  | some sample =>
      obtain ⟨target, time, rfl, hconsults, hpid⟩ := pidReading?_eq_some hread
      change (h.tick sample target time).control.resting.lastTime = sample.timestamp
      rw [tick_control_of_pid hconsults hpid]
      rfl
  | none =>
      refine perform_unread
        (C := fun control => control.resting.lastTime = h.control.resting.lastTime)
        ⟨fun _ _ _ _ _ hkept => hkept, fun _ _ _ hkept => hkept⟩ rfl hread ?_ ?_
      · intro gains
        change (h.control.mapResting _).resting.lastTime = _
        rw [ActiveControl.resting_mapResting]
        rfl
      · intro target time h' hstart
        obtain ⟨_, _, -, heq⟩ := startAutotune_eq_ok hstart
        rw [heq]
        rfl

theorem replay_lastTime (h : BoardHeater α) (events : List (HeaterEvent α)) :
    (h.replay events).control.resting.lastTime = h.pidTime events := by
  induction events generalizing h with
  | nil => rfl
  | cons event rest ih =>
      rw [replay_cons, ih, pidTime, pidTime, pidReadings, perform_lastTime]
      cases h.pidReading? event with
      | none => rfl
      | some sample =>
          rw [Option.toList_some, List.singleton_append, List.getLast?_cons]
          cases ((h.perform event).pidReadings rest).getLast? <;> rfl

/-! ### The experiment in between -/

/-- An experiment is under way, or the PID that came back has nothing accumulated. -/
structure Relieved (maxPower : α) (control : ActiveControl α) : Prop where
  runs : control.resting.RunsOn maxPower control.resting.gains
  forgetful : control.isAutotune = true ∨ control.resting.Forgetful

theorem relieved_lasting (maxPower : α) : ActiveControl.Lasting (Relieved maxPower) where
  advance _ _ _ _ _ hrelieved := ⟨hrelieved.runs, .inl rfl⟩
  release _ _ _ hrelieved := ⟨hrelieved.runs.reset, .inr ⟨rfl, rfl⟩⟩

/-- No gains make a limit that moves an integral of zero. -/
def KeepsZero (maxPower : α) : Prop :=
  ∀ law : Pid α, law.RunsOn maxPower law.gains → Scalar.clamp 0.0 law.integralLimit 0.0 = 0.0

theorem Relieved.perform {maxPower : α} (hzero : KeepsZero maxPower)
    (hrelieved : Relieved maxPower h.control) {event : HeaterEvent α}
    (hunread : h.pidReading? event = none) : Relieved maxPower (h.perform event).control := by
  refine perform_unread (relieved_lasting maxPower) hrelieved hunread ?_ ?_
  · intro gains
    change Relieved maxPower (h.control.mapResting _)
    have hnew := h.control.resting.setGains_runsOn gains
    rw [hrelieved.runs.power] at hnew
    refine ⟨?_, ?_⟩
    · rw [ActiveControl.resting_mapResting]
      exact hnew
    · rcases hrelieved.forgetful with hbegun | ⟨hintegral, hslope⟩
      · left
        cases hcontrol : h.control with
        | pid law =>
            rw [hcontrol] at hbegun
            cases hbegun
        | autotune relay resume priorTarget => rfl
      · right
        rw [ActiveControl.resting_mapResting]
        refine ⟨?_, hslope⟩
        change Scalar.clamp 0.0 _ h.control.resting.integral = 0.0
        rw [hintegral]
        exact hzero _ hnew
  · intro target time h' hstart
    obtain ⟨_, _, -, heq⟩ := startAutotune_eq_ok hstart
    rw [heq]
    exact ⟨hrelieved.runs, .inl rfl⟩

theorem Relieved.replay {maxPower : α} (hzero : KeepsZero maxPower)
    (hrelieved : Relieved maxPower h.control) {events : List (HeaterEvent α)}
    (hunread : h.pidReadings events = []) : Relieved maxPower (h.replay events).control := by
  induction events generalizing h with
  | nil => exact hrelieved
  | cons event rest ih =>
      obtain ⟨hnone, hrest⟩ := List.append_eq_nil_iff.mp hunread
      rw [Option.toList_eq_nil_iff] at hnone
      exact ih (hrelieved.perform hzero hnone) hrest

/-- An experiment is started, and the reading that comes after it is the first that the PID takes
in. -/
structure Resumes (start : BoardHeater α) (before : List (HeaterEvent α)) (goal begun : α)
    (during : List (HeaterEvent α)) (sample : Sample α) (time : α) : Prop where
  accepted : ((start.replay before).startAutotune goal begun).2.toBool = true
  unread : ((start.replay before).perform (.command (.startAutotune goal begun))).pidReadings
    during = []
  consults : (start.replay (before ++ .command (.startAutotune goal begun) :: during)).Consults
    sample time
  pid : ((start.replay (before ++ .command (.startAutotune goal begun) :: during)).readied
    time).control.isAutotune = false

namespace Resumes

variable {start : BoardHeater α} {before during : List (HeaterEvent α)} {goal begun time : α}
  {sample : Sample α} {maxPower : α}

/-- The PID that comes back has nothing accumulated, and the time from before the experiment. -/
theorem resting (hresumes : start.Resumes before goal begun during sample time)
    (hzero : KeepsZero maxPower)
    (hruns : ∀ events, (start.replay events).control.resting.RunsOn maxPower
      (start.replay events).control.resting.gains) :
    let h := start.replay (before ++ .command (.startAutotune goal begun) :: during)
    Relieved maxPower (h.readied time).control ∧
      (h.readied time).control.resting.lastTime = start.pidTime before := by
  intro h
  obtain ⟨h', hattempt⟩ : ∃ h', (start.replay before).startAutotune goal begun = (h', .ok ()) := by
    have haccepted := hresumes.accepted
    rcases hresult : (start.replay before).startAutotune goal begun with ⟨h', error | _⟩
    · rw [hresult] at haccepted
      cases haccepted
    · exact ⟨h', rfl⟩
  have hbegun : (start.replay before).perform (.command (.startAutotune goal begun)) = h' :=
    perform_of_attempt hattempt
  have hunread := hresumes.unread
  have hevents : h = h'.replay during := by
    rw [← hbegun]
    exact replay_append ..
  rw [hbegun] at hunread
  obtain ⟨record, relay, -, heq⟩ := startAutotune_eq_ok hattempt
  have hrelieved : Relieved maxPower h'.control := by
    rw [heq]
    exact ⟨hruns before, .inl rfl⟩
  have hkept : h.control.resting.lastTime = start.pidTime before := by
    rw [hevents, replay_lastTime, pidTime, hunread, ← replay_lastTime, heq]
    rfl
  refine ⟨(relieved_lasting maxPower).readied ?_ time, ?_⟩
  · rw [hevents]
    exact hrelieved.replay hzero hunread
  · exact ActiveControl.Lasting.readied
      (C := fun control => control.resting.lastTime = start.pidTime before)
      ⟨fun _ _ _ _ _ hlast => hlast, fun _ _ _ hlast => hlast⟩ hkept time

/-- The PID takes its first reading in with nothing accumulated. -/
theorem update_eq (hresumes : start.Resumes before goal begun during sample time)
    (hzero : KeepsZero maxPower)
    (hruns : ∀ events, (start.replay events).control.resting.RunsOn maxPower
      (start.replay events).control.resting.gains) (target : α) :
    let h := start.replay (before ++ .command (.startAutotune goal begun) :: during)
    let law := (h.readied time).control.resting
    law.Forgetful ∧ law.lastTime = start.pidTime before ∧
      (h.tick sample target time).control.resting =
        law.update sample.timestamp sample.value target := by
  intro h law
  obtain ⟨⟨-, hforgetful⟩, htime⟩ := hresumes.resting hzero hruns
  have hforgotten : law.Forgetful := by
    refine hforgetful.resolve_left ?_
    rw [hresumes.pid]
    exact Bool.false_ne_true
  refine ⟨hforgotten, htime, ?_⟩
  rw [tick_control_of_pid hresumes.consults hresumes.pid]
  rfl

end Resumes

theorem create_replay_runsOn (name : String) (settings : HeaterSettings α)
    (events : List (HeaterEvent α)) :
    ((create name settings).replay events).control.resting.RunsOn settings.maxPower
      ((create name settings).replay events).control.resting.gains := by
  have hcreated : (create name settings).control.resting.RunsOn settings.maxPower
      settings.gains := Pid.create_runsOn ..
  have hruns := replay_runsOn hcreated events
  rw [← hruns.held] at hruns
  exact hruns

/-! ### An experiment that is given up -/

/-- A new heater whose experiment is given up before its first tick has no more than forgotten. -/
theorem replay_abandoned (name : String) (settings : HeaterSettings α) {goal : α}
    (hgoal : ¬ (goal ≤ settings.minTemp ∨ settings.maxTemp ≤ goal)) (begun ended : α) :
    let start := create name settings
    let h := start.replay
      [.command (.startAutotune goal begun), .command (.abortAutotune ended)]
    (start.startAutotune goal begun).2.toBool = true ∧
      h.control = .pid start.control.resting.reset ∧ h.state ≠ .shutdown ∧
      h.lastSample = none := by
  intro start h
  obtain ⟨experiment, hbegun⟩ :
      ∃ experiment, start.startAutotune goal begun = (experiment, .ok ()) :=
    ⟨_, by rw [startAutotune, Record.start_of_closed rfl hgoal]⟩
  obtain ⟨record, relay, -, hafter⟩ := startAutotune_eq_ok hbegun
  have hcontrol : experiment.control = .autotune relay start.control.resting start.target := by
    rw [hafter]
  have habort : experiment.attempt (.abortAutotune ended) =
      (experiment.endAutotune (.error .aborted) ended, .ok ()) := by
    rw [attempt, abortAutotune, hcontrol]
    rfl
  have hstart : start.perform (.command (.startAutotune goal begun)) = experiment :=
    perform_of_attempt hbegun
  have hended : h = experiment.released relay start.control.resting start.target
      (.error .aborted) ended := by
    rw [← endAutotune_of_autotune hcontrol, ← perform_of_attempt habort, ← hstart]
    rfl
  refine ⟨?_, ?_, ?_, ?_⟩
  · rw [hbegun]
    rfl
  · rw [hended]
    rfl
  · rw [hended, hafter]
    exact HeaterState.noConfusion
  · rw [hended, hafter]
    rfl

/-- What is read after that is the first reading of the PID. -/
theorem abandoned_resumes (name : String) (settings : HeaterSettings α) {goal begun ended time : α}
    {sample : Sample α} (hgoal : ¬ (goal ≤ settings.minTemp ∨ settings.maxTemp ≤ goal))
    (husable : (create name settings).Usable sample time) :
    let start := create name settings
    let h := start.replay
      [.command (.startAutotune goal begun), .command (.abortAutotune ended)]
    start.Resumes [] goal begun [.command (.abortAutotune ended)] sample time ∧
      (h.readied time).control.resting = (Pid.create settings.gains settings.maxPower
        settings.smoothTime).reset := by
  intro start h
  obtain ⟨haccepted, hpid, hstate, hlast⟩ := replay_abandoned name settings hgoal begun ended
  have hready : (h.readied time).control = .pid start.control.resting.reset := by
    rw [readied_of_pid hpid, activate_control, hpid]
  have hkept : (h.readied time).settings = start.settings := by
    rw [readied_settings, replay_settings]
  refine ⟨⟨haccepted, rfl, ⟨hstate, (usable_congr hkept sample time).mpr husable, ?_⟩, ?_⟩, ?_⟩
  · change sample.isConsumed h.lastSample = false
    rw [hlast]
    rfl
  · change (h.readied time).control.isAutotune = false
    rw [hready]
    rfl
  · rw [hready]
    rfl

end runs

theorem keepsZero_doubles {maxPower : Float} (hpower : 0.0 < maxPower) (hone : maxPower ≤ 1.0) :
    KeepsZero maxPower := by
  intro law hruns
  have hranges := hruns.hasRanges hpower (Pid.isFinite_of_fraction hpower hone)
  have hlimit : 0.0 ≤ law.integralLimit := (Pid.hasRanges_iff.mp hranges).1
  rw [Scalar.clamp, if_neg (lt_irrefl _), if_neg (not_lt_of_le hlimit)]

theorem keepsZero_exact {maxPower : ℝ} (hpower : 0 < maxPower) : KeepsZero maxPower := by
  intro law hruns
  have hlimit := hruns.zero_le_limit hpower
  rw [Scalar.clamp_real, max_self]
  exact min_eq_right hlimit

/-- **A PID that comes back takes credit for the whole time since its own last reading.** An
experiment is started, and after it has ended the PID takes a first reading in. Its integral is zero
until then; the reading adds the error times the time since the last reading that the PID took in
before the experiment, up to the limit, unless the output is limited. In exact numbers that is no
more than the error times the time since some later moment `seen` exactly if the output is limited,
the target is reached, the limit is no more than that either, or the PID has been read since. -/
theorem resumed_pid_counts_from_own_reading (c : HeaterConfig) (name : String)
    (hvalid : c.validate name = .ok ()) (ideal : HeaterSettings ℝ) (hideal : 0 < ideal.maxPower) :
    (∀ before goal begun during sample target time,
      let start := create name c.settings
      start.Resumes before goal begun during sample time →
      let h := start.replay (before ++ .command (.startAutotune goal begun) :: during)
      let law := (h.readied time).control.resting
      law.Forgetful ∧ law.lastTime = start.pidTime before ∧
      (h.tick sample target time).control.resting.integral =
        if law.demand sample.timestamp sample.value target ==
            law.output sample.timestamp sample.value target then
          Scalar.clamp 0.0 law.integralLimit
            (0.0 + (target - sample.value) * (sample.timestamp - start.pidTime before))
        else 0.0) ∧
    ∀ before goal begun during sample target time seen,
      let start := create name ideal
      start.Resumes before goal begun during sample time →
      start.pidTime before ≤ sample.timestamp → seen ≤ sample.timestamp →
      let h := start.replay (before ++ .command (.startAutotune goal begun) :: during)
      let law := (h.readied time).control.resting
      ((h.tick sample target time).control.resting.integral ≤
          max 0 (target - sample.value) * (sample.timestamp - seen) ↔
        law.demand sample.timestamp sample.value target ≠
            law.output sample.timestamp sample.value target ∨
          target ≤ sample.value ∨
          law.integralLimit ≤ (target - sample.value) * (sample.timestamp - seen) ∨
          seen ≤ start.pidTime before) := by
  refine ⟨?_, ?_⟩
  · intro before goal begun during sample target time start hresumes h law
    obtain ⟨hpower, hone⟩ := (HeaterConfig.validate_eq_ok_iff.mp hvalid).maxPower
    obtain ⟨hforgotten, htime, hupdate⟩ := hresumes.update_eq
      (keepsZero_doubles hpower hone) (create_replay_runsOn name c.settings) target
    refine ⟨hforgotten, htime, ?_⟩
    rw [hupdate, ← htime]
    exact hforgotten.update_integral ..
  · intro before goal begun during sample target time seen start hresumes hown hseen h law
    obtain ⟨hforgotten, htime, hupdate⟩ := hresumes.update_eq (keepsZero_exact hideal)
      (create_replay_runsOn name ideal) target
    rw [← htime] at hown ⊢
    rw [hupdate]
    exact hforgotten.update_integral_le_iff hown hseen sample.value target

/-- A minute of an experiment, which is then given up for a target. -/
def minuteUnderRelay : List (HeaterEvent Float) :=
  [.tick (Sample.reading 60.0 195.0) 200.0 60.0, .command (.abortAutotune 60.05),
    .command (.setTemp 200.0)]

/-- After the minute the first reading counts all of it. In exact numbers, an experiment is given up
after one second, and the reading a second later counts two. -/
theorem resumed_pid_counts_minuteUnderRelay :
    let c := HeaterConfig.onBoard "/dev/ttyACM1" 10.0 450.0
    let start := create "extruder" c.settings
    let sample := Sample.reading 60.1 199.9
    let h := start.replay ([] ++ .command (.startAutotune 200.0 0.0) :: minuteUnderRelay)
    let ideal : HeaterSettings ℝ :=
      { gains := ⟨0, 255, 0⟩, minTemp := 10, maxTemp := 450, maxPower := 1, smoothTime := 1,
        extrudeTemp := 170, reportTime := 1, maxDelta := 2, tuneDelta := 5, tuneTimeout := 1200 }
    let fresh := create "extruder" ideal
    let ended := fresh.replay [.command (.startAutotune 200 0), .command (.abortAutotune 1)]
    c.validate "extruder" = .ok () ∧
    start.Resumes [] 200.0 0.0 minuteUnderRelay sample 60.1 ∧
    (h.readied 60.1).control.resting.lastTime = 0.0 ∧
    (h.tick sample 200.0 60.1).control.resting.integral =
      Scalar.clamp 0.0 (h.readied 60.1).control.resting.integralLimit
        (0.0 + (200.0 - 199.9) * (60.1 - 0.0)) ∧
    0 < ideal.maxPower ∧
    fresh.Resumes [] 200 0 [.command (.abortAutotune 1)] (Sample.reading 2 199.75) 2 ∧
    fresh.pidTime [] ≤ 2 ∧ (1 : ℝ) ≤ 2 ∧
    ¬ (ended.tick (Sample.reading 2 199.75) 200 2).control.resting.integral ≤
      max 0 (200 - 199.75) * (2 - 1) := by
  intro c start sample h ideal fresh ended
  have hvalid : c.validate "extruder" = .ok () := Except.eq_ok_of_toBool (by decide +kernel)
  have hresumes : start.Resumes [] 200.0 0.0 minuteUnderRelay sample 60.1 := by
    refine ⟨by decide +kernel, ?_, by decide +kernel, by decide +kernel⟩
    exact List.eq_nil_of_length_eq_zero (by decide +kernel)
  have hpower : 0 < ideal.maxPower := one_pos
  obtain ⟨hdoubles, hideal⟩ :=
    resumed_pid_counts_from_own_reading c "extruder" hvalid ideal hpower
  obtain ⟨-, htime, hintegral⟩ := hdoubles [] 200.0 0.0 minuteUnderRelay sample 200.0 60.1 hresumes
  have hunit : (Gains.unit : ℝ) = 255 := by norm_num [Gains.unit, Scalar.literal_real]
  have hown : fresh.pidTime [] ≤ (2 : ℝ) := by
    change (0.0 : ℝ) ≤ 2
    norm_num
  have hgoal : ¬ ((200 : ℝ) ≤ ideal.minTemp ∨ ideal.maxTemp ≤ 200) := by norm_num [ideal]
  have husable : fresh.Usable (Sample.reading 2 199.75) 2 := by
    refine ⟨?_, ?_⟩
    · norm_num [fresh, ideal, create, isStale, staleAfter, Sample.reading, Sample.age]
    · norm_num [fresh, ideal, create, Sample.reading]
  obtain ⟨hexact, hlaw⟩ := abandoned_resumes "extruder" ideal hgoal husable
  have hcounted := hideal [] 200 0 [.command (.abortAutotune 1)] (Sample.reading 2 199.75) 200 2 1
    hexact hown one_le_two
  refine ⟨hvalid, hresumes, htime, hintegral.trans (if_pos (by decide +kernel)), hpower, hexact,
    hown, one_le_two, mt hcounted.mp ?_⟩
  -- the output is not limited, and the limit of the integral is one
  change ¬ ((ended.readied 2).control.resting.demand 2 199.75 200 ≠
      (ended.readied 2).control.resting.output 2 199.75 200 ∨ (200 : ℝ) ≤ 199.75 ∨
    (ended.readied 2).control.resting.integralLimit ≤ (200 - 199.75) * (2 - 1) ∨ (1 : ℝ) ≤ 0.0)
  rw [hlaw]
  norm_num [Pid.output, Pid.demand, Pid.integralAfter, Pid.slopeAfter, Pid.create, Pid.setGains,
    Pid.reset, ideal, hunit, Scalar.clamp_real, Scalar.literal_real]

/-- The last sample before was read a tenth of a second ago, and yet the integral is worth a
minute. -/
theorem minuteUnderRelay_is_credited :
    let c := HeaterConfig.onBoard "/dev/ttyACM1" 10.0 450.0
    let start := create "extruder" c.settings
    let h := start.replay (.command (.startAutotune 200.0 0.0) :: minuteUnderRelay)
    let after := h.tick (Sample.reading 60.1 199.9) 200.0 60.1
    (c.validate "extruder").toBool = true ∧ h.state = .active ∧ h.control.isAutotune = false ∧
    h.Consults (Sample.reading 60.1 199.9) 60.1 ∧ h.lastSample = some 60.0 ∧
    ¬ after.control.resting.integral ≤ Scalar.greatest 0.0 (200.0 - 199.9) * (60.1 - 60.0) ∧
    6.0 ≤ after.control.resting.integral ∧ 0.7 ≤ after.lastPower := by
  decide +kernel

end BoardHeater

end HeaterHost
