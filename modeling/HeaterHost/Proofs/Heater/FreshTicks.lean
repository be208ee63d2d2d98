import HeaterHost.Proofs.Control.Smoothing
import HeaterHost.Proofs.Config.Accepted
import HeaterHost.Proofs.Heater.Ranges
import HeaterHost.Proofs.Host.Stations
import HeaterHost.Proofs.Sensor.FreshSamples

/-!
# Ticks on fresh samples

The host's own heater takes in the fresh samples and passes over all others. A failed sample
switches it off without a word to the controller, a repeated one is answered with the power of the
tick before, and a target of zero is reached with a controller that goes on. So the controller is
where it would be by itself with the fresh samples alone, and so is the power on a fresh sample.
-/

namespace HeaterHost

/-! ### Controllers by themselves -/

section bare

variable {α : Type} [Scalar α]

/-- The law after samples, each with the target at its time. -/
def Pid.after (law : Pid α) (ticks : List (Sample α × α)) : Pid α :=
  ticks.foldl (fun law (sample, target) => law.update sample.timestamp sample.value target) law

/-- The law after samples, each with the target at its time. -/
def Hysteresis.after (law : Hysteresis α) (ticks : List (Sample α × α)) : Hysteresis α :=
  ticks.foldl (fun law (sample, target) => law.update sample.value target) law

namespace StockControl

def after : StockControl α → List (Sample α × α) → StockControl α
  | pid law, ticks => pid (law.after ticks)
  | watermark law, ticks => watermark (law.after ticks)

/-- What the controller makes of one more sample. -/
def answer : StockControl α → Sample α → α → α
  | pid law, sample, target => law.output sample.timestamp sample.value target
  | watermark law, sample, target => (law.update sample.value target).power

theorem after_concat (control : StockControl α) (ticks : List (Sample α × α)) (sample : Sample α)
    (target : α) :
    control.after (ticks ++ [(sample, target)]) =
      ((control.after ticks).update sample.timestamp sample.value target).1 := by
  cases control with
  | pid law => rw [after, Pid.after, List.foldl_concat, ← Pid.after]; rfl
  | watermark law => rw [after, Hysteresis.after, List.foldl_concat, ← Hysteresis.after]; rfl

theorem update_snd (control : StockControl α) (sample : Sample α) (target : α) :
    (control.update sample.timestamp sample.value target).2 = control.answer sample target := by
  cases control <;> rfl

end StockControl

end bare

/-! ### The ticks of a run -/

namespace StockEvent

variable {α : Type}

/-- The sample and the target of a tick. -/
def tick? : StockEvent α → Option (Sample α × α)
  | .tick sample target => some (sample, target)
  | .setTemp _ => none

variable [Scalar α]

/-- The ticks of a run that are made on a fresh sample. -/
def freshTicks (events : List (StockEvent α)) : List (Sample α × α) :=
  freshBy Prod.fst (events.filterMap tick?)

/-- Whether a sample is fresh after a run. -/
def isFresh (events : List (StockEvent α)) (sample : Sample α) : Bool :=
  sample.valid && !(freshTicks events).getLast?.any fun tick =>
    tick.1.timestamp == sample.timestamp

theorem freshTicks_tick (events : List (StockEvent α)) (sample : Sample α) (target : α) :
    freshTicks (events ++ [.tick sample target]) =
      if isFresh events sample then freshTicks events ++ [(sample, target)]
      else freshTicks events := by
  rw [freshTicks, List.filterMap_append]
  exact freshBy_concat Prod.fst (events.filterMap tick?) (sample, target)

theorem freshTicks_setTemp (events : List (StockEvent α)) (degrees : α) :
    freshTicks (events ++ [.setTemp degrees]) = freshTicks events := by
  rw [freshTicks, List.filterMap_append]
  exact congrArg _ (List.append_nil _)

theorem freshTicks_insert {before : List (StockEvent α)} {extra : Sample α}
    (hextra : isFresh before extra = false) (aim : α) (between : List (StockEvent α)) :
    freshTicks (before ++ .tick extra aim :: between) = freshTicks (before ++ between) := by
  have hstale : isFreshAfter Prod.fst (before.filterMap tick?) (extra, aim) = false := hextra
  rw [freshTicks, freshTicks, List.filterMap_append, List.filterMap_append]
  exact freshBy_insert Prod.fst hstale (between.filterMap tick?)

end StockEvent

namespace StockHeater

open StockEvent

section runs

variable {α : Type} [Scalar α] {start h : StockHeater α}

/-- The power that each tick of a run comes to. -/
def powers (h : StockHeater α) : List (StockEvent α) → List α
  | [] => []
  | .setTemp degrees :: rest => (h.perform (.setTemp degrees)).powers rest
  | .tick sample target :: rest =>
      (h.tick sample target).lastPower :: (h.tick sample target).powers rest

theorem replay_concat (h : StockHeater α) (events : List (StockEvent α)) (event : StockEvent α) :
    h.replay (events ++ [event]) = (h.replay events).perform event :=
  List.foldl_concat ..

/-! ### One tick -/

theorem tick_of_invalid {sample : Sample α} (hvalid : sample.valid = false) (target : α) :
    h.tick sample target = { h with lastPower := 0.0 } := by
  rw [tick, hvalid]
  rfl

theorem tick_of_consumed {sample : Sample α} (hvalid : sample.valid = true)
    (hconsumed : sample.isConsumed h.lastSample = true) (target : α) :
    h.tick sample target = h := by
  rw [tick, hvalid, hconsumed]
  rfl

theorem tick_of_fresh {sample : Sample α} (hvalid : sample.valid = true)
    (hfresh : sample.isConsumed h.lastSample = false) (target : α) :
    h.tick sample target = h.consume sample target := by
  rw [tick, hvalid, hfresh]
  rfl

theorem perform_setTemp (h : StockHeater α) (degrees : α) :
    ∃ target, h.perform (.setTemp degrees) = { h with target } := by
  rw [perform, setTemp]
  cases checkTarget degrees h.minTemp h.maxTemp with
  | error error => exact ⟨h.target, rfl⟩
  | ok _ => exact ⟨degrees, rfl⟩

/-! ### Runs -/

/-- The heater is where the fresh ticks of a run take it. -/
structure Tracks (start h : StockHeater α) (fresh : List (Sample α × α)) : Prop where
  control : h.control = start.control.after fresh
  smoothing : h.smoothing = start.smoothing.after (fresh.map Prod.fst)
  lastSample : h.lastSample = fresh.getLast?.map fun tick => tick.1.timestamp
  maxPower : h.maxPower = start.maxPower

theorem Tracks.isFresh_eq {events : List (StockEvent α)}
    (htracks : Tracks start h (freshTicks events)) (sample : Sample α) :
    isFresh events sample = (sample.valid && !sample.isConsumed h.lastSample) := by
  rw [isFresh, Sample.isConsumed, htracks.lastSample, Option.any_map]

/-- A fresh sample is taken in, and the power is what the controller makes of it. -/
theorem Tracks.tick_of_isFresh {events : List (StockEvent α)}
    (htracks : Tracks start h (freshTicks events)) {sample : Sample α}
    (hfresh : isFresh events sample = true) (target : α) :
    h.tick sample target = h.consume sample target := by
  rw [htracks.isFresh_eq, Bool.and_eq_true, Bool.not_eq_true'] at hfresh
  exact tick_of_fresh hfresh.1 hfresh.2 target

/-- Any other sample at most switches the heater off. -/
theorem Tracks.tick_of_not_isFresh {events : List (StockEvent α)}
    (htracks : Tracks start h (freshTicks events)) {sample : Sample α}
    (hstale : isFresh events sample = false) (target : α) :
    ∃ lastPower, h.tick sample target = { h with lastPower } := by
  cases hvalid : sample.valid with
  | false => exact ⟨0.0, tick_of_invalid hvalid target⟩
  | true =>
      rw [htracks.isFresh_eq, hvalid, Bool.true_and, Bool.not_eq_false'] at hstale
      exact ⟨h.lastPower, tick_of_consumed hvalid hstale target⟩

theorem Tracks.perform {events : List (StockEvent α)}
    (htracks : Tracks start h (freshTicks events)) (event : StockEvent α) :
    Tracks start (h.perform event) (freshTicks (events ++ [event])) := by
  have ⟨hcontrol, hsmoothing, hlast, hpower⟩ := htracks
  cases event with
  | setTemp degrees =>
      obtain ⟨target, heq⟩ := h.perform_setTemp degrees
      rw [freshTicks_setTemp, heq]
      exact ⟨hcontrol, hsmoothing, hlast, hpower⟩
  | tick sample target =>
      rw [freshTicks_tick, StockHeater.perform]
      cases hfresh : isFresh events sample with
      | false =>
          obtain ⟨lastPower, heq⟩ := htracks.tick_of_not_isFresh hfresh target
          rw [heq, if_neg Bool.false_ne_true]
          exact ⟨hcontrol, hsmoothing, hlast, hpower⟩
      | true =>
          rw [htracks.tick_of_isFresh hfresh, if_pos rfl]
          refine ⟨?_, ?_, ?_, hpower⟩
          · rw [StockControl.after_concat, ← hcontrol]
            rfl
          · rw [List.map_append, List.map_singleton, Smoothing.after_concat, ← hsmoothing]
            rfl
          · rw [List.getLast?_concat]
            rfl

theorem replay_tracks (hnone : start.lastSample = none) (events : List (StockEvent α)) :
    Tracks start (start.replay events) (freshTicks events) := by
  induction events using List.reverseRecOn with
  | nil =>
      refine ⟨?_, rfl, hnone, rfl⟩
      cases hcontrol : start.control <;> rw [StockHeater.replay, List.foldl_nil, hcontrol] <;> rfl
  | append_singleton events event ih =>
      rw [replay_concat]
      exact ih.perform event

/-- The power on a fresh sample is a function of the fresh samples before it. -/
theorem Tracks.power_of_isFresh {events : List (StockEvent α)}
    (htracks : Tracks start h (freshTicks events)) {sample : Sample α}
    (hfresh : isFresh events sample = true) (target : α) :
    (h.tick sample target).lastPower =
      if target ≤ 0.0 then 0.0
      else Scalar.clamp 0.0 start.maxPower
        ((start.control.after (freshTicks events)).answer sample target) := by
  rw [htracks.tick_of_isFresh hfresh, ← htracks.control, ← htracks.maxPower,
    ← StockControl.update_snd]
  rfl

/-! ### The power of the tick before -/

theorem replay_lastPower (h : StockHeater α) (events : List (StockEvent α)) :
    (h.replay events).lastPower = (h.powers events).getLastD h.lastPower := by
  induction events generalizing h with
  | nil => rfl
  | cons event events ih =>
      cases event with
      | setTemp degrees =>
          refine (ih _).trans ?_
          obtain ⟨target, heq⟩ := h.perform_setTemp degrees
          rw [powers, heq]
      | tick sample target => exact (ih _).trans List.getLastD_cons.symm

theorem length_powers (h : StockHeater α) (events : List (StockEvent α)) :
    (h.powers events).length = (events.filterMap tick?).length := by
  induction events generalizing h with
  | nil => rfl
  | cons event events ih =>
      cases event with
      | setTemp degrees => exact ih _
      | tick sample target => exact congrArg Nat.succ (ih _)

theorem getLast?_powers (h : StockHeater α) {events : List (StockEvent α)}
    (hticks : events.filterMap tick? ≠ []) :
    (h.powers events).getLast? = some (h.replay events).lastPower := by
  have hpowers : h.powers events ≠ [] := by
    rwa [← List.length_pos_iff, length_powers, List.length_pos_iff]
  rw [replay_lastPower, List.getLastD_eq_getLast?, List.getLast?_eq_some_getLast hpowers,
    Option.getD_some]

/-- A repeated sample is answered with the power of the tick before, whatever that tick was. -/
theorem Tracks.power_of_repeated {events : List (StockEvent α)}
    (htracks : Tracks start (start.replay events) (freshTicks events)) {sample : Sample α}
    (hvalid : sample.valid = true) (hrepeated : isFresh events sample = false) (target : α) :
    (start.powers events).getLast? = some ((start.replay events).tick sample target).lastPower := by
  have hticks : events.filterMap tick? ≠ [] := by
    intro hnone
    rw [isFresh, freshTicks, hnone, hvalid] at hrepeated
    cases hrepeated
  rw [htracks.isFresh_eq, hvalid, Bool.true_and, Bool.not_eq_false'] at hrepeated
  rw [start.getLast?_powers hticks, tick_of_consumed hvalid hrepeated]

end runs

end StockHeater

/-! ### Hysteresis in exact arithmetic -/

namespace Hysteresis

/-- What a sample outside of the band calls for: to stop heating, or to heat. -/
noncomputable def verdict? (band : ℝ) (tick : Sample ℝ × ℝ) : Option Bool :=
  if tick.2 + band ≤ tick.1.value then some false
  else if tick.1.value ≤ tick.2 - band then some true
  else none

/-- The state that the last of the samples outside of the band leaves behind. -/
noncomputable def reached (band : ℝ) (ticks : List (Sample ℝ × ℝ)) : Bool :=
  (ticks.filterMap (verdict? band)).getLast?.getD false

/-- No sample is on both sides of the band, so it calls for the same whatever the state is. -/
theorem update_heating (law : Hysteresis ℝ) (hband : 0 < law.band) (sample : Sample ℝ)
    (target : ℝ) :
    (law.update sample.value target).heating =
      (verdict? law.band (sample, target)).getD law.heating := by
  unfold update verdict?
  by_cases habove : target + law.band ≤ sample.value
  · have hbelow : ¬ sample.value ≤ target - law.band := by linarith
    cases law.heating <;> simp [habove, hbelow]
  · by_cases hbelow : sample.value ≤ target - law.band <;>
      cases law.heating <;> simp [habove, hbelow]

theorem reached_concat (band : ℝ) (ticks : List (Sample ℝ × ℝ)) (tick : Sample ℝ × ℝ) :
    reached band (ticks ++ [tick]) = (verdict? band tick).getD (reached band ticks) := by
  rw [reached, List.filterMap_append, reached]
  cases hverdict : verdict? band tick <;> simp [hverdict]

theorem after_create (maxPower : ℝ) {band : ℝ} (hband : 0 < band) (ticks : List (Sample ℝ × ℝ)) :
    (create maxPower band).after ticks = { maxPower, band, heating := reached band ticks } := by
  induction ticks using List.reverseRecOn with
  | nil => rfl
  | append_singleton ticks tick ih =>
      let law : Hysteresis ℝ := { maxPower, band, heating := reached band ticks }
      have hnext := law.update_heating hband tick.1 tick.2
      rw [after, List.foldl_concat, ← after, ih, reached_concat, ← hnext]
      rfl

end Hysteresis

namespace StockHeater

open StockEvent

/-- Under hysteresis the power is all or nothing, by the last sample outside of the band. -/
theorem watermark_power (name : String) {ideal : HeaterSettings ℝ} (hpower : 0 < ideal.maxPower)
    (hdelta : 0 < ideal.maxDelta) {events : List (StockEvent ℝ)} {sample : Sample ℝ}
    (hfresh : isFresh events sample = true) {target : ℝ} (htarget : 0 < target) :
    (((create name .watermark ideal).replay events).tick sample target).lastPower =
      if (Hysteresis.verdict? ideal.maxDelta (sample, target)).getD
          (Hysteresis.reached ideal.maxDelta (freshTicks events))
      then ideal.maxPower else 0 := by
  have hbare : (create name .watermark ideal).control.after (freshTicks events) =
      .watermark { maxPower := ideal.maxPower, band := ideal.maxDelta,
                   heating := Hysteresis.reached ideal.maxDelta (freshTicks events) } :=
    congrArg StockControl.watermark (Hysteresis.after_create ideal.maxPower hdelta _)
  have hlimit : (create name .watermark ideal).maxPower = ideal.maxPower := rfl
  rw [(replay_tracks rfl events).power_of_isFresh hfresh, hbare, hlimit, Scalar.zero_real,
    if_neg htarget.not_ge, StockControl.answer, Hysteresis.power,
    Hysteresis.update_heating _ hdelta, Scalar.clamp_real]
  split
  · exact min_eq_left (le_max_left _ _)
  · rw [Scalar.zero_real, max_self, min_eq_right hpower.le]

/-- **A stock heater is its controller run on the fresh samples.** Every tick of a heater for an
accepted section has a power. Controller and smoothing are those that the fresh samples alone give.
The power is zero on a failed sample and that of the tick before on a repeated one; on a fresh one
it is the answer of the bare controller within its limits, or zero for a target that is not above
zero, so that no sample that is not fresh makes a difference to it. In exact arithmetic, hysteresis
is off from the upper end of the band on, at full power down from the lower end, and between them as
the last sample outside of a band has left it. -/
theorem stock_heater_runs_on_fresh_samples (c : HeaterConfig) (heater : String)
    (hvalid : c.validate heater = .ok ()) (ideal : HeaterSettings ℝ) (hpower : 0 < ideal.maxPower)
    (hdelta : 0 < ideal.maxDelta) (name : String) :
    (let start := create name c.control c.settings
     start.hasRanges = true ∧
      ∀ events : List (StockEvent Float),
        let h := start.replay events
        let bare := (StockControl.create c.control c.settings).after (freshTicks events)
        h.control = bare ∧
        h.smoothing = (Smoothing.create c.smoothTime c.extrudeTemp).after
          ((freshTicks events).map Prod.fst) ∧
        ∀ sample target,
          let power := (h.tick sample target).lastPower
          h.admits sample target = true ∧
          (sample.valid = false → power = 0.0) ∧
          (sample.valid = true → isFresh events sample = false →
            (start.powers events).getLast? = some power) ∧
          (isFresh events sample = true → power =
            if target ≤ 0.0 then 0.0
            else Scalar.clamp 0.0 c.maxPower (bare.answer sample target)) ∧
          ∀ before between extra aim, events = before ++ between →
            isFresh before extra = false → isFresh events sample = true →
            let padded := before ++ .tick extra aim :: between
            isFresh padded sample = true ∧
              ((start.replay padded).tick sample target).lastPower = power) ∧
    ∀ (events : List (StockEvent ℝ)) (sample : Sample ℝ) (target : ℝ),
      isFresh events sample = true → 0 < target →
      let power := (((create name .watermark ideal).replay events).tick sample target).lastPower
      (target + ideal.maxDelta ≤ sample.value → power = 0) ∧
      (sample.value ≤ target - ideal.maxDelta → power = ideal.maxPower) ∧
      (target - ideal.maxDelta < sample.value → sample.value < target + ideal.maxDelta →
        power = if Hysteresis.reached ideal.maxDelta (freshTicks events) then ideal.maxPower
          else 0) := by
  constructor
  · intro start
    have haccepted := HeaterConfig.validate_eq_ok_iff.mp hvalid
    have hranged : start.Ranged :=
      .create name c.control c.settings haccepted.maxPower.1 haccepted.isFinite_maxPower
    refine ⟨hranged.hasRanges, ?_⟩
    intro events h bare
    have htracks : Tracks start h (freshTicks events) := replay_tracks rfl events
    refine ⟨htracks.control, htracks.smoothing, ?_⟩
    intro sample target power
    refine ⟨(hranged.replay events).admits sample target, ?failed, ?repeated, ?fresh, ?padded⟩
    case failed =>
      intro hfailed
      exact congrArg lastPower (tick_of_invalid hfailed target)
    case repeated =>
      intro hread hrepeated
      exact htracks.power_of_repeated hread hrepeated target
    case fresh =>
      intro hfresh
      exact htracks.power_of_isFresh hfresh target
    case padded =>
      rintro before between extra aim rfl hextra hfresh padded
      have hsame : freshTicks padded = freshTicks (before ++ between) :=
        freshTicks_insert hextra aim between
      have hpadded : isFresh padded sample = true := by
        rwa [isFresh, hsame]
      have hpower := (replay_tracks rfl padded : Tracks start _ _).power_of_isFresh hpadded target
      rw [hsame, ← htracks.power_of_isFresh hfresh] at hpower
      exact ⟨hpadded, hpower⟩
  · intro events sample target hfresh htarget power
    have heq : power = _ := watermark_power name hpower hdelta hfresh htarget
    rw [heq]
    refine ⟨?above, ?below, ?between⟩
    case above =>
      intro habove
      simp [Hysteresis.verdict?, habove]
    case below =>
      intro hbelow
      have hnot : ¬ target + ideal.maxDelta ≤ sample.value := by linarith
      simp [Hysteresis.verdict?, hnot, hbelow]
    case between =>
      intro hlow hhigh
      simp [Hysteresis.verdict?, hlow.not_ge, hhigh.not_ge]

/-- A heated bed whose sensor is neither an INO one nor driven by one. -/
def bed : HeaterConfig :=
  { sensorType := "EPCOS 100K B57560G104F", control := .watermark, minTemp := 0.0, maxTemp := 130.0,
    minExtrudeTemp := some 0.0 }

/-- The bed heats up and its sensor fails. -/
def bedFailure : List (StockEvent Float) :=
  [.setTemp 60.0, .tick (.reading 1.0 20.0) 60.0, .tick (.failed 1.0 20.0) 60.0]

/-- A sample that comes again is answered with the zero of the failed one. The next reading lies in
the band, where the bed goes on heating. -/
theorem bed_runs_on_fresh_samples :
    let start := create "heater_bed" bed.control bed.settings
    let h := start.replay bedFailure
    let again : Sample Float := .reading 1.0 20.0
    let next : Sample Float := .reading 2.0 59.0
    let ideal : HeaterSettings ℝ :=
      { gains := ⟨0, 0, 0⟩, minTemp := 0, maxTemp := 130, maxPower := 1, smoothTime := 1,
        extrudeTemp := 0, reportTime := 1, maxDelta := 2, tuneDelta := 5, tuneTimeout := 1200 }
    let warming : List (StockEvent ℝ) := [.tick (.reading 1 20) 60]
    bed.validate "heater_bed" = .ok () ∧ 0 < ideal.maxPower ∧ 0 < ideal.maxDelta ∧
    isFresh bedFailure again = false ∧ (h.tick again 60.0).lastPower = 0.0 ∧
    isFresh bedFailure next = true ∧ (h.tick next 60.0).lastPower = 1.0 ∧
    ((start.replay (bedFailure ++ [.tick again 60.0])).tick next 60.0).lastPower = 1.0 ∧
    isFresh warming (.reading 2 59) = true ∧
    (((create "heater_bed" .watermark ideal).replay warming).tick
      (.reading 2 59) 60).lastPower = 1 := by
  intro start h again next ideal warming
  have hvalid : bed.validate "heater_bed" = .ok () := Except.eq_ok_of_toBool (by decide +kernel)
  have hpower : 0 < ideal.maxPower := by norm_num [ideal]
  have hdelta : 0 < ideal.maxDelta := by norm_num [ideal]
  have hagain : isFresh bedFailure again = false := by decide +kernel
  have hnext : isFresh bedFailure next = true := by decide +kernel
  have hticks : freshTicks warming = [(.reading 1 20, 60)] := rfl
  have hfresh : isFresh warming (.reading 2 59) = true := by
    rw [isFresh, hticks]
    norm_num [Sample.reading]
  have hreached : Hysteresis.reached ideal.maxDelta (freshTicks warming) = true := by
    rw [hticks]
    norm_num [Hysteresis.reached, Hysteresis.verdict?, Sample.reading, ideal]
  obtain ⟨⟨-, hruns⟩, hexact⟩ := stock_heater_runs_on_fresh_samples bed "heater_bed" hvalid ideal
    hpower hdelta "heater_bed"
  obtain ⟨-, -, htick⟩ := hruns bedFailure
  have hbefore : (start.powers bedFailure).getLast? = some 0.0 := by decide +kernel
  have hzero : (h.tick again 60.0).lastPower = 0.0 :=
    Option.some.inj (((htick again 60.0).2.2.1 rfl hagain).symm.trans hbefore)
  have hheats : (h.tick next 60.0).lastPower = 1.0 :=
    ((htick next 60.0).2.2.2.1 hnext).trans (by decide +kernel)
  have hpadded := ((htick next 60.0).2.2.2.2 bedFailure [] again 60.0 (List.append_nil _).symm
    hagain hnext).2
  have hbetween := (hexact warming (.reading 2 59) 60 hfresh (by norm_num)).2.2
    (by norm_num [ideal, Sample.reading]) (by norm_num [ideal, Sample.reading])
  rw [hreached, if_pos rfl] at hbetween
  exact ⟨hvalid, hpower, hdelta, hagain, hzero, hnext, hheats, hpadded.trans hheats, hfresh,
    hbetween⟩

end StockHeater

end HeaterHost
