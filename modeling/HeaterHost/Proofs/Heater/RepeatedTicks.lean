import HeaterHost.Config.Basic
import HeaterHost.Proofs.Double.Sums
import HeaterHost.Proofs.Heater.GainsInForce
import HeaterHost.Proofs.Wire.Instructions

/-!
# Repeated ticks

The host ticks more often than a sensor reads, so that most ticks see a sample again. A heater that
has judged a sample is settled on it: it is parked, or it is off for the heat of that sample, or it
has consumed it. In each case a further tick does nothing, as long as neither the sample nor an
experiment has become too old in between.
-/

namespace HeaterHost

open Autotune Double Wire

namespace BoardHeater

section settled

variable {α : Type} [Scalar α] {h : BoardHeater α}

/-- An experiment is under way that has run for too long. -/
def isOvertime (h : BoardHeater α) (time : α) : Bool :=
  match h.control with
  | .pid _ => false
  | .autotune relay _ _ => (relay.expired? time).isSome

theorem expire_of_not_isOvertime {time : α} (hintime : h.isOvertime time = false) :
    h.expire time = h := by
  rcases h.expire_cases time with heq | ⟨relay, _, _, reason, hcontrol, hexpired, -⟩
  · exact heq
  · simp [isOvertime, hcontrol, hexpired] at hintime

theorem readied_of_started {time : α} (hstarted : h.state ≠ .validated)
    (hintime : h.isOvertime time = false) : h.readied time = h := by
  have hactive : h.activate time = h := if_neg hstarted
  rw [readied, hactive, expire_of_not_isOvertime hintime]

theorem readied_state_ne_validated (h : BoardHeater α) (time : α) :
    (h.readied time).state ≠ .validated := by
  have hactive : (h.activate time).state ≠ .validated := by
    unfold activate
    split
    case isTrue => exact nofun
    case isFalse hstarted => exact hstarted
  rw [readied]
  rcases (h.activate time).expire_cases time with heq | ⟨_, _, _, _, -, -, heq⟩ <;> rw [heq]
  · exact hactive
  · exact hactive

theorem isStale_congr {k : BoardHeater α} (hsettings : h.settings = k.settings)
    (sample : Sample α) (time : α) : h.isStale sample time = k.isStale sample time := by
  rw [isStale, isStale, staleAfter, staleAfter, hsettings]

/-- The heater is through with a sample. -/
inductive Settled (h : BoardHeater α) (sample : Sample α) : Prop
  | parked (state : h.state = .shutdown)
  | tooHot (state : h.state = .faulted) (hot : h.settings.maxTemp < sample.value)
      (control : h.control.isAutotune = false)
      (fault : h.hasFaultLike (.overTemperature sample.value h.settings.maxTemp) = true)
      (off : h.lastPower = 0.0)
  | consumed (state : h.state = .active) (inRange : ¬ h.settings.maxTemp < sample.value)
      (seen : h.seenValid = true) (consumed : sample.isConsumed h.lastSample = true)

omit [Scalar α] in
theorem acknowledged_of_active (hstate : h.state = .active) (hseen : h.seenValid = true) :
    h.acknowledged = h := by
  have hrecovered : h.recover = h := if_neg (by rw [hstate]; exact nofun)
  rw [acknowledged, hrecovered, ← hseen]

omit [Scalar α] in
theorem acknowledged_state_of_running (hstarted : h.state ≠ .validated)
    (hrunning : h.state ≠ .shutdown) : h.acknowledged.state = .active := by
  cases hstate : h.state with
  | validated => exact absurd hstate hstarted
  | active => simp [acknowledged, recover, hstate]
  | faulted => simp [acknowledged, recover, hstate]
  | shutdown => exact absurd hstate hrunning

theorem consume_frame (h : BoardHeater α) (sample : Sample α) (target time : α) :
    (h.consume sample target time).state = h.state ∧
      (h.consume sample target time).seenValid = h.seenValid ∧
      (h.consume sample target time).lastSample = some sample.timestamp := by
  have hset : ∀ (k : BoardHeater α) (power : α),
      (k.setPower time power false).lastSample = k.lastSample := by
    intro k power
    rcases k.setPower_cases time power false with ⟨-, -, heq⟩ | heq <;> rw [heq]
  rcases h.consume_cases sample target time with
    ⟨_, -, heq⟩ | ⟨_, _, _, _, _, -, heq⟩ | ⟨_, _, _, _, _, -, heq⟩ <;> rw [heq]
  · exact ⟨setPower_state .., setPower_seenValid .., hset ..⟩
  · exact ⟨setPower_state .., setPower_seenValid .., hset ..⟩
  · exact ⟨rfl, rfl, rfl⟩

end settled

section doubles

variable {h : BoardHeater Float} {sample : Sample Float} {target time : Float}

/-! ### What settles a heater -/

theorem cutPower_of_known {fault : Fault Float} (hknown : h.hasFaultLike fault = true)
    (hoff : h.lastPower = 0.0) (time : Float) : h.cutPower fault time = h := by
  have hnone : (h.lastPower == 0.0) = true := by
    rw [hoff]
    decide +kernel
  have hsmall : Scalar.abs (0.0 - h.lastPower) < deadband := by
    rw [hoff]
    decide +kernel
  rw [cutPower, raise_of_known hknown, hknown]
  exact setPower_of_small time hnone hsmall

theorem cutPower_hasFaultLike (h : BoardHeater Float) (fault : Fault Float) (time : Float) :
    (h.cutPower fault time).hasFaultLike fault = true := by
  cases hknown : h.hasFaultLike fault with
  | true =>
      rw [cutPower, raise_of_known hknown, hasFaultLike, setPower_fault]
      exact hknown
  | false =>
      rw [cutPower, raise_of_new hknown, hasFaultLike, setPower_fault]
      exact beq_self_eq_true fault.kind

/-- What is too hot switches the heater off, for a fault that it keeps. -/
theorem PowerSafe.settled_of_hot (hsafe : h.PowerSafe) (hrunning : h.state ≠ .shutdown)
    (hhot : h.settings.maxTemp < sample.value) (time : Float) :
    ((h.endAutotune (.error (.overTemperature sample.value)) time).cutPower
      (.overTemperature sample.value h.settings.maxTemp) time).Settled sample := by
  have hended := hsafe.endAutotune (.error (.overTemperature sample.value)) time
  have hstate := h.endAutotune_state (.error (.overTemperature sample.value)) time
  have hsettings := h.endAutotune_settings (.error (.overTemperature sample.value)) time
  have hpid := h.endAutotune_isAutotune (.error (.overTemperature sample.value)) time
  generalize h.endAutotune (.error (.overTemperature sample.value)) time = ended at *
  generalize hfault : Fault.overTemperature sample.value h.settings.maxTemp = fault
  have hcut : (ended.cutPower fault time).state = .faulted ∧
      (ended.cutPower fault time).settings = h.settings := by
    rcases ended.cutPower_cases fault time with ⟨hmarked, heq⟩ | heq <;> rw [heq]
    · refine ⟨(setPower_state ..).trans ?_, (setPower_settings ..).trans hsettings⟩
      exact (hended.marked hmarked).resolve_right (hstate ▸ hrunning)
    · exact ⟨rfl, hsettings⟩
  have hknown := ended.cutPower_hasFaultLike fault time
  refine .tooHot hcut.1 ?_ ?_ ?_ (hended.cutPower_lastPower fault time)
  · rw [hcut.2]
    exact hhot
  · rw [cutPower_control]
    exact hpid
  · rw [hcut.2, hfault]
    exact hknown

/-- A tick on a sample that is not too old settles the heater on it. -/
theorem PowerSafe.tick_settled (hsafe : h.PowerSafe)
    (hnumber : (sample.timestamp == sample.timestamp) = true)
    (hfresh : h.isStale sample time = false) (target : Float) :
    (h.tick sample target time).Settled sample := by
  by_cases hstate : h.state = .shutdown
  · rw [tick_of_shutdown hstate]
    exact .parked hstate
  · have hready := hsafe.readied time
    have hstarted := h.readied_state_ne_validated time
    have hrunning : (h.readied time).state ≠ .shutdown := mt readied_state_eq_shutdown_iff.mp hstate
    rw [isStale_congr (h.readied_settings time).symm] at hfresh
    rw [tick_of_running hstate]
    generalize h.readied time = k at *
    rcases k.regulate_cases sample target time with
      ⟨hstale, -⟩ | ⟨hstale, -⟩ | ⟨-, hhot, heq⟩ | ⟨husable, hconsumed, heq⟩ | ⟨husable, -, heq⟩
    · cases hstale.symm.trans hfresh
    · cases hstale.symm.trans hfresh
    · rw [heq]
      exact hready.settled_of_hot hrunning hhot time
    · rw [heq]
      refine .consumed (acknowledged_state_of_running hstarted hrunning) ?_ rfl ?_
      · rw [acknowledged_settings]
        exact husable.inRange
      · rw [acknowledged_lastSample]
        exact hconsumed
    · have hsettings := k.regulate_settings sample target time
      obtain ⟨hstate', hseen, hlast⟩ := k.acknowledged.consume_frame sample target time
      rw [heq] at hsettings ⊢
      refine .consumed (hstate'.trans (acknowledged_state_of_running hstarted hrunning)) ?_ hseen ?_
      · rw [hsettings]
        exact husable.inRange
      · rw [hlast]
        exact hnumber

theorem Settled.tick_eq (hsettled : h.Settled sample) (hfresh : h.isStale sample time = false)
    (hintime : h.isOvertime time = false) (target : Float) : h.tick sample target time = h := by
  have hregulated : ∀ state, h.state = state → state ≠ .shutdown → state ≠ .validated →
      h.tick sample target time = h.regulate sample target time := by
    rintro _ rfl hrunning hstarted
    rw [tick_of_running hrunning, readied_of_started hstarted hintime]
  cases hsettled with
  | parked hstate => exact tick_of_shutdown hstate sample target time
  | tooHot hstate hhot hpid hknown hoff =>
      rw [hregulated _ hstate nofun nofun]
      have hlaw := ActiveControl.eq_pid_of_not_isAutotune hpid
      rcases h.regulate_cases sample target time with
        ⟨hstale, -⟩ | ⟨hstale, -⟩ | ⟨-, -, heq⟩ | ⟨husable, -⟩ | ⟨husable, -⟩
      · cases hstale.symm.trans hfresh
      · cases hstale.symm.trans hfresh
      · rw [heq, endAutotune_of_pid hlaw, cutPower_of_known hknown hoff]
      · exact absurd hhot husable.inRange
      · exact absurd hhot husable.inRange
  | consumed hstate hrange hseen hconsumed =>
      rw [hregulated _ hstate nofun nofun]
      rcases h.regulate_cases sample target time with
        ⟨hstale, -⟩ | ⟨hstale, -⟩ | ⟨-, hhot, -⟩ | ⟨-, -, heq⟩ | ⟨-, hnew, -⟩
      · cases hstale.symm.trans hfresh
      · cases hstale.symm.trans hfresh
      · exact absurd hhot hrange
      · rw [heq, acknowledged_of_active hstate hseen]
      · cases hnew.symm.trans hconsumed

/-! ### Runs of repeated ticks -/

/-- A further tick on a sample, with its target and its time. -/
def again (sample : Sample Float) (tick : Float × Float) : HeaterEvent Float :=
  .tick sample tick.1 tick.2

/-- Further ticks on a sample that was seen at the time `first`. None is earlier, and in none is the
sample too old or an experiment overtime. -/
def Repeats (h : BoardHeater Float) (sample : Sample Float) (first : Float) :
    List (Float × Float) → Prop
  | [] => True
  | (target, time) :: rest =>
      (first ≤ time ∧ h.isStale sample time = false ∧ h.isOvertime time = false) ∧
        (h.tick sample target time).Repeats sample first rest

instance Repeats.decidable (h : BoardHeater Float) (sample : Sample Float) (first : Float) :
    (ticks : List (Float × Float)) → Decidable (h.Repeats sample first ticks)
  | [] => isTrue trivial
  | (target, time) :: rest =>
      have := Repeats.decidable (h.tick sample target time) sample first rest
      inferInstanceAs (Decidable (_ ∧ _))

theorem Settled.replay_eq (hsettled : h.Settled sample) {first : Float}
    {ticks : List (Float × Float)} (hrepeats : h.Repeats sample first ticks) (n : Nat) :
    h.replay ((ticks.take n).map (again sample)) = h := by
  induction ticks generalizing n with
  | nil => rw [List.take_nil]; rfl
  | cons tick rest ih =>
      cases n with
      | zero => rfl
      | succ n =>
          obtain ⟨⟨-, hfresh, hintime⟩, hrest⟩ := hrepeats
          have hsame := hsettled.tick_eq hfresh hintime tick.1
          rw [hsame] at hrest
          rw [List.take_succ_cons, List.map_cons, replay_cons]
          change (h.tick sample tick.1 tick.2).replay _ = h
          rw [hsame]
          exact ih hrest n

/-- A sample that is not too old has not been so before. -/
theorem isStale_of_le {later : Float} (hle : time ≤ later)
    (hfresh : h.isStale sample later = false) : h.isStale sample time = false := by
  simp only [isStale, Bool.or_eq_false_iff, decide_eq_false_iff_not] at hfresh ⊢
  exact ⟨hfresh.1, fun hold => hfresh.2 (lt_sub_of_le hold hle)⟩

/-- The first tick on a sample does all that there is to do. -/
theorem PowerSafe.replay_repeats (hsafe : h.PowerSafe) (hnumber : sample.timestamp.isNaN = false)
    {ticks : List (Float × Float)}
    (hrepeats : (h.tick sample target time).Repeats sample time ticks) (n : Nat) :
    (h.tick sample target time).replay ((ticks.take n).map (again sample)) =
      h.tick sample target time := by
  cases ticks with
  | nil => rw [List.take_nil]; rfl
  | cons tick rest =>
      have hfresh : h.isStale sample time = false := by
        obtain ⟨⟨hle, hlater, -⟩, -⟩ := hrepeats
        rw [isStale_congr (h.tick_settings sample target time)] at hlater
        exact isStale_of_le hle hlater
      have hequal := (beq_iff_height hnumber hnumber).mpr rfl
      exact (hsafe.tick_settled hequal hfresh target).replay_eq hrepeats n

/-! ### Schedules -/

/-- What a heater goes through up to the first tick on a sample, and the further ticks on it, with no
command between them: a sample that is ticked on again after a command is watched a second time. The
target of the first tick is read off the heater. -/
structure Watch where
  before : List (HeaterEvent Float)
  sample : Sample Float
  aim : BoardHeater Float → Float
  time : Float
  repeats : List (Float × Float)

def Watch.once (watch : Watch) : Watch :=
  { watch with repeats := [] }

/-- The first tick on a sample. -/
def sight (h : BoardHeater Float) (watch : Watch) : BoardHeater Float :=
  (h.replay watch.before).tick watch.sample (watch.aim (h.replay watch.before)) watch.time

def keep (h : BoardHeater Float) (watch : Watch) : BoardHeater Float :=
  (h.sight watch).replay (watch.repeats.map (again watch.sample))

def follow (h : BoardHeater Float) (schedule : List Watch) : BoardHeater Float :=
  schedule.foldl keep h

/-- All samples of a schedule that are ticked on are valid, and their further ticks are in time. -/
def Admits (h : BoardHeater Float) : List Watch → Prop
  | [] => True
  | watch :: rest =>
      (watch.sample.valid = true ∧ watch.sample.timestamp.isNaN = false ∧
        (h.sight watch).Repeats watch.sample watch.time watch.repeats) ∧
        (h.keep watch).Admits rest

instance Admits.decidable (h : BoardHeater Float) :
    (schedule : List Watch) → Decidable (h.Admits schedule)
  | [] => isTrue trivial
  | watch :: rest =>
      have := Admits.decidable (h.keep watch) rest
      inferInstanceAs (Decidable (_ ∧ _))

theorem PowerSafe.sight (hsafe : h.PowerSafe) (watch : Watch) : (h.sight watch).PowerSafe :=
  (hsafe.replay watch.before).tick ..

theorem PowerSafe.keep_eq (hsafe : h.PowerSafe) {watch : Watch}
    (hnumber : watch.sample.timestamp.isNaN = false)
    (hrepeats : (h.sight watch).Repeats watch.sample watch.time watch.repeats) :
    h.keep watch = h.sight watch := by
  have hsame := (hsafe.replay watch.before).replay_repeats hnumber hrepeats watch.repeats.length
  rwa [List.take_length] at hsame

/-- A schedule comes to what it comes to without its repeated ticks. -/
theorem PowerSafe.follow_once (hsafe : h.PowerSafe) {schedule : List Watch}
    (hadmits : h.Admits schedule) : h.follow schedule = h.follow (schedule.map Watch.once) := by
  induction schedule generalizing h with
  | nil => rfl
  | cons watch rest ih =>
      obtain ⟨⟨-, hnumber, hrepeats⟩, hrest⟩ := hadmits
      have hsame := hsafe.keep_eq hnumber hrepeats
      rw [hsame] at hrest
      calc h.follow (watch :: rest) = (h.keep watch).follow rest := rfl
        _ = (h.sight watch).follow (rest.map Watch.once) := by
            rw [hsame, ih (hsafe.sight watch) hrest]
        _ = h.follow ((watch :: rest).map Watch.once) := rfl

/-- **Repeated ticks change nothing.** After any run, let a valid sample with a time stamp be ticked
on. Every further tick on it, with whatever target and at whatever later time, leaves the heater
exactly as the first one did, its power included, as long as neither the sample nor an experiment is
too old. So schedules that see the same samples first at the same times, where a command begins a new
watch of its sample, come to the same heater, and the board is sent the same commands. -/
theorem repeated_ticks_change_nothing (name : String) (settings : HeaterSettings Float)
    (events : List (HeaterEvent Float)) :
    let h := (create name settings).replay events
    (∀ sample target time ticks, sample.valid = true → sample.timestamp.isNaN = false →
      (h.tick sample target time).Repeats sample time ticks → ∀ n,
        let repeated := (h.tick sample target time).replay ((ticks.take n).map (again sample))
        repeated = h.tick sample target time ∧
          repeated.lastPower = (h.tick sample target time).lastPower) ∧
    ∀ schedule schedule', schedule.map Watch.once = schedule'.map Watch.once →
      h.Admits schedule → h.Admits schedule' →
        h.follow schedule = h.follow schedule' ∧
          (h.follow schedule).outbox = (h.follow schedule').outbox := by
  intro h
  have hsafe : h.PowerSafe := (PowerSafe.create name settings).replay events
  refine ⟨?_, ?_⟩
  · intro sample target time ticks _ hnumber hrepeats n repeated
    have hsame : repeated = h.tick sample target time := hsafe.replay_repeats hnumber hrepeats n
    exact ⟨hsame, congrArg lastPower hsame⟩
  · intro schedule schedule' honce hadmits hadmits'
    have hsame : h.follow schedule = h.follow schedule' := by
      rw [hsafe.follow_once hadmits, hsafe.follow_once hadmits', honce]
    exact ⟨hsame, congrArg outbox hsame⟩

/-- The heater warms up, is shut off for a reading that is too hot, and starts an experiment. -/
def warmUp : List Watch :=
  [{ before := [.command (.setTemp 200.0)], sample := Sample.reading 0.1 25.0,
     aim := BoardHeater.target, time := 0.1, repeats := [(200.0, 0.15), (0.0, 0.25)] },
   { before := [], sample := Sample.reading 1.0 500.0, aim := BoardHeater.target,
     time := 1.0, repeats := [(200.0, 1.1)] },
   { before := [.command (.startAutotune 210.0 1.9)], sample := Sample.reading 2.0 190.0,
     aim := BoardHeater.target, time := 2.0, repeats := [(250.0, 2.05), (0.0, 2.1), (210.0, 2.1)] }]

theorem warmUp_goes_without_repeats :
    let c := HeaterConfig.onBoard "/dev/ttyACM1" 10.0 450.0
    let start := create "extruder" c.settings
    let sample := Sample.reading 0.1 25.0
    let ticks : List (Float × Float) := [(0.0, 0.2), (450.0, 0.25)]
    let first := start.tick sample 200.0 0.1
    sample.valid = true ∧ sample.timestamp.isNaN = false ∧ first.Repeats sample 0.1 ticks ∧
    first.lastPower = 1.0 ∧ (first.replay (ticks.map (again sample))).lastPower = 1.0 ∧
    start.Admits warmUp ∧ start.Admits (warmUp.map Watch.once) ∧
    (start.follow warmUp).outbox = (start.follow (warmUp.map Watch.once)).outbox ∧
    (start.follow warmUp).outbox.filterMap DeviceCommand.power? = [1.0, 0.0, 1.0] := by
  intro c start sample ticks first
  have hvalid : sample.valid = true := rfl
  have hnumber : sample.timestamp.isNaN = false := by decide +kernel
  have hrepeats : first.Repeats sample 0.1 ticks := by decide +kernel
  have hpower : first.lastPower = 1.0 := by decide +kernel
  have hadmits : start.Admits warmUp := by decide +kernel
  have hadmits' : start.Admits (warmUp.map Watch.once) := by decide +kernel
  obtain ⟨hsettled, hschedules⟩ := repeated_ticks_change_nothing "extruder" c.settings []
  obtain ⟨-, hsame⟩ := hsettled sample 200.0 0.1 ticks hvalid hnumber hrepeats 2
  obtain ⟨-, hqueue⟩ := hschedules warmUp (warmUp.map Watch.once) rfl hadmits hadmits'
  exact ⟨hvalid, hnumber, hrepeats, hpower, hsame.trans hpower, hadmits, hadmits', hqueue,
    by decide +kernel⟩

end doubles

end BoardHeater

end HeaterHost
