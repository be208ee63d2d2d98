import Mathlib.Data.List.Induction
import HeaterHost.Proofs.Heater.Experiment
import HeaterHost.Proofs.Heater.Queue

/-!
# After a shutdown

A heater that was shut down never heats again, whatever it is asked for later. Its target is another
matter: only the tick and a further shutdown look at the state, so that a temperature or an
experiment asked for afterwards is taken on, and the board is told. Those two commands are all that
disturbs the rest of a parked heater.
-/

namespace HeaterHost

open Autotune Wire

/-- The event asks for a temperature other than zero that the limits allow, or for an experiment
towards one. -/
def HeaterEvent.Rouses {α : Type} [Scalar α] (settings : HeaterSettings α) :
    HeaterEvent α → Prop
  | .command (.setTemp degrees) =>
      (degrees == 0.0) = false ∧ ¬ (degrees < settings.minTemp ∨ settings.maxTemp < degrees)
  | .command (.startAutotune target _) =>
      ¬ (target ≤ settings.minTemp ∨ settings.maxTemp ≤ target)
  | _ => False

instance HeaterEvent.Rouses.decidable {α : Type} [Scalar α] (settings : HeaterSettings α) :
    (event : HeaterEvent α) → Decidable (event.Rouses settings)
  | .command (.setTemp _) => inferInstanceAs (Decidable (_ ∧ _))
  | .command (.startAutotune _ _) => inferInstanceAs (Decidable (¬ _))
  | .command (.setGains _) | .command (.abortAutotune _) | .command (.shutdown _) => isFalse id
  | .activate _ | .tick _ _ _ => isFalse id

namespace Wire.DeviceCommand

variable {α : Type} [Scalar α]

def SetsNoPower : DeviceCommand α → Prop
  | setPower power => power = 0.0
  | _ => True

def SetsNoTarget : DeviceCommand α → Prop
  | setTarget degrees => (degrees == 0.0) = true
  | _ => True

end Wire.DeviceCommand

namespace BoardHeater

variable {α : Type}

/-- All that `k` has queued since it was `h` is allowed. -/
def QueuedSince (h k : BoardHeater α) (allowed : DeviceCommand α → Prop) : Prop :=
  ∃ fresh, k.outbox = fresh ++ h.outbox ∧ ∀ command ∈ fresh, allowed command

variable [Scalar α]

/-- A heater that was shut down as `parked` is still shut down and off, and has not queued a power
other than zero since. -/
structure Halted (parked h : BoardHeater α) : Prop where
  state : h.state = .shutdown
  power : h.lastPower = 0.0
  queued : parked.QueuedSince h DeviceCommand.SetsNoPower

/-- It also keeps its target at zero, in its own books as on the board, and has no experiment. -/
structure AtRest (parked h : BoardHeater α) : Prop where
  target : (h.target == 0.0) = true
  idle : h.record.isRunning = false
  queued : parked.QueuedSince h DeviceCommand.SetsNoTarget

namespace QueuedSince

variable {h k k' : BoardHeater α} {allowed : DeviceCommand α → Prop}

omit [Scalar α] in
theorem refl (h : BoardHeater α) (allowed : DeviceCommand α → Prop) : h.QueuedSince h allowed :=
  ⟨[], rfl, nofun⟩

omit [Scalar α] in
theorem cons (hqueued : h.QueuedSince k allowed) {command : DeviceCommand α}
    (houtbox : k'.outbox = command :: k.outbox) (hcommand : allowed command) :
    h.QueuedSince k' allowed := by
  obtain ⟨fresh, hfresh, hallowed⟩ := hqueued
  refine ⟨command :: fresh, ?_, List.forall_mem_cons.mpr ⟨hcommand, hallowed⟩⟩
  rw [houtbox, hfresh, List.cons_append]

end QueuedSince

variable {parked h : BoardHeater α}

namespace Halted

theorem tick (hhalted : parked.Halted h) (sample : Sample α) (target time : α) :
    h.tick sample target time = h :=
  tick_of_shutdown hhalted.state sample target time

theorem released (hhalted : parked.Halted h) (relay : Relay α) (resume : Pid α) (priorTarget : α)
    (result : Except (FailReason α) (Gains α)) (time : α) :
    parked.Halted (h.released relay resume priorTarget result time) := by
  refine ⟨hhalted.state, rfl, ?_⟩
  have hpower : parked.QueuedSince (h.send (.setPower 0.0)) DeviceCommand.SetsNoPower :=
    hhalted.queued.cons rfl rfl
  exact hpower.cons rfl trivial

theorem obey (hhalted : parked.Halted h) (command : HeaterCommand α) :
    parked.Halted (h.obey command) := by
  refine obey_invariant hhalted ?_
  intro h' hattempt
  cases command with
  | setTemp degrees =>
      rw [setTemp_eq_ok hattempt]
      exact ⟨hhalted.state, hhalted.power, hhalted.queued.cons rfl trivial⟩
  | setGains gains =>
      cases hattempt
      exact ⟨hhalted.state, hhalted.power, hhalted.queued.cons rfl trivial⟩
  | startAutotune target time =>
      obtain ⟨record, relay, -, heq⟩ := startAutotune_eq_ok hattempt
      rw [heq]
      exact ⟨hhalted.state, hhalted.power, hhalted.queued.cons rfl trivial⟩
  | abortAutotune time =>
      rw [(abortAutotune_eq_ok hattempt).2]
      rcases h.endAutotune_cases (.error .aborted) time with ⟨_, -, heq⟩ | ⟨_, _, _, -, heq⟩ <;>
        rw [heq]
      · exact hhalted
      · exact hhalted.released ..
  | shutdown time =>
      cases hattempt
      rw [shutdown_of_shutdown hhalted.state]
      exact hhalted

theorem perform (hhalted : parked.Halted h) (event : HeaterEvent α) :
    parked.Halted (h.perform event) := by
  cases event with
  | activate time =>
      change parked.Halted (h.activate time)
      rw [activate_of_shutdown hhalted.state]
      exact hhalted
  | command command => exact hhalted.obey command
  | tick sample target time =>
      change parked.Halted (h.tick sample target time)
      rw [hhalted.tick]
      exact hhalted

theorem replay (hhalted : parked.Halted h) (events : List (HeaterEvent α)) :
    parked.Halted (h.replay events) :=
  replay_invariant (fun _ event hk => hk.perform event) hhalted events

end Halted

theorem PowerSafe.halted (hsafe : h.PowerSafe) (time : α) :
    (h.shutdown time).Halted (h.shutdown time) :=
  ⟨shutdown_state h time, (hsafe.shutdown time).parked (.inr (shutdown_state h time)), .refl ..⟩

/-! ### What rouses a parked heater

What is out of range is refused, parked or not; an abort is refused as well, since a parked heater
at rest has no experiment.
-/

theorem obey_setTemp_of_outOfRange {degrees : α} (hzero : (degrees == 0.0) = false)
    (hrange : degrees < h.settings.minTemp ∨ h.settings.maxTemp < degrees) :
    h.obey (.setTemp degrees) = h := by
  have hcheck : checkTarget degrees h.settings.minTemp h.settings.maxTemp =
      .error (.targetOutOfRange degrees h.settings.minTemp h.settings.maxTemp) := by
    rw [checkTarget, if_pos]
    simpa [bne, hzero] using hrange
  simp only [obey, attempt, setTemp, hcheck]

theorem obey_setTemp_of_inRange {degrees : α}
    (hrange : (degrees == 0.0) = true ∨
      ¬ (degrees < h.settings.minTemp ∨ h.settings.maxTemp < degrees)) :
    h.obey (.setTemp degrees) =
      { h with target := degrees, outbox := .setTarget degrees :: h.outbox } := by
  have hcheck : checkTarget degrees h.settings.minTemp h.settings.maxTemp = .ok () := by
    rw [checkTarget, if_neg]
    simpa [bne, Classical.or_iff_not_imp_left] using hrange
  simp only [obey, attempt, setTemp, hcheck]
  rfl

theorem obey_startAutotune_of_inRange {target : α} (hclosed : h.record.isRunning = false)
    (hrange : ¬ (target ≤ h.settings.minTemp ∨ h.settings.maxTemp ≤ target)) (time : α) :
    (h.obey (.startAutotune target time)).record.isRunning = true := by
  have hlimits : ¬ (target ≤ h.settings.minTemp ∨ h.settings.tuneLimits.maxTemp ≤ target) := hrange
  simp only [obey, attempt, startAutotune, Record.start_of_closed hclosed hlimits]
  rfl

theorem obey_startAutotune_of_outOfRange {target : α}
    (hrange : target ≤ h.settings.minTemp ∨ h.settings.maxTemp ≤ target) (time : α) :
    h.obey (.startAutotune target time) = h := by
  refine obey_invariant (P := fun k => k = h) rfl ?_
  intro h' hattempt
  obtain ⟨record, relay, hrecord, -⟩ := startAutotune_eq_ok hattempt
  exact absurd hrange (Record.start_eq_ok hrecord).2.1

theorem obey_abortAutotune_of_pid (hcontrol : h.control.isAutotune = false) (time : α) :
    h.obey (.abortAutotune time) = h := by
  refine obey_invariant (P := fun k => k = h) rfl ?_
  intro h' hattempt
  have hrunning := (abortAutotune_eq_ok hattempt).1
  rw [hcontrol] at hrunning
  cases hrunning

namespace AtRest

theorem obey_setTemp_iff (hrest : parked.AtRest h) (degrees : α) :
    parked.AtRest (h.obey (.setTemp degrees)) ↔
      ¬ (HeaterEvent.command (.setTemp degrees)).Rouses h.settings := by
  cases hzero : degrees == 0.0 with
  | true =>
      rw [obey_setTemp_of_inRange (.inl hzero)]
      refine iff_of_true ⟨hzero, hrest.idle, hrest.queued.cons rfl hzero⟩ ?_
      rintro ⟨hnonzero, -⟩
      exact Bool.false_ne_true (hnonzero.symm.trans hzero)
  | false =>
      by_cases hrange : degrees < h.settings.minTemp ∨ h.settings.maxTemp < degrees
      · rw [obey_setTemp_of_outOfRange hzero hrange]
        exact iff_of_true hrest fun hrouses => hrouses.2 hrange
      · rw [obey_setTemp_of_inRange (.inr hrange)]
        refine iff_of_false ?_ (not_not_intro ⟨hzero, hrange⟩)
        intro hafter
        exact Bool.false_ne_true (hzero.symm.trans hafter.target)

theorem obey_startAutotune_iff (hrest : parked.AtRest h) (target time : α) :
    parked.AtRest (h.obey (.startAutotune target time)) ↔
      ¬ (HeaterEvent.command (.startAutotune target time)).Rouses h.settings := by
  by_cases hrange : target ≤ h.settings.minTemp ∨ h.settings.maxTemp ≤ target
  · rw [obey_startAutotune_of_outOfRange hrange]
    exact iff_of_true hrest (not_not_intro hrange)
  · have hrunning := obey_startAutotune_of_inRange hrest.idle hrange time
    refine iff_of_false ?_ (not_not_intro hrange)
    intro hafter
    exact Bool.false_ne_true (hafter.idle.symm.trans hrunning)

theorem perform_iff (hrest : parked.AtRest h) (hhalted : parked.Halted h) (hstep : h.InStep)
    (event : HeaterEvent α) :
    parked.AtRest (h.perform event) ↔ ¬ event.Rouses h.settings := by
  have hsame : ∀ k, k = h → (parked.AtRest k ↔ ¬ False) := by
    rintro k rfl
    exact iff_of_true hrest not_false
  cases event with
  | activate time => exact hsame _ (activate_of_shutdown hhalted.state time)
  | tick sample target time => exact hsame _ (hhalted.tick sample target time)
  | command command =>
      cases command with
      | setTemp degrees => exact hrest.obey_setTemp_iff degrees
      | startAutotune target time => exact hrest.obey_startAutotune_iff target time
      | setGains gains =>
          exact iff_of_true ⟨hrest.target, hrest.idle, hrest.queued.cons rfl trivial⟩ not_false
      | abortAutotune time =>
          exact hsame _ (obey_abortAutotune_of_pid (hstep.symm.trans hrest.idle) time)
      | shutdown time => exact hsame _ (shutdown_of_shutdown hhalted.state time)

end AtRest

theorem shutdown_atRest {h : BoardHeater Float} (hrunning : h.state ≠ .shutdown)
    (hstep : h.InStep) (time : Float) : (h.shutdown time).AtRest (h.shutdown time) := by
  have hidle : (h.shutdown time).record.isRunning = false := by
    refine (hstep.shutdown time).trans ?_
    rw [shutdown_of_running hrunning]
    exact endAutotune_isAutotune h (.error .aborted) time
  have htarget : (h.shutdown time).target = 0.0 := by
    rw [shutdown_of_running hrunning]
  refine ⟨?_, hidle, .refl ..⟩
  rw [htarget]
  rfl

/-- A heater that was shut down stays shut down and off at every later moment; its ticks change
nothing and leave no power; and it never queues a power other than zero. Its target stays at zero
too, without an experiment, exactly as long as nothing that rouses it is asked for. -/
theorem shutdown_lasts_iff_not_roused (name : String) (settings : HeaterSettings Float)
    (past events : List (HeaterEvent Float)) (time : Float) :
    let h := (create name settings).replay past
    let parked := h.shutdown time
    (∀ before, before <+: events →
      parked.Halted (parked.replay before) ∧
      ∀ sample target now,
        (parked.replay before).tick sample target now = parked.replay before) ∧
    (h.state ≠ .shutdown →
      ((∀ before, before <+: events → parked.AtRest (parked.replay before)) ↔
        ∀ event ∈ events, ¬ event.Rouses settings)) := by
  intro h parked
  have hsafe : h.PowerSafe := (PowerSafe.create name settings).replay past
  have hstep : h.InStep := (InStep.create name settings).replay past
  have hhalted : ∀ before, parked.Halted (parked.replay before) := (hsafe.halted time).replay
  refine ⟨fun before _ => ⟨hhalted before, (hhalted before).tick⟩, fun hrunning => ?_⟩
  have hdecides : ∀ before event, parked.AtRest (parked.replay before) →
      (parked.AtRest (parked.replay (before ++ [event])) ↔ ¬ event.Rouses settings) := by
    intro before event hrest
    have hsettings : (parked.replay before).settings = settings := by
      rw [replay_settings]
      exact (obey_settings h (.shutdown time)).trans (replay_settings ..)
    rw [replay_append, ← hsettings]
    exact hrest.perform_iff (hhalted before) ((hstep.shutdown time).replay before) event
  constructor
  · intro hrest event hevent
    obtain ⟨before, after, rfl⟩ := List.append_of_mem hevent
    refine (hdecides before event (hrest before (List.prefix_append ..))).mp (hrest _ ?_)
    exact ⟨after, by simp⟩
  · intro hquiet before hbefore
    induction before using List.reverseRecOn with
    | nil => exact shutdown_atRest hrunning hstep time
    | append_singleton before event ih =>
        have hearlier := ih ((List.prefix_append before [event]).trans hbefore)
        exact (hdecides before event hearlier).mpr
          (hquiet event (hbefore.subset (by simp)))

/-- Requests of every kind, none of which rouses a parked heater. -/
def lateRequests : List (HeaterEvent Float) :=
  [.tick (Sample.reading 2.0 30.0) 200.0 2.0, .command (.setTemp 900.0), .command (.setTemp 0.0),
    .command (.startAutotune 900.0 2.5), .command (.abortAutotune 3.0),
    .command (.setGains { kp := 20.0, ki := 1.0, kd := 2.0 }), .command (.shutdown 4.0),
    .activate 5.0, .tick (Sample.reading 6.0 30.0) 200.0 6.0]

/-- An extruder is shut down while it heats. Those requests leave it at rest, and one for 200
degrees after them does not. -/
theorem heating_extruder_rests_until_roused :
    let settings := (HeaterConfig.onBoard "/dev/ttyACM1" 10.0 450.0).settings
    let h := (create "extruder" settings).replay
      [.command (.setTemp 200.0), .tick (Sample.reading 0.1 25.0) 200.0 0.1]
    let parked := h.shutdown 1.0
    let roused : List (HeaterEvent Float) := lateRequests ++ [.command (.setTemp 200.0)]
    h.lastPower = 1.0 ∧ h.state ≠ .shutdown ∧ (∀ event ∈ lateRequests, ¬ event.Rouses settings) ∧
    parked.Halted (parked.replay lateRequests) ∧ parked.AtRest (parked.replay lateRequests) ∧
    ¬ ∀ before, before <+: roused → parked.AtRest (parked.replay before) := by
  intro settings h parked roused
  have hheats : h.lastPower = 1.0 := by decide +kernel
  have hrunning : h.state ≠ .shutdown := by decide +kernel
  have hquiet : ∀ event ∈ lateRequests, ¬ event.Rouses settings := by decide +kernel
  have hrouses : HeaterEvent.Rouses settings (.command (.setTemp 200.0)) := by decide +kernel
  obtain ⟨hhalted, hrests⟩ := shutdown_lasts_iff_not_roused "extruder" settings
    [.command (.setTemp 200.0), .tick (Sample.reading 0.1 25.0) 200.0 0.1] lateRequests 1.0
  obtain ⟨-, hroused⟩ := shutdown_lasts_iff_not_roused "extruder" settings
    [.command (.setTemp 200.0), .tick (Sample.reading 0.1 25.0) 200.0 0.1] roused 1.0
  refine ⟨hheats, hrunning, hquiet, (hhalted lateRequests List.prefix_rfl).1,
    (hrests hrunning).mpr hquiet lateRequests List.prefix_rfl, ?_⟩
  intro hrest
  exact (hroused hrunning).mp hrest _ (List.mem_append_right _ (List.mem_singleton_self _)) hrouses

def parkedHeater : BoardHeater Float :=
  (create "extruder" (HeaterConfig.onBoard "/dev/ttyACM1" 10.0 450.0).settings).shutdown 1.0

/-- It takes a target of 200 degrees on, and tells the board. -/
theorem parked_heater_takes_target :
    (parkedHeater.perform (.command (.setTemp 200.0))).state = .shutdown ∧
    (parkedHeater.perform (.command (.setTemp 200.0))).target = 200.0 ∧
    (parkedHeater.perform (.command (.setTemp 200.0))).lastQueued DeviceCommand.target? =
      some 200.0 := by
  decide +kernel

end BoardHeater

end HeaterHost
