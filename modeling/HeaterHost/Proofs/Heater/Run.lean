import HeaterHost.Proofs.Heater.Operations

/-!
# Runs of a heater

A run is any sequence of activations, commands and ticks. Whatever the sequence, a heater that is
faulted or shut down is off, and so is one that has never seen a good sample; hence a tick that
leaves any power at all was given a sample it could use.
-/

namespace HeaterHost

open Autotune Wire

inductive HeaterCommand (α : Type) where
  | setTemp (degrees : α)
  | setGains (gains : Gains α)
  | startAutotune (target time : α)
  | abortAutotune (time : α)
  | shutdown (time : α)
deriving Repr

inductive HeaterEvent (α : Type) where
  | activate (time : α)
  | command (command : HeaterCommand α)
  | tick (sample : Sample α) (target time : α)
deriving Repr

namespace BoardHeater

variable {α : Type} [Scalar α]

/-- The heater after a command, and whether the command was refused. -/
def attempt (h : BoardHeater α) :
    HeaterCommand α → BoardHeater α × Except (HeaterError α) Unit
  | .setTemp degrees => h.setTemp degrees
  | .setGains gains => (h.setGains gains, .ok ())
  | .startAutotune target time => h.startAutotune target time
  | .abortAutotune time => h.abortAutotune time
  | .shutdown time => (h.shutdown time, .ok ())

def obey (h : BoardHeater α) (command : HeaterCommand α) : BoardHeater α :=
  (h.attempt command).1

def perform (h : BoardHeater α) : HeaterEvent α → BoardHeater α
  | .activate time => h.activate time
  | .command command => h.obey command
  | .tick sample target time => h.tick sample target time

def replay (h : BoardHeater α) (events : List (HeaterEvent α)) : BoardHeater α :=
  events.foldl perform h

@[simp] theorem replay_nil (h : BoardHeater α) : h.replay [] = h := rfl

@[simp] theorem replay_cons (h : BoardHeater α) (event : HeaterEvent α)
    (events : List (HeaterEvent α)) :
    h.replay (event :: events) = (h.perform event).replay events := rfl

theorem replay_append (h : BoardHeater α) (before after : List (HeaterEvent α)) :
    h.replay (before ++ after) = (h.replay before).replay after :=
  List.foldl_append

/-- What every event preserves holds after every run. -/
theorem replay_invariant {P : BoardHeater α → Prop}
    (hstep : ∀ (h : BoardHeater α) (event : HeaterEvent α), P h → P (h.perform event))
    {h : BoardHeater α} (hstart : P h) (events : List (HeaterEvent α)) : P (h.replay events) := by
  induction events generalizing h with
  | nil => exact hstart
  | cons event rest ih => exact ih (hstep h event hstart)

/-- A command is carried out, or it is refused and leaves the heater as it was. -/
theorem attempt_cases (h : BoardHeater α) (command : HeaterCommand α) :
    (∃ h', h.attempt command = (h', .ok ())) ∨ ∃ error, h.attempt command = (h, .error error) := by
  cases command with
  | setTemp degrees =>
      exact (h.setTemp_cases degrees).imp (fun hset => ⟨_, hset.2⟩)
        fun ⟨error, _, hrefused⟩ => ⟨error, hrefused⟩
  | setGains gains => exact .inl ⟨_, rfl⟩
  | startAutotune target time =>
      exact (h.startAutotune_cases target time).imp (fun ⟨_, _, _, hstart⟩ => ⟨_, hstart⟩)
        fun ⟨error, _, hrefused⟩ => ⟨.autotune error, hrefused⟩
  | abortAutotune time =>
      exact (h.abortAutotune_cases time).imp (fun habort => ⟨_, habort.2⟩)
        fun hrefused => ⟨_, hrefused.2⟩
  | shutdown time => exact .inl ⟨_, rfl⟩

theorem perform_of_attempt {h h' : BoardHeater α} {command : HeaterCommand α}
    (hattempt : h.attempt command = (h', .ok ())) : h.perform (.command command) = h' :=
  congrArg Prod.fst hattempt

theorem perform_of_refused {h h' : BoardHeater α} {command : HeaterCommand α}
    {error : HeaterError α} (hattempt : h.attempt command = (h', .error error)) :
    h.perform (.command command) = h := by
  rcases h.attempt_cases command with ⟨_, heq⟩ | ⟨_, heq⟩
  · cases hattempt.symm.trans heq
  · exact congrArg Prod.fst heq

theorem obey_invariant {P : BoardHeater α → Prop} {h : BoardHeater α}
    {command : HeaterCommand α} (hrefused : P h)
    (haccepted : ∀ h', h.attempt command = (h', .ok ()) → P h') : P (h.obey command) := by
  rcases h.attempt_cases command with ⟨h', heq⟩ | ⟨error, heq⟩
  · rw [obey, heq]
    exact haccepted h' heq
  · rw [obey, heq]
    exact hrefused

/-! ### The settings -/

theorem regulate_settings (h : BoardHeater α) (sample : Sample α) (target time : α) :
    (h.regulate sample target time).settings = h.settings := by
  have hcut : ∀ (k : BoardHeater α) (fault : Fault α),
      (k.cutPower fault time).settings = k.settings := by
    intro k fault
    rcases k.cutPower_cases fault time with ⟨-, heq⟩ | heq <;> rw [heq]
    exact setPower_settings ..
  have hconsume : ∀ k : BoardHeater α,
      (k.consume sample target time).settings = k.settings := by
    intro k
    rcases k.consume_cases sample target time with
      ⟨_, -, heq⟩ | ⟨_, _, _, _, _, -, heq⟩ | ⟨_, _, _, _, _, -, heq⟩ <;> rw [heq]
    · exact setPower_settings ..
    · exact setPower_settings ..
    · rfl
  rcases h.regulate_cases sample target time with
    ⟨-, -, heq⟩ | ⟨-, -, heq⟩ | ⟨-, -, heq⟩ | ⟨-, -, heq⟩ | ⟨-, -, heq⟩ <;> rw [heq]
  · exact setPower_settings ..
  · exact hcut ..
  · rw [hcut, endAutotune_settings]
  · exact acknowledged_settings h
  · rw [hconsume, acknowledged_settings]

@[simp] theorem tick_settings (h : BoardHeater α) (sample : Sample α) (target time : α) :
    (h.tick sample target time).settings = h.settings := by
  by_cases hstate : h.state = .shutdown
  · rw [tick_of_shutdown hstate]
  · rw [tick_of_running hstate, regulate_settings, readied_settings]

@[simp] theorem obey_settings (h : BoardHeater α) (command : HeaterCommand α) :
    (h.obey command).settings = h.settings := by
  refine obey_invariant (P := fun k => k.settings = h.settings) rfl ?_
  intro h' hattempt
  cases command with
  | setTemp degrees => rw [setTemp_eq_ok hattempt]
  | setGains gains =>
      cases hattempt
      rfl
  | startAutotune target time =>
      obtain ⟨record, relay, -, heq⟩ := startAutotune_eq_ok hattempt
      rw [heq]
  | abortAutotune time =>
      rw [(abortAutotune_eq_ok hattempt).2, endAutotune_settings]
  | shutdown time =>
      cases hattempt
      by_cases hstate : h.state = .shutdown
      · rw [shutdown_of_shutdown hstate]
      · rw [shutdown_of_running hstate]
        exact endAutotune_settings ..

@[simp] theorem perform_settings (h : BoardHeater α) (event : HeaterEvent α) :
    (h.perform event).settings = h.settings := by
  cases event with
  | activate time => exact activate_settings h time
  | command command => exact obey_settings h command
  | tick sample target time => exact tick_settings h sample target time

@[simp] theorem replay_settings (h : BoardHeater α) (events : List (HeaterEvent α)) :
    (h.replay events).settings = h.settings :=
  replay_invariant (P := fun k => k.settings = h.settings)
    (fun k event hk => (perform_settings k event).trans hk) rfl events

/-! ### Off unless a sample vouches for it -/

/-- A heater that is faulted or shut down is off, and so is one that has seen no good sample. A
fault stays only while the state shows it. -/
structure PowerSafe (h : BoardHeater α) : Prop where
  parked : h.state = .faulted ∨ h.state = .shutdown → h.lastPower = 0.0
  marked : h.fault.isSome = true → h.state = .faulted ∨ h.state = .shutdown
  unseen : h.seenValid = false → h.lastPower = 0.0

namespace PowerSafe

variable {h : BoardHeater α}

theorem create (name : String) (settings : HeaterSettings α) :
    (BoardHeater.create name settings).PowerSafe where
  parked _ := rfl
  marked hfault := by simp [BoardHeater.create] at hfault
  unseen _ := rfl

/-- With the power off only the fault matters. -/
theorem of_off (hoff : h.lastPower = 0.0)
    (hmarked : h.fault.isSome = true → h.state = .faulted ∨ h.state = .shutdown) :
    h.PowerSafe :=
  ⟨fun _ => hoff, hmarked, fun _ => hoff⟩

theorem activate (hsafe : h.PowerSafe) (time : α) : (h.activate time).PowerSafe := by
  unfold BoardHeater.activate
  split
  case isTrue hvalidated =>
    have hnone : h.fault.isSome ≠ true := by
      intro hfault
      have hmarked := hsafe.marked hfault
      simp [hvalidated] at hmarked
    exact ⟨by simp, fun hfault => absurd hfault hnone, hsafe.unseen⟩
  case isFalse => exact hsafe

theorem released (hsafe : h.PowerSafe) (relay : Relay α) (resume : Pid α) (priorTarget : α)
    (result : Except (FailReason α) (Gains α)) (time : α) :
    (h.released relay resume priorTarget result time).PowerSafe :=
  of_off rfl hsafe.marked

theorem endAutotune (hsafe : h.PowerSafe) (result : Except (FailReason α) (Gains α)) (time : α) :
    (h.endAutotune result time).PowerSafe := by
  rcases h.endAutotune_cases result time with ⟨_, -, heq⟩ | ⟨_, _, _, -, heq⟩ <;> rw [heq]
  · exact hsafe
  · exact hsafe.released ..

theorem readied (hsafe : h.PowerSafe) (time : α) : (h.readied time).PowerSafe := by
  have hactive := hsafe.activate time
  unfold BoardHeater.readied
  rcases (h.activate time).expire_cases time with heq | ⟨_, _, _, _, -, -, heq⟩ <;> rw [heq]
  · exact hactive
  · exact hactive.released ..

/-- While the first sample may still be on its way, the power is as it was at the start. -/
theorem grace_lastPower (hsafe : h.PowerSafe) {time : α} (hfirst : h.awaitsFirst time = true) :
    (h.setPower time 0.0 false).lastPower = 0.0 := by
  simp only [awaitsFirst, Bool.and_eq_true, Bool.not_eq_true'] at hfirst
  exact setPower_zero_lastPower h time false (.inr (hsafe.unseen hfirst.1))

/-- A zero that is held back was sent before: the deadband lets a fault through only once, but
the power was zero ever since. -/
theorem cutPower_lastPower (hsafe : h.PowerSafe) (fault : Fault α) (time : α) :
    (h.cutPower fault time).lastPower = 0.0 := by
  rcases h.cutPower_cases fault time with ⟨hfault, heq⟩ | heq <;> rw [heq]
  exact setPower_zero_lastPower h time false (.inr (hsafe.parked (hsafe.marked hfault)))

theorem cutPower (hsafe : h.PowerSafe) (fault : Fault α) (time : α) :
    (h.cutPower fault time).PowerSafe := by
  refine of_off (hsafe.cutPower_lastPower fault time) ?_
  rcases h.cutPower_cases fault time with ⟨-, heq⟩ | heq <;> rw [heq]
  · simpa using hsafe.marked
  · exact fun _ => .inl rfl

theorem acknowledged (hsafe : h.PowerSafe) : h.acknowledged.PowerSafe where
  parked hstate := by
    rw [acknowledged_lastPower]
    refine hsafe.parked (.inr ?_)
    exact h.acknowledged_state_eq_shutdown_iff.mp
      (hstate.resolve_left h.acknowledged_state_ne_faulted)
  marked hfault := by
    rw [acknowledged_fault] at hfault
    by_cases hfaulted : h.state = .faulted
    · simp [hfaulted] at hfault
    · rw [if_neg hfaulted] at hfault
      exact .inr (h.acknowledged_state_eq_shutdown_iff.mpr
        ((hsafe.marked hfault).resolve_left hfaulted))
  unseen hseen := by simp at hseen

/-- An active heater that has seen a good sample may take any power. -/
theorem setPower_of_active (hsafe : h.PowerSafe) (hfaulted : h.state ≠ .faulted)
    (hshutdown : h.state ≠ .shutdown) (hseen : h.seenValid = true) (time power : α)
    (force : Bool) : (h.setPower time power force).PowerSafe where
  parked hstate := by
    rw [setPower_state] at hstate
    exact absurd hstate (by simp [hfaulted, hshutdown])
  marked hfault := by
    rw [setPower_fault] at hfault
    rw [setPower_state]
    exact hsafe.marked hfault
  unseen hunseen := by
    rw [setPower_seenValid, hseen] at hunseen
    cases hunseen

theorem consume (hsafe : h.PowerSafe) (hfaulted : h.state ≠ .faulted)
    (hshutdown : h.state ≠ .shutdown) (hseen : h.seenValid = true) (sample : Sample α)
    (target time : α) : (h.consume sample target time).PowerSafe := by
  have hnoted : ∀ control : ActiveControl α,
      { h.noted sample with control }.PowerSafe := by
    intro control
    exact ⟨hsafe.parked, hsafe.marked, hsafe.unseen⟩
  rcases h.consume_cases sample target time with
    ⟨_, -, heq⟩ | ⟨_, _, _, _, _, -, heq⟩ | ⟨_, _, _, _, _, -, heq⟩ <;> rw [heq]
  · exact (hnoted _).setPower_of_active hfaulted hshutdown hseen ..
  · exact (hnoted _).setPower_of_active hfaulted hshutdown hseen ..
  · exact (hnoted (h.noted sample).control).released ..

theorem regulate (hsafe : h.PowerSafe) (hshutdown : h.state ≠ .shutdown) (sample : Sample α)
    (target time : α) : (h.regulate sample target time).PowerSafe := by
  rcases h.regulate_cases sample target time with
    ⟨-, hfirst, heq⟩ | ⟨-, -, heq⟩ | ⟨-, -, heq⟩ | ⟨-, -, heq⟩ | ⟨-, -, heq⟩ <;> rw [heq]
  · refine of_off (hsafe.grace_lastPower hfirst) ?_
    simpa using hsafe.marked
  · exact hsafe.cutPower ..
  · exact (hsafe.endAutotune ..).cutPower ..
  · exact hsafe.acknowledged
  · exact hsafe.acknowledged.consume h.acknowledged_state_ne_faulted
      (mt h.acknowledged_state_eq_shutdown_iff.mp hshutdown) rfl sample target time

theorem tick (hsafe : h.PowerSafe) (sample : Sample α) (target time : α) :
    (h.tick sample target time).PowerSafe := by
  by_cases hstate : h.state = .shutdown
  · rw [tick_of_shutdown hstate]
    exact hsafe
  · rw [tick_of_running hstate]
    exact (hsafe.readied time).regulate (mt readied_state_eq_shutdown_iff.mp hstate) ..

theorem setTarget (hsafe : h.PowerSafe) (target : α) (control : ActiveControl α)
    (record : Record α) (outbox : List (DeviceCommand α)) :
    { h with target, control, record, outbox }.PowerSafe :=
  ⟨hsafe.parked, hsafe.marked, hsafe.unseen⟩

theorem shutdown (hsafe : h.PowerSafe) (time : α) : (h.shutdown time).PowerSafe := by
  by_cases hstate : h.state = .shutdown
  · rw [shutdown_of_shutdown hstate]
    exact hsafe
  · rw [shutdown_of_running hstate]
    exact of_off rfl fun _ => .inr rfl

theorem obey (hsafe : h.PowerSafe) (command : HeaterCommand α) : (h.obey command).PowerSafe := by
  refine obey_invariant hsafe ?_
  intro h' hattempt
  cases command with
  | setTemp degrees =>
      rw [setTemp_eq_ok hattempt]
      exact hsafe.setTarget ..
  | setGains gains =>
      cases hattempt
      exact hsafe.setTarget ..
  | startAutotune target time =>
      obtain ⟨record, relay, -, heq⟩ := startAutotune_eq_ok hattempt
      rw [heq]
      exact hsafe.setTarget ..
  | abortAutotune time =>
      rw [(abortAutotune_eq_ok hattempt).2]
      exact hsafe.endAutotune ..
  | shutdown time =>
      cases hattempt
      exact hsafe.shutdown time

theorem perform (hsafe : h.PowerSafe) (event : HeaterEvent α) : (h.perform event).PowerSafe := by
  cases event with
  | activate time => exact hsafe.activate time
  | command command => exact hsafe.obey command
  | tick sample target time => exact hsafe.tick sample target time

theorem replay (hsafe : h.PowerSafe) (events : List (HeaterEvent α)) :
    (h.replay events).PowerSafe :=
  replay_invariant (fun _ event hk => hk.perform event) hsafe events

/-- A tick on a sample that cannot be used leaves the heater off, whichever way it takes. -/
theorem tick_lastPower_of_unusable (hsafe : h.PowerSafe) {sample : Sample α} {time : α}
    (hunusable : ¬ h.Usable sample time) (target : α) :
    (h.tick sample target time).lastPower = 0.0 := by
  by_cases hstate : h.state = .shutdown
  · rw [tick_of_shutdown hstate]
    exact hsafe.parked (.inr hstate)
  · have hready := hsafe.readied time
    have hunready : ¬ (h.readied time).Usable sample time := by
      rwa [usable_congr (h.readied_settings time)]
    rw [tick_of_running hstate]
    rcases (h.readied time).regulate_cases sample target time with
      ⟨-, hfirst, heq⟩ | ⟨-, -, heq⟩ | ⟨-, -, heq⟩ | ⟨husable, -, -⟩ | ⟨husable, -, -⟩
    · rw [heq]
      exact hready.grace_lastPower hfirst
    · rw [heq]
      exact hready.cutPower_lastPower ..
    · rw [heq]
      exact (hready.endAutotune ..).cutPower_lastPower ..
    · exact absurd husable hunready
    · exact absurd husable hunready

end PowerSafe

end BoardHeater

end HeaterHost
