import HeaterHost.Proofs.Heater.Shutdown

/-!
# Where the orders of a board come from

A heater queues what it was asked for: the values of a command that it takes on, and the power that
its control asks for on a sample. All else it queues is a zero power, or the target from before an
experiment. What was queued once stays, so that the outbox after a run tells of all of it.
-/

namespace HeaterHost

open Autotune Wire

/-- What a command has the heater send to its board, if the heater takes it on. -/
def HeaterCommand.orders {α : Type} [Scalar α] : HeaterCommand α → List (DeviceCommand α)
  | .setTemp degrees => [.setTarget degrees]
  | .setGains gains => [.setGains gains]
  | .startAutotune target _ => [.setTarget target]
  | .abortAutotune _ => []
  | .shutdown _ => [.setTarget 0.0]

/-- A target is ordered where it is asked for, and at the end. -/
theorem HeaterCommand.setTarget_mem_orders {α : Type} [Scalar α] {command : HeaterCommand α}
    {target : α} (hmem : .setTarget target ∈ command.orders) :
    command = .setTemp target ∨ (∃ time, command = .startAutotune target time) ∨
      (∃ time, command = .shutdown time) ∧ target = 0.0 := by
  cases command with
  | setTemp degrees =>
      cases List.mem_singleton.mp hmem
      exact .inl rfl
  | setGains gains => cases List.mem_singleton.mp hmem
  | startAutotune started time =>
      cases List.mem_singleton.mp hmem
      exact .inr (.inl ⟨time, rfl⟩)
  | abortAutotune time => cases hmem
  | shutdown time =>
      cases List.mem_singleton.mp hmem
      exact .inr (.inr ⟨⟨time, rfl⟩, rfl⟩)

theorem ActiveControl.priorTarget?_mapResting {α : Type} (f : Pid α → Pid α)
    (control : ActiveControl α) : (control.mapResting f).priorTarget? = control.priorTarget? := by
  cases control <;> rfl

namespace BoardHeater

variable {α : Type}

namespace QueuedSince

variable {h k l : BoardHeater α} {allowed permitted : DeviceCommand α → Prop}

theorem of_outbox_eq (heq : k.outbox = h.outbox) : h.QueuedSince k allowed :=
  ⟨[], heq, nofun⟩

theorem mono (hqueued : h.QueuedSince k allowed)
    (himp : ∀ command, allowed command → permitted command) : h.QueuedSince k permitted := by
  obtain ⟨fresh, houtbox, hallowed⟩ := hqueued
  exact ⟨fresh, houtbox, fun command hmem => himp command (hallowed command hmem)⟩

theorem trans (hfirst : h.QueuedSince k allowed) (hnext : k.QueuedSince l allowed) :
    h.QueuedSince l allowed := by
  obtain ⟨early, hearly, hallowed⟩ := hfirst
  obtain ⟨late, hlate, hallowed'⟩ := hnext
  refine ⟨late ++ early, ?_, ?_⟩
  · rw [hlate, hearly, List.append_assoc]
  · intro command hmem
    rcases List.mem_append.mp hmem with hmem | hmem
    · exact hallowed' command hmem
    · exact hallowed command hmem

theorem mem_of_mem (hqueued : h.QueuedSince k allowed) {command : DeviceCommand α}
    (hmem : command ∈ h.outbox) : command ∈ k.outbox := by
  obtain ⟨fresh, houtbox, -⟩ := hqueued
  rw [houtbox]
  exact List.mem_append_right fresh hmem

theorem mem_outbox (hqueued : h.QueuedSince k allowed) {command : DeviceCommand α}
    (hmem : command ∈ k.outbox) : command ∈ h.outbox ∨ allowed command := by
  obtain ⟨fresh, houtbox, hallowed⟩ := hqueued
  rw [houtbox] at hmem
  rcases List.mem_append.mp hmem with hfresh | hold
  · exact .inr (hallowed command hfresh)
  · exact .inl hold

end QueuedSince

variable [Scalar α]

/-- What a heater queues of its own accord. -/
def IsFallback (h : BoardHeater α) (command : DeviceCommand α) : Prop :=
  command = .setPower 0.0 ∨
    ∃ target, h.control.priorTarget? = some target ∧ command = .setTarget target

/-- The power that the control asks for on a sample, unless the sample ends an experiment. -/
def controlPower? (h : BoardHeater α) (sample : Sample α) (target time : α) : Option α :=
  match h.control with
  | .pid law => some (h.pidPower law sample target)
  | .autotune relay _ _ =>
      match relay.feed sample time with
      | (_, .carryOn power) => some (Scalar.clamp 0.0 h.settings.maxPower power)
      | (_, .finished _) => none

/-- The control is consulted in a tick: the heater is not parked, and the sample can be used and is
new. -/
def Consults (h : BoardHeater α) (sample : Sample α) (time : α) : Prop :=
  h.state ≠ .shutdown ∧ (h.readied time).Usable sample time ∧
    sample.isConsumed h.lastSample = false

instance (h : BoardHeater α) (sample : Sample α) (time : α) : Decidable (h.Consults sample time) :=
  inferInstanceAs (Decidable (_ ∧ _ ∧ _))

/-- A tick that consults the control lets it consume the sample. -/
theorem Consults.tick_eq {h : BoardHeater α} {sample : Sample α} {time : α}
    (hconsults : h.Consults sample time) (target : α) :
    h.tick sample target time = (h.readied time).acknowledged.consume sample target time := by
  obtain ⟨hstate, husable, hnew⟩ := hconsults
  rw [tick_of_running hstate]
  rcases (h.readied time).regulate_cases sample target time with
    ⟨hstale, -⟩ | ⟨hstale, -⟩ | ⟨-, hhot, -⟩ | ⟨-, hconsumed, -⟩ | ⟨-, -, heq⟩
  · cases hstale.symm.trans husable.fresh
  · cases hstale.symm.trans husable.fresh
  · exact absurd hhot husable.inRange
  · rw [readied_lastSample, hnew] at hconsumed
    cases hconsumed
  · exact heq

def orders (h : BoardHeater α) : HeaterEvent α → List (DeviceCommand α)
  | .activate _ => []
  | .command command =>
      match (h.attempt command).2 with
      | .ok () => command.orders
      | .error _ => []
  | .tick sample target time =>
      if h.Consults sample time then
        ((h.readied time).controlPower? sample target time).toList.map .setPower
      else []

variable {h k : BoardHeater α}

/-- A tick asks for powers only. -/
theorem setTarget_notMem_orders_tick (sample : Sample α) (heated time target : α) :
    DeviceCommand.setTarget target ∉ h.orders (.tick sample heated time) := by
  intro horder
  by_cases hconsults : h.Consults sample time
  · rw [orders, if_pos hconsults] at horder
    obtain ⟨_, -, heq⟩ := List.mem_map.mp horder
    cases heq
  · rw [orders, if_neg hconsults] at horder
    cases horder

theorem orders_of_attempt {command : HeaterCommand α} {h' : BoardHeater α}
    (hattempt : h.attempt command = (h', .ok ())) :
    h.orders (.command command) = command.orders := by
  simp only [orders, hattempt]

theorem orders_of_refused {command : HeaterCommand α} {h' : BoardHeater α} {error : HeaterError α}
    (hattempt : h.attempt command = (h', .error error)) : h.orders (.command command) = [] := by
  simp only [orders, hattempt]

theorem Follows.isFallback (hfollows : h.Follows k) {command : DeviceCommand α}
    (hfallback : k.IsFallback command) : h.IsFallback command := by
  rcases hfallback with hzero | ⟨target, hprior, hcommand⟩
  · exact .inl hzero
  · rcases hfollows with hsame | hended
    · exact .inr ⟨target, hsame.priorTarget ▸ hprior, hcommand⟩
    · rw [hended.control] at hprior
      cases hprior

/-! ### One lemma for each operation -/

omit [Scalar α] in
theorem activate_outbox (h : BoardHeater α) (time : α) : (h.activate time).outbox = h.outbox := by
  unfold activate
  split <;> rfl

theorem setPower_queuedSince (h : BoardHeater α) (time power : α) (force : Bool) :
    h.QueuedSince (h.setPower time power force) (· = .setPower power) := by
  rcases h.setPower_cases time power force with ⟨-, -, heq⟩ | heq <;> rw [heq]
  · exact .refl h _
  · exact (QueuedSince.refl h _).cons rfl rfl

theorem released_queuedSince {relay relay' : Relay α} {resume : Pid α} {priorTarget : α}
    (hcontrol : h.control = .autotune relay resume priorTarget)
    (result : Except (FailReason α) (Gains α)) (time : α) :
    h.QueuedSince (h.released relay' resume priorTarget result time) h.IsFallback := by
  have hpower : h.QueuedSince (h.send (.setPower 0.0)) h.IsFallback :=
    (QueuedSince.refl h _).cons rfl (.inl rfl)
  exact hpower.cons rfl (.inr ⟨priorTarget, by rw [hcontrol]; rfl, rfl⟩)

theorem endAutotune_queuedSince (h : BoardHeater α) (result : Except (FailReason α) (Gains α))
    (time : α) : h.QueuedSince (h.endAutotune result time) h.IsFallback := by
  rcases h.endAutotune_cases result time with ⟨_, -, heq⟩ | ⟨_, _, _, hcontrol, heq⟩ <;> rw [heq]
  · exact .refl h _
  · exact released_queuedSince hcontrol result time

theorem readied_queuedSince (h : BoardHeater α) (time : α) :
    h.QueuedSince (h.readied time) h.IsFallback := by
  have hactive : h.QueuedSince (h.activate time) h.IsFallback :=
    .of_outbox_eq (activate_outbox h time)
  unfold readied
  rcases (h.activate time).expire_cases time with heq | ⟨_, _, _, _, hcontrol, -, heq⟩ <;> rw [heq]
  · exact hactive
  · refine hactive.trans ((released_queuedSince hcontrol _ time).mono ?_)
    exact fun _ => Follows.isFallback (.inl (h.activate_undisturbed time))

theorem cutPower_queuedSince (h : BoardHeater α) (fault : Fault α) (time : α) :
    h.QueuedSince (h.cutPower fault time) (· = .setPower 0.0) := by
  rcases h.cutPower_cases fault time with ⟨-, heq⟩ | heq <;> rw [heq]
  · exact setPower_queuedSince ..
  · exact (QueuedSince.refl h _).cons rfl rfl

theorem consume_queuedSince (h : BoardHeater α) (sample : Sample α) (target time : α) :
    h.QueuedSince (h.consume sample target time) fun command =>
      h.IsFallback command ∨
        ∃ power, h.controlPower? sample target time = some power ∧ command = .setPower power := by
  cases hcontrol : h.control with
  | pid law =>
      rw [consume_of_pid hcontrol]
      refine (setPower_queuedSince ..).mono ?_
      rintro _ rfl
      exact .inr ⟨_, by simp only [controlPower?, hcontrol], rfl⟩
  | autotune relay resume priorTarget =>
      rcases hfeed : relay.feed sample time with ⟨relay', power | result⟩
      · rw [consume_of_carryOn hcontrol hfeed]
        refine (setPower_queuedSince ..).mono ?_
        rintro _ rfl
        exact .inr ⟨_, by simp only [controlPower?, hcontrol, hfeed], rfl⟩
      · rw [consume_of_finished hcontrol hfeed]
        exact (released_queuedSince (h := h.noted sample) hcontrol result time).mono
          fun _ => .inl

theorem controlPower?_acknowledged (h : BoardHeater α) (sample : Sample α) (target time : α) :
    h.acknowledged.controlPower? sample target time = h.controlPower? sample target time := by
  simp only [controlPower?, pidPower, acknowledged_control, acknowledged_settings]

theorem regulate_queuedSince (h : BoardHeater α) (sample : Sample α) (target time : α) :
    h.QueuedSince (h.regulate sample target time) fun command =>
      h.IsFallback command ∨
        h.Usable sample time ∧ sample.isConsumed h.lastSample = false ∧
          ∃ power, h.controlPower? sample target time = some power ∧
            command = .setPower power := by
  have hzero : ∀ command : DeviceCommand α, command = .setPower 0.0 → h.IsFallback command :=
    fun _ => .inl
  have hacknowledged : h.QueuedSince h.acknowledged h.IsFallback :=
    .of_outbox_eq (acknowledged_outbox h)
  rcases h.regulate_cases sample target time with
    ⟨-, -, heq⟩ | ⟨-, -, heq⟩ | ⟨-, -, heq⟩ | ⟨-, -, heq⟩ | ⟨husable, hnew, heq⟩ <;> rw [heq]
  · exact (setPower_queuedSince ..).mono fun command heq => .inl (hzero command heq)
  · exact (cutPower_queuedSince ..).mono fun command heq => .inl (hzero command heq)
  · have hended := h.endAutotune_queuedSince (.error (.overTemperature sample.value)) time
    exact (hended.trans ((cutPower_queuedSince ..).mono hzero)).mono fun _ => .inl
  · exact hacknowledged.mono fun _ => .inl
  · refine (hacknowledged.mono fun _ => .inl).trans ?_
    refine (consume_queuedSince h.acknowledged sample target time).mono ?_
    rintro command (hfallback | hasked)
    · exact .inl (Follows.isFallback (.inl h.acknowledged_undisturbed) hfallback)
    · rw [controlPower?_acknowledged] at hasked
      exact .inr ⟨husable, hnew, hasked⟩

theorem tick_queuedSince (h : BoardHeater α) (sample : Sample α) (target time : α) :
    h.QueuedSince (h.tick sample target time) fun command =>
      h.IsFallback command ∨ command ∈ h.orders (.tick sample target time) := by
  by_cases hstate : h.state = .shutdown
  · rw [tick_of_shutdown hstate]
    exact .refl h _
  · rw [tick_of_running hstate]
    refine ((h.readied_queuedSince time).mono fun _ => .inl).trans ?_
    refine ((h.readied time).regulate_queuedSince sample target time).mono ?_
    rintro command (hfallback | ⟨husable, hnew, power, hpower, rfl⟩)
    · exact .inl (Follows.isFallback (h.readied_follows time) hfallback)
    · rw [readied_lastSample] at hnew
      refine .inr ?_
      rw [orders, if_pos ⟨hstate, husable, hnew⟩, hpower]
      exact List.mem_singleton_self _

theorem obey_queuedSince (h : BoardHeater α) (command : HeaterCommand α) :
    h.QueuedSince (h.obey command) fun queued =>
      h.IsFallback queued ∨ queued ∈ h.orders (.command command) := by
  refine obey_invariant (P := fun k => h.QueuedSince k fun queued =>
    h.IsFallback queued ∨ queued ∈ h.orders (.command command)) (.refl h _) ?_
  intro h' hattempt
  rw [orders_of_attempt hattempt]
  cases command with
  | setTemp degrees =>
      rw [setTemp_eq_ok hattempt]
      exact (QueuedSince.refl h _).cons rfl (.inr (List.mem_singleton_self _))
  | setGains gains =>
      cases hattempt
      exact (QueuedSince.refl h _).cons rfl (.inr (List.mem_singleton_self _))
  | startAutotune target time =>
      obtain ⟨record, relay, -, heq⟩ := startAutotune_eq_ok hattempt
      rw [heq]
      exact (QueuedSince.refl h _).cons rfl (.inr (List.mem_singleton_self _))
  | abortAutotune time =>
      rw [(abortAutotune_eq_ok hattempt).2]
      exact (h.endAutotune_queuedSince (.error .aborted) time).mono fun _ => .inl
  | shutdown time =>
      cases hattempt
      by_cases hstate : h.state = .shutdown
      · rw [shutdown_of_shutdown hstate]
        exact .refl h _
      · have hended : h.QueuedSince (h.endAutotune (.error .aborted) time) fun queued =>
            h.IsFallback queued ∨ queued ∈ [.setTarget 0.0] :=
          (h.endAutotune_queuedSince (.error .aborted) time).mono fun _ => .inl
        have htarget : h.QueuedSince ((h.endAutotune (.error .aborted) time).send
            (.setTarget 0.0)) fun queued =>
            h.IsFallback queued ∨ queued ∈ [.setTarget 0.0] :=
          hended.cons rfl (.inr (List.mem_singleton_self _))
        rw [shutdown_of_running hstate]
        exact htarget.cons rfl (.inl (.inl rfl))

/-- Whatever an event queues was asked for by it, or is a fallback. -/
theorem perform_queuedSince (h : BoardHeater α) (event : HeaterEvent α) :
    h.QueuedSince (h.perform event) fun command =>
      h.IsFallback command ∨ command ∈ h.orders event := by
  cases event with
  | activate time => exact .of_outbox_eq (activate_outbox h time)
  | command command => exact h.obey_queuedSince command
  | tick sample target time => exact h.tick_queuedSince sample target time

theorem replay_mem_outbox {command : DeviceCommand α} (hmem : command ∈ h.outbox)
    (events : List (HeaterEvent α)) : command ∈ (h.replay events).outbox :=
  replay_invariant (P := fun k => command ∈ k.outbox)
    (fun k event hk => (k.perform_queuedSince event).mem_of_mem hk) hmem events

/-! ### What a run orders -/

/-- The orders of a run, in their order. -/
def runOrders (h : BoardHeater α) : List (HeaterEvent α) → List (DeviceCommand α)
  | [] => []
  | event :: rest => h.orders event ++ (h.perform event).runOrders rest

theorem mem_runOrders {events : List (HeaterEvent α)} {command : DeviceCommand α}
    (hmem : command ∈ h.runOrders events) :
    ∃ before event after, events = before ++ event :: after ∧
      command ∈ (h.replay before).orders event := by
  induction events generalizing h with
  | nil => cases hmem
  | cons event rest ih =>
      rcases List.mem_append.mp hmem with hfirst | hlater
      · exact ⟨[], event, rest, rfl, hfirst⟩
      · obtain ⟨before, event', after, rfl, hordered⟩ := ih hlater
        exact ⟨event :: before, event', after, rfl, hordered⟩

/-- All that was queued is allowed, and so are the targets that may still be queued again. -/
structure Vetted (allowed : DeviceCommand α → Prop) (h : BoardHeater α) : Prop where
  queued : ∀ command ∈ h.outbox, allowed command
  target : allowed (.setTarget h.target)
  priorTarget : ∀ target, h.control.priorTarget? = some target → allowed (.setTarget target)

namespace Vetted

variable {allowed : DeviceCommand α → Prop}

theorem create (name : String) (settings : HeaterSettings α) (hoff : allowed (.setTarget 0.0)) :
    (BoardHeater.create name settings).Vetted allowed :=
  ⟨nofun, hoff, nofun⟩

theorem fallback (hvetted : h.Vetted allowed) (hoff : allowed (.setPower 0.0))
    {command : DeviceCommand α} (hfallback : h.IsFallback command) : allowed command := by
  rcases hfallback with rfl | ⟨target, hprior, rfl⟩
  · exact hoff
  · exact hvetted.priorTarget target hprior

omit [Scalar α] in
theorem follows (hvetted : h.Vetted allowed) (hqueued : ∀ command ∈ k.outbox, allowed command)
    (hfollows : h.Follows k) : k.Vetted allowed := by
  rcases hfollows with hsame | hended
  · refine ⟨hqueued, hsame.target ▸ hvetted.target, ?_⟩
    rw [hsame.priorTarget]
    exact hvetted.priorTarget
  · refine ⟨hqueued, hvetted.priorTarget _ hended.begun, ?_⟩
    rw [hended.control]
    nofun

theorem shutdown (hvetted : h.Vetted allowed) (time : α)
    (hqueued : ∀ command ∈ (h.shutdown time).outbox, allowed command)
    (hoff : allowed (.setTarget 0.0)) : (h.shutdown time).Vetted allowed := by
  by_cases hstate : h.state = .shutdown
  · rw [shutdown_of_shutdown hstate]
    exact hvetted
  · rw [shutdown_of_running hstate] at hqueued ⊢
    refine ⟨hqueued, hoff, ?_⟩
    have hpid := h.endAutotune_isAutotune (.error .aborted) time
    rw [← ActiveControl.isSome_priorTarget?] at hpid
    intro target hprior
    rw [hprior] at hpid
    cases hpid

/-- What a command that is taken on leaves behind; its own values are among its orders. -/
theorem attempt (hvetted : h.Vetted allowed) {command : HeaterCommand α} {h' : BoardHeater α}
    (hattempt : h.attempt command = (h', .ok ())) (hqueued : ∀ queued ∈ h'.outbox, allowed queued)
    (horders : ∀ queued ∈ command.orders, allowed queued) : h'.Vetted allowed := by
  cases command with
  | setTemp degrees =>
      obtain rfl := setTemp_eq_ok hattempt
      exact ⟨hqueued, horders _ (List.mem_singleton_self _), hvetted.priorTarget⟩
  | setGains gains =>
      cases hattempt
      refine ⟨hqueued, hvetted.target, ?_⟩
      change ∀ target, (h.control.mapResting _).priorTarget? = some target → _
      rw [ActiveControl.priorTarget?_mapResting]
      exact hvetted.priorTarget
  | startAutotune target time =>
      obtain ⟨record, relay, -, rfl⟩ := startAutotune_eq_ok hattempt
      refine ⟨hqueued, horders _ (List.mem_singleton_self _), ?_⟩
      intro prior hprior
      cases hprior
      exact hvetted.target
  | abortAutotune time =>
      obtain ⟨-, rfl⟩ := abortAutotune_eq_ok hattempt
      exact hvetted.follows hqueued (h.endAutotune_follows _ time)
  | shutdown time =>
      cases hattempt
      exact hvetted.shutdown time hqueued (horders _ (List.mem_singleton_self _))

theorem perform (hvetted : h.Vetted allowed) (hoff : allowed (.setPower 0.0))
    {event : HeaterEvent α} (horders : ∀ command ∈ h.orders event, allowed command) :
    (h.perform event).Vetted allowed := by
  have hqueued : ∀ command ∈ (h.perform event).outbox, allowed command := by
    intro command hmem
    rcases (h.perform_queuedSince event).mem_outbox hmem with hold | hfallback | hordered
    · exact hvetted.queued command hold
    · exact hvetted.fallback hoff hfallback
    · exact horders command hordered
  cases event with
  | activate time => exact hvetted.follows hqueued (.inl (h.activate_undisturbed time))
  | tick sample target time => exact hvetted.follows hqueued (h.tick_follows sample target time)
  | command command =>
      rcases h.attempt_cases command with ⟨h', hattempt⟩ | ⟨error, hattempt⟩
      · rw [perform_of_attempt hattempt] at hqueued ⊢
        rw [orders_of_attempt hattempt] at horders
        exact hvetted.attempt hattempt hqueued horders
      · rwa [perform_of_refused hattempt]

/-- A run queues nothing but what is allowed if it orders nothing else. -/
theorem replay (hvetted : h.Vetted allowed) (hoff : allowed (.setPower 0.0))
    {events : List (HeaterEvent α)} (horders : ∀ command ∈ h.runOrders events, allowed command) :
    (h.replay events).Vetted allowed := by
  induction events generalizing h with
  | nil => exact hvetted
  | cons event rest ih =>
      refine ih (hvetted.perform hoff ?_) ?_
      · exact fun command hmem => horders command (List.mem_append_left _ hmem)
      · exact fun command hmem => horders command (List.mem_append_right _ hmem)

end Vetted

end BoardHeater

end HeaterHost
