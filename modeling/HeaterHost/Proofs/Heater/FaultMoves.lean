import HeaterHost.Proofs.Heater.Run

/-!
# What an event does to the fault of a heater

There are three things: the fault stays as it is, a fault of another kind takes its place, or the
heater recovers. Each of them says how the state moves and what the heater has to tell the host.
-/

namespace HeaterHost.BoardHeater

open Autotune Wire

variable {α : Type}

/-- Two heaters that differ in nothing that concerns the fault. -/
structure SameFault (h h' : BoardHeater α) : Prop where
  name : h'.name = h.name
  state : h'.state = h.state
  fault : h'.fault = h.fault
  signals : h'.signals = h.signals

inductive FaultMove (h h' : BoardHeater α) : Prop
  | quiet (name : h'.name = h.name) (fault : h'.fault = h.fault)
      (signals : h'.signals = h.signals)
      (state : h'.state = h.state ∨ h.state = .validated ∧ h'.state = .active ∨
        h'.state = .shutdown)
  | raised (name : h'.name = h.name) (cause : Fault α) (isNew : h.hasFaultLike cause = false)
      (fault : h'.fault = some cause) (signals : h'.signals = .raised cause :: h.signals)
      (state : h'.state = .faulted)
  | recovered (name : h'.name = h.name) (faulted : h.state = .faulted) (fault : h'.fault = none)
      (signals : h'.signals = if h.fault.isSome then .cleared :: h.signals else h.signals)
      (state : h'.state = .active)

namespace SameFault

variable {h h' h'' : BoardHeater α}

theorem refl (h : BoardHeater α) : h.SameFault h := ⟨rfl, rfl, rfl, rfl⟩

theorem trans (hfirst : h.SameFault h') (hsecond : h'.SameFault h'') : h.SameFault h'' :=
  ⟨hsecond.name.trans hfirst.name, hsecond.state.trans hfirst.state,
    hsecond.fault.trans hfirst.fault, hsecond.signals.trans hfirst.signals⟩

theorem move (hsame : h.SameFault h') : h.FaultMove h' :=
  .quiet hsame.name hsame.fault hsame.signals (.inl hsame.state)

end SameFault

namespace FaultMove

variable {h h' h'' : BoardHeater α}

theorem name (hmove : h.FaultMove h') : h'.name = h.name := by
  cases hmove with
  | quiet name | raised name | recovered name => exact name

theorem before (hmove : h'.FaultMove h'') (hsame : h.SameFault h') : h.FaultMove h'' := by
  cases hmove with
  | quiet name fault signals state =>
      refine .quiet (name.trans hsame.name) (fault.trans hsame.fault)
        (signals.trans hsame.signals) ?_
      rwa [hsame.state] at state
  | raised name cause isNew fault signals state =>
      refine .raised (name.trans hsame.name) cause ?_ fault ?_ state
      · rwa [hasFaultLike, hsame.fault] at isNew
      · rwa [hsame.signals] at signals
  | recovered name faulted fault signals state =>
      refine .recovered (name.trans hsame.name) (hsame.state.symm.trans faulted) fault ?_ state
      rwa [hsame.fault, hsame.signals] at signals

theorem after (hmove : h.FaultMove h') (hsame : h'.SameFault h'') : h.FaultMove h'' := by
  cases hmove with
  | quiet name fault signals state =>
      refine .quiet (hsame.name.trans name) (hsame.fault.trans fault)
        (hsame.signals.trans signals) ?_
      rwa [hsame.state]
  | raised name cause isNew fault signals state =>
      exact .raised (hsame.name.trans name) cause isNew (hsame.fault.trans fault)
        (hsame.signals.trans signals) (hsame.state.trans state)
  | recovered name faulted fault signals state =>
      exact .recovered (hsame.name.trans name) faulted (hsame.fault.trans fault)
        (hsame.signals.trans signals) (hsame.state.trans state)

end FaultMove

section

variable (h : BoardHeater α)

theorem released_sameFault [Scalar α] (relay : Relay α) (resume : Pid α) (priorTarget : α)
    (result : Except (FailReason α) (Gains α)) (time : α) :
    h.SameFault (h.released relay resume priorTarget result time) := ⟨rfl, rfl, rfl, rfl⟩

theorem raise_move (fault : Fault α) : h.FaultMove (h.raise fault) := by
  cases hknown : h.hasFaultLike fault with
  | true =>
      rw [raise_of_known hknown]
      exact (SameFault.refl h).move
  | false =>
      rw [raise_of_new hknown]
      exact .raised rfl fault hknown rfl rfl rfl

/-- A good sample makes the heater recover from a fault. -/
theorem acknowledged_move : h.FaultMove h.acknowledged := by
  by_cases hfaulted : h.state = .faulted
  · simp only [acknowledged, recover, if_pos hfaulted]
    exact .recovered rfl hfaulted rfl rfl rfl
  · simp only [acknowledged, recover, if_neg hfaulted]
    exact .quiet rfl rfl rfl (.inl rfl)

theorem activate_move (time : α) : h.FaultMove (h.activate time) := by
  unfold activate
  split
  case isTrue hvalidated => exact .quiet rfl rfl rfl (.inr (.inl ⟨hvalidated, rfl⟩))
  case isFalse => exact (SameFault.refl h).move

end

/-- What a heater does right after its activation, it does from its state before. -/
theorem FaultMove.of_activate {h h' : BoardHeater α} {time : α}
    (hmove : (h.activate time).FaultMove h') : h.FaultMove h' := by
  by_cases hvalidated : h.state = .validated
  · have hactive : h.activate time = { h with state := .active, activeSince := time } :=
      if_pos hvalidated
    rw [hactive] at hmove
    cases hmove with
    | quiet name fault signals state =>
        refine .quiet name fault signals (.inr ?_)
        rcases state with hsame | ⟨himpossible, -⟩ | hshutdown
        · exact .inl ⟨hvalidated, hsame⟩
        · cases himpossible
        · exact .inr hshutdown
    | raised name cause isNew fault signals state =>
        exact .raised name cause isNew fault signals state
    | recovered name faulted => cases faulted
  · rwa [activate, if_neg hvalidated] at hmove

variable [Scalar α]

section frame

variable (h : BoardHeater α)

theorem setPower_sameFault (time power : α) (force : Bool) :
    h.SameFault (h.setPower time power force) := by
  rcases h.setPower_cases time power force with ⟨-, -, heq⟩ | heq <;> rw [heq]
  · exact .refl h
  · exact ⟨rfl, rfl, rfl, rfl⟩

theorem endAutotune_sameFault (result : Except (FailReason α) (Gains α)) (time : α) :
    h.SameFault (h.endAutotune result time) := by
  rcases h.endAutotune_cases result time with ⟨_, -, heq⟩ | ⟨_, _, _, -, heq⟩ <;> rw [heq]
  · exact .refl h
  · exact h.released_sameFault ..

theorem expire_sameFault (time : α) : h.SameFault (h.expire time) := by
  rcases h.expire_cases time with heq | ⟨_, _, _, _, -, -, heq⟩ <;> rw [heq]
  · exact .refl h
  · exact h.released_sameFault ..

theorem consume_sameFault (sample : Sample α) (target time : α) :
    h.SameFault (h.consume sample target time) := by
  have hnoted : ∀ control, h.SameFault { h.noted sample with control } :=
    fun _ => ⟨rfl, rfl, rfl, rfl⟩
  rcases h.consume_cases sample target time with
    ⟨_, -, heq⟩ | ⟨_, _, _, _, _, -, heq⟩ | ⟨_, _, _, _, _, -, heq⟩ <;> rw [heq]
  · exact (hnoted _).trans (setPower_sameFault ..)
  · exact (hnoted _).trans (setPower_sameFault ..)
  · exact (hnoted (h.noted sample).control).trans (released_sameFault ..)

end frame

section moves

variable (h : BoardHeater α)

theorem cutPower_move (fault : Fault α) (time : α) : h.FaultMove (h.cutPower fault time) :=
  (h.raise_move fault).after (setPower_sameFault ..)

theorem regulate_move (sample : Sample α) (target time : α) :
    h.FaultMove (h.regulate sample target time) := by
  rcases h.regulate_cases sample target time with
    ⟨-, -, heq⟩ | ⟨-, -, heq⟩ | ⟨-, -, heq⟩ | ⟨-, -, heq⟩ | ⟨-, -, heq⟩ <;> rw [heq]
  · exact (h.setPower_sameFault ..).move
  · exact h.cutPower_move ..
  · exact (cutPower_move ..).before (h.endAutotune_sameFault ..)
  · exact h.acknowledged_move
  · exact h.acknowledged_move.after (consume_sameFault ..)

end moves

theorem tick_move (h : BoardHeater α) (sample : Sample α) (target time : α) :
    h.FaultMove (h.tick sample target time) := by
  by_cases hstate : h.state = .shutdown
  · rw [tick_of_shutdown hstate]
    exact (SameFault.refl h).move
  · rw [tick_of_running hstate]
    exact ((regulate_move ..).before (expire_sameFault ..)).of_activate

theorem shutdown_move (h : BoardHeater α) (time : α) : h.FaultMove (h.shutdown time) := by
  by_cases hstate : h.state = .shutdown
  · rw [shutdown_of_shutdown hstate]
    exact (SameFault.refl h).move
  · have hended := h.endAutotune_sameFault (.error .aborted) time
    rw [shutdown_of_running hstate]
    exact .quiet hended.name hended.fault hended.signals (.inr (.inr rfl))

theorem obey_move (h : BoardHeater α) (command : HeaterCommand α) :
    h.FaultMove (h.obey command) := by
  refine obey_invariant (SameFault.refl h).move ?_
  intro h' hattempt
  cases command with
  | setTemp degrees =>
      rw [setTemp_eq_ok hattempt]
      exact .quiet rfl rfl rfl (.inl rfl)
  | setGains gains =>
      cases hattempt
      exact .quiet rfl rfl rfl (.inl rfl)
  | startAutotune target time =>
      obtain ⟨record, relay, -, heq⟩ := startAutotune_eq_ok hattempt
      rw [heq]
      exact .quiet rfl rfl rfl (.inl rfl)
  | abortAutotune time =>
      rw [(abortAutotune_eq_ok hattempt).2]
      exact (h.endAutotune_sameFault ..).move
  | shutdown time =>
      cases hattempt
      exact h.shutdown_move time

theorem perform_move (h : BoardHeater α) (event : HeaterEvent α) :
    h.FaultMove (h.perform event) := by
  cases event with
  | activate time => exact h.activate_move time
  | command command => exact h.obey_move command
  | tick sample target time => exact h.tick_move sample target time

end HeaterHost.BoardHeater
