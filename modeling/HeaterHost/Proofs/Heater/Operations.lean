import HeaterHost.Heater.Board

/-!
# The operations of a heater on an INO board

One lemma for everything an operation can do, and beside it what the operation leaves alone. The
invariants of a run are derived from these lemmas; none of them unfolds an operation again.
-/

namespace HeaterHost

open Autotune Wire

/-- A run that is refused leaves the record as it was. -/
theorem Autotune.Record.start_eq_error {α : Type} [Scalar α] {r r' : Record α}
    {target minTemp time : α} {limits : Limits α} {error : AutotuneError α}
    (hstart : r.start target minTemp limits time = (r', .error error)) : r' = r := by
  unfold start at hstart
  split at hstart
  · cases hstart
    rfl
  · split at hstart <;> cases hstart
    rfl

namespace BoardHeater

variable {α : Type}

/-! ### Faults -/

/-- A fault of another kind than the present one becomes the heater's fault. -/
theorem raise_of_new {h : BoardHeater α} {fault : Fault α} (hnew : h.hasFaultLike fault = false) :
    h.raise fault =
      { h with
        fault := some fault
        state := .faulted
        signals := .raised fault :: h.signals } := by
  simp [raise, hnew]

theorem raise_of_known {h : BoardHeater α} {fault : Fault α}
    (hknown : h.hasFaultLike fault = true) : h.raise fault = h := by
  simp [raise, hknown]

/-- The heater once a sample has turned out to be good. -/
def acknowledged (h : BoardHeater α) : BoardHeater α :=
  { h.recover with seenValid := true }

section frame

variable (h : BoardHeater α)

@[simp] theorem acknowledged_settings : h.acknowledged.settings = h.settings := by
  simp only [acknowledged, recover]
  split <;> rfl

@[simp] theorem acknowledged_control : h.acknowledged.control = h.control := by
  simp only [acknowledged, recover]
  split <;> rfl

@[simp] theorem acknowledged_target : h.acknowledged.target = h.target := by
  simp only [acknowledged, recover]
  split <;> rfl

@[simp] theorem acknowledged_lastPower : h.acknowledged.lastPower = h.lastPower := by
  simp only [acknowledged, recover]
  split <;> rfl

@[simp] theorem acknowledged_outbox : h.acknowledged.outbox = h.outbox := by
  simp only [acknowledged, recover]
  split <;> rfl

@[simp] theorem acknowledged_record : h.acknowledged.record = h.record := by
  simp only [acknowledged, recover]
  split <;> rfl

@[simp] theorem acknowledged_lastSample : h.acknowledged.lastSample = h.lastSample := by
  simp only [acknowledged, recover]
  split <;> rfl

@[simp] theorem acknowledged_seenValid : h.acknowledged.seenValid = true := rfl

theorem acknowledged_state_ne_faulted : h.acknowledged.state ≠ .faulted := by
  by_cases hfaulted : h.state = .faulted
  · simp [acknowledged, recover, hfaulted]
  · simp [acknowledged, recover, hfaulted]

theorem acknowledged_state_eq_shutdown_iff :
    h.acknowledged.state = .shutdown ↔ h.state = .shutdown := by
  by_cases hfaulted : h.state = .faulted
  · simp [acknowledged, recover, hfaulted]
  · simp [acknowledged, recover, hfaulted]

theorem acknowledged_fault :
    h.acknowledged.fault = if h.state = .faulted then none else h.fault := by
  by_cases hfaulted : h.state = .faulted
  · simp [acknowledged, recover, hfaulted]
  · simp [acknowledged, recover, hfaulted]

end frame

/-! ### Activation -/

@[simp] theorem activate_settings (h : BoardHeater α) (time : α) :
    (h.activate time).settings = h.settings := by
  unfold activate
  split <;> rfl

@[simp] theorem activate_control (h : BoardHeater α) (time : α) :
    (h.activate time).control = h.control := by
  unfold activate
  split <;> rfl

@[simp] theorem activate_target (h : BoardHeater α) (time : α) :
    (h.activate time).target = h.target := by
  unfold activate
  split <;> rfl

@[simp] theorem activate_record (h : BoardHeater α) (time : α) :
    (h.activate time).record = h.record := by
  unfold activate
  split <;> rfl

theorem activate_of_shutdown {h : BoardHeater α} (hstate : h.state = .shutdown) (time : α) :
    h.activate time = h := by
  rw [activate, if_neg (by simp [hstate])]

@[simp] theorem activate_lastSample (h : BoardHeater α) (time : α) :
    (h.activate time).lastSample = h.lastSample := by
  unfold activate
  split <;> rfl

variable [Scalar α]

/-! ### Setting the power -/

/-- A power is either held back, which a forced one never is, or becomes the last power and is
queued. -/
theorem setPower_cases (h : BoardHeater α) (time power : α) (force : Bool) :
    (force = false ∧ Scalar.abs (power - h.lastPower) < deadband ∧
      h.setPower time power force = h) ∨
    h.setPower time power force =
      { h with
        refreshTime := time + 0.75 * maxHeatTime
        lastPower := power
        outbox := .setPower power :: h.outbox } := by
  simp only [setPower]
  split
  case isTrue hheld =>
    simp only [Bool.and_eq_true, Bool.not_eq_true', decide_eq_true_eq] at hheld
    exact .inl ⟨hheld.1.1, hheld.2, rfl⟩
  case isFalse => exact .inr rfl

theorem setPower_forced (h : BoardHeater α) (time power : α) :
    h.setPower time power true =
      { h with
        refreshTime := time + 0.75 * maxHeatTime
        lastPower := power
        outbox := .setPower power :: h.outbox } := by
  rcases h.setPower_cases time power true with ⟨hforce, -⟩ | hsent
  · cases hforce
  · exact hsent

/-- Before it has to be sent again, a power that has hardly changed is held back. -/
theorem setPower_of_early {h : BoardHeater α} {time power : α} (hearly : time < h.refreshTime)
    (hsmall : Scalar.abs (power - h.lastPower) < deadband) : h.setPower time power false = h := by
  simp [setPower, hearly, hsmall]

/-- While the heater is off, a small power is held back. -/
theorem setPower_of_small {h : BoardHeater α} {power : α} (time : α)
    (hoff : (h.lastPower == 0.0) = true)
    (hsmall : Scalar.abs (power - h.lastPower) < deadband) : h.setPower time power false = h := by
  simp [setPower, hoff, hsmall]

section frame

variable (h : BoardHeater α) (time power : α) (force : Bool)

@[simp] theorem setPower_state : (h.setPower time power force).state = h.state := by
  rcases h.setPower_cases time power force with ⟨-, -, heq⟩ | heq <;> rw [heq]

@[simp] theorem setPower_settings : (h.setPower time power force).settings = h.settings := by
  rcases h.setPower_cases time power force with ⟨-, -, heq⟩ | heq <;> rw [heq]

@[simp] theorem setPower_control : (h.setPower time power force).control = h.control := by
  rcases h.setPower_cases time power force with ⟨-, -, heq⟩ | heq <;> rw [heq]

@[simp] theorem setPower_target : (h.setPower time power force).target = h.target := by
  rcases h.setPower_cases time power force with ⟨-, -, heq⟩ | heq <;> rw [heq]

@[simp] theorem setPower_record : (h.setPower time power force).record = h.record := by
  rcases h.setPower_cases time power force with ⟨-, -, heq⟩ | heq <;> rw [heq]

@[simp] theorem setPower_fault : (h.setPower time power force).fault = h.fault := by
  rcases h.setPower_cases time power force with ⟨-, -, heq⟩ | heq <;> rw [heq]

@[simp] theorem setPower_seenValid :
    (h.setPower time power force).seenValid = h.seenValid := by
  rcases h.setPower_cases time power force with ⟨-, -, heq⟩ | heq <;> rw [heq]

end frame

theorem setPower_zero_lastPower (h : BoardHeater α) (time : α) (force : Bool)
    (hoff : force = true ∨ h.lastPower = 0.0) :
    (h.setPower time 0.0 force).lastPower = 0.0 := by
  rcases h.setPower_cases time 0.0 force with ⟨hforce, -, heq⟩ | heq
  · rw [heq]
    exact hoff.resolve_left (by simp [hforce])
  · rw [heq]

/-! ### The end of an experiment -/

/-- The heater that an experiment leaves behind, whatever ended it. -/
def released (h : BoardHeater α) (relay : Relay α) (resume : Pid α) (priorTarget : α)
    (result : Except (FailReason α) (Gains α)) (time : α) : BoardHeater α :=
  { h with
    record := h.record.finish relay result time
    control := .pid resume.reset
    target := priorTarget
    lastPower := 0.0
    refreshTime := time + 0.75 * maxHeatTime
    outbox := .setTarget priorTarget :: .setPower 0.0 :: h.outbox }

theorem endAutotune_of_pid {h : BoardHeater α} {law : Pid α} (hcontrol : h.control = .pid law)
    (result : Except (FailReason α) (Gains α)) (time : α) : h.endAutotune result time = h := by
  simp only [endAutotune, hcontrol]

theorem endAutotune_of_autotune {h : BoardHeater α} {relay : Relay α} {resume : Pid α}
    {priorTarget : α} (hcontrol : h.control = .autotune relay resume priorTarget)
    (result : Except (FailReason α) (Gains α)) (time : α) :
    h.endAutotune result time = h.released relay resume priorTarget result time := by
  simp only [endAutotune, hcontrol, setPower_forced]
  rfl

theorem endAutotune_cases (h : BoardHeater α) (result : Except (FailReason α) (Gains α))
    (time : α) :
    (∃ law, h.control = .pid law ∧ h.endAutotune result time = h) ∨
    ∃ relay resume priorTarget, h.control = .autotune relay resume priorTarget ∧
      h.endAutotune result time = h.released relay resume priorTarget result time := by
  cases hcontrol : h.control with
  | pid law => exact .inl ⟨law, rfl, endAutotune_of_pid hcontrol result time⟩
  | autotune relay resume priorTarget =>
      exact .inr ⟨relay, resume, priorTarget, rfl, endAutotune_of_autotune hcontrol result time⟩

section frame

variable (h : BoardHeater α) (result : Except (FailReason α) (Gains α)) (time : α)

@[simp] theorem endAutotune_state : (h.endAutotune result time).state = h.state := by
  rcases h.endAutotune_cases result time with ⟨_, -, heq⟩ | ⟨_, _, _, -, heq⟩ <;> rw [heq]
  rfl

@[simp] theorem endAutotune_settings :
    (h.endAutotune result time).settings = h.settings := by
  rcases h.endAutotune_cases result time with ⟨_, -, heq⟩ | ⟨_, _, _, -, heq⟩ <;> rw [heq]
  rfl

@[simp] theorem endAutotune_fault : (h.endAutotune result time).fault = h.fault := by
  rcases h.endAutotune_cases result time with ⟨_, -, heq⟩ | ⟨_, _, _, -, heq⟩ <;> rw [heq]
  rfl

@[simp] theorem endAutotune_seenValid :
    (h.endAutotune result time).seenValid = h.seenValid := by
  rcases h.endAutotune_cases result time with ⟨_, -, heq⟩ | ⟨_, _, _, -, heq⟩ <;> rw [heq]
  rfl

@[simp] theorem endAutotune_isAutotune :
    (h.endAutotune result time).control.isAutotune = false := by
  rcases h.endAutotune_cases result time with ⟨_, hcontrol, heq⟩ | ⟨_, _, _, -, heq⟩ <;> rw [heq]
  · rw [hcontrol]
    rfl
  · rfl

end frame

theorem endAutotune_lastPower (h : BoardHeater α) (result : Except (FailReason α) (Gains α))
    (time : α) (hoff : h.control.isAutotune = true ∨ h.lastPower = 0.0) :
    (h.endAutotune result time).lastPower = 0.0 := by
  rcases h.endAutotune_cases result time with ⟨law, hcontrol, heq⟩ | ⟨_, _, _, -, heq⟩
  · rw [heq]
    exact hoff.resolve_left (by simp [hcontrol, ActiveControl.isAutotune])
  · rw [heq]
    rfl

/-! ### Switching off for a fault -/

/-- A fault switches the power off: at once if it is new, and if it is not the power is as it
was. -/
theorem cutPower_cases (h : BoardHeater α) (fault : Fault α) (time : α) :
    (h.fault.isSome = true ∧ h.cutPower fault time = h.setPower time 0.0 false) ∨
    h.cutPower fault time =
      { h with
        fault := some fault
        state := .faulted
        signals := .raised fault :: h.signals
        refreshTime := time + 0.75 * maxHeatTime
        lastPower := 0.0
        outbox := .setPower 0.0 :: h.outbox } := by
  cases hknown : h.hasFaultLike fault with
  | true =>
      refine .inl ⟨?_, ?_⟩
      · cases hfault : h.fault with
        | none => simp [hasFaultLike, hfault] at hknown
        | some _ => rfl
      · rw [cutPower, raise_of_known hknown, hknown]
        rfl
  | false =>
      refine .inr ?_
      rw [cutPower, raise_of_new hknown, hknown, Bool.not_false, setPower_forced]

@[simp] theorem cutPower_control (h : BoardHeater α) (fault : Fault α) (time : α) :
    (h.cutPower fault time).control = h.control := by
  rcases h.cutPower_cases fault time with ⟨-, heq⟩ | heq <;> rw [heq]
  exact setPower_control ..

@[simp] theorem cutPower_target (h : BoardHeater α) (fault : Fault α) (time : α) :
    (h.cutPower fault time).target = h.target := by
  rcases h.cutPower_cases fault time with ⟨-, heq⟩ | heq <;> rw [heq]
  exact setPower_target ..

@[simp] theorem cutPower_record (h : BoardHeater α) (fault : Fault α) (time : α) :
    (h.cutPower fault time).record = h.record := by
  rcases h.cutPower_cases fault time with ⟨-, heq⟩ | heq <;> rw [heq]
  exact setPower_record ..

/-! ### Commands

What can be refused is checked before anything is changed, so a refusal leaves the heater as it was.
-/

theorem setTemp_cases (h : BoardHeater α) (degrees : α) :
    (checkTarget degrees h.settings.minTemp h.settings.maxTemp = .ok () ∧
      h.setTemp degrees =
        ({ h with target := degrees, outbox := .setTarget degrees :: h.outbox }, .ok ())) ∨
    ∃ error, checkTarget degrees h.settings.minTemp h.settings.maxTemp = .error error ∧
      h.setTemp degrees = (h, .error error) := by
  cases hcheck : checkTarget degrees h.settings.minTemp h.settings.maxTemp with
  | error error => exact .inr ⟨error, rfl, by rw [setTemp, hcheck]⟩
  | ok _ =>
      refine .inl ⟨rfl, ?_⟩
      rw [setTemp, hcheck]
      rfl

theorem startAutotune_cases (h : BoardHeater α) (target time : α) :
    (∃ record relay,
      h.record.start target h.settings.minTemp h.settings.tuneLimits time = (record, .ok relay) ∧
      h.startAutotune target time =
        ({ h with
          record
          control := .autotune relay h.control.resting h.target
          target
          outbox := .setTarget target :: h.outbox }, .ok ())) ∨
    ∃ error,
      h.record.start target h.settings.minTemp h.settings.tuneLimits time =
        (h.record, .error error) ∧
      h.startAutotune target time = (h, .error (.autotune error)) := by
  rcases hstart : h.record.start target h.settings.minTemp h.settings.tuneLimits time with
    ⟨record, error | relay⟩
  · obtain rfl := Record.start_eq_error hstart
    exact .inr ⟨error, rfl, by rw [startAutotune, hstart]⟩
  · refine .inl ⟨record, relay, rfl, ?_⟩
    rw [startAutotune, hstart]
    rfl

theorem abortAutotune_cases (h : BoardHeater α) (time : α) :
    (h.control.isAutotune = true ∧
      h.abortAutotune time = (h.endAutotune (.error .aborted) time, .ok ())) ∨
    h.control.isAutotune = false ∧
      h.abortAutotune time = (h, .error (.autotune .notRunning)) := by
  cases hautotune : h.control.isAutotune with
  | true => exact .inl ⟨rfl, if_pos hautotune⟩
  | false => exact .inr ⟨rfl, if_neg (by rw [hautotune]; exact Bool.false_ne_true)⟩

theorem setTemp_eq_ok {h h' : BoardHeater α} {degrees : α}
    (hset : h.setTemp degrees = (h', .ok ())) :
    h' = { h with target := degrees, outbox := .setTarget degrees :: h.outbox } := by
  rcases h.setTemp_cases degrees with ⟨-, heq⟩ | ⟨_, -, heq⟩ <;> rw [heq] at hset <;> cases hset
  rfl

theorem startAutotune_eq_ok {h h' : BoardHeater α} {target time : α}
    (hstart : h.startAutotune target time = (h', .ok ())) :
    ∃ record relay,
      h.record.start target h.settings.minTemp h.settings.tuneLimits time = (record, .ok relay) ∧
      h' = { h with
        record
        control := .autotune relay h.control.resting h.target
        target
        outbox := .setTarget target :: h.outbox } := by
  rcases h.startAutotune_cases target time with ⟨record, relay, hrecord, heq⟩ | ⟨_, -, heq⟩ <;>
    rw [heq] at hstart <;> cases hstart
  exact ⟨record, relay, hrecord, rfl⟩

theorem abortAutotune_eq_ok {h h' : BoardHeater α} {time : α}
    (habort : h.abortAutotune time = (h', .ok ())) :
    h.control.isAutotune = true ∧ h' = h.endAutotune (.error .aborted) time := by
  rcases h.abortAutotune_cases time with ⟨hautotune, heq⟩ | ⟨-, heq⟩ <;>
    rw [heq] at habort <;> cases habort
  exact ⟨hautotune, rfl⟩

/-- Shutting down ends an experiment and then parks the heater. -/
theorem shutdown_of_running {h : BoardHeater α} (hstate : h.state ≠ .shutdown) (time : α) :
    h.shutdown time =
      { h.endAutotune (.error .aborted) time with
        state := .shutdown
        target := 0.0
        lastPower := 0.0
        outbox := .setPower 0.0 :: .setTarget 0.0 ::
          (h.endAutotune (.error .aborted) time).outbox } := by
  rw [shutdown, if_neg hstate]
  rfl

theorem shutdown_of_shutdown {h : BoardHeater α} (hstate : h.state = .shutdown) (time : α) :
    h.shutdown time = h := by
  rw [shutdown, if_pos hstate]

@[simp] theorem shutdown_state (h : BoardHeater α) (time : α) :
    (h.shutdown time).state = .shutdown := by
  by_cases hstate : h.state = .shutdown
  · rw [shutdown_of_shutdown hstate, hstate]
  · rw [shutdown_of_running hstate]

/-! ### A tick -/

def noted (h : BoardHeater α) (sample : Sample α) : BoardHeater α :=
  { h with
    lastSample := some sample.timestamp
    smoothing := h.smoothing.update sample.timestamp sample.value }

/-- The power that a PID asks for on a sample. Towards a target of zero or less it is none. -/
def pidPower (h : BoardHeater α) (law : Pid α) (sample : Sample α) (target : α) : α :=
  Scalar.clamp 0.0 h.settings.maxPower
    (if target ≤ 0.0 then 0.0 else law.output sample.timestamp sample.value target)

theorem consume_of_pid {h : BoardHeater α} {law : Pid α} (hcontrol : h.control = .pid law)
    (sample : Sample α) (target time : α) :
    h.consume sample target time =
      { h.noted sample with
        control := .pid (law.update sample.timestamp sample.value target) }.setPower time
        (h.pidPower law sample target) false := by
  simp only [consume, hcontrol]
  rfl

theorem consume_of_carryOn {h : BoardHeater α} {relay relay' : Relay α} {resume : Pid α}
    {priorTarget power : α} (hcontrol : h.control = .autotune relay resume priorTarget)
    {sample : Sample α} {time : α} (hfeed : relay.feed sample time = (relay', .carryOn power))
    (target : α) :
    h.consume sample target time =
      { h.noted sample with control := .autotune relay' resume priorTarget }.setPower time
        (Scalar.clamp 0.0 h.settings.maxPower power) false := by
  simp only [consume, hcontrol, hfeed]
  rfl

theorem consume_of_finished {h : BoardHeater α} {relay relay' : Relay α} {resume : Pid α}
    {priorTarget : α} {result : Except (FailReason α) (Gains α)}
    (hcontrol : h.control = .autotune relay resume priorTarget) {sample : Sample α} {time : α}
    (hfeed : relay.feed sample time = (relay', .finished result)) (target : α) :
    h.consume sample target time =
      (h.noted sample).released relay' resume priorTarget result time := by
  simp only [consume, hcontrol, hfeed]
  rw [endAutotune_of_autotune rfl]
  rfl

/-- The three things that the control can do with a fresh sample. -/
theorem consume_cases (h : BoardHeater α) (sample : Sample α) (target time : α) :
    (∃ law, h.control = .pid law ∧
      h.consume sample target time =
        { h.noted sample with
          control := .pid (law.update sample.timestamp sample.value target) }.setPower time
          (h.pidPower law sample target) false) ∨
    (∃ relay relay' resume priorTarget power,
      h.control = .autotune relay resume priorTarget ∧
      h.consume sample target time =
        { h.noted sample with control := .autotune relay' resume priorTarget }.setPower time
          (Scalar.clamp 0.0 h.settings.maxPower power) false) ∨
    ∃ relay relay' resume priorTarget result,
      h.control = .autotune relay resume priorTarget ∧
      h.consume sample target time =
        (h.noted sample).released relay' resume priorTarget result time := by
  cases hcontrol : h.control with
  | pid law => exact .inl ⟨law, rfl, consume_of_pid hcontrol sample target time⟩
  | autotune relay resume priorTarget =>
      rcases hfeed : relay.feed sample time with ⟨relay', power | result⟩
      · exact .inr (.inl ⟨relay, relay', resume, priorTarget, power, rfl,
          consume_of_carryOn hcontrol hfeed target⟩)
      · exact .inr (.inr ⟨relay, relay', resume, priorTarget, result, rfl,
          consume_of_finished hcontrol hfeed target⟩)

/-- Whether a sample can be controlled by: it is no failure, not too old, and not too hot. -/
structure Usable (h : BoardHeater α) (sample : Sample α) (time : α) : Prop where
  fresh : h.isStale sample time = false
  inRange : ¬ h.settings.maxTemp < sample.value

theorem usable_iff {h : BoardHeater α} {sample : Sample α} {time : α} :
    h.Usable sample time ↔
      h.isStale sample time = false ∧ ¬ h.settings.maxTemp < sample.value := by
  constructor
  · intro husable
    exact ⟨husable.fresh, husable.inRange⟩
  · rintro ⟨hfresh, hrange⟩
    exact ⟨hfresh, hrange⟩

instance (h : BoardHeater α) (sample : Sample α) (time : α) : Decidable (h.Usable sample time) :=
  decidable_of_iff _ usable_iff.symm

/-- The five ways through the judgement of a sample. -/
theorem regulate_cases (h : BoardHeater α) (sample : Sample α) (target time : α) :
    (h.isStale sample time = true ∧ h.awaitsFirst time = true ∧
      h.regulate sample target time = h.setPower time 0.0 false) ∨
    (h.isStale sample time = true ∧ h.awaitsFirst time = false ∧
      h.regulate sample target time = h.cutPower (.sensorLost (sample.age time)) time) ∨
    (h.isStale sample time = false ∧ h.settings.maxTemp < sample.value ∧
      h.regulate sample target time =
        (h.endAutotune (.error (.overTemperature sample.value)) time).cutPower
          (.overTemperature sample.value h.settings.maxTemp) time) ∨
    (h.Usable sample time ∧ sample.isConsumed h.lastSample = true ∧
      h.regulate sample target time = h.acknowledged) ∨
    (h.Usable sample time ∧ sample.isConsumed h.lastSample = false ∧
      h.regulate sample target time = h.acknowledged.consume sample target time) := by
  cases hstale : h.isStale sample time with
  | true =>
      cases hfirst : h.awaitsFirst time with
      | true => exact .inl ⟨rfl, rfl, by simp [regulate, hstale, hfirst]⟩
      | false => exact .inr (.inl ⟨rfl, rfl, by simp [regulate, hstale, hfirst]⟩)
  | false =>
      by_cases hhot : h.settings.maxTemp < sample.value
      · exact .inr (.inr (.inl ⟨rfl, hhot, by simp [regulate, hstale, hhot]⟩))
      · have husable : h.Usable sample time := ⟨hstale, hhot⟩
        have hjudged : h.regulate sample target time =
            if sample.isConsumed h.acknowledged.lastSample then h.acknowledged
            else h.acknowledged.consume sample target time := by
          simp only [regulate, hstale, hhot, Bool.false_eq_true, ↓reduceIte]
          rfl
        rw [acknowledged_lastSample] at hjudged
        cases hconsumed : sample.isConsumed h.lastSample with
        | true =>
            exact .inr (.inr (.inr (.inl ⟨husable, rfl, by simpa [hconsumed] using hjudged⟩)))
        | false =>
            exact .inr (.inr (.inr (.inr ⟨husable, rfl, by simpa [hconsumed] using hjudged⟩)))

/-- An experiment is ended before the sample is judged exactly if it has run for too long. -/
theorem expire_cases (h : BoardHeater α) (time : α) :
    h.expire time = h ∨
    ∃ relay resume priorTarget reason, h.control = .autotune relay resume priorTarget ∧
      relay.expired? time = some reason ∧
      h.expire time = h.released relay resume priorTarget (.error reason) time := by
  cases hcontrol : h.control with
  | pid law => exact .inl (by simp only [expire, hcontrol])
  | autotune relay resume priorTarget =>
      cases hexpired : relay.expired? time with
      | none => exact .inl (by simp only [expire, hcontrol, hexpired])
      | some reason =>
          refine .inr ⟨relay, resume, priorTarget, reason, rfl, hexpired, ?_⟩
          simp only [expire, hcontrol, hexpired]
          exact endAutotune_of_autotune hcontrol (.error reason) time

def readied (h : BoardHeater α) (time : α) : BoardHeater α :=
  (h.activate time).expire time

@[simp] theorem readied_settings (h : BoardHeater α) (time : α) :
    (h.readied time).settings = h.settings := by
  rw [readied, ← activate_settings h time]
  rcases (h.activate time).expire_cases time with heq | ⟨_, _, _, _, -, -, heq⟩ <;> rw [heq]
  rfl

@[simp] theorem readied_lastSample (h : BoardHeater α) (time : α) :
    (h.readied time).lastSample = h.lastSample := by
  rw [readied, ← activate_lastSample h time]
  rcases (h.activate time).expire_cases time with heq | ⟨_, _, _, _, -, -, heq⟩ <;> rw [heq]
  rfl

theorem readied_of_pid {h : BoardHeater α} {law : Pid α} (hcontrol : h.control = .pid law)
    (time : α) : h.readied time = h.activate time := by
  simp only [readied, expire, activate_control, hcontrol]

theorem readied_of_unexpired {h : BoardHeater α} {relay : Relay α} {resume : Pid α}
    {priorTarget time : α} (hcontrol : h.control = .autotune relay resume priorTarget)
    (hunexpired : relay.expired? time = none) : h.readied time = h.activate time := by
  simp only [readied, expire, activate_control, hcontrol, hunexpired]

theorem readied_of_expired {h : BoardHeater α} {relay : Relay α} {resume : Pid α}
    {priorTarget time : α} {reason : FailReason α}
    (hcontrol : h.control = .autotune relay resume priorTarget)
    (hexpired : relay.expired? time = some reason) :
    h.readied time =
      (h.activate time).released relay resume priorTarget (.error reason) time := by
  have hactive : (h.activate time).control = .autotune relay resume priorTarget :=
    (activate_control h time).trans hcontrol
  simp only [readied, expire, hactive, hexpired]
  exact endAutotune_of_autotune hactive (.error reason) time

theorem tick_of_shutdown {h : BoardHeater α} (hstate : h.state = .shutdown) (sample : Sample α)
    (target time : α) : h.tick sample target time = h := by
  simp [tick, hstate]

theorem tick_of_running {h : BoardHeater α} (hstate : h.state ≠ .shutdown) (sample : Sample α)
    (target time : α) :
    h.tick sample target time = (h.readied time).regulate sample target time := by
  simp [tick, hstate, readied]

theorem readied_state_eq_shutdown_iff {h : BoardHeater α} {time : α} :
    (h.readied time).state = .shutdown ↔ h.state = .shutdown := by
  have hactive : (h.activate time).state = .shutdown ↔ h.state = .shutdown := by
    by_cases hvalidated : h.state = .validated
    · simp [activate, hvalidated]
    · simp [activate, hvalidated]
  rw [readied, ← hactive]
  rcases (h.activate time).expire_cases time with heq | ⟨_, _, _, _, -, -, heq⟩ <;> rw [heq]
  rfl

theorem usable_congr {h k : BoardHeater α} (hsettings : h.settings = k.settings)
    (sample : Sample α) (time : α) : h.Usable sample time ↔ k.Usable sample time := by
  have hafter : h.staleAfter = k.staleAfter := by
    rw [staleAfter, staleAfter, hsettings]
  have hstale : h.isStale sample time = k.isStale sample time := by
    rw [isStale, isStale, hafter]
  constructor <;> rintro ⟨hfresh, hrange⟩
  · exact ⟨hstale ▸ hfresh, hsettings ▸ hrange⟩
  · exact ⟨hstale ▸ hfresh, hsettings ▸ hrange⟩

end BoardHeater

end HeaterHost
