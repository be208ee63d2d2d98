import HeaterHost.Proofs.Heater.Queue

/-!
# The end of an experiment

Gains found, no oscillation, a temperature that is too high and an abort all leave the heater
without power, and the PID takes over on the next tick. The timeout is different: the tick that
finds it goes on with the sample and the target it was called with, which is still the target of
the experiment. Whether that tick heats is decided by one number, the power that the PID asks for.
-/

namespace HeaterHost

open Autotune Wire

namespace BoardHeater

section general

variable {α : Type} [Scalar α]

/-- The heater is off, and the last power it queued says so. -/
structure Cold (h : BoardHeater α) : Prop where
  power : h.lastPower = 0.0
  queued : h.lastQueued DeviceCommand.power? = some 0.0

namespace Cold

variable {h : BoardHeater α}

theorem released (h : BoardHeater α) (relay : Relay α) (resume : Pid α) (priorTarget : α)
    (result : Except (FailReason α) (Gains α)) (time : α) :
    (h.released relay resume priorTarget result time).Cold :=
  ⟨rfl, rfl⟩

theorem setPower_zero (hcold : h.Cold) (time : α) (force : Bool) :
    (h.setPower time 0.0 force).Cold := by
  rcases h.setPower_cases time 0.0 force with ⟨-, -, heq⟩ | heq <;> rw [heq]
  · exact hcold
  · exact ⟨rfl, rfl⟩

theorem cutPower (hcold : h.Cold) (fault : Fault α) (time : α) : (h.cutPower fault time).Cold := by
  rcases h.cutPower_cases fault time with ⟨-, heq⟩ | heq <;> rw [heq]
  · exact hcold.setPower_zero time false
  · exact ⟨rfl, rfl⟩

theorem acknowledged (hcold : h.Cold) : h.acknowledged.Cold :=
  ⟨by simpa using hcold.power, by simpa [lastQueued] using hcold.queued⟩

end Cold

/-- What a heater is after an experiment whose PID has had nothing to do yet. -/
structure Ended (h : BoardHeater α) (resume : Pid α) (priorTarget : α) : Prop where
  cold : h.Cold
  target : h.target = priorTarget
  control : h.control = .pid resume.reset

namespace Ended

variable {h : BoardHeater α} {resume : Pid α} {priorTarget : α}

theorem released (h : BoardHeater α) (relay : Relay α) (resume : Pid α) (priorTarget : α)
    (result : Except (FailReason α) (Gains α)) (time : α) :
    (h.released relay resume priorTarget result time).Ended resume priorTarget :=
  ⟨.released .., rfl, rfl⟩

theorem setPower_zero (hended : h.Ended resume priorTarget) (time : α) (force : Bool) :
    (h.setPower time 0.0 force).Ended resume priorTarget :=
  ⟨hended.cold.setPower_zero time force, (setPower_target ..).trans hended.target,
    (setPower_control ..).trans hended.control⟩

theorem cutPower (hended : h.Ended resume priorTarget) (fault : Fault α) (time : α) :
    (h.cutPower fault time).Ended resume priorTarget := by
  refine ⟨hended.cold.cutPower fault time, ?_, ?_⟩
  · exact (cutPower_target h fault time).trans hended.target
  · exact (cutPower_control h fault time).trans hended.control

theorem acknowledged (hended : h.Ended resume priorTarget) :
    h.acknowledged.Ended resume priorTarget :=
  ⟨hended.cold.acknowledged, (acknowledged_target h).trans hended.target,
    (acknowledged_control h).trans hended.control⟩

end Ended

/-- The power that the PID asks for on the tick that finds an experiment out of time: it gets a
fresh sample that can be used, and the target of the experiment. -/
def resumedPower (h : BoardHeater α) (sample : Sample α) (time : α) : Option α :=
  match h.control with
  | .pid _ => none
  | .autotune relay resume _ =>
      if (relay.expired? time).isSome = true ∧ h.Usable sample time ∧
          sample.isConsumed h.lastSample = false then
        some (h.pidPower resume.reset sample h.target)
      else none

variable {h : BoardHeater α} {relay : Relay α} {resume : Pid α} {priorTarget : α}

theorem resumedPower_of_autotune (hcontrol : h.control = .autotune relay resume priorTarget)
    (sample : Sample α) (time : α) :
    h.resumedPower sample time =
      if (relay.expired? time).isSome = true ∧ h.Usable sample time ∧
          sample.isConsumed h.lastSample = false then
        some (h.pidPower resume.reset sample h.target)
      else none := by
  simp only [resumedPower, hcontrol]

/-- A tick that ends an experiment which still had time leaves the PID for the next tick. -/
theorem tick_ended_of_unexpired (hcontrol : h.control = .autotune relay resume priorTarget)
    {sample : Sample α} {target time : α} (hunexpired : relay.expired? time = none)
    (hend : (h.tick sample target time).control.isAutotune = false) :
    (h.tick sample target time).Ended resume priorTarget := by
  have hrunning : h.control.isAutotune = true := by
    rw [hcontrol]
    rfl
  have hstate : h.state ≠ .shutdown := by
    intro hshutdown
    rw [tick_of_shutdown hshutdown, hrunning] at hend
    cases hend
  have hready : h.readied time = h.activate time := readied_of_unexpired hcontrol hunexpired
  have hreadyControl : (h.activate time).control = .autotune relay resume priorTarget :=
    (activate_control h time).trans hcontrol
  rw [tick_of_running hstate, hready] at hend ⊢
  -- The ways through a tick that leave the experiment running contradict its end.
  rcases (h.activate time).regulate_cases sample target time with
    ⟨-, -, heq⟩ | ⟨-, -, heq⟩ | ⟨-, -, heq⟩ | ⟨-, -, heq⟩ | ⟨-, -, heq⟩ <;> rw [heq] at hend ⊢
  · rw [setPower_control, hreadyControl] at hend
    cases hend
  · rw [cutPower_control, hreadyControl] at hend
    cases hend
  · rw [endAutotune_of_autotune hreadyControl]
    exact (Ended.released ..).cutPower ..
  · rw [acknowledged_control, hreadyControl] at hend
    cases hend
  · have hjudged := (acknowledged_control (h.activate time)).trans hreadyControl
    rcases (h.activate time).acknowledged.consume_cases sample target time with
      ⟨_, hpid, -⟩ | ⟨_, _, _, _, _, -, hcarry⟩ | ⟨_, _, _, _, _, hauto, hfinished⟩
    · rw [hpid] at hjudged
      cases hjudged
    · rw [hcarry, setPower_control] at hend
      cases hend
    · rw [hauto] at hjudged
      cases hjudged
      rw [hfinished]
      exact Ended.released ..

/-- Once the experiment is out of time, the PID goes on if the sample that the tick then judges is
usable and new. -/
theorem resumedPower_of_expired (hcontrol : h.control = .autotune relay resume priorTarget)
    {time : α} (hexpired : (relay.expired? time).isSome = true) (sample : Sample α) :
    h.resumedPower sample time =
      if (h.readied time).Usable sample time ∧
          sample.isConsumed (h.readied time).lastSample = false then
        some (h.pidPower resume.reset sample h.target)
      else none := by
  have husable := usable_congr (h.readied_settings time) sample time
  rw [resumedPower_of_autotune hcontrol, readied_lastSample]
  simp only [hexpired, true_and, husable]

/-- The PID that takes over from an experiment drives a heater that was just switched off. -/
theorem Ended.resumes {k : BoardHeater α} (hended : k.Ended resume priorTarget)
    (sample : Sample α) (target time : α) :
    ∃ k' : BoardHeater α, k'.Cold ∧ k'.target = priorTarget ∧
      k.acknowledged.consume sample target time =
        k'.setPower time (k.pidPower resume.reset sample target) false := by
  have hjudged := hended.acknowledged
  have hpower : k.acknowledged.pidPower resume.reset sample target =
      k.pidPower resume.reset sample target := by
    rw [pidPower, pidPower, acknowledged_settings]
  refine ⟨{ k.acknowledged.noted sample with
      control := .pid (resume.reset.update sample.timestamp sample.value target) },
    ⟨hjudged.cold.power, hjudged.cold.queued⟩, hjudged.target, ?_⟩
  rw [consume_of_pid hjudged.control, hpower]

/-- A tick that finds an experiment out of time ends it, and then goes on with the sample. -/
theorem tick_of_expired (hcontrol : h.control = .autotune relay resume priorTarget)
    (hstate : h.state ≠ .shutdown) {sample : Sample α} {time : α}
    (hexpired : (relay.expired? time).isSome = true) :
    (h.resumedPower sample time = none ∧
      (h.tick sample h.target time).Ended resume priorTarget) ∨
    ∃ (k : BoardHeater α) (power : α), h.resumedPower sample time = some power ∧ k.Cold ∧
      k.target = priorTarget ∧ h.tick sample h.target time = k.setPower time power false := by
  obtain ⟨reason, hreason⟩ := Option.isSome_iff_exists.mp hexpired
  have hended : (h.readied time).Ended resume priorTarget := by
    rw [readied_of_expired hcontrol hreason]
    exact Ended.released ..
  rw [tick_of_running hstate, resumedPower_of_expired hcontrol hexpired]
  rcases (h.readied time).regulate_cases sample h.target time with
    ⟨hstale, -, heq⟩ | ⟨hstale, -, heq⟩ | ⟨-, hhot, heq⟩ | ⟨-, hconsumed, heq⟩ |
      ⟨husable, hfresh, heq⟩ <;> rw [heq]
  · refine .inl ⟨if_neg ?_, hended.setPower_zero time false⟩
    rintro ⟨husable, -⟩
    exact Bool.false_ne_true (husable.fresh.symm.trans hstale)
  · refine .inl ⟨if_neg ?_, hended.cutPower ..⟩
    rintro ⟨husable, -⟩
    exact Bool.false_ne_true (husable.fresh.symm.trans hstale)
  · refine .inl ⟨if_neg ?_, ?_⟩
    · rintro ⟨husable, -⟩
      exact husable.inRange hhot
    · rw [endAutotune_of_pid hended.control]
      exact hended.cutPower ..
  · refine .inl ⟨if_neg ?_, hended.acknowledged⟩
    rintro ⟨-, hfresh⟩
    exact Bool.false_ne_true (hfresh.symm.trans hconsumed)
  · obtain ⟨k, hcold, htarget, hresumes⟩ := hended.resumes sample h.target time
    have hpower : (h.readied time).pidPower resume.reset sample h.target =
        h.pidPower resume.reset sample h.target := by
      rw [pidPower, pidPower, readied_settings]
    refine .inr ⟨k, _, if_pos ⟨husable, hfresh⟩, hcold, htarget, ?_⟩
    rw [hresumes, hpower]

/-- Whatever ends an experiment in a tick, either the PID has to wait for the next tick, or the
experiment ran out of time and the PID sets its power on the heater that was just switched off. -/
theorem tick_ending_cases (hcontrol : h.control = .autotune relay resume priorTarget)
    {sample : Sample α} {time : α}
    (hend : (h.tick sample h.target time).control.isAutotune = false) :
    (h.resumedPower sample time = none ∧
      (h.tick sample h.target time).Ended resume priorTarget) ∨
    ∃ (k : BoardHeater α) (power : α), h.resumedPower sample time = some power ∧ k.Cold ∧
      k.target = priorTarget ∧ h.tick sample h.target time = k.setPower time power false := by
  cases hexpired : relay.expired? time with
  | none =>
      refine .inl ⟨?_, tick_ended_of_unexpired hcontrol hexpired hend⟩
      rw [resumedPower_of_autotune hcontrol, if_neg]
      rintro ⟨hsome, -⟩
      rw [hexpired] at hsome
      cases hsome
  | some reason =>
      refine tick_of_expired hcontrol ?_ (by rw [hexpired]; rfl)
      intro hshutdown
      rw [tick_of_shutdown hshutdown, hcontrol] at hend
      cases hend

end general

theorem zero_is_small : Scalar.abs ((0.0 : Float) - 0.0) < deadband := by
  decide +kernel

/-- The tick that ends an experiment restores the target, and leaves the heater off with a zero
queued last exactly if the PID does not ask for a power beyond the deadband on that same tick. If
it is not asked at all, it takes over as it was before the experiment, with nothing accumulated. -/
theorem ending_tick_is_cold_iff (h : BoardHeater Float) (relay : Relay Float) (resume : Pid Float)
    (priorTarget : Float) (sample : Sample Float) (time : Float)
    (hcontrol : h.control = .autotune relay resume priorTarget)
    (hend : (h.tick sample h.target time).control.isAutotune = false) :
    let ended := h.tick sample h.target time
    ended.target = priorTarget ∧
    ((ended.lastPower = 0.0 ∧ ended.lastQueued DeviceCommand.power? = some 0.0) ↔
      ∀ power, h.resumedPower sample time = some power →
        Scalar.abs (power - 0.0) < deadband) ∧
    (∀ power, h.resumedPower sample time = some power →
      ¬ Scalar.abs (power - 0.0) < deadband → ended.lastPower = power) ∧
    (h.resumedPower sample time = none → ended.control = .pid resume.reset) := by
  intro ended
  rcases tick_ending_cases hcontrol hend with
    ⟨hnone, hended⟩ | ⟨k, power, hpower, hcold, htarget, heq⟩
  · refine ⟨hended.target, ⟨?_, fun _ => ⟨hended.cold.power, hended.cold.queued⟩⟩, ?_,
      fun _ => hended.control⟩
    · intro _ power hsome
      rw [hnone] at hsome
      cases hsome
    · intro power hsome
      rw [hnone] at hsome
      cases hsome
  · have hended : ended = k.setPower time power false := heq
    rw [hpower, hended]
    refine ⟨(setPower_target ..).trans htarget, ⟨?_, ?_⟩, ?_, by simp⟩
    · rintro ⟨hoff, -⟩ power' hsome
      cases hsome
      rcases k.setPower_cases time power false with ⟨-, hsmall, -⟩ | hsent
      · rwa [hcold.power] at hsmall
      · rw [hsent] at hoff
        change power = 0.0 at hoff
        rw [hoff]
        exact zero_is_small
    · intro hsmall
      rw [setPower_of_small time (by rw [hcold.power]; rfl)
        (by rw [hcold.power]; exact hsmall power rfl)]
      exact ⟨hcold.power, hcold.queued⟩
    · intro power' hsome hlarge
      cases hsome
      rcases k.setPower_cases time power false with ⟨-, hsmall, -⟩ | hsent
      · rw [hcold.power] at hsmall
        exact absurd hsmall hlarge
      · rw [hsent]

/-- A heater in its experiment towards 200 degrees, which may take ten seconds. -/
def tuning : BoardHeater Float :=
  (create "extruder"
    { HeaterConfig.onBoard "/dev/ttyACM1" 10.0 450.0 with tuneTimeout := 10.0 }.settings).replay
    [.command (.startAutotune 200.0 0.0), .tick (Sample.reading 1.0 50.0) 200.0 1.0]

theorem overtime_tick_is_cold_without_sample :
    ∃ relay resume priorTarget,
      tuning.control = .autotune relay resume priorTarget ∧
      (tuning.tick (Sample.failed 1.0 50.0) tuning.target 11.0).control.isAutotune = false ∧
      (tuning.tick (Sample.failed 1.0 50.0) tuning.target 11.0).lastPower = 0.0 ∧
      (tuning.tick (Sample.failed 1.0 50.0) tuning.target 11.0).lastQueued
        DeviceCommand.power? = some 0.0 := by
  have hend :
      (tuning.tick (Sample.failed 1.0 50.0) tuning.target 11.0).control.isAutotune = false := by
    decide +kernel
  have hnone : tuning.resumedPower (Sample.failed 1.0 50.0) 11.0 = none := by
    decide +kernel
  cases hcontrol : tuning.control with
  | pid law =>
      have hrunning : tuning.control.isAutotune = true := by decide +kernel
      rw [hcontrol] at hrunning
      cases hrunning
  | autotune relay resume priorTarget =>
      have hcold := (ending_tick_is_cold_iff tuning relay resume priorTarget
        (Sample.failed 1.0 50.0) 11.0 hcontrol hend).2.1.mpr (by simp [hnone])
      exact ⟨relay, resume, priorTarget, rfl, hend, hcold⟩

/-- With a fresh sample the same tick restores the target of zero, and switches the heater on
again. -/
theorem overtime_tick_heats :
    tuning.control.isAutotune = true ∧
    (tuning.tick (Sample.reading 11.0 60.0) tuning.target 11.0).control.isAutotune = false ∧
    (tuning.tick (Sample.reading 11.0 60.0) tuning.target 11.0).target = 0.0 ∧
    (tuning.tick (Sample.reading 11.0 60.0) tuning.target 11.0).lastPower = 1.0 := by
  decide +kernel

end BoardHeater

end HeaterHost
