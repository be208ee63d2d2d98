import HeaterHost.Proofs.Heater.Orders
import HeaterHost.Proofs.Heater.RelayInCharge
import HeaterHost.Proofs.Double.NotANumber

/-!
# Targets within the limits

The checks of a requested temperature are made of comparisons, and a NaN passes them all. A finite
temperature that passes is zero or within the limits; so are then the target of a heater, that of its
experiments, the one it goes back to, and all that it queues.
-/

namespace HeaterHost

open Autotune Double Wire

/-- A target is zero, or it is within the limits; it is finite in either case. -/
structure SafeTarget (low high target : Float) : Prop where
  finite : Decimal.isFinite target = true
  within : (target == 0.0) = true ∨ (low ≤ target ∧ target ≤ high)

def Wire.DeviceCommand.TargetSatisfies {α : Type} (allowed : α → Prop) : DeviceCommand α → Prop
  | setTarget degrees => allowed degrees
  | _ => True

theorem Wire.DeviceCommand.TargetSatisfies.of_target?_eq_none {α : Type} {allowed : α → Prop}
    {command : DeviceCommand α} (hcommand : command.target? = none) :
    command.TargetSatisfies allowed := by
  cases command with
  | setTarget degrees => cases hcommand
  | _ => trivial

theorem SafeTarget.zero (low high : Float) : SafeTarget low high 0.0 :=
  ⟨by decide +kernel, .inl (by decide +kernel)⟩

section checks

variable {low high target : Float}

theorem SafeTarget.of_checkTarget (hlow : low.isNaN = false) (hhigh : high.isNaN = false)
    (hfinite : Decimal.isFinite target = true) (hcheck : checkTarget target low high = .ok ()) :
    SafeTarget low high target := by
  have hnan : target.isNaN = false := isNaN_of_isFinite hfinite
  refine ⟨hfinite, ?_⟩
  unfold checkTarget at hcheck
  by_cases hzero : (target == 0.0) = true
  · exact .inl hzero
  · by_cases hrefused : (decide (target < low) || decide (high < target)) = true
    · rw [if_pos] at hcheck
      · cases hcheck
      · rw [bne, Bool.eq_false_of_not_eq_true hzero, hrefused]
        rfl
    · rw [Bool.or_eq_true, decide_eq_true_iff, decide_eq_true_iff, not_or] at hrefused
      exact .inr ⟨le_of_not_lt hnan hlow hrefused.1, le_of_not_lt hhigh hnan hrefused.2⟩

/-- The range of an experiment has open ends. -/
theorem SafeTarget.of_inRange (hlow : low.isNaN = false) (hhigh : high.isNaN = false)
    (hfinite : Decimal.isFinite target = true) (hrange : ¬ (target ≤ low ∨ high ≤ target)) :
    SafeTarget low high target := by
  have hnan : target.isNaN = false := isNaN_of_isFinite hfinite
  rw [not_or] at hrange
  exact ⟨hfinite, .inr ⟨le_of_not_le hnan hlow hrange.1, le_of_not_le hhigh hnan hrange.2⟩⟩

end checks

theorem Autotune.Record.finish_target {α : Type} {r : Record α} {relay : Relay α}
    {result : Except (FailReason α) (Gains α)} {time : α} {run : Run α}
    (hrun : (r.finish relay result time).run = some run) :
    ∃ before, r.run = some before ∧ run.target = before.target := by
  cases hbefore : r.run with
  | none =>
      simp only [finish, hbefore] at hrun
      cases hrun
  | some before =>
      cases result <;> simp only [finish, hbefore, Option.some.injEq] at hrun <;> subst hrun
      · exact ⟨before, rfl, rfl⟩
      · exact ⟨before, rfl, rfl⟩

namespace BoardHeater

/-- The targets of a heater, its own and those of its experiments, are safe, and so is all that it
has queued. -/
structure Confined (low high : Float) (h : BoardHeater Float) : Prop where
  minTemp : h.settings.minTemp = low
  maxTemp : h.settings.maxTemp = high
  vetted : h.Vetted (DeviceCommand.TargetSatisfies (SafeTarget low high))
  relay : h.RelayHolds fun relay => SafeTarget low high relay.target
  run : ∀ run, h.record.run = some run → SafeTarget low high run.target

variable {h h' k : BoardHeater Float} {low high : Float}

theorem checkTarget_of_setTemp {degrees : Float} (hset : h.setTemp degrees = (h', .ok ())) :
    checkTarget degrees h.settings.minTemp h.settings.maxTemp = .ok () := by
  rcases h.setTemp_cases degrees with ⟨hcheck, -⟩ | ⟨_, -, heq⟩
  · exact hcheck
  · cases hset.symm.trans heq

namespace Confined

theorem create (name : String) (settings : HeaterSettings Float) :
    (BoardHeater.create name settings).Confined settings.minTemp settings.maxTemp :=
  ⟨rfl, rfl, .create name settings (.zero ..), nofun, nofun⟩

theorem collected (hconfined : h.Confined low high) : h.collected.Confined low high :=
  ⟨hconfined.minTemp, hconfined.maxTemp,
    ⟨nofun, hconfined.vetted.target, hconfined.vetted.priorTarget⟩, hconfined.relay, hconfined.run⟩

/-- A run on record keeps its target, and a new one has the target of its experiment. -/
theorem perform_run (hconfined : h.Confined low high) {event : HeaterEvent Float}
    (hstarted : ∀ target time h', event = .command (.startAutotune target time) →
      h.startAutotune target time = (h', .ok ()) → SafeTarget low high target) (run : Run Float)
    (hrun : (h.perform event).record.run = some run) : SafeTarget low high run.target := by
  rcases h.perform_record_cases event with
    hsame | ⟨-, relay, result, time, hclosed⟩ | ⟨target, time, h', hevent, hstart, hopened⟩
  · rw [hsame] at hrun
    exact hconfined.run run hrun
  · rw [hclosed] at hrun
    obtain ⟨before, hbefore, htarget⟩ := Record.finish_target hrun
    rw [htarget]
    exact hconfined.run before hbefore
  · rw [hopened] at hrun
    obtain rfl := Option.some.inj hrun
    exact hstarted target time h' hevent hstart

variable (hlow : low.isNaN = false) (hhigh : high.isNaN = false)

include hlow hhigh

/-- A target that is taken on has passed a check. -/
theorem orders (hconfined : h.Confined low high) {event : HeaterEvent Float} {target : Float}
    (horder : DeviceCommand.setTarget target ∈ h.orders event)
    (hfinite : Decimal.isFinite target = true) : SafeTarget low high target := by
  cases event with
  | activate time => cases horder
  | tick sample heated time =>
      exact absurd horder (setTarget_notMem_orders_tick sample heated time target)
  | command command =>
      rcases h.attempt_cases command with ⟨h', hattempt⟩ | ⟨error, hattempt⟩
      case inr =>
        rw [orders_of_refused hattempt] at horder
        cases horder
      rw [orders_of_attempt hattempt] at horder
      rcases HeaterCommand.setTarget_mem_orders horder with rfl | ⟨time, rfl⟩ | ⟨-, rfl⟩
      · have hcheck := checkTarget_of_setTemp hattempt
        rw [hconfined.minTemp, hconfined.maxTemp] at hcheck
        exact .of_checkTarget hlow hhigh hfinite hcheck
      · have hrange := (startAutotune_eq_started hattempt).2.1
        rw [hconfined.minTemp, hconfined.maxTemp] at hrange
        exact .of_inRange hlow hhigh hfinite hrange
      · exact .zero ..

/-- Where every new target is finite, all targets stay safe. -/
theorem perform (hconfined : h.Confined low high) {event : HeaterEvent Float}
    (hfinite : ∀ target, DeviceCommand.setTarget target ∈ h.orders event →
      Decimal.isFinite target = true) : (h.perform event).Confined low high := by
  have hsafe : ∀ target, DeviceCommand.setTarget target ∈ h.orders event →
      SafeTarget low high target :=
    fun target horder => hconfined.orders hlow hhigh horder (hfinite target horder)
  have hstarted : ∀ target time h', event = .command (.startAutotune target time) →
      h.startAutotune target time = (h', .ok ()) → SafeTarget low high target := by
    rintro target time h' rfl hstart
    have hattempt : h.attempt (.startAutotune target time) = (h', .ok ()) := hstart
    apply hsafe
    rw [orders_of_attempt hattempt]
    exact List.mem_singleton_self _
  refine ⟨?_, ?_, ?_, ?_, ?_⟩
  · rw [perform_settings, hconfined.minTemp]
  · rw [perform_settings, hconfined.maxTemp]
  · refine hconfined.vetted.perform trivial ?_
    intro command horder
    cases command with
    | setTarget target => exact hsafe target horder
    | _ => trivial
  · refine hconfined.relay.perform ?_ hstarted
    intro relay time temp hrelay
    rw [Relay.advance_target]
    exact hrelay
  · exact hconfined.perform_run hstarted

end Confined

end BoardHeater

end HeaterHost
