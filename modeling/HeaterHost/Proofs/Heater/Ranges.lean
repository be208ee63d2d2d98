import HeaterHost.Heater.Stock
import HeaterHost.Proofs.Double.NonNegative
import HeaterHost.Proofs.Heater.GainsInForce

/-!
# Clamps with a range

A clamp needs a lower bound that is not above its upper one. With a power limit that is positive and
finite every clamp of a heater has a range, on a board or on the host, whatever gains are given and
whatever is measured: the limit of the integral is a quotient of positive numbers or zero.
-/

namespace HeaterHost

open Double

namespace Pid

theorem hasRanges_iff {pid : Pid Float} :
    pid.hasRanges = true ↔ 0.0 ≤ pid.integralLimit ∧ 0.0 ≤ pid.maxPower := by
  rw [hasRanges, hasIntegralRange, Bool.and_eq_true, decide_eq_true_iff, decide_eq_true_iff]

theorem RunsOn.hasRanges {pid : Pid Float} {maxPower : Float} {gains : Gains Float}
    (hruns : pid.RunsOn maxPower gains) (hpower : 0.0 < maxPower)
    (hfinite : Decimal.isFinite maxPower = true) : pid.hasRanges = true := by
  rw [hasRanges_iff, hruns.limit, hruns.power]
  refine ⟨?_, le_of_lt hpower⟩
  split
  case isTrue hgain => exact zero_le_div hpower hfinite hgain
  case isFalse => decide +kernel

end Pid

theorem BoardHeater.replay_hasRanges (name : String) (settings : HeaterSettings Float)
    (hpower : 0.0 < settings.maxPower) (hfinite : Decimal.isFinite settings.maxPower = true)
    (events : List (HeaterEvent Float)) :
    ((create name settings).replay events).control.resting.hasRanges = true := by
  have hcreated : (create name settings).control.resting.RunsOn settings.maxPower
      settings.gains := Pid.create_runsOn ..
  exact (replay_runsOn hcreated events).hasRanges hpower hfinite

/-! ### Heaters of the host's own -/

inductive StockEvent (α : Type) where
  | setTemp (degrees : α)
  | tick (sample : Sample α) (target : α)
deriving Repr

namespace StockHeater

section runs

variable {α : Type} [Scalar α]

def perform (h : StockHeater α) : StockEvent α → StockHeater α
  | .setTemp degrees => (h.setTemp degrees).1
  | .tick sample target => h.tick sample target

def replay (h : StockHeater α) (events : List (StockEvent α)) : StockHeater α :=
  events.foldl perform h

/-- A temperature is taken on, or it is refused and leaves the heater as it was. -/
theorem setTemp_cases (h : StockHeater α) (degrees : α) :
    (checkTarget degrees h.minTemp h.maxTemp = .ok () ∧
      h.setTemp degrees = ({ h with target := degrees }, .ok ())) ∨
    ∃ error, h.setTemp degrees = (h, .error error) := by
  cases hcheck : checkTarget degrees h.minTemp h.maxTemp with
  | error error => exact .inr ⟨error, by rw [setTemp, hcheck]⟩
  | ok _ => exact .inl ⟨rfl, by rw [setTemp, hcheck]⟩

theorem tick_control (h : StockHeater α) (sample : Sample α) (target : α) :
    (h.tick sample target).maxPower = h.maxPower ∧
      ((h.tick sample target).control = h.control ∨
        (h.tick sample target).control =
          (h.control.update sample.timestamp sample.value target).1) := by
  unfold tick
  split
  · exact ⟨rfl, .inl rfl⟩
  · split
    · exact ⟨rfl, .inl rfl⟩
    · exact ⟨rfl, .inr rfl⟩

/-- The limit of the power stays, and the control takes a reading in or stays as well. -/
theorem perform_control (h : StockHeater α) (event : StockEvent α) :
    (h.perform event).maxPower = h.maxPower ∧
      ((h.perform event).control = h.control ∨
        ∃ time temp target, (h.perform event).control = (h.control.update time temp target).1) := by
  cases event with
  | setTemp degrees =>
      rw [perform]
      rcases h.setTemp_cases degrees with ⟨-, heq⟩ | ⟨_, heq⟩ <;> rw [heq]
      · exact ⟨rfl, .inl rfl⟩
      · exact ⟨rfl, .inl rfl⟩
  | tick sample target =>
      obtain ⟨hpower, hcontrol⟩ := h.tick_control sample target
      exact ⟨hpower, hcontrol.imp_right fun hupdated => ⟨_, _, _, hupdated⟩⟩

end runs

/-- Every clamp of the heater has a range. -/
structure Ranged (h : StockHeater Float) : Prop where
  power : 0.0 ≤ h.maxPower
  law : ∀ law, h.control = .pid law → law.hasRanges = true

variable {h : StockHeater Float}

theorem Ranged.create (name : String) (kind : ControlKind) (settings : HeaterSettings Float)
    (hpower : 0.0 < settings.maxPower) (hfinite : Decimal.isFinite settings.maxPower = true) :
    (StockHeater.create name kind settings).Ranged where
  power := le_of_lt hpower
  law law hlaw := by
    cases kind with
    | pid =>
        cases hlaw
        exact (Pid.create_runsOn ..).hasRanges hpower hfinite
    | watermark => cases hlaw

theorem Ranged.perform (hranged : h.Ranged) (event : StockEvent Float) :
    (h.perform event).Ranged := by
  obtain ⟨hpower, hcontrol⟩ := h.perform_control event
  refine ⟨hpower ▸ hranged.power, fun law hlaw => ?_⟩
  rcases hcontrol with hsame | ⟨time, temp, target, hupdated⟩
  · exact hranged.law law (hsame.symm.trans hlaw)
  · rw [hupdated] at hlaw
    cases hbefore : h.control with
    | pid earlier =>
        rw [hbefore] at hlaw
        cases hlaw
        exact hranged.law earlier hbefore
    | watermark earlier =>
        rw [hbefore] at hlaw
        cases hlaw

theorem Ranged.replay (hranged : h.Ranged) (events : List (StockEvent Float)) :
    (h.replay events).Ranged := by
  induction events generalizing h with
  | nil => exact hranged
  | cons event rest ih => exact ih (hranged.perform event)

theorem Ranged.hasRanges (hranged : h.Ranged) : h.hasRanges = true := by
  unfold StockHeater.hasRanges
  split
  case h_1 law hlaw => exact decide_eq_true (Pid.hasRanges_iff.mp (hranged.law law hlaw)).1
  case h_2 => rfl

theorem Ranged.admits (hranged : h.Ranged) (sample : Sample Float) (target : Float) :
    h.admits sample target = true := by
  have hpower : decide ((0.0 : Float) ≤ h.maxPower) = true := decide_eq_true hranged.power
  unfold StockHeater.admits
  rw [hpower, Bool.or_true, Bool.true_or]

end StockHeater

end HeaterHost
