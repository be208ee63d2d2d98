import HeaterHost.Proofs.Exact
import HeaterHost.Proofs.Heater.LegalPower
import HeaterHost.Proofs.Heater.Ranges

/-!
# The integral of a PID controller

New gains cut the integral down to their own limit, and a reading moves it only as far as a clamp
lets it and only while the output is what is demanded. A NaN gets through the clamp, but not into
the integral: it would make the demand a NaN, and a NaN is never equal to an output. So the integral
stays between zero and the limit of the gains in force, whatever the controller is given.
-/

namespace HeaterHost

open Double

/-- What can be done to a controller once it is made. -/
inductive PidEvent (α : Type) where
  | setGains (gains : Gains α)
  | reset
  | update (time temp target : α)
deriving Repr

namespace Pid

section runs

variable {α : Type} [Scalar α]

def perform (pid : Pid α) : PidEvent α → Pid α
  | .setGains gains => pid.setGains gains
  | .reset => pid.reset
  | .update time temp target => pid.update time temp target

def replay (pid : Pid α) (events : List (PidEvent α)) : Pid α :=
  events.foldl perform pid

/-- What every event preserves holds after every run. -/
theorem replay_invariant {P : Pid α → Prop}
    (hstep : ∀ (pid : Pid α) (event : PidEvent α), P pid → P (pid.perform event))
    {pid : Pid α} (hstart : P pid) (events : List (PidEvent α)) : P (pid.replay events) := by
  induction events generalizing pid with
  | nil => exact hstart
  | cons event rest ih => exact ih (hstep pid event hstart)

/-- The controller computes with the gains that it shows. -/
theorem RunsOn.perform {pid : Pid α} {maxPower : α} (hruns : pid.RunsOn maxPower pid.gains)
    (event : PidEvent α) : (pid.perform event).RunsOn maxPower (pid.perform event).gains := by
  cases event with
  | setGains gains =>
      have hnew := pid.setGains_runsOn gains
      rw [hruns.power] at hnew
      exact hnew
  | reset => exact hruns.reset
  | update time temp target => exact hruns.update time temp target

theorem replay_runsOn (gains : Gains α) (maxPower slopeTime : α) (events : List (PidEvent α)) :
    ((create gains maxPower slopeTime).replay events).RunsOn maxPower
      ((create gains maxPower slopeTime).replay events).gains :=
  replay_invariant (P := fun pid => pid.RunsOn maxPower pid.gains)
    (fun _ event hruns => hruns.perform event) (create_runsOn gains maxPower slopeTime) events

/-- What the limit of the integral is for, with the gains `gains`. -/
theorem RunsOn.integralLimit_eq {pid : Pid α} {maxPower : α} {gains : Gains α}
    (hruns : pid.RunsOn maxPower gains) :
    pid.integralLimit = if 0.0 < pid.ki then maxPower / pid.ki else 0.0 := by
  rw [hruns.limit, hruns.ki]

/-- The integral is a number from zero to its limit. -/
structure WithinLimit (pid : Pid α) : Prop where
  zero_le : 0.0 ≤ pid.integral
  le_limit : pid.integral ≤ pid.integralLimit

/-- What the integral is moved to, before the clamp. -/
def integralBefore (pid : Pid α) (time temp target : α) : α :=
  pid.integral + (target - temp) * (time - pid.lastTime)

/-- A reading takes its integral over, or changes nothing about it. -/
theorem update_integral_cases (pid : Pid α) (time temp target : α) :
    ((pid.demand time temp target == pid.output time temp target) = true ∧
      (pid.update time temp target).integral = pid.integralAfter time temp target) ∨
    (pid.demand time temp target == pid.output time temp target) = false ∧
      (pid.update time temp target).integral = pid.integral := by
  cases hfree : pid.demand time temp target == pid.output time temp target with
  | true => exact .inl ⟨rfl, by simp [update, hfree]⟩
  | false => exact .inr ⟨rfl, by simp [update, hfree]⟩

/-- What arithmetic has to give for the integral to stay within its limit. Only of a NaN is it not
true that it is at most itself. -/
structure Confining (α : Type) [Scalar α] : Prop where
  zero_le_zero : (0.0 : α) ≤ 0.0
  le_self : ∀ {x y : α}, x ≤ y → x ≤ x
  clamp : ∀ {high x : α}, 0.0 ≤ high → x ≤ x →
    0.0 ≤ Scalar.clamp 0.0 high x ∧ Scalar.clamp 0.0 high x ≤ high
  free : ∀ {pid : Pid α} {time temp target : α},
    (pid.demand time temp target == pid.output time temp target) = true →
    pid.integralBefore time temp target ≤ pid.integralBefore time temp target

namespace WithinLimit

variable {pid : Pid α} {maxPower : α}

theorem create (hconfining : Confining α) (gains : Gains α) (slopeTime : α)
    (hlimit : 0.0 ≤ (Pid.create gains maxPower slopeTime).integralLimit) :
    (Pid.create gains maxPower slopeTime).WithinLimit :=
  have hclamp := hconfining.clamp hlimit hconfining.zero_le_zero
  ⟨hclamp.1, hclamp.2⟩

theorem perform (hconfining : Confining α) (hwithin : pid.WithinLimit) (event : PidEvent α)
    (hlimit : 0.0 ≤ (pid.perform event).integralLimit) : (pid.perform event).WithinLimit := by
  cases event with
  | setGains gains =>
      have hclamp := hconfining.clamp hlimit (hconfining.le_self hwithin.le_limit)
      exact ⟨hclamp.1, hclamp.2⟩
  | reset => exact ⟨hconfining.zero_le_zero, hlimit⟩
  | update time temp target =>
      rcases pid.update_integral_cases time temp target with ⟨hfree, hmoved⟩ | ⟨-, hkept⟩
      · have hclamp := hconfining.clamp hlimit (hconfining.free hfree)
        refine ⟨?_, ?_⟩
        · exact hmoved ▸ hclamp.1
        · exact hmoved ▸ hclamp.2
      · refine ⟨?_, ?_⟩
        · exact hkept ▸ hwithin.zero_le
        · exact hkept ▸ hwithin.le_limit

/-- Where no gains give a limit below zero, the integral stays within whatever limit it has. -/
theorem replay (hconfining : Confining α)
    (hlimit : ∀ {pid : Pid α}, pid.RunsOn maxPower pid.gains → 0.0 ≤ pid.integralLimit)
    (gains : Gains α) (slopeTime : α) (events : List (PidEvent α)) :
    ((Pid.create gains maxPower slopeTime).replay events).WithinLimit := by
  have hcreated := create_runsOn gains maxPower slopeTime
  refine (replay_invariant (P := fun pid => pid.RunsOn maxPower pid.gains ∧ pid.WithinLimit)
    ?_ ⟨hcreated, WithinLimit.create hconfining gains slopeTime (hlimit hcreated)⟩ events).2
  rintro pid event ⟨hruns, hwithin⟩
  have hnext := hruns.perform event
  exact ⟨hnext, hwithin.perform hconfining event (hlimit hnext)⟩

end WithinLimit

end runs

/-! ### In doubles -/

section doubles

variable {pid : Pid Float} {time temp target : Float}

/-- A NaN in the integral would be one in the demand. -/
theorem isNaN_integralBefore (hnumber : (pid.demand time temp target).isNaN = false) :
    (pid.integralBefore time temp target).isNaN = false := by
  have hzero : (0.0 : Float).isNaN = false := by decide +kernel
  by_contra hnan
  have hafter : (pid.integralAfter time temp target).isNaN = true := by
    rw [integralAfter, isNaN_clamp hzero]
    exact Bool.eq_true_of_not_eq_false hnan
  have htorn : pid.Torn time temp target := .inl (.inr (.inl (isNaN_mul_of_right _ hafter)))
  cases (isNaN_demand_iff.mpr htorn).symm.trans hnumber

theorem confining_doubles : Confining Float where
  zero_le_zero := by decide +kernel
  le_self hle := le_refl (isNaN_of_le hle).1
  clamp hhigh hx := clamp_bounds hhigh (isNaN_of_le hx).1
  free hfree := le_refl (isNaN_integralBefore (isNaN_of_beq hfree))

/-- A power limit that is a fraction is finite. -/
theorem isFinite_of_fraction {maxPower : Float} (hpower : 0.0 < maxPower)
    (hone : maxPower ≤ 1.0) : Decimal.isFinite maxPower = true := by
  rcases parts_of_zero_lt hpower with hparts | ⟨m, e, hpos, hparts⟩
  · rw [le_iff, hparts] at hone
    cases hone
  · rw [Decimal.isFinite, ofFloat_eq_binary, hparts]
    rfl

theorem update_integral_of_limited (hpower : 0.0 ≤ pid.maxPower)
    (hlimited :
      ¬ (0.0 ≤ pid.demand time temp target ∧ pid.demand time temp target ≤ pid.maxPower)) :
    (pid.update time temp target).integral = pid.integral := by
  rcases pid.update_integral_cases time temp target with ⟨hfree, -⟩ | ⟨-, hkept⟩
  · exact absurd (bounds_of_beq_clamp hpower hfree) hlimited
  · exact hkept

end doubles

/-! ### In exact numbers -/

section exact

variable {pid : Pid ℝ} {maxPower : ℝ}

theorem confining_exact : Confining ℝ where
  zero_le_zero := le_rfl
  le_self _ := le_rfl
  clamp {high x} hhigh _ := by
    rw [Scalar.clamp_real]
    exact ⟨le_min hhigh (le_max_right _ _), min_le_left _ _⟩
  free _ := le_rfl

theorem RunsOn.zero_le_limit (hpower : 0 < maxPower) {gains : Gains ℝ}
    (hruns : pid.RunsOn maxPower gains) : 0.0 ≤ pid.integralLimit := by
  rw [hruns.integralLimit_eq, Scalar.zero_real]
  split
  case isTrue hgain => exact (div_pos hpower hgain).le
  case isFalse => exact le_rfl

/-- The limit of the integral is where its term alone asks for the most power. -/
theorem WithinLimit.term_le (hpower : 0 < maxPower) {gains : Gains ℝ}
    (hruns : pid.RunsOn maxPower gains) (hwithin : pid.WithinLimit) :
    pid.ki * pid.integral ≤ maxPower := by
  have hzero := hwithin.zero_le
  have hlimit := hwithin.le_limit
  rw [Scalar.zero_real] at hzero
  rw [hruns.integralLimit_eq, Scalar.zero_real] at hlimit
  by_cases hgain : 0 < pid.ki
  · rw [if_pos hgain, le_div_iff₀' hgain] at hlimit
    exact hlimit
  · calc pid.ki * pid.integral ≤ 0 := mul_nonpos_of_nonpos_of_nonneg (not_lt.mp hgain) hzero
      _ ≤ maxPower := hpower.le

end exact

/-- **The integral is bounded whatever the controller is given.** In doubles every clamp has a
range, the integral is a number from zero to the limit that belongs to the gains in force, and a
demand that is no power leaves it as it is. In exact numbers its term asks for no more than the most
power. -/
theorem integral_bounded :
    (∀ (gains : Gains Float) (maxPower slopeTime : Float) (events : List (PidEvent Float)),
      0.0 < maxPower → maxPower ≤ 1.0 →
      let pid := (create gains maxPower slopeTime).replay events
      pid.hasRanges = true ∧ pid.RunsOn maxPower pid.gains ∧ pid.integral.isNaN = false ∧
      0.0 ≤ pid.integral ∧ pid.integral ≤ pid.integralLimit ∧
      ∀ time temp target,
        ¬ (0.0 ≤ pid.demand time temp target ∧ pid.demand time temp target ≤ pid.maxPower) →
        (pid.update time temp target).integral = pid.integral) ∧
    ∀ (gains : Gains ℝ) (maxPower slopeTime : ℝ) (events : List (PidEvent ℝ)),
      0 < maxPower →
      let pid := (create gains maxPower slopeTime).replay events
      0 ≤ pid.integral ∧ pid.integral ≤ pid.integralLimit ∧ pid.ki * pid.integral ≤ maxPower := by
  refine ⟨?_, ?_⟩
  · intro gains maxPower slopeTime events hpower hone pid
    have hfinite : Decimal.isFinite maxPower = true := isFinite_of_fraction hpower hone
    have hruns : pid.RunsOn maxPower pid.gains := replay_runsOn gains maxPower slopeTime events
    have hranges : pid.hasRanges = true := hruns.hasRanges hpower hfinite
    have hwithin : pid.WithinLimit := WithinLimit.replay confining_doubles
      (fun hruns => (hasRanges_iff.mp (hruns.hasRanges hpower hfinite)).1) gains slopeTime events
    refine ⟨hranges, hruns, (isNaN_of_le hwithin.le_limit).1, hwithin.zero_le, hwithin.le_limit, ?_⟩
    intro time temp target hlimited
    exact update_integral_of_limited (hasRanges_iff.mp hranges).2 hlimited
  · intro gains maxPower slopeTime events hpower pid
    have hruns : pid.RunsOn maxPower pid.gains := replay_runsOn gains maxPower slopeTime events
    have hwithin : pid.WithinLimit :=
      WithinLimit.replay confining_exact (RunsOn.zero_le_limit hpower) gains slopeTime events
    refine ⟨?_, hwithin.le_limit, hwithin.term_le hpower hruns⟩
    rw [← Scalar.zero_real]
    exact hwithin.zero_le

/-- A reading that is integrated over a minute, one that is missing, and gains that leave room for
an integral of one. -/
def disturbance : List (PidEvent Float) :=
  [.update 60.0 195.0 195.1, .update 61.0 notANumber 200.0,
    .setGains { kp := 13.41, ki := 255.0, kd := 1.46 }]

theorem disturbed_integral_bounded :
    let start := create { kp := 13.41, ki := 30.91, kd := 1.46 } 1.0 1.0
    let pid := start.replay disturbance
    (0.0 : Float) < 1.0 ∧ (1.0 : Float) ≤ 1.0 ∧
    1.0 < (start.replay (disturbance.take 1)).integral ∧
    (start.replay (disturbance.take 2)).integral = (start.replay (disturbance.take 1)).integral ∧
    pid.integral = 1.0 ∧ pid.integral ≤ pid.integralLimit ∧
    (pid.update 62.0 195.0 200.0).integral = pid.integral ∧
    let heated := (create (⟨255, 255, 0⟩ : Gains ℝ) 1 1).replay [.update 1 24 25]
    (0 : ℝ) < 1 ∧ heated.ki * heated.integral ≤ 1 := by
  intro start pid
  have hpower : (0.0 : Float) < 1.0 := by decide +kernel
  have hone : (1.0 : Float) ≤ 1.0 := by decide +kernel
  obtain ⟨hranges, -, -, -, hlimit, hlimited⟩ := integral_bounded.1
    { kp := 13.41, ki := 30.91, kd := 1.46 } 1.0 1.0 disturbance hpower hone
  obtain ⟨-, -, hterm⟩ := integral_bounded.2 ⟨255, 255, 0⟩ 1 1 [.update 1 24 25] one_pos
  refine ⟨hpower, hone, by decide +kernel, by decide +kernel, by decide +kernel, hlimit, ?_,
    one_pos, hterm⟩
  exact hlimited 62.0 195.0 200.0 (by decide +kernel)

end Pid

end HeaterHost
