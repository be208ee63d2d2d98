import HeaterHost.Proofs.Exact
import HeaterHost.Simulator.Thermal

/-!
# A physical plant

The model of the hotend is stepped forward until no time remains. In exact arithmetic that takes no
more short steps than it is given, so a step is what its loop comes to. A short step is so short
that the block cannot lose more than its excess over ambient, and the sensor cannot overtake the
block. So neither gets colder than ambient or hotter than where full power and losses are in
balance, and less power never heats more.
-/

namespace HeaterHost.Simulator.Thermal

/-- The loop of a step: short steps as long as time remains, however many it takes. -/
inductive Passes {α : Type} [Scalar α] (power : α) : α → Thermal α → Thermal α → Prop
  | ended {remaining : α} {m : Thermal α} (hend : ¬ 0.0 < remaining) : Passes power remaining m m
  | next {remaining : α} {m m' : Thermal α} (hleft : 0.0 < remaining)
      (hrest : Passes power (remaining - Scalar.least remaining longestStep)
        (m.shortStep power (Scalar.least remaining longestStep)) m') :
      Passes power remaining m m'

/-- The model after steps with a power and a time each. -/
def run {α : Type} [Scalar α] (m : Thermal α) (steps : List (α × α)) : Thermal α :=
  steps.foldl (fun m (power, dt) => m.step power dt) m

theorem Passes.unique {α : Type} [Scalar α] {power remaining : α} {m m₁ m₂ : Thermal α}
    (h₁ : Passes power remaining m m₁) (h₂ : Passes power remaining m m₂) : m₁ = m₂ := by
  induction h₁ with
  | ended hend =>
      cases h₂ with
      | ended _ => rfl
      | next hleft _ => exact absurd hleft hend
  | next hleft _ ih =>
      cases h₂ with
      | ended hend => exact absurd hleft hend
      | next _ hrest => exact ih hrest

variable {m m' : Thermal ℝ} {power power' remaining h : ℝ}

theorem longestStep_real : (longestStep : ℝ) = 1 / 20 := by
  norm_num [longestStep, Scalar.literal_real]

/-! ### The end of a step -/

/-- Short steps that are enough for the time come to the end of the loop. -/
theorem shortSteps_passes {fuel : Nat} (hfuel : remaining ≤ fuel * longestStep) (m : Thermal ℝ) :
    Passes power remaining m (shortSteps power fuel remaining m) := by
  induction fuel generalizing remaining m with
  | zero =>
      refine .ended (not_lt.mpr ?_)
      rwa [Nat.cast_zero, zero_mul, ← Scalar.zero_real] at hfuel
  | succ fuel ih =>
      rw [shortSteps]
      split
      case isFalse hend => exact .ended hend
      case isTrue hleft =>
        refine .next hleft (ih ?_ _)
        rw [Nat.cast_succ] at hfuel
        rw [Scalar.least_real, longestStep_real] at *
        have hroom : 0 ≤ (fuel : ℝ) * (1 / 20) := by positivity
        rcases min_cases remaining (1 / 20) with ⟨hmin, -⟩ | ⟨hmin, -⟩ <;> rw [hmin] <;> linarith

theorem le_stepBound (remaining : ℝ) :
    remaining ≤ (stepBound remaining : ℕ) * (longestStep : ℝ) := by
  have hbound : Scalar.ceiling (remaining / longestStep) ≤ stepBound remaining := by
    rw [stepBound]
    omega
  have hpositive : (0 : ℝ) < longestStep := by
    rw [longestStep_real]
    norm_num
  calc remaining = remaining / longestStep * longestStep :=
        (div_mul_cancel₀ _ hpositive.ne').symm
    _ ≤ (Scalar.ceiling (remaining / longestStep) : ℕ) * longestStep := by
        gcongr
        exact Nat.le_ceil _
    _ ≤ (stepBound remaining : ℕ) * (longestStep : ℝ) := by
        gcongr

theorem step_passes (m : Thermal ℝ) (power dt : ℝ) :
    Passes (Scalar.clamp 0.0 1.0 power) (Scalar.greatest dt 0.0) m (m.step power dt) :=
  shortSteps_passes (le_stepBound _) m

theorem passes_iff_eq_step {dt : ℝ} :
    Passes (Scalar.clamp 0.0 1.0 power) (Scalar.greatest dt 0.0) m m' ↔ m' = m.step power dt := by
  constructor
  · intro hpasses
    exact hpasses.unique (m.step_passes power dt)
  · rintro rfl
    exact m.step_passes power dt

/-! ### A short step -/

/-- The temperature of the block at which a power makes up for the losses. -/
noncomputable def balance (m : Thermal ℝ) (power : ℝ) : ℝ :=
  m.ambient + power * m.heatRate / m.lossCoeff

/-- A plant with sensible parameters, between ambient and the balance at full power. -/
structure Physical (m : Thermal ℝ) : Prop where
  heatRate : 0 ≤ m.heatRate
  loss_pos : 0 < m.lossCoeff
  loss_le : m.lossCoeff ≤ 20
  sensorLag : 0 ≤ m.sensorLag
  temp : m.temp ∈ Set.Icc m.ambient (m.ambient + m.heatRate / m.lossCoeff)
  sensorTemp : m.sensorTemp ∈ Set.Icc m.ambient (m.ambient + m.heatRate / m.lossCoeff)

/-- Two states of one plant. -/
structure SamePlant (m m' : Thermal ℝ) : Prop where
  ambient : m.ambient = m'.ambient
  heatRate : m.heatRate = m'.heatRate
  lossCoeff : m.lossCoeff = m'.lossCoeff
  sensorLag : m.sensorLag = m'.sensorLag

/-- The first of two states is nowhere warmer. -/
structure Cooler (m m' : Thermal ℝ) : Prop extends SamePlant m m' where
  temp : m.temp ≤ m'.temp
  sensorTemp : m.sensorTemp ≤ m'.sensorTemp

/-- The block approaches the balance. -/
theorem shortStep_temp (hloss : m.lossCoeff ≠ 0) (power h : ℝ) :
    (m.shortStep power h).temp = m.temp + m.lossCoeff * h * (m.balance power - m.temp) := by
  simp only [shortStep, balance]
  field_simp
  ring

/-- The sensor approaches the block. -/
theorem shortStep_sensorTemp (m : Thermal ℝ) (power h : ℝ) :
    (m.shortStep power h).sensorTemp =
      m.sensorTemp + min (m.sensorLag * h) 1 * ((m.shortStep power h).temp - m.sensorTemp) := by
  simp only [shortStep, Scalar.least_real, Scalar.one_real]

theorem balance_mem (hm : m.Physical) (hpower : power ∈ Set.Icc 0 1) :
    m.balance power ∈ Set.Icc m.ambient (m.ambient + m.heatRate / m.lossCoeff) := by
  have hheat := hm.heatRate
  have hloss := hm.loss_pos
  obtain ⟨hzero, hone⟩ := hpower
  constructor
  · have hgain : 0 ≤ power * m.heatRate / m.lossCoeff := by positivity
    exact le_add_of_nonneg_right hgain
  · unfold balance
    gcongr
    exact mul_le_of_le_one_left hheat hone

theorem balance_le_balance (hm : m.Physical) (hcooler : m.Cooler m') (hpower : power ≤ power') :
    m.balance power ≤ m'.balance power' := by
  have hheat := hm.heatRate
  have hloss := hm.loss_pos
  unfold balance
  rw [← hcooler.ambient, ← hcooler.heatRate, ← hcooler.lossCoeff]
  gcongr

theorem Physical.part_bounds (hm : m.Physical) (hspan : h ∈ Set.Ioc 0 (1 / 20)) :
    0 ≤ m.lossCoeff * h ∧ m.lossCoeff * h ≤ 1 := by
  have hloss := hm.loss_pos
  obtain ⟨hpositive, hshort⟩ := hspan
  constructor
  · positivity
  · calc m.lossCoeff * h ≤ 20 * (1 / 20) := by
          gcongr
          exact hm.loss_le
      _ = 1 := by norm_num

theorem Physical.follow_bounds (hm : m.Physical) (hspan : h ∈ Set.Ioc 0 (1 / 20)) :
    0 ≤ min (m.sensorLag * h) 1 ∧ min (m.sensorLag * h) 1 ≤ 1 :=
  ⟨le_min (mul_nonneg hm.sensorLag hspan.1.le) zero_le_one, min_le_right _ _⟩

theorem Physical.shortStep (hm : m.Physical) (hpower : power ∈ Set.Icc 0 1)
    (hspan : h ∈ Set.Ioc 0 (1 / 20)) : (m.shortStep power h).Physical := by
  obtain ⟨hpart, hwhole⟩ := hm.part_bounds hspan
  obtain ⟨hfollow, hwhole'⟩ := hm.follow_bounds hspan
  have htemp : (m.shortStep power h).temp ∈
      Set.Icc m.ambient (m.ambient + m.heatRate / m.lossCoeff) := by
    rw [shortStep_temp hm.loss_pos.ne']
    exact Scalar.approach_mem_Icc hm.temp (balance_mem hm hpower) hpart hwhole
  refine ⟨hm.heatRate, hm.loss_pos, hm.loss_le, hm.sensorLag, htemp, ?_⟩
  rw [shortStep_sensorTemp]
  exact Scalar.approach_mem_Icc hm.sensorTemp htemp hfollow hwhole'

theorem Cooler.shortStep (hcooler : m.Cooler m') (hm : m.Physical) (hpower : power ≤ power')
    (hspan : h ∈ Set.Ioc 0 (1 / 20)) : (m.shortStep power h).Cooler (m'.shortStep power' h) := by
  obtain ⟨hpart, hwhole⟩ := hm.part_bounds hspan
  obtain ⟨hfollow, hwhole'⟩ := hm.follow_bounds hspan
  have htemp : (m.shortStep power h).temp ≤ (m'.shortStep power' h).temp := by
    rw [shortStep_temp hm.loss_pos.ne', shortStep_temp (hcooler.lossCoeff ▸ hm.loss_pos.ne'),
      ← hcooler.lossCoeff]
    exact Scalar.approach_le_approach hcooler.temp (balance_le_balance hm hcooler hpower) hpart
      hwhole
  refine ⟨⟨hcooler.ambient, hcooler.heatRate, hcooler.lossCoeff, hcooler.sensorLag⟩, htemp, ?_⟩
  rw [shortStep_sensorTemp, shortStep_sensorTemp, ← hcooler.sensorLag]
  exact Scalar.approach_le_approach hcooler.sensorTemp htemp hfollow hwhole'

/-! ### Steps and runs -/

theorem SamePlant.trans {m'' : Thermal ℝ} (hsame : m.SamePlant m') (hsame' : m'.SamePlant m'') :
    m.SamePlant m'' :=
  ⟨hsame.ambient.trans hsame'.ambient, hsame.heatRate.trans hsame'.heatRate,
    hsame.lossCoeff.trans hsame'.lossCoeff, hsame.sensorLag.trans hsame'.sensorLag⟩

theorem Passes.samePlant (hpasses : Passes power remaining m m') : m.SamePlant m' := by
  induction hpasses with
  | ended _ => exact ⟨rfl, rfl, rfl, rfl⟩
  | next _ _ ih => exact ⟨ih.ambient, ih.heatRate, ih.lossCoeff, ih.sensorLag⟩

theorem run_samePlant (m : Thermal ℝ) (steps : List (ℝ × ℝ)) : m.SamePlant (m.run steps) := by
  induction steps generalizing m with
  | nil => exact ⟨rfl, rfl, rfl, rfl⟩
  | cons step steps ih => exact (m.step_passes step.1 step.2).samePlant.trans (ih _)

theorem span_mem (hleft : 0.0 < remaining) :
    Scalar.least remaining longestStep ∈ Set.Ioc (0 : ℝ) (1 / 20) := by
  rw [Scalar.zero_real] at hleft
  rw [Scalar.least_real, longestStep_real]
  exact ⟨lt_min hleft (by norm_num), min_le_right _ _⟩

theorem Physical.passes (hm : m.Physical) (hpower : power ∈ Set.Icc 0 1)
    (hpasses : Passes power remaining m m') : m'.Physical := by
  induction hpasses with
  | ended _ => exact hm
  | next hleft _ ih => exact ih (hm.shortStep hpower (span_mem hleft))

theorem Cooler.passes {after after' : Thermal ℝ} (hcooler : m.Cooler m') (hm : m.Physical)
    (hpower : power ∈ Set.Icc 0 1) (hle : power ≤ power') (hpasses : Passes power remaining m after)
    (hpasses' : Passes power' remaining m' after') : after.Cooler after' := by
  induction hpasses generalizing m' with
  | ended hend =>
      cases hpasses' with
      | ended _ => exact hcooler
      | next hleft _ => exact absurd hleft hend
  | next hleft _ ih =>
      cases hpasses' with
      | ended hend => exact absurd hleft hend
      | next _ hrest =>
          have hspan := span_mem hleft
          exact ih (hcooler.shortStep hm hle hspan) (hm.shortStep hpower hspan) hrest

theorem clamp_mem (power : ℝ) : Scalar.clamp 0.0 1.0 power ∈ Set.Icc (0 : ℝ) 1 := by
  rw [Scalar.clamp_real, Scalar.zero_real, Scalar.one_real]
  exact ⟨le_min zero_le_one (le_max_right _ _), min_le_left _ _⟩

theorem clamp_le_clamp (hle : power ≤ power') :
    Scalar.clamp 0.0 1.0 power ≤ Scalar.clamp 0.0 1.0 power' := by
  rw [Scalar.clamp_real, Scalar.clamp_real]
  gcongr

theorem Physical.step (hm : m.Physical) (power dt : ℝ) : (m.step power dt).Physical :=
  hm.passes (clamp_mem power) (m.step_passes power dt)

theorem Cooler.step (hcooler : m.Cooler m') (hm : m.Physical) (hle : power ≤ power') (dt : ℝ) :
    (m.step power dt).Cooler (m'.step power' dt) :=
  hcooler.passes hm (clamp_mem power) (clamp_le_clamp hle) (m.step_passes power dt)
    (m'.step_passes power' dt)

theorem Physical.run (hm : m.Physical) (steps : List (ℝ × ℝ)) : (m.run steps).Physical := by
  induction steps generalizing m with
  | nil => exact hm
  | cons step steps ih => exact ih (hm.step step.1 step.2)

theorem Cooler.run (hcooler : m.Cooler m') (hm : m.Physical) {steps stronger : List (ℝ × ℝ)}
    (hle : List.Forall₂ (fun a b => a.1 ≤ b.1 ∧ a.2 = b.2) steps stronger) :
    (m.run steps).Cooler (m'.run stronger) := by
  induction hle generalizing m m' with
  | nil => exact hcooler
  | @cons a b steps stronger hstep _ ih =>
      obtain ⟨power, dt⟩ := a
      obtain ⟨power', dt'⟩ := b
      obtain ⟨hpower, rfl⟩ := hstep
      exact ih (hcooler.step hm hpower dt) (hm.step power dt)

/-- **The simulated plant is physical.** In exact arithmetic, whatever the powers and the times,
every step ends, and is what its loop comes to. Block and sensor stay between ambient and the
balance at full power. Of two runs with the same times, the one whose powers are nowhere higher is
nowhere warmer. -/
theorem plant_is_physical (m : Thermal ℝ) (hm : m.Physical) (steps : List (ℝ × ℝ)) :
    let after := m.run steps
    (∀ power dt m', Passes (Scalar.clamp 0.0 1.0 power) (Scalar.greatest dt 0.0) after m' ↔
      m' = after.step power dt) ∧
    after.temp ∈ Set.Icc m.ambient (m.ambient + m.heatRate / m.lossCoeff) ∧
    after.sensorTemp ∈ Set.Icc m.ambient (m.ambient + m.heatRate / m.lossCoeff) ∧
    ∀ stronger, List.Forall₂ (fun a b => a.1 ≤ b.1 ∧ a.2 = b.2) steps stronger →
      after.temp ≤ (m.run stronger).temp ∧ after.sensorTemp ≤ (m.run stronger).sensorTemp := by
  intro after
  have hsame : m.SamePlant after := m.run_samePlant steps
  have hafter : after.Physical := hm.run steps
  rw [hsame.ambient, hsame.heatRate, hsame.lossCoeff]
  refine ⟨fun power dt m' => passes_iff_eq_step, hafter.temp, hafter.sensorTemp, ?_⟩
  intro stronger hle
  have hstart : m.Cooler m := ⟨⟨rfl, rfl, rfl, rfl⟩, le_rfl, le_rfl⟩
  have hcooler := hstart.run hm hle
  exact ⟨hcooler.temp, hcooler.sensorTemp⟩

theorem hotend_physical : (hotend : Thermal ℝ).Physical := by
  constructor <;> norm_num [hotend, Scalar.literal_real]

/-- A hotend that is heated for a while and left alone, and one that is heated more. -/
theorem hotend_stays_physical :
    let steps : List (ℝ × ℝ) := [(1 / 2, 60), (-3, 1 / 100), (0, 1)]
    let stronger : List (ℝ × ℝ) := [(2, 60), (0, 1 / 100), (1 / 10, 1)]
    (hotend : Thermal ℝ).Physical ∧
      List.Forall₂ (fun a b => a.1 ≤ b.1 ∧ a.2 = b.2) steps stronger ∧
      (hotend.run steps).temp ≤ (hotend.run stronger).temp ∧
      25 ≤ (hotend.run steps).temp ∧ (hotend.run stronger).sensorTemp ≤ 625 := by
  intro steps stronger
  have hle : List.Forall₂ (fun a b => a.1 ≤ b.1 ∧ a.2 = b.2) steps stronger := by
    norm_num [steps, stronger]
  obtain ⟨-, htemp, -, hcooler⟩ := plant_is_physical hotend hotend_physical steps
  obtain ⟨-, -, hsensor, -⟩ := plant_is_physical hotend hotend_physical stronger
  have hambient : (hotend : Thermal ℝ).ambient = 25 := by
    norm_num [hotend, Scalar.literal_real]
  have hhottest : (hotend : Thermal ℝ).ambient +
      (hotend : Thermal ℝ).heatRate / (hotend : Thermal ℝ).lossCoeff = 625 := by
    norm_num [hotend, Scalar.literal_real]
  exact ⟨hotend_physical, hle, (hcooler stronger hle).1, hambient ▸ htemp.1, hhottest ▸ hsensor.2⟩

end HeaterHost.Simulator.Thermal
