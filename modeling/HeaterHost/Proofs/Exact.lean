import Mathlib.Analysis.SpecialFunctions.Trigonometric.Basic
import HeaterHost.Scalar

/-!
# Exact arithmetic

The control laws ask for no more than a `Scalar`, so they can be read over the real numbers. There
they compute without rounding, and every number is a number.
-/

namespace HeaterHost

noncomputable instance : Scalar ℝ where
  decidableLE := inferInstance
  decidableLT := inferInstance
  beq x y := decide (x = y)
  abs x := |x|
  ofCount n := n
  pi := Real.pi
  ceiling x := ⌈x⌉₊

namespace Scalar

@[simp] theorem abs_real (x : ℝ) : Scalar.abs x = |x| := rfl

@[simp] theorem ofCount_real (n : Nat) : (Scalar.ofCount n : ℝ) = n := rfl

@[simp] theorem pi_real : (Scalar.pi : ℝ) = Real.pi := rfl

/-- What is written with a decimal point stands for a fraction. -/
@[simp] theorem literal_real (digits decimals : Nat) :
    (OfScientific.ofScientific digits true decimals : ℝ) = digits / 10 ^ decimals := by
  change @OfScientific.ofScientific ℝ NNRatCast.toOfScientific digits true decimals = _
  rw [NNRatCast.ofScientific_eq_ite, if_pos rfl, NNRat.cast_divNat, Nat.cast_pow, Nat.cast_ofNat]

theorem zero_real : (0.0 : ℝ) = 0 := by
  norm_num [literal_real]

theorem tenth_real : (0.1 : ℝ) = 1 / 10 := by
  norm_num [literal_real]

theorem two_real : (2.0 : ℝ) = 2 := by
  norm_num [literal_real]

theorem one_real : (1.0 : ℝ) = 1 := by
  norm_num [literal_real]

theorem least_real (a b : ℝ) : Scalar.least a b = min a b := by
  have hnumber : (b == b) = true := decide_eq_true rfl
  rw [least, if_pos hnumber, min_def_lt]

theorem clamp_real (low high x : ℝ) : Scalar.clamp low high x = min high (max x low) := by
  have hraised : (if x < low then low else x) = max x low := by
    rw [max_def_lt]
  simp only [clamp, hraised]
  rw [min_def_lt]

/-- To go a part of the way from one number to another leads no further if neither number is
higher. -/
theorem approach_le_approach {x x' y y' part : ℝ} (hx : x ≤ x') (hy : y ≤ y') (hpart : 0 ≤ part)
    (hwhole : part ≤ 1) : x + part * (y - x) ≤ x' + part * (y' - x') := by
  have hrest : 0 ≤ 1 - part := sub_nonneg.mpr hwhole
  calc x + part * (y - x) = (1 - part) * x + part * y := by ring
    _ ≤ (1 - part) * x' + part * y' := by gcongr
    _ = x' + part * (y' - x') := by ring

theorem approach_mem_Icc {low high x y part : ℝ} (hx : x ∈ Set.Icc low high)
    (hy : y ∈ Set.Icc low high) (hpart : 0 ≤ part) (hwhole : part ≤ 1) :
    x + part * (y - x) ∈ Set.Icc low high := by
  constructor
  · calc low = low + part * (low - low) := by ring
      _ ≤ x + part * (y - x) := approach_le_approach hx.1 hy.1 hpart hwhole
  · calc x + part * (y - x) ≤ high + part * (high - high) :=
          approach_le_approach hx.2 hy.2 hpart hwhole
      _ = high := by ring

end Scalar

end HeaterHost
