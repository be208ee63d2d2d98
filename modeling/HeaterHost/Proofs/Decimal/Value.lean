import HeaterHost.Decimal.Binary
import Mathlib.Algebra.Order.Round
import Mathlib.Data.Rat.Floor
import Mathlib.Data.Sign.Basic
import Mathlib.Tactic

/-!
# The number that a double stands for

A finite double is a rational number. Rounding it to a whole number is rounding that number.
-/

namespace HeaterHost.Decimal

/-- The rational number that a double stands for, if it is finite. -/
inductive Exact (x : Float) : ℚ → Prop
  | intro {negative : Bool} {mantissa : Nat} {exponent : Int}
      (hparts : Binary.ofFloat x = .finite negative mantissa exponent) :
      Exact x ((if negative then -1 else 1) * (mantissa * 2 ^ exponent))

/-- The nearest whole number, a half going away from zero. -/
def nearestWhole (q : ℚ) : ℤ :=
  SignType.sign q * round |q|

theorem quotient_value (mantissa : Nat) (exponent : Int) :
    0 < (quotient mantissa exponent).2 ∧
      ((quotient mantissa exponent).1 : ℚ) / (quotient mantissa exponent).2 =
        mantissa * 2 ^ exponent := by
  cases exponent with
  | ofNat e => simp [quotient, Nat.shiftLeft_eq]
  | negSucc e =>
      simp [quotient, Nat.shiftLeft_eq, zpow_negSucc]
      rfl

theorem roundUp_eq_round {num den : Nat} (hden : 0 < den) :
    (roundUp num den : ℤ) = round ((num : ℚ) / den) := by
  have hpos : (0 : ℚ) < den := by exact_mod_cast hden
  have hhalf : (num : ℚ) / den + 1 / 2 = (2 * num + den : ℕ) / (2 * den : ℕ) := by
    push_cast
    field_simp
  rw [round_eq, hhalf, Rat.floor_natCast_div_natCast]
  rfl

theorem nearestWhole_of_nonneg {q : ℚ} (hq : 0 ≤ q) : nearestWhole q = round q := by
  rcases hq.eq_or_lt with rfl | hpos
  · simp [nearestWhole]
  · rw [nearestWhole, sign_pos hpos, abs_of_nonneg hq]
    exact one_mul _

theorem nearestWhole_neg (q : ℚ) : nearestWhole (-q) = -nearestWhole q := by
  rw [nearestWhole, nearestWhole, Left.sign_neg, abs_neg]
  simp

theorem round_le {q : ℚ} {n : ℤ} (hq : q ≤ n) : round q ≤ n := by
  have hnear := (abs_le.mp (abs_sub_round q)).1
  have hlt : (round q : ℚ) < n + 1 := by linarith
  exact Int.lt_add_one_iff.mp (by exact_mod_cast hlt)

theorem roundToSigned64_bounds (x : Float) :
    -2 ^ 63 ≤ roundToSigned64 x ∧ roundToSigned64 x < 2 ^ 63 := by
  unfold roundToSigned64
  split
  · decide
  case h_2 negative _ => cases negative <;> decide
  · dsimp only
    split <;> omega

theorem roundToSigned64_eq {x : Float} {q : ℚ} (hx : Exact x q) (hlow : -2 ^ 63 ≤ q)
    (hhigh : q ≤ 2 ^ 63 - 1) : roundToSigned64 x = nearestWhole q := by
  cases hx with
  | @intro negative mantissa exponent hparts =>
      obtain ⟨hden, hvalue⟩ := quotient_value mantissa exponent
      have hnonneg : (0 : ℚ) ≤ mantissa * 2 ^ exponent := by positivity
      have hround : (roundUp (quotient mantissa exponent).1 (quotient mantissa exponent).2 : ℤ) =
          round ((mantissa : ℚ) * 2 ^ exponent) := by
        rw [roundUp_eq_round hden, hvalue]
      rw [roundToSigned64, hparts]
      dsimp only
      cases negative with
      | false =>
          rw [if_neg Bool.false_ne_true, one_mul] at hhigh
          rw [if_neg Bool.false_ne_true, if_neg Bool.false_ne_true, one_mul,
            nearestWhole_of_nonneg hnonneg, ← hround]
          have hle : round ((mantissa : ℚ) * 2 ^ exponent) ≤ 0x7FFFFFFFFFFFFFFF :=
            round_le (by norm_num at hhigh ⊢; exact hhigh)
          omega
      | true =>
          rw [if_pos rfl, neg_one_mul] at hlow
          rw [if_pos rfl, if_pos rfl, neg_one_mul, nearestWhole_neg,
            nearestWhole_of_nonneg hnonneg, ← hround]
          have hle : round ((mantissa : ℚ) * 2 ^ exponent) ≤ 0x8000000000000000 :=
            round_le (by norm_num at hlow ⊢; exact hlow)
          omega

end HeaterHost.Decimal
