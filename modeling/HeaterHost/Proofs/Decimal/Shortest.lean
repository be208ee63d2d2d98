import HeaterHost.Decimal.Shortest
import HeaterHost.Proofs.Decimal.Conversion
import HeaterHost.Proofs.Decimal.Value

/-!
# The shortest decimal

The decimal that is written for a double rounds to it, whichever grid it was found on. A grid with
a point that does is always found, since the twentieth is finer than the doubles are.
-/

namespace HeaterHost.Decimal

open Double

variable {m : Nat} {e : Int}

def Digits.value (d : Digits) : ℚ :=
  d.digits * 10 ^ d.scale

theorem powerOfTen_value (scale : Int) :
    0 < (powerOfTen scale).1 ∧ 0 < (powerOfTen scale).2 ∧
      ((powerOfTen scale).1 : ℚ) / (powerOfTen scale).2 = 10 ^ scale := by
  cases scale with
  | ofNat k => simp [powerOfTen]
  | negSucc k =>
      simp [powerOfTen, zpow_negSucc]

theorem low_around (m : Nat) (e : Int) : (Interval.around m e).low = 4 * m - gapBelow m e := by
  simp [Interval.around, gapBelow]

theorem closed_around (m : Nat) (e : Int) : (Interval.around m e).closed = (m % 2 == 0) := rfl

theorem unit_around (m : Nat) (e : Int) :
    0 < (Interval.around m e).den ∧
      ((Interval.around m e).num : ℚ) / (Interval.around m e).den = 2 ^ (e - 2) := by
  have hvalue := quotient_value 1 (e - 2)
  rwa [Nat.cast_one, one_mul] at hvalue

theorem Interval.contains_iff {i : Interval} {n num den : Nat} (hi : 0 < i.den) (hden : 0 < den) :
    i.contains n num den = true ↔
      ((i.low : ℚ) * (i.num / i.den) ≤ n * (num / den) ∧
        (n : ℚ) * (num / den) ≤ i.high * (i.num / i.den)) ∧
      (i.closed = false → (i.low : ℚ) * (i.num / i.den) < n * (num / den) ∧
        (n : ℚ) * (num / den) < i.high * (i.num / i.den)) := by
  have hi' : (0 : ℚ) < i.den := by exact_mod_cast hi
  have hden' : (0 : ℚ) < den := by exact_mod_cast hden
  have hle : ∀ a : Nat, a * (i.num * den) ≤ n * num * i.den ↔
      (a : ℚ) * (i.num / i.den) ≤ n * (num / den) := by
    intro a
    rw [← mul_div_assoc, ← mul_div_assoc, div_le_div_iff₀ hi' hden', mul_assoc (a : ℚ)]
    norm_cast
  have hge : ∀ a : Nat, n * num * i.den ≤ a * (i.num * den) ↔
      (n : ℚ) * (num / den) ≤ a * (i.num / i.den) := by
    intro a
    rw [← mul_div_assoc, ← mul_div_assoc, div_le_div_iff₀ hden' hi', mul_assoc (a : ℚ)]
    norm_cast
  unfold Interval.contains
  cases i.closed with
  | true =>
      simp only [↓reduceIte, Bool.and_eq_true, decide_eq_true_eq, hle, hge, Bool.true_eq_false,
        false_implies, and_true]
  | false =>
      simp only [Bool.false_eq_true, ↓reduceIte, Bool.and_eq_true, decide_eq_true_eq,
        ← not_le, hle, hge, true_implies]
      exact ⟨fun ⟨hlow, hhigh⟩ => ⟨⟨(not_le.mp hlow).le, (not_le.mp hhigh).le⟩, hlow, hhigh⟩,
        And.right⟩

theorem contains_around_iff (n : Nat) (scale : Int) :
    (Interval.around m e).contains n (powerOfTen scale).1 (powerOfTen scale).2 = true ↔
      Rounds m e (n * 10 ^ scale) := by
  obtain ⟨-, hden, hpower⟩ := powerOfTen_value scale
  obtain ⟨hi, hunit⟩ := unit_around m e
  rw [Interval.contains_iff hi hden, hpower, hunit, low_around, closed_around]
  have hodd : (m % 2 == 0) = false ↔ m % 2 = 1 := by
    rw [beq_eq_false_iff_ne]
    omega
  rw [hodd]
  exact ⟨fun ⟨⟨hlow, hhigh⟩, hinside⟩ => ⟨hlow, hhigh, hinside⟩,
    fun hq => ⟨⟨hq.low, hq.high⟩, hq.inside⟩⟩

theorem contains_of_onGrid? {i : Interval} {scale : Int} {n : Nat}
    (hn : i.onGrid? scale = some n) :
    i.contains n (powerOfTen scale).1 (powerOfTen scale).2 = true := by
  unfold Interval.onGrid? at hn
  dsimp only at hn
  split at hn
  case isTrue hboth =>
    simp only [Bool.and_eq_true] at hboth
    split at hn
    · cases hn
      exact hboth.1.2
    · cases hn
      exact hboth.2
  case isFalse =>
    split at hn
    case isTrue hbelow =>
      simp only [Bool.and_eq_true] at hbelow
      cases hn
      exact hbelow.2
    case isFalse =>
      split at hn
      case isTrue habove =>
        cases hn
        exact habove
      case isFalse => cases hn

/-- Half the distance to the next double can be added to a double. -/
theorem rounds_of_close {q : ℚ} (h : Canonical m e) (hge : m * 2 ^ e < q)
    (hlt : q < m * 2 ^ e + 2 ^ (e - 1)) : Rounds m e q := by
  have hpos := h.pos
  have hgap : 4 * m - gapBelow m e < 4 * m := by
    unfold gapBelow
    split <;> omega
  have hunit : (0 : ℚ) < 2 ^ (e - 2) := by positivity
  have hvalue : (m : ℚ) * 2 ^ e = (4 * m : Nat) * 2 ^ (e - 2) := by
    rw [zpow_sub₀ two_ne_zero]
    push_cast
    ring
  have hhalf : (2 : ℚ) ^ (e - 1) = 2 * 2 ^ (e - 2) := by
    rw [zpow_sub₀ two_ne_zero, zpow_sub₀ two_ne_zero]
    ring
  have hlow : ((4 * m - gapBelow m e : Nat) : ℚ) * 2 ^ (e - 2) < q := by
    calc ((4 * m - gapBelow m e : Nat) : ℚ) * 2 ^ (e - 2) < (4 * m : Nat) * 2 ^ (e - 2) := by
          gcongr
      _ < q := hvalue ▸ hge
  have hhigh : q < ((4 * m + 2 : Nat) : ℚ) * 2 ^ (e - 2) := by
    calc q < m * 2 ^ e + 2 ^ (e - 1) := hlt
      _ = ((4 * m + 2 : Nat) : ℚ) * 2 ^ (e - 2) := by
          rw [hvalue, hhalf]
          push_cast
          ring
  exact ⟨hlow.le, hhigh.le, fun _ => ⟨hlow, hhigh⟩⟩

/-- The last point of a grid that does not lie above the double. -/
def Interval.pointBelow (i : Interval) (scale : Int) : Nat :=
  i.value * i.num * (powerOfTen scale).2 / ((powerOfTen scale).1 * i.den)

theorem exists_onGrid?_of_contains {i : Interval} {scale : Int}
    (habove : i.contains (i.pointBelow scale + 1) (powerOfTen scale).1 (powerOfTen scale).2 =
      true) :
    ∃ n, i.onGrid? scale = some n := by
  unfold Interval.pointBelow at habove
  unfold Interval.onGrid?
  simp only [habove, Bool.and_true, ↓reduceIte]
  split
  · split
    · exact ⟨_, rfl⟩
    · exact ⟨_, rfl⟩
  · exact ⟨_, rfl⟩

/-- On a grid finer than half the distance between doubles, the point after the double fits. -/
theorem exists_onGrid? (h : Canonical m e) {scale : Int} (hfine : (10 : ℚ) ^ scale < 2 ^ (e - 1)) :
    ∃ n, (Interval.around m e).onGrid? scale = some n := by
  obtain ⟨hnum, hden, hpower⟩ := powerOfTen_value scale
  obtain ⟨hi, hunit⟩ := unit_around m e
  apply exists_onGrid?_of_contains
  rw [contains_around_iff]
  have hvalue : (Interval.around m e).value = 4 * m := rfl
  rw [Interval.pointBelow, hvalue]
  generalize (Interval.around m e).num = num at hunit ⊢
  generalize (Interval.around m e).den = den at hi hunit ⊢
  generalize (powerOfTen scale).1 = num' at hnum hpower ⊢
  generalize (powerOfTen scale).2 = den' at hden hpower ⊢
  have hB : 0 < num' * den := Nat.mul_pos hnum hi
  have hB' : (0 : ℚ) < (num' * den : Nat) := by exact_mod_cast hB
  have hgrid : (0 : ℚ) < 10 ^ scale := by positivity
  have hquotient : ((4 * m * num * den' : Nat) : ℚ) / (num' * den : Nat) =
      m * 2 ^ e / 10 ^ scale := by
    have hsplit : (2 : ℚ) ^ e = 4 * 2 ^ (e - 2) := by
      rw [zpow_sub₀ two_ne_zero]
      ring
    have hne : (den : ℚ) ≠ 0 := by exact_mod_cast hi.ne'
    have hne' : (den' : ℚ) ≠ 0 := by exact_mod_cast hden.ne'
    have hne'' : (num' : ℚ) ≠ 0 := by exact_mod_cast hnum.ne'
    rw [hsplit, ← hunit, ← hpower]
    push_cast
    field_simp
  have hbelow : ((4 * m * num * den' / (num' * den) : Nat) : ℚ) * 10 ^ scale ≤ m * 2 ^ e := by
    rw [← le_div_iff₀ hgrid, ← hquotient]
    exact Nat.cast_div_le
  have habove : (m : ℚ) * 2 ^ e <
      ((4 * m * num * den' / (num' * den) + 1 : Nat) : ℚ) * 10 ^ scale := by
    rw [← div_lt_iff₀ hgrid, ← hquotient, div_lt_iff₀ hB']
    exact_mod_cast Nat.lt_mul_of_div_lt (Nat.lt_succ_self _) hB
  refine rounds_of_close h habove ?_
  push_cast
  linarith

theorem rounds_firstGrid {scale : Int} {tries : Nat}
    (hlast : ∃ n, (Interval.around m e).onGrid? (scale - tries) = some n) :
    Rounds m e ((Interval.around m e).firstGrid scale tries).value := by
  induction tries generalizing scale with
  | zero =>
      obtain ⟨n, hn⟩ := hlast
      rw [Int.natCast_zero, Int.sub_zero] at hn
      rw [Interval.firstGrid, hn]
      exact (contains_around_iff n scale).mp (contains_of_onGrid? hn)
  | succ tries ih =>
      rw [Interval.firstGrid]
      split
      case h_1 n hn => exact (contains_around_iff n scale).mp (contains_of_onGrid? hn)
      case h_2 =>
        apply ih
        rwa [show scale - 1 - (tries : Int) = scale - (tries + 1 : Nat) by push_cast; ring]

theorem value_normal (d : Digits) (steps : Nat) : (d.normal steps).value = d.value := by
  induction steps generalizing d with
  | zero => rfl
  | succ steps ih =>
      rw [Digits.normal]
      split
      case isTrue hzero =>
        simp only [Bool.and_eq_true, beq_iff_eq] at hzero
        rw [ih]
        have hdigits : (d.digits : ℚ) = 10 * (d.digits / 10 : Nat) := by
          exact_mod_cast (Nat.mul_div_cancel' (Nat.dvd_of_mod_eq_zero hzero.2)).symm
        rw [Digits.value, Digits.value, hdigits, zpow_add_one₀ (by norm_num)]
        ring
      case isFalse => rfl

/-- At the first scale there is at most one digit in front of the point. -/
theorem topScale_le (hpos : 0 < m) : (10 : ℚ) ^ (topScale m e - 1) ≤ m * 2 ^ e := by
  obtain ⟨hden, hvalue⟩ := quotient_value m e
  have hnum : 0 < (quotient m e).1 := by
    have hmpos : (0 : ℚ) < m * 2 ^ e := by positivity
    by_contra hzero
    rw [← hvalue, Nat.eq_zero_of_not_pos hzero, Nat.cast_zero, zero_div] at hmpos
    exact hmpos.ne rfl
  rw [← hvalue]
  unfold topScale
  dsimp only
  generalize (quotient m e).1 = num at hnum ⊢
  generalize (quotient m e).2 = den at hden ⊢
  have hden' : (0 : ℚ) < den := by exact_mod_cast hden
  have hnum' : (0 : ℚ) < num := by exact_mod_cast hnum
  split
  case isTrue hle =>
    have hdigits := ten_pow_le_of_digitCount (Nat.div_pos hle hden)
    have hpos := digitCount_pos (num / den)
    obtain ⟨d, hd⟩ : ∃ d, digitCount (num / den) = d + 1 :=
      ⟨_, (Nat.succ_pred_eq_of_pos hpos).symm⟩
    rw [hd, Nat.add_sub_cancel] at hdigits
    rw [hd]
    calc (10 : ℚ) ^ (((d + 1 : Nat) : Int) - 1) = (10 ^ d : Nat) := by
          rw [show ((d + 1 : Nat) : Int) - 1 = d by push_cast; ring, zpow_natCast]
          push_cast
          rfl
      _ ≤ (num / den : Nat) := by exact_mod_cast hdigits
      _ ≤ (num : ℚ) / den := Nat.cast_div_le
  case isFalse hlt =>
    have hdigits := lt_ten_pow_digitCount (den / num)
    have hless : den < 10 ^ digitCount (den / num) * num := Nat.lt_mul_of_div_lt hdigits hnum
    have hless' : (den : ℚ) < 10 ^ digitCount (den / num) * num := by exact_mod_cast hless
    rw [add_sub_cancel_right, zpow_neg, zpow_natCast,
      inv_le_comm₀ (by positivity) (by positivity), inv_div, div_le_iff₀ hnum']
    exact hless'.le

/-- **The decimal that is written for a double rounds to it.** -/
theorem rounds_shortest (h : Canonical m e) : Rounds m e (shortest m e).value := by
  have hshort : (m : ℚ) < 2 ^ 53 := by exact_mod_cast h.short
  have hunit : (0 : ℚ) < 2 ^ e := by positivity
  rw [shortest, if_neg (by simpa using h.pos.ne'), value_normal]
  apply rounds_firstGrid
  apply exists_onGrid? h
  calc (10 : ℚ) ^ (topScale m e - (20 : Nat)) = 10 ^ (topScale m e - 1) * 10 ^ (-19 : Int) := by
        rw [← zpow_add₀ (by norm_num)]
        congr 1
        push_cast
        ring
    _ ≤ m * 2 ^ e * 10 ^ (-19 : Int) := by
        gcongr
        exact topScale_le h.pos
    _ < 2 ^ 53 * 2 ^ e * 10 ^ (-19 : Int) := by gcongr
    _ = 2 ^ e * (2 ^ 53 * 10 ^ (-19 : Int)) := by ring
    _ < 2 ^ e * 2 ^ (-1 : Int) := by
        gcongr
        norm_num
    _ = 2 ^ (e - 1) := by
        rw [← zpow_add₀ two_ne_zero]
        rfl

end HeaterHost.Decimal
