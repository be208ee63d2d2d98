import HeaterHost.Decimal.Reading
import HeaterHost.Proofs.Double.Nearest

/-!
# The double that a decimal is read as

A decimal is read as the double that it rounds to, on the short way for few digits and small powers
of ten as on the long one.
-/

namespace HeaterHost.Decimal

open Double Float.Model Float.Model.UnpackedFloat

/-! ### The number of digits -/

theorem digitCount_pos (n : Nat) : 0 < digitCount n :=
  Nat.length_repr_pos

theorem lt_ten_pow_digitCount (n : Nat) : n < 10 ^ digitCount n :=
  (Nat.length_repr_le_iff (digitCount_pos n)).mp (Nat.le_refl _)

theorem ten_pow_le_of_digitCount {n : Nat} (hn : 0 < n) : 10 ^ (digitCount n - 1) ≤ n := by
  have hpos := digitCount_pos n
  by_cases hone : digitCount n = 1
  · rw [hone]
    exact hn
  · by_contra hlt
    have hle := (Nat.length_repr_le_iff (n := n) (k := digitCount n - 1) (by omega)).mpr
      (Nat.lt_of_not_le hlt)
    unfold digitCount at hpos hle
    omega

/-! ### Powers of ten -/

/-- Whether parts stand for `10 ^ k` with a mantissa of full length. -/
def isTenPow (k : Nat) : UnpackedFloat → Bool
  | .finite .positive m e _ => 2 ^ 52 ≤ m && -52 ≤ e && m * 2 ^ (e + 52).toNat == 10 ^ k * 2 ^ 52
  | _ => false

theorem exists_of_isTenPow {k : Nat} {u : UnpackedFloat} (hu : isTenPow k u = true) :
    ∃ (m : Nat) (e : Int) (hpos : 0 < m),
      u = .finite .positive m e hpos ∧ 2 ^ 52 ≤ m ∧ (m : ℚ) * 2 ^ e = 10 ^ k := by
  unfold isTenPow at hu
  split at hu
  case h_1 m e hpos =>
    simp only [Bool.and_eq_true, decide_eq_true_eq, beq_iff_eq] at hu
    obtain ⟨⟨hfull, hlow⟩, hvalue⟩ := hu
    obtain ⟨j, hj⟩ := Int.le.dest hlow
    refine ⟨m, e, hpos, rfl, hfull, ?_⟩
    have hamount : (e + 52).toNat = j := by omega
    have hcast : (m : ℚ) * 2 ^ j = 10 ^ k * 2 ^ 52 := by
      rw [hamount] at hvalue
      exact_mod_cast hvalue
    have hexponent : e = j - 52 := by omega
    rw [hexponent, zpow_sub₀ two_ne_zero, zpow_natCast, ← mul_div_assoc, hcast]
    norm_num
  case h_2 => cases hu

theorem isTenPow_table : ∀ i : Fin Float.exactlyRepresentablePowersOfTen.size,
    isTenPow i.1 (parts Float.exactlyRepresentablePowersOfTen[i.1]) = true := by
  decide +kernel

theorem parts_powersOfTen {k : Nat} (hlt : k < Float.exactlyRepresentablePowersOfTen.size) :
    ∃ (m : Nat) (e : Int) (hpos : 0 < m),
      parts Float.exactlyRepresentablePowersOfTen[k] = .finite .positive m e hpos ∧
        2 ^ 52 ≤ m ∧ (m : ℚ) * 2 ^ e = 10 ^ k := by
  exact exists_of_isTenPow (isTenPow_table ⟨k, hlt⟩)

/-! ### Short and long ways -/

variable {m : Nat} {e : Int}

theorem value_padded {n : Nat} :
    ((n * 2 ^ padding n : Nat) : ℚ) * 2 ^ (-(padding n : Int)) = n := by
  push_cast
  rw [zpow_neg, zpow_natCast]
  field_simp

theorem parts_mul {x y : Float} (h : Canonical m e)
    (hmul : UnpackedFloat.mul Format.binary64 (parts x) (parts y) = .finite .positive m e h.pos) :
    parts (x * y) = .finite .positive m e h.pos := by
  change (Float.Model.pack (UnpackedFloat.mul Format.binary64 (parts x) (parts y))).unpack = _
  rw [hmul]
  exact h.unpack_pack .positive

theorem parts_div {x y : Float} (h : Canonical m e)
    (hdiv : UnpackedFloat.div Format.binary64 (parts x) (parts y) = .finite .positive m e h.pos) :
    parts (x / y) = .finite .positive m e h.pos := by
  change (Float.Model.pack (UnpackedFloat.div Format.binary64 (parts x) (parts y))).unpack = _
  rw [hdiv]
  exact h.unpack_pack .positive

theorem parts_short_mul {n k : Nat} (h : Canonical m e) (hn : 0 < n) (hlt : n < 2 ^ 53)
    (hk : k < Float.exactlyRepresentablePowersOfTen.size) (hv : Rounds m e (n * 10 ^ k)) :
    parts (n.toUInt64.toFloat * Float.exactlyRepresentablePowersOfTen[k]) =
      .finite .positive m e h.pos := by
  obtain ⟨m', e', hpos, hpower, hfull, hvalue⟩ := parts_powersOfTen hk
  refine parts_mul h ?_
  rw [parts_toFloat hn hlt, hpower]
  refine mul_eq_finite h ?_ (full_padded hn hlt).pos hpos ?_
  · rwa [value_padded, hvalue]
  · exact (full_padded hn hlt).1.trans (Nat.le_mul_of_pos_right _ hpos)

theorem parts_short_div {n k : Nat} (h : Canonical m e) (hn : 0 < n) (hlt : n < 2 ^ 53)
    (hk : k < Float.exactlyRepresentablePowersOfTen.size) (hv : Rounds m e (n / 10 ^ k)) :
    parts (n.toUInt64.toFloat / Float.exactlyRepresentablePowersOfTen[k]) =
      .finite .positive m e h.pos := by
  obtain ⟨m', e', hpos, hpower, hfull, hvalue⟩ := parts_powersOfTen hk
  refine parts_div h ?_
  rw [parts_toFloat hn hlt, hpower]
  refine div_eq_finite h ?_ (full_padded hn hlt).pos hpos
  rwa [value_padded, hvalue]

theorem exponentBits_pow : (2 ^ Format.binary64.exponentBits : Int) = 2048 := rfl

theorem parts_long_mul {n k : Nat} (h : Canonical m e) (hn : 0 < n) (hk : k ≤ 2048)
    (hv : Rounds m e (n * 10 ^ k)) :
    (Float.Model.ofScientific n (k : Int)).unpack = .finite .positive m e h.pos := by
  have hmul : UnpackedFloat.ofScientific Format.binary64 n (k : Int) =
      .finite .positive m e h.pos := by
    rw [UnpackedFloat.ofScientific, exponentBits_pow, dif_neg hn.ne', if_neg (by omega),
      if_neg (by omega), if_pos (Int.natCast_nonneg k)]
    have hvalue : ((n <<< Format.binary64.mantissaBits : Nat) : ℚ) *
        2 ^ (-(Format.binary64.mantissaBits : Int)) *
          ((10 ^ (k : Int).toNat : Nat) * 2 ^ (0 : Int)) = n * 10 ^ k := by
      rw [Nat.shiftLeft_eq, zpow_neg, zpow_natCast, Int.toNat_natCast]
      push_cast
      field_simp
    have hlong : 2 ^ 52 ≤ n <<< Format.binary64.mantissaBits * 10 ^ (k : Int).toNat := by
      rw [Nat.shiftLeft_eq]
      calc 2 ^ 52 ≤ 2 ^ Format.binary64.mantissaBits := by decide
        _ ≤ n * 2 ^ Format.binary64.mantissaBits := Nat.le_mul_of_pos_left _ hn
        _ ≤ _ := Nat.le_mul_of_pos_right _ (Nat.pow_pos (by decide))
    exact mul_eq_finite h (by rwa [hvalue]) _ _ hlong
  rw [Float.Model.ofScientific, hmul]
  exact h.unpack_pack .positive

theorem parts_long_div {n k : Nat} (h : Canonical m e) (hn : 0 < n) (hk : k < 2048 + n.log2)
    (hv : Rounds m e (n / 10 ^ (k + 1))) :
    (Float.Model.ofScientific n (Int.negSucc k)).unpack = .finite .positive m e h.pos := by
  have hdiv : UnpackedFloat.ofScientific Format.binary64 n (Int.negSucc k) =
      .finite .positive m e h.pos := by
    rw [UnpackedFloat.ofScientific, exponentBits_pow, dif_neg hn.ne', if_neg (by omega),
      if_neg (by omega), if_neg (by omega)]
    have hvalue : (n : ℚ) * 2 ^ (0 : Int) / ((10 ^ (-Int.negSucc k).toNat : Nat) * 2 ^ (0 : Int)) =
        n / 10 ^ (k + 1) := by
      rw [Int.neg_negSucc]
      push_cast
      simp
    exact div_eq_finite h (by rwa [hvalue]) _ _
  rw [Float.Model.ofScientific, hdiv]
  exact h.unpack_pack .positive

/-! ### Reading -/

theorem parts_ofScientific_false {n k : Nat} (h : Canonical m e) (hn : 0 < n) (hk : k ≤ 2048)
    (hv : Rounds m e (n * 10 ^ k)) :
    parts (Float.ofScientific n false k) = .finite .positive m e h.pos := by
  unfold Float.ofScientific
  split
  case isTrue hshort => exact parts_short_mul h hn hshort.1 _ hv
  case isFalse => exact parts_long_mul h hn hk hv

theorem parts_ofScientific_true {n k : Nat} (h : Canonical m e) (hn : 0 < n)
    (hk : k < 2048 + n.log2) (hv : Rounds m e (n / 10 ^ (k + 1))) :
    parts (Float.ofScientific n true (k + 1)) = .finite .positive m e h.pos := by
  unfold Float.ofScientific
  split
  case isTrue hshort => exact parts_short_div h hn hshort.1 _ hv
  case isFalse => exact parts_long_div h hn hk hv

/-- The size of a decimal follows from its digits and its scale. -/
theorem decimal_bounds {n : Nat} (hn : 0 < n) (scale : Int) :
    (10 : ℚ) ^ (scale + digitCount n - 1) ≤ n * 10 ^ scale ∧
      (n : ℚ) * 10 ^ scale < 10 ^ (scale + digitCount n) := by
  obtain ⟨d, hd⟩ : ∃ d, digitCount n = d + 1 :=
    ⟨_, (Nat.succ_pred_eq_of_pos (digitCount_pos n)).symm⟩
  have hge : ((10 ^ d : Nat) : ℚ) ≤ n := by
    have hle := ten_pow_le_of_digitCount hn
    rw [hd, Nat.add_sub_cancel] at hle
    exact_mod_cast hle
  have hlt : (n : ℚ) < (10 ^ (d + 1) : Nat) := by
    have hlt := lt_ten_pow_digitCount n
    rw [hd] at hlt
    exact_mod_cast hlt
  have hscale : (0 : ℚ) < 10 ^ scale := by positivity
  rw [hd]
  constructor
  · calc (10 : ℚ) ^ (scale + (d + 1 : Nat) - 1) = (10 ^ d : Nat) * 10 ^ scale := by
          rw [show scale + (d + 1 : Nat) - 1 = d + scale by push_cast; ring,
            zpow_add₀ (by norm_num), zpow_natCast]
          push_cast
          rfl
      _ ≤ n * 10 ^ scale := by gcongr
  · calc (n : ℚ) * 10 ^ scale < (10 ^ (d + 1) : Nat) * 10 ^ scale := by gcongr
      _ = 10 ^ (scale + (d + 1 : Nat)) := by
          rw [add_comm scale, zpow_add₀ (by norm_num), zpow_natCast]
          push_cast
          rfl

theorem digitCount_le_log2 (n : Nat) : digitCount n ≤ n.log2 + 1 := by
  refine (Nat.length_repr_le_iff (Nat.succ_pos _)).mpr ?_
  calc n < 2 ^ (n.log2 + 1) := Nat.lt_log2_self
    _ ≤ 10 ^ (n.log2 + 1) := Nat.pow_le_pow_left (by decide) _

/-- No finite double is as large as `10 ^ 309`, and none but zero is as small as `10 ^ -324`. -/
theorem rounds_bounds {q : ℚ} (h : Canonical m e) (hq : Rounds m e q) :
    (10 : ℚ) ^ (-324 : Int) < q ∧ q < 10 ^ (309 : Int) := by
  have hpos := h.pos
  have hlow := h.low
  have hhigh := h.high
  have hgap : 2 ≤ 4 * m - gapBelow m e := by
    unfold gapBelow
    split <;> omega
  have hunit : ((2 : ℚ) ^ 93) ^ 11 ≤ (10 ^ 28) ^ 11 :=
    pow_le_pow_left₀ (by positivity) (by norm_num) 11
  have hlarge : (2 : ℚ) ^ 1024 < 10 ^ 309 := by
    calc (2 : ℚ) ^ 1024 = (2 ^ 93) ^ 11 * 2 := by rw [← pow_mul, ← pow_succ]
      _ ≤ (10 ^ 28) ^ 11 * 2 := by gcongr
      _ < (10 ^ 28) ^ 11 * 10 := by gcongr; norm_num
      _ = 10 ^ 309 := by rw [← pow_mul, ← pow_succ]
  have hsmall : (2 : ℚ) ^ 1075 < 10 ^ 324 := by
    calc (2 : ℚ) ^ 1075 = (2 ^ 93) ^ 11 * 2 ^ 52 := by rw [← pow_mul, ← pow_add]
      _ ≤ (10 ^ 28) ^ 11 * 2 ^ 52 := by gcongr
      _ < (10 ^ 28) ^ 11 * 10 ^ 16 := by gcongr; norm_num
      _ = 10 ^ 324 := by rw [← pow_mul, ← pow_add]
  constructor
  · calc (10 : ℚ) ^ (-324 : Int) < 2 ^ (-1075 : Int) := by
          rw [zpow_neg, zpow_neg, zpow_ofNat, zpow_ofNat]
          exact inv_strictAnti₀ (pow_pos two_pos _) hsmall
      _ = 2 * 2 ^ (-1076 : Int) := by
          rw [show (-1075 : Int) = 1 + -1076 by norm_num, zpow_add₀ two_ne_zero, zpow_one]
      _ ≤ (2 : Nat) * 2 ^ (e - 2) := by
          have hle := zpow_le_zpow_right₀ (a := (2 : ℚ)) (by norm_num) (by omega : -1076 ≤ e - 2)
          exact mul_le_mul_of_nonneg_left hle zero_le_two
      _ ≤ ((4 * m - gapBelow m e : Nat) : ℚ) * 2 ^ (e - 2) := by gcongr
      _ ≤ q := hq.low
  · calc q < 2 ^ (e + 53) := hq.lt_two_zpow h
      _ ≤ (2 : ℚ) ^ (1024 : Int) := zpow_le_zpow_right₀ (by norm_num) (by omega)
      _ < 10 ^ (309 : Int) := by
          rw [zpow_ofNat, zpow_ofNat]
          exact hlarge

/-- **A decimal is read as the double that it rounds to.** -/
theorem parts_toFloat_of_rounds {n : Nat} {scale : Int} (h : Canonical m e)
    (hv : Rounds m e (n * 10 ^ scale)) :
    parts (toFloat n scale) = .finite .positive m e h.pos := by
  have hn : 0 < n := by
    by_contra hzero
    obtain rfl : n = 0 := by omega
    have hpos := hv.pos h
    rw [Nat.cast_zero, zero_mul] at hpos
    exact hpos.ne rfl
  obtain ⟨hlow, hhigh⟩ := rounds_bounds h hv
  obtain ⟨hge, hlt⟩ := decimal_bounds hn scale
  have htop := (zpow_lt_zpow_iff_right₀ (by norm_num)).mp (hge.trans_lt hhigh)
  have hbottom := (zpow_lt_zpow_iff_right₀ (by norm_num)).mp (hlow.trans hlt)
  have hcount := digitCount_pos n
  have hlog := digitCount_le_log2 n
  unfold toFloat
  rw [if_neg (by simpa using hn.ne')]
  dsimp only
  rw [if_neg (by omega), if_neg (by omega)]
  cases scale with
  | ofNat k =>
      rw [Int.ofNat_eq_natCast, zpow_natCast] at hv
      refine parts_ofScientific_false h hn ?_ hv
      rw [Int.ofNat_eq_natCast] at htop
      omega
  | negSucc k =>
      rw [zpow_negSucc, ← div_eq_mul_inv] at hv
      exact parts_ofScientific_true h hn (by omega) hv

end HeaterHost.Decimal
