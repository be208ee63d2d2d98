import Mathlib

/-!
# Rounding of doubles

A double is a mantissa of 53 bits and an exponent. Rounding a longer mantissa leaves at most one
unit in the last place too much or too little, so a comparison with a margin can be settled in whole
numbers.
-/

namespace HeaterHost.Double

open Float.Model Float.Model.UnpackedFloat

/-! ### Mantissas of full length -/

def Full (m : Nat) : Prop :=
  2 ^ 52 ≤ m ∧ m < 2 ^ 53

theorem Full.pos {m : Nat} (hfull : Full m) : 0 < m :=
  Nat.lt_of_lt_of_le (by decide) hfull.1

theorem Full.log2 {m : Nat} (hfull : Full m) : m.log2 = 52 := by
  rw [Nat.log2_eq_iff hfull.pos.ne']
  exact hfull

theorem unpackSign_packComponents {spec : Format} (s : Sign) (e : BitVec spec.exponentBits)
    (m : BitVec spec.mantissaBitsWithoutImplicit) :
    unpackSign (packComponents spec s e m) = s.toBitVec := by
  ext i hi
  have hzero : i = 0 := by omega
  subst hzero
  simp [unpackSign, packComponents, BitVec.getLsbD_append, BitVec.getElem_append]

theorem toNat_implicit_append (m : BitVec 52) : (1#1 ++ m).toNat = 2 ^ 52 + m.toNat := by
  rw [BitVec.toNat_append, ← Nat.shiftLeft_add_eq_or_of_lt m.isLt]
  simp [Nat.shiftLeft_eq]

theorem toNat_ofNat_exponent {b : Nat} (hb : b < 2047) : (BitVec.ofNat 11 b).toNat = b := by
  rw [BitVec.toNat_ofNat, Nat.mod_eq_of_lt (by omega)]

theorem ofNat_exponent_ne {b : Nat} (hb : b < 2047) {bits : BitVec 11} (hne : b ≠ bits.toNat) :
    BitVec.ofNat 11 b ≠ bits := by
  intro heq
  apply hne
  rw [← heq, toNat_ofNat_exponent hb]

theorem toNat_implicit_ofNat {m : Nat} (hfull : Full m) : (1#1 ++ BitVec.ofNat 52 m).toNat = m := by
  obtain ⟨hge, hlt⟩ := hfull
  rw [toNat_implicit_append, BitVec.toNat_ofNat]
  omega

theorem pack_full {m b : Nat} {e : Int} (s : Sign) (hfull : Full m) (hb : (b : Int) = e + 1075)
    (hhigh : e ≤ 971) :
    UnpackedFloat.pack Format.binary64 (.finite s m e hfull.pos) =
      packComponents Format.binary64 s (BitVec.ofNat 11 b) (BitVec.ofNat 52 m) := by
  have hbiased : (e + (1023 : Nat) + (52 : Nat) : Int).toNat = b := by omega
  unfold UnpackedFloat.pack
  simp only [Format.exponentBias, Format.mantissaBits, Nat.reduceSub, Nat.reducePow,
    Nat.reduceAdd, hfull.log2, ↓reduceIte]
  rw [hbiased, if_neg (by omega)]

/-- Packing a mantissa of full length keeps it, as long as the exponent fits. -/
theorem unpack_pack {m : Nat} {e : Int} (s : Sign) (hfull : Full m) (hlow : -1074 ≤ e)
    (hhigh : e ≤ 971) :
    (Float.Model.pack (.finite s m e hfull.pos)).unpack = .finite s m e hfull.pos := by
  obtain ⟨b, hb⟩ : ∃ b : Nat, (b : Int) = e + 1075 := ⟨(e + 1075).toNat, by omega⟩
  have hexponent := toNat_ofNat_exponent (b := b) (by omega)
  have hnotOnes : BitVec.ofNat 11 b ≠ -1#11 := by
    apply ofNat_exponent_ne (by omega)
    simp
    omega
  have hnotZero : BitVec.ofNat 11 b ≠ 0#11 := by
    apply ofNat_exponent_ne (by omega)
    simp
    omega
  have hsign : Sign.ofBitVec s.toBitVec = s := by cases s <;> rfl
  change UnpackedFloat.unpack Format.binary64
    (UnpackedFloat.pack Format.binary64 (.finite s m e hfull.pos)) = _
  rw [pack_full s hfull hb hhigh]
  unfold UnpackedFloat.unpack
  simp only [unpackMantissa_packComponents, unpackExponent_packComponents,
    unpackSign_packComponents, hsign, hnotOnes, hnotZero, ↓reduceIte, hexponent,
    toNat_implicit_ofNat hfull]
  congr 1
  simp only [Format.exponentBias]
  omega

/-! ### Shifting and rounding -/

theorem targetExponent_eq {m : Nat} {e : Int} (hlow : -1074 ≤ (m.log2 : Int) + e - 52) :
    Format.binary64.targetExponent (totalExponent m e) = (m.log2 : Int) + e - 52 := by
  simp only [Format.targetExponent, totalExponent, Format.mantissaBits, Format.minExponent]
  omega

theorem roundedMantissa_bounds (em : ExtendedMantissa) :
    em.mantissa ≤ em.roundedMantissa ∧ em.roundedMantissa ≤ em.mantissa + 1 := by
  rcases em with ⟨m, _ | _, _ | _⟩ <;>
    simp only [ExtendedMantissa.roundedMantissa, ExtendedMantissa.accuracy,
      Accuracy.roundToNearestEven] <;> omega

theorem mantissa_ofMantissaAndAccuracy (m : Nat) (a : Accuracy) :
    (ExtendedMantissa.ofMantissaAndAccuracy m a).mantissa = m := by
  rcases a with _ | (_ | _ | _) <;> rfl

theorem shiftToTargetExponent_eq {m k : Nat} {e : Int} (a : Accuracy) (hlog : m.log2 = 52 + k)
    (hlow : -1074 ≤ e) :
    shiftToTargetExponent Format.binary64 m e a =
      (ExtendedMantissa.ofMantissaAndAccuracy m a >>> k, e + k) := by
  have htarget := targetExponent_eq (m := m) (e := e) (by omega)
  have hshift : ((m.log2 : Int) + e - 52 - e).toNat = k := by omega
  simp only [shiftToTargetExponent, shiftToExponent, htarget, hshift]

theorem shift_full {m : Nat} (hfull : Full m) {e : Int} (hlow : -1074 ≤ e) :
    shiftToTargetExponent Format.binary64 m e .exact = (⟨m, false, false⟩, e) := by
  rw [shiftToTargetExponent_eq .exact (k := 0) hfull.log2 hlow]
  simp [HShiftRight.hShiftRight, Nat.repeat, ExtendedMantissa.ofMantissaAndAccuracy]

/-- A mantissa that rounding has carried over gives up its last bit. -/
theorem shift_carried {e : Int} (hlow : -1074 ≤ e) :
    shiftToTargetExponent Format.binary64 (2 ^ 53) e .exact = (⟨2 ^ 52, false, false⟩, e + 1) := by
  rw [shiftToTargetExponent_eq .exact (k := 1) (by rw [Nat.log2_two_pow]) hlow]
  rfl

/-- Rounding, from the mantissa after the first shift on. -/
theorem roundWithAccuracy_eq {s : Sign} {m : Nat} {e e' : Int} {a : Accuracy}
    {em : ExtendedMantissa}
    (hshift : shiftToTargetExponent Format.binary64 m e a = (em, e')) (hlow : -1074 ≤ e')
    (hge : 2 ^ 52 ≤ em.mantissa) (hlt : em.mantissa < 2 ^ 53) :
    ∃ (m' : Nat) (e'' : Int) (hfull : Full m'),
      roundWithAccuracy Format.binary64 s m e a = .finite s m' e'' hfull.pos ∧
      (e'' = e' ∧ em.mantissa ≤ m' ∧ m' ≤ em.mantissa + 1 ∨
        e'' = e' + 1 ∧ em.mantissa ≤ 2 * m' ∧ 2 * m' ≤ em.mantissa + 1) := by
  obtain ⟨hkept, hnext⟩ := roundedMantissa_bounds em
  by_cases hcarried : em.roundedMantissa = 2 ^ 53
  · refine ⟨2 ^ 52, e' + 1, by constructor <;> decide, ?_, .inr ⟨rfl, by omega, by omega⟩⟩
    rw [roundWithAccuracy, hshift]
    dsimp only
    rw [hcarried, shift_carried hlow]
    rfl
  · have hfull : Full em.roundedMantissa := ⟨by omega, by omega⟩
    refine ⟨em.roundedMantissa, e', hfull, ?_, .inl ⟨rfl, hkept, hnext⟩⟩
    rw [roundWithAccuracy, hshift]
    dsimp only
    rw [shift_full hfull hlow]
    exact dif_neg hfull.pos.ne'

theorem round_bounds {s : Sign} {m : Nat} {e : Int} (a : Accuracy) (hge : 2 ^ 52 ≤ m)
    (hlt : m < 2 ^ 54) (hlow : -1074 ≤ e) :
    ∃ (m' k : Nat) (hfull : Full m'),
      roundWithAccuracy Format.binary64 s m e a = .finite s m' (e + k) hfull.pos ∧
      k ≤ 2 ∧ m' * 2 ^ k ≤ m + 2 ^ k ∧ m < m' * 2 ^ k + 2 ^ k := by
  by_cases hshort : m < 2 ^ 53
  · have hfull : Full m := ⟨hge, hshort⟩
    have hshift := shiftToTargetExponent_eq a (k := 0) (e := e) hfull.log2 hlow
    have hmantissa : (ExtendedMantissa.ofMantissaAndAccuracy m a >>> 0).mantissa = m :=
      mantissa_ofMantissaAndAccuracy m a
    obtain ⟨m', e', hfull', hround, ⟨rfl, hkept, hle⟩ | ⟨rfl, hkept, hle⟩⟩ :=
      roundWithAccuracy_eq (s := s) hshift (by omega) (by omega) (by omega)
    · refine ⟨m', 0, hfull', hround, by omega, by omega, by omega⟩
    · refine ⟨m', 1, hfull', by simpa using hround, by omega, by omega, by omega⟩
  · have hlog : m.log2 = 52 + 1 := by
      rw [Nat.log2_eq_iff (by omega)]
      omega
    have hshift := shiftToTargetExponent_eq a (k := 1) (e := e) hlog hlow
    have hmantissa : (ExtendedMantissa.ofMantissaAndAccuracy m a >>> 1).mantissa = m / 2 :=
      congrArg (· / 2) (mantissa_ofMantissaAndAccuracy m a)
    obtain ⟨m', e', hfull', hround, ⟨rfl, hkept, hle⟩ | ⟨rfl, hkept, hle⟩⟩ :=
      roundWithAccuracy_eq (s := s) hshift (by omega) (by omega) (by omega)
    · refine ⟨m', 1, hfull', by simpa using hround, by omega, by omega, by omega⟩
    · refine ⟨m', 2, hfull', ?_, by omega, by omega, by omega⟩
      rw [hround]
      congr 1
      omega

/-! ### Whole numbers -/

theorem shiftRight_mul_two_pow (m k : Nat) :
    (⟨m * 2 ^ k, false, false⟩ : ExtendedMantissa) >>> k = ⟨m, false, false⟩ := by
  induction k generalizing m with
  | zero => simp [HShiftRight.hShiftRight, Nat.repeat]
  | succ k ih =>
      have hdouble : m * 2 ^ (k + 1) = m * 2 * 2 ^ k := by ring
      change ExtendedMantissa.shiftRightOne
        ((⟨m * 2 ^ (k + 1), false, false⟩ : ExtendedMantissa) >>> k) = _
      rw [hdouble, ih]
      simp [ExtendedMantissa.shiftRightOne]

theorem log2_mul_two_pow {m : Nat} (hfull : Full m) (k : Nat) : (m * 2 ^ k).log2 = 52 + k := by
  have hpos : 0 < 2 ^ k := Nat.two_pow_pos k
  rw [Nat.log2_eq_iff (Nat.mul_pos hfull.pos hpos).ne', Nat.pow_add,
    show 52 + k + 1 = 53 + k by omega, Nat.pow_add]
  exact ⟨Nat.mul_le_mul_right _ hfull.1, Nat.mul_lt_mul_of_pos_right hfull.2 hpos⟩

/-- Rounding takes zeros at the end of a mantissa away and nothing else. -/
theorem round_exact {s : Sign} {m k : Nat} {e : Int} (hfull : Full m) (hlow : -1074 ≤ e) :
    roundWithAccuracy Format.binary64 s (m * 2 ^ k) e .exact =
      .finite s m (e + k) hfull.pos := by
  have hshift := shiftToTargetExponent_eq .exact (log2_mul_two_pow hfull k) hlow
  rw [ExtendedMantissa.ofMantissaAndAccuracy, shiftRight_mul_two_pow] at hshift
  rw [roundWithAccuracy, hshift]
  dsimp only
  rw [show (⟨m, false, false⟩ : ExtendedMantissa).roundedMantissa = m from rfl,
    shift_full hfull (by omega)]
  exact dif_neg hfull.pos.ne'

def parts (x : Float) : UnpackedFloat :=
  x.toModel.unpack

/-- The zeros that fill a whole number up to a mantissa of full length. -/
def padding (n : Nat) : Nat :=
  52 - n.log2

theorem full_padded {n : Nat} (hpos : 0 < n) (hlt : n < 2 ^ 53) : Full (n * 2 ^ padding n) := by
  have hlog : n.log2 < 53 := (Nat.log2_lt hpos.ne').mpr hlt
  obtain ⟨hge, hnext⟩ := (Nat.log2_eq_iff hpos.ne').mp (rfl : n.log2 = n.log2)
  have hsum : n.log2 + padding n = 52 := by
    unfold padding
    omega
  constructor
  · calc 2 ^ 52 = 2 ^ n.log2 * 2 ^ padding n := by rw [← Nat.pow_add, hsum]
      _ ≤ n * 2 ^ padding n := Nat.mul_le_mul_right _ hge
  · calc n * 2 ^ padding n < 2 ^ (n.log2 + 1) * 2 ^ padding n :=
        Nat.mul_lt_mul_of_pos_right hnext (Nat.two_pow_pos _)
      _ = 2 ^ 53 := by rw [← Nat.pow_add, Nat.add_right_comm, hsum]

theorem parts_toFloat {n : Nat} (hpos : 0 < n) (hlt : n < 2 ^ 53) :
    parts n.toUInt64.toFloat =
      .finite .positive (n * 2 ^ padding n) (-(padding n : Int)) (full_padded hpos hlt).pos := by
  have hfull := full_padded hpos hlt
  have hlog : n.log2 < 53 := (Nat.log2_lt hpos.ne').mpr hlt
  have hnat : n.toUInt64.toNat = n := by
    simp only [Nat.toUInt64, UInt64.toNat_ofNat']
    omega
  have htarget := targetExponent_eq (m := n) (e := 0) (by omega)
  have hround : UnpackedFloat.ofUInt64 Format.binary64 n.toUInt64 =
      .finite .positive (n * 2 ^ padding n) (-(padding n : Int)) hfull.pos := by
    have hexact := round_exact (s := .positive) (k := 0) (e := -(padding n : Int)) hfull
      (by unfold padding; omega)
    simp only [Nat.pow_zero, Nat.mul_one, Int.natCast_zero, Int.add_zero] at hexact
    have hamount : (-((n.log2 : Int) + 0 - 52)).toNat = padding n := by
      unfold padding
      omega
    rw [UnpackedFloat.ofUInt64, UnpackedFloat.ofNat, UnpackedFloat.ofInt, hnat,
      UnpackedFloat.normalize, Int.compare_eq_gt.mpr (by omega)]
    simp only [UnpackedFloat.round, Int.toNat_natCast, htarget, decreaseExponent, Int.zero_sub,
      hamount, Nat.shiftLeft_eq]
    exact hexact
  change (Float.Model.pack (UnpackedFloat.ofUInt64 Format.binary64 n.toUInt64)).unpack = _
  rw [hround]
  exact unpack_pack .positive hfull (by unfold padding; omega) (by unfold padding; omega)

theorem parts_mul_one {x y : Float} {s : Sign} {m : Nat} {e : Int} (hfull : Full m)
    (hlow : -1022 ≤ e) (hhigh : e ≤ 971) (hx : parts x = .finite s m e hfull.pos)
    (hy : parts y = .finite .positive (2 ^ 52) (-52) (by decide)) :
    parts (x * y) = .finite s m e hfull.pos := by
  have hexact := round_exact (s := s) (k := 52) (e := e - 52) hfull (by omega)
  have hsign : s * .positive = s := by cases s <;> rfl
  have hproduct : UnpackedFloat.mul Format.binary64 (parts x) (parts y) =
      .finite s m e hfull.pos := by
    rw [hx, hy]
    simp only [UnpackedFloat.mul, hsign]
    rw [show e + -52 = e - 52 by omega, hexact]
    congr 1
    omega
  change (Float.Model.pack (UnpackedFloat.mul Format.binary64 (parts x) (parts y))).unpack = _
  rw [hproduct]
  exact unpack_pack s hfull (by omega) hhigh

theorem parts_ofNat {n : Nat} (hpos : 0 < n) (hlt : n < 2 ^ 53) :
    parts (Float.ofNat n) =
      .finite .positive (n * 2 ^ padding n) (-(padding n : Int)) (full_padded hpos hlt).pos := by
  have hone : parts (Float.ofBits 0x3FF0000000000000) =
      .finite .positive (2 ^ 52) (-52) (by decide) := rfl
  have hvalue : Float.ofNat n = n.toUInt64.toFloat * Float.ofBits 0x3FF0000000000000 := by
    change Float.ofScientific n false 0 = _
    rw [Float.ofScientific, dif_pos ⟨hlt, by decide⟩]
    rfl
  rw [hvalue]
  exact parts_mul_one (full_padded hpos hlt) (by unfold padding; omega)
    (by unfold padding; omega) (parts_toFloat hpos hlt) hone

/-! ### Order -/

theorem le_iff {x y : Float} : x ≤ y ↔ (parts x).le (parts y) = true :=
  decide_eq_true_iff

end HeaterHost.Double
