import HeaterHost.Scalar
import HeaterHost.Proofs.Double.Rounding

/-!
# Doubles that are not numbers

A sum of doubles is a NaN if one of them is, or if they are infinities that cancel, and never through
rounding. Every comparison with a NaN is false, and so a clamp lets it through; between numbers the
order is total, and a clamp does what it is for.
-/

namespace HeaterHost.Double

open Float.Model Float.Model.UnpackedFloat

theorem isNaN_eq_parts (x : Float) : x.isNaN = (parts x).isNaN := rfl

/-! ### Packing -/

theorem isNaN_unpack_packComponents {b : BitVec 11} (hb : b ≠ -1#11) (s : Sign) (m : BitVec 52) :
    (UnpackedFloat.unpack Format.binary64
      (packComponents Format.binary64 s b m)).isNaN = false := by
  unfold UnpackedFloat.unpack
  simp only [unpackMantissa_packComponents, unpackExponent_packComponents, hb, ↓reduceIte]
  split
  · split <;> rfl
  · rfl

/-- Packing makes no NaN and loses none; what is too large for a double becomes infinite. -/
theorem isNaN_unpack_pack (u : UnpackedFloat) : (Float.Model.pack u).unpack.isNaN = u.isNaN := by
  cases u with
  | notANumber => rfl
  | infinity s => cases s <;> rfl
  | zero s => cases s <;> rfl
  | finite s m e hm =>
      change (UnpackedFloat.unpack Format.binary64
        (UnpackedFloat.pack Format.binary64 (.finite s m e hm))).isNaN = false
      unfold UnpackedFloat.pack
      dsimp only
      split
      case isTrue => cases s <;> rfl
      case isFalse hsmall =>
        split
        · have hb : (e + 1023 + 52).toNat < 2047 := by
            simp only [Format.exponentBias] at hsmall
            omega
          refine isNaN_unpack_packComponents (ofNat_exponent_ne hb ?_) ..
          simp
          omega
        · exact isNaN_unpack_packComponents (by decide) ..

theorem toNat_unpackExponent (b : BitVec 64) :
    (@unpackExponent Format.binary64 b).toNat = (b.toNat >>> 52) % 2048 := by
  simp [unpackExponent]

theorem isNaN_of_isFinite {x : Float} (hfinite : Decimal.isFinite x = true) :
    x.isNaN = false := by
  have hexponent : @unpackExponent Format.binary64 x.toModel.toBits.toBitVec ≠ -1#11 := by
    intro heq
    have hbits : (x.toBits.toNat >>> 52) % 2048 = 2047 :=
      (toNat_unpackExponent _).symm.trans (congrArg BitVec.toNat heq)
    simp only [Decimal.isFinite, Decimal.Binary.ofFloat, hbits, beq_self_eq_true,
      ↓reduceIte] at hfinite
    by_cases hfraction : (x.toBits.toNat % 1 <<< 52 == 0) = true
    · rw [if_pos hfraction] at hfinite
      cases hfinite
    · rw [if_neg hfraction] at hfinite
      cases hfinite
  change (UnpackedFloat.unpack Format.binary64 x.toModel.toBits.toBitVec).isNaN = false
  unfold UnpackedFloat.unpack
  simp only [hexponent, ↓reduceIte]
  split
  · split <;> rfl
  · rfl

/-! ### Sums -/

theorem isNaN_roundWithAccuracy (s : Sign) (m : Nat) (e : Int) (a : Accuracy) :
    (roundWithAccuracy Format.binary64 s m e a).isNaN = false := by
  unfold roundWithAccuracy
  dsimp only
  split <;> rfl

theorem isNaN_normalize (m e : Int) (s : Sign) :
    (UnpackedFloat.normalize Format.binary64 m e s).isNaN = false := by
  unfold UnpackedFloat.normalize
  split
  · exact isNaN_roundWithAccuracy ..
  · rfl
  · exact isNaN_roundWithAccuracy ..

theorem isNaN_add_parts (u v : UnpackedFloat) :
    (UnpackedFloat.add Format.binary64 u v).isNaN =
      (u.isNaN || v.isNaN || (u.isInf && v.isInf && !u.beq v)) := by
  cases u with
  | notANumber => rfl
  | infinity s =>
      cases v with
      | infinity s' => cases s <;> cases s' <;> rfl
      | _ => rfl
  | zero s =>
      cases v with
      | zero s' => cases s <;> cases s' <;> rfl
      | _ => rfl
  | finite s m e hm =>
      cases v with
      | finite s' m' e' hm' => exact isNaN_normalize ..
      | _ => rfl

theorem isNaN_sub_parts (u v : UnpackedFloat) :
    (UnpackedFloat.sub Format.binary64 u v).isNaN =
      (u.isNaN || v.isNaN || (u.isInf && v.isInf && u.beq v)) := by
  cases u with
  | notANumber => rfl
  | infinity s =>
      cases v with
      | infinity s' => cases s <;> cases s' <;> rfl
      | _ => rfl
  | zero s =>
      cases v with
      | zero s' => cases s <;> cases s' <;> rfl
      | _ => rfl
  | finite s m e hm =>
      cases v with
      | finite s' m' e' hm' => exact isNaN_normalize ..
      | _ => rfl

theorem isNaN_add (x y : Float) :
    (x + y).isNaN = (x.isNaN || y.isNaN || (x.isInf && y.isInf && !(x == y))) :=
  (isNaN_unpack_pack _).trans (isNaN_add_parts (parts x) (parts y))

theorem isNaN_sub (x y : Float) :
    (x - y).isNaN = (x.isNaN || y.isNaN || (x.isInf && y.isInf && x == y)) :=
  (isNaN_unpack_pack _).trans (isNaN_sub_parts (parts x) (parts y))

theorem isNaN_mul_of_right (x : Float) {y : Float} (hy : y.isNaN = true) :
    (x * y).isNaN = true := by
  rw [isNaN_eq_parts] at hy
  have hproduct : (UnpackedFloat.mul Format.binary64 (parts x) (parts y)).isNaN = true := by
    cases hparts : parts y with
    | notANumber => cases parts x <;> rfl
    | _ =>
        rw [hparts] at hy
        cases hy
  exact (isNaN_unpack_pack _).trans hproduct

theorem isNaN_abs (x : Float) : x.abs.isNaN = x.isNaN := by
  refine (isNaN_unpack_pack (parts x).abs).trans ?_
  rw [isNaN_eq_parts]
  cases parts x <;> rfl

/-! ### Comparisons -/

theorem lt_iff {x y : Float} : x < y ↔ (parts x).lt (parts y) = true :=
  decide_eq_true_iff

theorem compare_eq_none_iff {x y : Float} :
    (parts x).compare (parts y) = none ↔ x.isNaN = true ∨ y.isNaN = true := by
  rw [isNaN_eq_parts, isNaN_eq_parts]
  generalize parts x = u
  generalize parts y = v
  rcases u with (_ | _) | _ | (_ | _) | ⟨_ | _, _, _, _⟩ <;>
    rcases v with (_ | _) | _ | (_ | _) | ⟨_ | _, _, _, _⟩ <;>
    simp [UnpackedFloat.compare, UnpackedFloat.isNaN]

theorem compare_swap (u v : UnpackedFloat) : (u.compare v).map Ordering.swap = v.compare u := by
  rcases u with (_ | _) | _ | (_ | _) | ⟨_ | _, m, e, _⟩ <;>
    rcases v with (_ | _) | _ | (_ | _) | ⟨_ | _, m', e', _⟩ <;>
    simp only [UnpackedFloat.compare, Option.map_some, Option.map_none, Ordering.swap_then,
      Int.compare_swap, Nat.compare_swap, Ordering.swap_lt, Ordering.swap_gt,
      Ordering.swap_eq] <;> rfl

theorem not_lt_of_isNaN {x y : Float} (hnan : x.isNaN = true ∨ y.isNaN = true) : ¬ x < y := by
  rw [lt_iff, UnpackedFloat.lt, compare_eq_none_iff.mpr hnan]
  decide

theorem isNaN_of_le {x y : Float} (hle : x ≤ y) : x.isNaN = false ∧ y.isNaN = false := by
  rw [le_iff, UnpackedFloat.le] at hle
  constructor
  · by_contra hx
    rw [compare_eq_none_iff.mpr (.inl (Bool.eq_true_of_not_eq_false hx))] at hle
    cases hle
  · by_contra hy
    rw [compare_eq_none_iff.mpr (.inr (Bool.eq_true_of_not_eq_false hy))] at hle
    cases hle

theorem lt_irrefl (x : Float) : ¬ x < x := by
  rw [lt_iff, UnpackedFloat.lt]
  have hswap := compare_swap (parts x) (parts x)
  cases hcompare : (parts x).compare (parts x) with
  | none => decide
  | some order =>
      rw [hcompare] at hswap
      cases order
      · cases hswap
      · decide
      · decide

theorem le_of_not_lt {x y : Float} (hx : x.isNaN = false) (hy : y.isNaN = false)
    (hlt : ¬ x < y) : y ≤ x := by
  rw [lt_iff] at hlt
  rw [le_iff, UnpackedFloat.le, ← compare_swap]
  cases hcompare : (parts x).compare (parts y) with
  | none =>
      rcases compare_eq_none_iff.mp hcompare with hnan | hnan
      · cases hx.symm.trans hnan
      · cases hy.symm.trans hnan
  | some order =>
      cases order
      · simp [UnpackedFloat.lt, hcompare] at hlt
      · rfl
      · rfl

theorem le_of_lt {x y : Float} (hlt : x < y) : x ≤ y := by
  rw [lt_iff, UnpackedFloat.lt, beq_iff_eq] at hlt
  rw [le_iff, UnpackedFloat.le, hlt]
  rfl

theorem not_lt_of_le {x y : Float} (hle : x ≤ y) : ¬ y < x := by
  rw [le_iff, UnpackedFloat.le, ← compare_swap] at hle
  rw [lt_iff, UnpackedFloat.lt]
  cases hcompare : (parts y).compare (parts x) with
  | none => decide
  | some order =>
      rw [hcompare] at hle
      cases order
      · cases hle
      · decide
      · decide

theorem le_of_not_le {x y : Float} (hx : x.isNaN = false) (hy : y.isNaN = false)
    (hle : ¬ x ≤ y) : y ≤ x :=
  le_of_not_lt hx hy fun hlt => hle (le_of_lt hlt)

theorem not_lt_iff_le {x y : Float} (hx : x.isNaN = false) (hy : y.isNaN = false) :
    ¬ x < y ↔ y ≤ x :=
  ⟨le_of_not_lt hx hy, not_lt_of_le⟩

theorem not_le_iff_lt {x y : Float} (hx : x.isNaN = false) (hy : y.isNaN = false) :
    ¬ x ≤ y ↔ y < x := by
  constructor
  · intro hle
    by_contra hlt
    exact hle (le_of_not_lt hy hx hlt)
  · intro hlt hle
    exact not_lt_of_le hle hlt

theorem le_refl {x : Float} (hx : x.isNaN = false) : x ≤ x :=
  le_of_not_lt hx hx (lt_irrefl x)

/-- What is equal to anything is a number. -/
theorem isNaN_of_beq {x y : Float} (heq : (x == y) = true) : x.isNaN = false := by
  have hequal : (parts x).compare (parts y) = some .eq := beq_iff_eq.mp heq
  by_contra hnan
  rw [compare_eq_none_iff.mpr (.inl (Bool.eq_true_of_not_eq_false hnan))] at hequal
  cases hequal

theorem not_beq_of_lt {x y : Float} (hlt : x < y ∨ y < x) : (x == y) = false := by
  by_contra hequal
  have heq : (parts x).compare (parts y) = some .eq :=
    beq_iff_eq.mp (Bool.eq_true_of_not_eq_false hequal)
  rcases hlt with hlt | hlt <;> rw [lt_iff, UnpackedFloat.lt] at hlt
  · rw [heq] at hlt
    cases hlt
  · rw [← compare_swap, heq] at hlt
    cases hlt

theorem clamp_of_isNaN {x : Float} (hx : x.isNaN = true) (low high : Float) :
    Scalar.clamp low high x = x := by
  rw [Scalar.clamp, if_neg (not_lt_of_isNaN (.inl hx)), if_neg (not_lt_of_isNaN (.inr hx))]

theorem isNaN_clamp {low : Float} (hlow : low.isNaN = false) (high x : Float) :
    (Scalar.clamp low high x).isNaN = x.isNaN := by
  cases hx : x.isNaN with
  | true => rw [clamp_of_isNaN hx, hx]
  | false =>
      have hcapped : ∀ raised : Float, raised.isNaN = false →
          (if high < raised then high else raised).isNaN = false := by
        intro raised hraised
        by_cases hhigh : high < raised
        · rw [if_pos hhigh]
          exact (isNaN_of_le (le_of_lt hhigh)).1
        · rw [if_neg hhigh]
          exact hraised
      apply hcapped
      by_cases hraised : x < low
      · rw [if_pos hraised]
        exact hlow
      · rw [if_neg hraised]
        exact hx

theorem clamp_bounds {low high x : Float} (hle : low ≤ high) (hx : x.isNaN = false) :
    low ≤ Scalar.clamp low high x ∧ Scalar.clamp low high x ≤ high := by
  obtain ⟨hlow, hhigh⟩ := isNaN_of_le hle
  unfold Scalar.clamp
  by_cases hraised : x < low
  · rw [if_pos hraised]
    by_cases hcapped : high < low
    · rw [if_pos hcapped]
      exact ⟨hle, le_refl hhigh⟩
    · rw [if_neg hcapped]
      exact ⟨le_refl hlow, hle⟩
  · rw [if_neg hraised]
    by_cases hcapped : high < x
    · rw [if_pos hcapped]
      exact ⟨hle, le_refl hhigh⟩
    · rw [if_neg hcapped]
      exact ⟨le_of_not_lt hx hlow hraised, le_of_not_lt hhigh hx hcapped⟩

/-- What a clamp leaves as it is lies within its bounds. -/
theorem bounds_of_beq_clamp {low high x : Float} (hle : low ≤ high)
    (hfree : (x == Scalar.clamp low high x) = true) : low ≤ x ∧ x ≤ high := by
  obtain ⟨hlow, hhigh⟩ := isNaN_of_le hle
  have hx : x.isNaN = false := isNaN_of_beq hfree
  unfold Scalar.clamp at hfree
  by_cases hraised : x < low
  · rw [if_pos hraised, if_neg (not_lt_of_le hle), not_beq_of_lt (.inl hraised)] at hfree
    cases hfree
  · rw [if_neg hraised] at hfree
    by_cases hcapped : high < x
    · rw [if_pos hcapped, not_beq_of_lt (.inr hcapped)] at hfree
      cases hfree
    · exact ⟨le_of_not_lt hx hlow hraised, le_of_not_lt hhigh hx hcapped⟩

end HeaterHost.Double
