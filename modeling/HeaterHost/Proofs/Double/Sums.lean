import HeaterHost.Proofs.Decimal.RoundTrip
import HeaterHost.Proofs.Double.NonNegative

/-!
# Sums of doubles

Every finite double is a whole number of the smallest steps that doubles can take, and so is the sum
of two of them before it is rounded to 53 bits. Rounding keeps the order of whole numbers and leaves
the doubles among them alone; hence a sum grows with its terms, and it is never on the other side of
a double than the exact sum.
-/

namespace HeaterHost.Double

open Decimal Float.Model Float.Model.UnpackedFloat

/-! ### Rounding whole numbers -/

theorem roundEven_bounds (num den : Nat) :
    num / den ≤ roundEven num den ∧ roundEven num den ≤ num / den + 1 := by
  unfold roundEven
  dsimp only
  split
  · omega
  · split <;> omega

theorem roundEven_mono {a b : Nat} (hle : a ≤ b) (den : Nat) :
    roundEven a den ≤ roundEven b den := by
  rcases (Nat.div_le_div_right (c := den) hle).eq_or_lt with heq | hlt
  · have hrest : a % den ≤ b % den := by
      have ha := Nat.div_add_mod a den
      have hb := Nat.div_add_mod b den
      rw [heq] at ha
      omega
    unfold roundEven
    dsimp only
    rw [heq]
    generalize b / den = whole
    split_ifs <;> omega
  · calc roundEven a den ≤ a / den + 1 := (roundEven_bounds a den).2
      _ ≤ b / den := hlt
      _ ≤ roundEven b den := (roundEven_bounds b den).1

theorem roundEven_mul (n : Nat) {den : Nat} (hden : 0 < den) : roundEven (n * den) den = n := by
  simp [roundEven, hden]

theorem roundEven_le_of_le {num n den : Nat} (hden : 0 < den) (hle : num ≤ n * den) :
    roundEven num den ≤ n :=
  (roundEven_mono hle den).trans_eq (roundEven_mul n hden)

theorem le_roundEven_of_le {num n den : Nat} (hden : 0 < den) (hle : n * den ≤ num) :
    n ≤ roundEven num den :=
  (roundEven_mul n hden).symm.trans_le (roundEven_mono hle den)

theorem roundEven_mul_mul (num den : Nat) {c : Nat} (hc : 0 < c) :
    roundEven (num * c) (den * c) = roundEven num den := by
  have hless : 2 * (num % den * c) < den * c ↔ 2 * (num % den) < den := by
    rw [← Nat.mul_assoc, Nat.mul_lt_mul_right hc]
  have hmore : den * c < 2 * (num % den * c) ↔ den < 2 * (num % den) := by
    rw [← Nat.mul_assoc, Nat.mul_lt_mul_right hc]
  simp only [roundEven, Nat.mul_div_mul_right _ _ hc, Nat.mul_mod_mul_right, hless, hmore]

/-- How many bits a whole number has beyond the 53 of a double. -/
def excess (n : Nat) : Nat :=
  n.log2 - 52

/-- A whole number rounded to 53 bits. -/
def shortened (n : Nat) : Nat :=
  roundEven n (2 ^ excess n) * 2 ^ excess n

theorem shortened_le (n : Nat) : shortened n ≤ 2 ^ (53 + excess n) := by
  have hbits : n ≤ 2 ^ 53 * 2 ^ excess n := by
    calc n ≤ 2 ^ (n.log2 + 1) := Nat.lt_log2_self.le
      _ ≤ 2 ^ (53 + excess n) := Nat.pow_le_pow_right two_pos (by unfold excess; omega)
      _ = 2 ^ 53 * 2 ^ excess n := Nat.pow_add ..
  rw [shortened, Nat.pow_add]
  exact Nat.mul_le_mul_right _ (roundEven_le_of_le (Nat.two_pow_pos _) hbits)

theorem le_shortened {n : Nat} (hlong : 0 < excess n) : 2 ^ (52 + excess n) ≤ shortened n := by
  have hpos : n ≠ 0 := by
    rintro rfl
    simp [excess] at hlong
  have hbits : 2 ^ 52 * 2 ^ excess n ≤ n := by
    rw [← Nat.pow_add, show 52 + excess n = n.log2 by unfold excess at *; omega]
    exact Nat.log2_self_le hpos
  rw [shortened, Nat.pow_add]
  exact Nat.mul_le_mul_right _ (le_roundEven_of_le (Nat.two_pow_pos _) hbits)

theorem excess_mono {a b : Nat} (hle : a ≤ b) : excess a ≤ excess b := by
  have hlog : a.log2 ≤ b.log2 := by
    rw [Nat.log2_eq_log_two, Nat.log2_eq_log_two]
    exact Nat.log_mono_right hle
  unfold excess
  omega

theorem shortened_mono {a b : Nat} (hle : a ≤ b) : shortened a ≤ shortened b := by
  rcases (excess_mono hle).eq_or_lt with heq | hlt
  · rw [shortened, shortened, heq]
    gcongr
    exact roundEven_mono hle _
  · calc shortened a ≤ 2 ^ (53 + excess a) := shortened_le a
      _ ≤ 2 ^ (52 + excess b) := Nat.pow_le_pow_right two_pos (by omega)
      _ ≤ shortened b := le_shortened (by omega)

theorem log2_shifted {m : Nat} (hpos : 0 < m) (k : Nat) : (m * 2 ^ k).log2 = m.log2 + k := by
  obtain ⟨hge, hlt⟩ := (Nat.log2_eq_iff hpos.ne').mp (rfl : m.log2 = m.log2)
  rw [Nat.log2_eq_iff (Nat.mul_pos hpos (Nat.two_pow_pos k)).ne', Nat.add_right_comm, Nat.pow_add,
    Nat.pow_add]
  exact ⟨Nat.mul_le_mul_right _ hge, Nat.mul_lt_mul_of_pos_right hlt (Nat.two_pow_pos k)⟩

/-- What has no more than 53 bits, and zeros after them, stays. -/
theorem shortened_of_short {m : Nat} (hshort : m < 2 ^ 53) (k : Nat) :
    shortened (m * 2 ^ k) = m * 2 ^ k := by
  rcases Nat.eq_zero_or_pos m with rfl | hpos
  · simp [shortened, roundEven]
  · have hlog := log2_shifted hpos k
    have hbits : m.log2 < 53 := (Nat.log2_lt hpos.ne').mpr hshort
    obtain ⟨j, hj⟩ : ∃ j, k = j + excess (m * 2 ^ k) :=
      ⟨k - excess (m * 2 ^ k), by unfold excess; omega⟩
    have hsplit : m * 2 ^ k = m * 2 ^ j * 2 ^ excess (m * 2 ^ k) := by
      rw [Nat.mul_assoc, ← Nat.pow_add, ← hj]
    calc shortened (m * 2 ^ k)
        = roundEven (m * 2 ^ j * 2 ^ excess (m * 2 ^ k)) (2 ^ excess (m * 2 ^ k)) *
            2 ^ excess (m * 2 ^ k) := by rw [← hsplit]; rfl
      _ = m * 2 ^ k := by rw [roundEven_mul _ (Nat.two_pow_pos _), ← hsplit]

/-- Whole numbers of either sign are rounded by their size. -/
def nearest : Int → Int
  | .ofNat n => shortened n
  | .negSucc n => -(shortened (n + 1) : Int)

theorem nearest_natCast (n : Nat) : nearest n = shortened n := rfl

theorem shortened_zero : shortened 0 = 0 := by
  simp [shortened, roundEven]

theorem nearest_neg_natCast (n : Nat) : nearest (-n) = -(shortened n : Int) := by
  cases n with
  | zero =>
      change ((shortened 0 : Nat) : Int) = -(shortened 0 : Nat)
      rw [shortened_zero]
      rfl
  | succ n => rfl

theorem nearest_mono {a b : Int} (hle : a ≤ b) : nearest a ≤ nearest b := by
  cases a with
  | ofNat m =>
      cases b with
      | ofNat n =>
          have hmono := shortened_mono (Int.ofNat_le.mp hle)
          simp only [nearest]
          omega
      | negSucc n =>
          have hneg : 0 ≤ Int.negSucc n := le_trans (Int.natCast_nonneg m) hle
          exact absurd (Int.negSucc_lt_zero n) (Int.not_lt.mpr hneg)
  | negSucc m =>
      cases b with
      | ofNat n =>
          simp only [nearest]
          omega
      | negSucc n =>
          have hmono := shortened_mono (a := n + 1) (b := m + 1) (by omega)
          simp only [nearest]
          omega

/-! ### Doubles as whole numbers -/

/-- The mantissas and exponents that rounding comes to. With exponents above 971 they are those of
numbers too large for a double. -/
structure Regular (m : Nat) (e : Int) : Prop where
  pos : 0 < m
  short : m < 2 ^ 53
  low : -1074 ≤ e
  full : 2 ^ 52 ≤ m ∨ e = -1074

theorem Canonical.regular {m : Nat} {e : Int} (h : Canonical m e) : Regular m e :=
  ⟨h.pos, h.short, h.low, h.full⟩

theorem Regular.canonical {m : Nat} {e : Int} (h : Regular m e) (hhigh : e ≤ 971) :
    Canonical m e :=
  ⟨h.pos, h.short, h.low, hhigh, h.full⟩

/-- The size of a number in units of the smallest double. -/
def magnitude (m : Nat) (e : Int) : Nat :=
  m * 2 ^ (e + 1074).toNat

/-- The least size that is too large for a double. -/
def beyond : Nat :=
  magnitude (2 ^ 52) 972

theorem regular_beyond : Regular (2 ^ 52) 972 := by
  constructor <;> norm_num

/-- A double in units of the smallest one; what is infinite counts as just too large. -/
def height : UnpackedFloat → Int
  | .notANumber => 0
  | .infinity s => s.apply beyond
  | .zero _ => 0
  | .finite s m e _ => s.apply (magnitude m e)

section magnitudes

variable {m m' : Nat} {e e' : Int}

theorem magnitude_pos (hpos : 0 < m) (e : Int) : 0 < magnitude m e :=
  Nat.mul_pos hpos (Nat.two_pow_pos _)

theorem magnitude_lt_of_lt (h : Regular m e) (h' : Regular m' e') (hlt : e < e') :
    magnitude m e < magnitude m' e' := by
  have hlow := h.low
  have hfull : 2 ^ 52 ≤ m' := h'.full.resolve_right (by omega)
  calc magnitude m e < 2 ^ 53 * 2 ^ (e + 1074).toNat :=
        Nat.mul_lt_mul_of_pos_right h.short (Nat.two_pow_pos _)
    _ = 2 ^ (53 + (e + 1074).toNat) := (Nat.pow_add ..).symm
    _ ≤ 2 ^ (52 + (e' + 1074).toNat) := Nat.pow_le_pow_right two_pos (by omega)
    _ = 2 ^ 52 * 2 ^ (e' + 1074).toNat := Nat.pow_add ..
    _ ≤ magnitude m' e' := Nat.mul_le_mul_right _ hfull

theorem Canonical.magnitude_lt_beyond (h : Canonical m e) : magnitude m e < beyond :=
  magnitude_lt_of_lt h.regular regular_beyond (Int.lt_add_one_iff.mpr h.high)

theorem Regular.beyond_le_magnitude (h : Regular m e) (hhigh : 971 < e) :
    beyond ≤ magnitude m e := by
  by_cases hleast : e = 972
  · subst hleast
    exact Nat.mul_le_mul_right _ (h.full.resolve_right (by omega))
  · exact (magnitude_lt_of_lt regular_beyond h (by omega)).le

/-- The sizes are in the order of exponents and mantissas. -/
theorem compare_magnitude (h : Regular m e) (h' : Regular m' e') :
    (compare e e').then (compare m m') = compare (magnitude m e) (magnitude m' e') := by
  rcases Int.lt_trichotomy e e' with hlt | rfl | hgt
  · rw [Int.compare_eq_lt.mpr hlt, Nat.compare_eq_lt.mpr (magnitude_lt_of_lt h h' hlt)]
    rfl
  · have hpos : 0 < 2 ^ (e + 1074).toNat := Nat.two_pow_pos _
    rw [Int.compare_eq_eq.mpr rfl]
    change compare m m' = compare (m * 2 ^ (e + 1074).toNat) (m' * 2 ^ (e + 1074).toNat)
    rcases Nat.lt_trichotomy m m' with hlt | rfl | hgt
    · rw [Nat.compare_eq_lt.mpr hlt, Nat.compare_eq_lt.mpr (Nat.mul_lt_mul_of_pos_right hlt hpos)]
    · rw [Nat.compare_eq_eq.mpr rfl, Nat.compare_eq_eq.mpr rfl]
    · rw [Nat.compare_eq_gt.mpr hgt, Nat.compare_eq_gt.mpr (Nat.mul_lt_mul_of_pos_right hgt hpos)]
  · rw [Int.compare_eq_gt.mpr hgt, Nat.compare_eq_gt.mpr (magnitude_lt_of_lt h' h hgt)]
    rfl

end magnitudes

theorem compare_neg (a b : Int) : compare (-a) (-b) = (compare a b).swap := by
  rw [Int.compare_swap]
  rcases Int.lt_trichotomy a b with hlt | rfl | hgt
  · rw [Int.compare_eq_gt.mpr hlt, Int.compare_eq_gt.mpr (by omega)]
  · rw [Int.compare_eq_eq.mpr rfl, Int.compare_eq_eq.mpr rfl]
  · rw [Int.compare_eq_lt.mpr hgt, Int.compare_eq_lt.mpr (by omega)]

theorem compare_natCast (a b : Nat) : compare (a : Int) b = compare a b := by
  rcases Nat.lt_trichotomy a b with hlt | rfl | hgt
  · rw [Nat.compare_eq_lt.mpr hlt, Int.compare_eq_lt.mpr (by omega)]
  · rw [Nat.compare_eq_eq.mpr rfl, Int.compare_eq_eq.mpr rfl]
  · rw [Nat.compare_eq_gt.mpr hgt, Int.compare_eq_gt.mpr (by omega)]

/-- Doubles are compared as the whole numbers that they are. -/
theorem compare_height {x y : Float} (hx : x.isNaN = false) (hy : y.isNaN = false) :
    (parts x).compare (parts y) = some (compare (height (parts x)) (height (parts y))) := by
  have hsize : ∀ {z : Float} {s m e hpos}, parts z = .finite s m e hpos →
      0 < magnitude m e ∧ magnitude m e < beyond ∧ Regular m e := fun hz =>
    ⟨magnitude_pos (canonical_of_parts hz).pos _, (canonical_of_parts hz).magnitude_lt_beyond,
      (canonical_of_parts hz).regular⟩
  have hbeyond : 0 < beyond := magnitude_pos regular_beyond.pos _
  rw [isNaN_eq_parts] at hx hy
  rcases hu : parts x with (_ | _) | _ | (_ | _) | ⟨_ | _, m, e, hm⟩ <;> rw [hu] at hx <;>
    rcases hv : parts y with (_ | _) | _ | (_ | _) | ⟨_ | _, m', e', hm'⟩ <;> rw [hv] at hy <;>
    try first | exact absurd hx (by decide) | exact absurd hy (by decide)
  all_goals
    simp only [UnpackedFloat.compare, height, Sign.apply, Option.some.injEq]
    try obtain ⟨hpos, hlt, hregular⟩ := hsize hu
    try obtain ⟨hpos', hlt', hregular'⟩ := hsize hv
    first
      | exact (Int.compare_eq_lt.mpr (by omega)).symm
      | exact (Int.compare_eq_gt.mpr (by omega)).symm
      | exact (Int.compare_eq_eq.mpr rfl).symm
      | rw [compare_magnitude hregular hregular', compare_neg, compare_natCast]
      | rw [compare_magnitude hregular hregular', compare_natCast]

theorem le_iff_height {x y : Float} (hx : x.isNaN = false) (hy : y.isNaN = false) :
    x ≤ y ↔ height (parts x) ≤ height (parts y) := by
  rw [le_iff, UnpackedFloat.le, compare_height hx hy]
  exact Int.isLE_compare

theorem lt_iff_height {x y : Float} (hx : x.isNaN = false) (hy : y.isNaN = false) :
    x < y ↔ height (parts x) < height (parts y) := by
  rw [lt_iff, UnpackedFloat.lt, compare_height hx hy]
  simp [Int.compare_eq_lt]

theorem beq_iff_height {x y : Float} (hx : x.isNaN = false) (hy : y.isNaN = false) :
    (x == y) = true ↔ height (parts x) = height (parts y) := by
  have hbeq : (x == y) = ((parts x).compare (parts y) == some .eq) := rfl
  rw [hbeq, compare_height hx hy]
  simp

/-! ### Rounding doubles -/

/-- What is too large for a double is infinite. -/
def capped (n : Int) : Int :=
  max (-beyond) (min n beyond)

theorem capped_mono {a b : Int} (hle : a ≤ b) : capped a ≤ capped b := by
  unfold capped
  omega

theorem capped_of_le {n : Int} (hlow : -beyond ≤ n) (hhigh : n ≤ beyond) : capped n = n := by
  unfold capped
  omega

theorem capped_nearest_zero : capped (nearest 0) = 0 := by
  have hzero : nearest 0 = 0 := congrArg Nat.cast shortened_zero
  rw [hzero]
  exact capped_of_le (by omega) (by omega)

theorem unpack_pack_of_large {m : Nat} {e : Int} (s : Sign) (hpos : 0 < m) (hhigh : 971 < e) :
    (Float.Model.pack (.finite s m e hpos)).unpack = .infinity s := by
  have hinfinite : UnpackedFloat.pack Format.binary64 (.finite s m e hpos) =
      packedInfinity Format.binary64 s := by
    have hlarge : 2048 ≤ (e + 1023 + 52).toNat + 1 := by omega
    exact if_pos hlarge
  change UnpackedFloat.unpack Format.binary64
    (UnpackedFloat.pack Format.binary64 (.finite s m e hpos)) = _
  rw [hinfinite]
  cases s <;> rfl

theorem height_pack {m : Nat} {e : Int} (s : Sign) (h : Regular m e) :
    height (Float.Model.pack (.finite s m e h.pos)).unpack = capped (s.apply (magnitude m e)) := by
  by_cases hhigh : e ≤ 971
  · have hlt := (h.canonical hhigh).magnitude_lt_beyond
    rw [(h.canonical hhigh).unpack_pack s, height, capped]
    cases s <;> simp only [Sign.apply] <;> omega
  · have hle := h.beyond_le_magnitude (by omega)
    rw [unpack_pack_of_large s h.pos (by omega), height, capped]
    cases s <;> simp only [Sign.apply] <;> omega

theorem roundedMantissa_shiftRight (M k : Nat) :
    ((⟨M, false, false⟩ : ExtendedMantissa) >>> k).roundedMantissa = roundEven M (2 ^ k) := by
  refine ((approximates_exact M).shiftRight k).roundedMantissa_eq ?_
  have hnext := nextTo_roundEven M (Nat.two_pow_pos k)
  rwa [Nat.cast_pow, Nat.cast_ofNat] at hnext

theorem targetExponent_total (m : Nat) (e : Int) :
    Format.binary64.targetExponent (totalExponent m e) = max ((m.log2 : Int) + e - 52) (-1074) := by
  simp only [Format.targetExponent, totalExponent, Format.mantissaBits, Format.minExponent]
  omega

section rounding

variable {M k : Nat} {E : Int}

theorem log2_of_target (hlow : -1074 ≤ E)
    (htarget : Format.binary64.targetExponent (totalExponent M E) = E + k) :
    M.log2 ≤ 52 + k ∧ (M.log2 = 52 + k ∨ E = -1074 ∧ k = 0) := by
  rw [targetExponent_total] at htarget
  omega

/-- The mantissa after the first rounding; it may be carried over to one bit more. -/
theorem rounded_bounds (hpos : 0 < M) (hlow : -1074 ≤ E)
    (htarget : Format.binary64.targetExponent (totalExponent M E) = E + k) :
    0 < roundEven M (2 ^ k) ∧ roundEven M (2 ^ k) ≤ 2 ^ 53 ∧
      (2 ^ 52 ≤ roundEven M (2 ^ k) ∨ E + k = -1074) := by
  obtain ⟨hbits, hcases⟩ := log2_of_target hlow htarget
  have hunit : 0 < 2 ^ k := Nat.two_pow_pos k
  have hle : roundEven M (2 ^ k) ≤ 2 ^ 53 := by
    refine roundEven_le_of_le hunit ?_
    calc M ≤ 2 ^ (M.log2 + 1) := Nat.lt_log2_self.le
      _ ≤ 2 ^ (53 + k) := Nat.pow_le_pow_right two_pos (by omega)
      _ = 2 ^ 53 * 2 ^ k := Nat.pow_add ..
  rcases hcases with hfull | ⟨rfl, rfl⟩
  · have hge : 2 ^ 52 ≤ roundEven M (2 ^ k) := by
      refine le_roundEven_of_le hunit ?_
      rw [← Nat.pow_add, ← hfull]
      exact Nat.log2_self_le hpos.ne'
    exact ⟨by omega, hle, .inl hge⟩
  · have hkept : roundEven M (2 ^ 0) = M := by
      simpa using roundEven_mul M one_pos
    exact ⟨by rwa [hkept], hle, .inr (by omega)⟩

theorem roundWithAccuracy_exact (s : Sign) (hpos : 0 < M) (hlow : -1074 ≤ E)
    (htarget : Format.binary64.targetExponent (totalExponent M E) = E + k) :
    ∃ m e, ∃ h : Regular m e,
      roundWithAccuracy Format.binary64 s M E .exact = .finite s m e h.pos ∧
      magnitude m e = roundEven M (2 ^ k) * 2 ^ (E + k + 1074).toNat := by
  obtain ⟨hrounded, hle, hfull⟩ := rounded_bounds hpos hlow htarget
  have hshift : shiftToTargetExponent Format.binary64 M E .exact =
      ((⟨M, false, false⟩ : ExtendedMantissa) >>> k, E + k) := by
    simp only [shiftToTargetExponent, shiftToExponent, htarget, add_sub_cancel_left,
      Int.toNat_natCast]
    rfl
  by_cases hcarried : roundEven M (2 ^ k) = 2 ^ 53
  · have hregular : Regular (2 ^ 52) (E + k + 1) :=
      ⟨by decide, by decide, by omega, .inl le_rfl⟩
    refine ⟨2 ^ 52, E + k + 1, hregular, ?_, ?_⟩
    · rw [roundWithAccuracy, hshift]
      dsimp only
      rw [roundedMantissa_shiftRight, hcarried, shift_carried (by omega)]
      rfl
    · rw [magnitude, hcarried, show (E + k + 1 + 1074).toNat = (E + k + 1074).toNat + 1 by omega]
      ring
  · have hregular : Regular (roundEven M (2 ^ k)) (E + k) :=
      ⟨hrounded, by omega, by omega, hfull⟩
    refine ⟨roundEven M (2 ^ k), E + k, hregular, ?_, rfl⟩
    have hkept : shiftToTargetExponent Format.binary64 (roundEven M (2 ^ k)) (E + k) .exact =
        (⟨roundEven M (2 ^ k), false, false⟩, E + k) := by
      rcases hfull with hge | hmin
      · exact shift_full ⟨hge, hregular.short⟩ (by omega)
      · exact (hregular.canonical (by omega)).shift_eq
    rw [roundWithAccuracy, hshift]
    dsimp only
    rw [roundedMantissa_shiftRight, hkept]
    exact dif_neg hrounded.ne'

/-- Rounding a number of the smallest units shortens it to 53 bits. -/
theorem round_exact_units (s : Sign) (hpos : 0 < M) (hlow : -1074 ≤ E) :
    ∃ m e, ∃ h : Regular m e,
      UnpackedFloat.round Format.binary64 s M E = .finite s m e h.pos ∧
      magnitude m e = shortened (magnitude M E) := by
  obtain ⟨t, ht⟩ : ∃ t, max ((M.log2 : Int) + E - 52) (-1074) = t := ⟨_, rfl⟩
  -- the mantissa is first moved up to the target exponent, if it starts above
  obtain ⟨j, hj⟩ : ∃ j, (E - t).toNat = j := ⟨_, rfl⟩
  have hmoved : 0 < M * 2 ^ j := Nat.mul_pos hpos (Nat.two_pow_pos j)
  obtain ⟨k, hk⟩ := Int.le.dest (a := E - j) (b := t) (by omega)
  have htarget : Format.binary64.targetExponent (totalExponent (M * 2 ^ j) (E - j)) =
      E - j + k := by
    rw [targetExponent_total, log2_shifted hpos]
    omega
  obtain ⟨m, e, hregular, hround, hvalue⟩ := roundWithAccuracy_exact s hmoved (by omega) htarget
  refine ⟨m, e, hregular, ?_, hvalue.trans ?_⟩
  · rw [UnpackedFloat.round, targetExponent_total, ht]
    simp only [decreaseExponent, hj, Nat.shiftLeft_eq]
    exact hround
  · have hunits : magnitude M E = M * 2 ^ j * 2 ^ (E - j + 1074).toNat := by
      rw [magnitude, Nat.mul_assoc, ← Nat.pow_add]
      congr 2
      omega
    have hexcess : excess (magnitude M E) = k + (E - j + 1074).toNat := by
      rw [excess, magnitude, log2_shifted hpos]
      omega
    rw [shortened, hexcess, hunits, Nat.pow_add, roundEven_mul_mul _ _ (Nat.two_pow_pos _),
      ← Nat.pow_add]
    congr 2
    omega

theorem height_round (s : Sign) (hpos : 0 < M) (hlow : -1074 ≤ E) :
    height (Float.Model.pack (UnpackedFloat.round Format.binary64 s M E)).unpack =
      capped (s.apply (shortened (magnitude M E))) := by
  obtain ⟨m, e, hregular, hround, hvalue⟩ := round_exact_units s hpos hlow
  rw [hround, height_pack s hregular, hvalue]

/-- A whole number of units, rounded to a double. -/
theorem height_normalize (n : Int) (hlow : -1074 ≤ E) (s : Sign) :
    height (Float.Model.pack (UnpackedFloat.normalize Format.binary64 n E s)).unpack =
      capped (nearest (n * 2 ^ (E + 1074).toNat)) := by
  rcases Int.lt_trichotomy n 0 with hneg | rfl | hpos
  · obtain ⟨m, rfl⟩ : ∃ m : Nat, n = -(m : Int) := ⟨n.natAbs, by omega⟩
    have hvalue : -(m : Int) * 2 ^ (E + 1074).toNat = -(magnitude m E : Nat) := by
      rw [magnitude]
      push_cast
      ring
    rw [UnpackedFloat.normalize, Int.compare_eq_lt.mpr hneg, Int.neg_neg, Int.toNat_natCast]
    dsimp only
    rw [height_round _ (by omega) hlow, hvalue, nearest_neg_natCast]
    rfl
  · rw [UnpackedFloat.normalize, Int.compare_eq_eq.mpr rfl, Int.zero_mul, capped_nearest_zero]
    dsimp only
    cases s <;> rfl
  · obtain ⟨m, rfl⟩ : ∃ m : Nat, n = m := ⟨n.natAbs, by omega⟩
    have hvalue : (m : Int) * 2 ^ (E + 1074).toNat = (magnitude m E : Nat) := by
      rw [magnitude]
      push_cast
      rfl
    rw [UnpackedFloat.normalize, Int.compare_eq_gt.mpr hpos, Int.toNat_natCast]
    dsimp only
    rw [height_round _ (by omega) hlow, hvalue, nearest_natCast]
    rfl

end rounding

/-! ### Sums -/

theorem parts_add (x y : Float) :
    parts (x + y) =
      (Float.Model.pack (UnpackedFloat.add Format.binary64 (parts x) (parts y))).unpack := rfl

theorem unpack_pack_parts (x : Float) : (Float.Model.pack (parts x)).unpack = parts x := by
  rw [parts, pack_unpack]

/-- A double that is neither infinite nor a NaN. -/
structure IsFinite (x : Float) : Prop where
  isInf : x.isInf = false
  isNaN : x.isNaN = false

theorem IsFinite.cases {x : Float} (hfinite : IsFinite x) :
    (∃ s, parts x = .zero s) ∨ ∃ s m e hpos, parts x = .finite s m e hpos := by
  have hinf : (parts x).isInf = false := hfinite.isInf
  have hnan : (parts x).isNaN = false := hfinite.isNaN
  cases hx : parts x with
  | notANumber =>
      rw [hx] at hnan
      cases hnan
  | infinity s =>
      rw [hx] at hinf
      cases hinf
  | zero s => exact .inl ⟨s, rfl⟩
  | finite s m e hpos => exact .inr ⟨s, m, e, hpos, rfl⟩

/-- Doubles are rounded already. -/
theorem capped_nearest_height {x : Float} (hfinite : IsFinite x) :
    capped (nearest (height (parts x))) = height (parts x) := by
  rcases hfinite.cases with ⟨s, hx⟩ | ⟨s, m, e, hpos, hx⟩ <;> rw [hx]
  · exact capped_nearest_zero
  · have hcanonical := canonical_of_parts hx
    have hlt := hcanonical.magnitude_lt_beyond
    have hshort : shortened (magnitude m e) = magnitude m e :=
      shortened_of_short hcanonical.short _
    cases s with
    | positive =>
        change capped (nearest (magnitude m e)) = magnitude m e
        rw [nearest_natCast, hshort]
        exact capped_of_le (by omega) (by omega)
    | negative =>
        change capped (nearest (-(magnitude m e : Int))) = -(magnitude m e : Int)
        rw [nearest_neg_natCast, hshort]
        exact capped_of_le (by omega) (by omega)

/-- A mantissa that is moved to a smaller exponent keeps its size. -/
theorem apply_moved (s : Sign) (m : Nat) {e low : Int} (hlow : -1074 ≤ low) (hle : low ≤ e) :
    s.apply (magnitude m e) =
      s.apply (m <<< (e - low).toNat : Nat) * 2 ^ (low + 1074).toNat := by
  have hmoved : magnitude m e = m <<< (e - low).toNat * 2 ^ (low + 1074).toNat := by
    rw [magnitude, Nat.shiftLeft_eq, Nat.mul_assoc, ← Nat.pow_add]
    congr 2
    omega
  rw [hmoved]
  push_cast
  cases s with
  | positive => rfl
  | negative => exact (Int.neg_mul _ _).symm

/-- The sum of finite doubles is the exact sum, rounded. -/
theorem height_add {x y : Float} (hx : IsFinite x) (hy : IsFinite y) :
    height (parts (x + y)) = capped (nearest (height (parts x) + height (parts y))) := by
  rcases hx.cases with ⟨s, hu⟩ | ⟨s, m, e, hpos, hu⟩ <;>
    rcases hy.cases with ⟨s', hv⟩ | ⟨s', m', e', hpos', hv⟩
  · rw [parts_add, hu, hv]
    change _ = capped (nearest 0)
    rw [capped_nearest_zero]
    cases s <;> cases s' <;> rfl
  · have hkept : UnpackedFloat.add Format.binary64 (parts x) (parts y) = parts y := by
      rw [hu, hv]
      rfl
    have hzero : height (parts x) = 0 := by rw [hu, height]
    rw [parts_add, hkept, unpack_pack_parts, hzero, Int.zero_add, capped_nearest_height hy]
  · have hkept : UnpackedFloat.add Format.binary64 (parts x) (parts y) = parts x := by
      rw [hu, hv]
      rfl
    have hzero : height (parts y) = 0 := by rw [hv, height]
    rw [parts_add, hkept, unpack_pack_parts, hzero, Int.add_zero, capped_nearest_height hx]
  · have hlow := (canonical_of_parts hu).low
    have hlow' := (canonical_of_parts hv).low
    have hmin : -1074 ≤ min e e' := by omega
    rw [parts_add, hu, hv, height.eq_4, height.eq_4, apply_moved s m hmin (min_le_left e e'),
      apply_moved s' m' hmin (min_le_right e e'), ← Int.add_mul,
      ← height_normalize _ hmin .positive]
    rfl

theorem height_bounds (x : Float) :
    -beyond ≤ height (parts x) ∧ height (parts x) ≤ beyond := by
  cases hx : parts x with
  | notANumber => exact ⟨by rw [height]; omega, by rw [height]; omega⟩
  | infinity s => cases s <;> simp only [height, Sign.apply] <;> omega
  | zero s => exact ⟨by rw [height]; omega, by rw [height]; omega⟩
  | finite s m e hpos =>
      have hlt := (canonical_of_parts hx).magnitude_lt_beyond
      cases s <;> simp only [height, Sign.apply] <;> omega

theorem IsFinite.height_bounds {x : Float} (hx : IsFinite x) :
    -beyond < height (parts x) ∧ height (parts x) < beyond := by
  have hbeyond : 0 < beyond := magnitude_pos regular_beyond.pos _
  rcases hx.cases with ⟨s, hx⟩ | ⟨s, m, e, hpos, hx⟩ <;> rw [hx]
  · simp only [height]
    omega
  · have hlt := (canonical_of_parts hx).magnitude_lt_beyond
    cases s <;> simp only [height, Sign.apply] <;> omega

theorem height_of_isInf {x : Float} (hx : x.isInf = true) :
    height (parts x) = beyond ∨ height (parts x) = -beyond := by
  have hinf : (parts x).isInf = true := hx
  cases hparts : parts x with
  | infinity s =>
      cases s with
      | positive => exact .inl rfl
      | negative => exact .inr rfl
  | _ =>
      rw [hparts] at hinf
      cases hinf

/-- What is infinite stays so in a sum. -/
theorem parts_add_of_isInf {x y : Float} (hx : x.isInf = true) (hsum : (x + y).isNaN = false) :
    parts (x + y) = parts x := by
  have hadd : UnpackedFloat.add Format.binary64 (parts x) (parts y) = parts x := by
    rw [isNaN_add] at hsum
    have hinf : (parts x).isInf = true := hx
    have hnan : ((parts x).isNaN || (parts y).isNaN ||
      ((parts x).isInf && (parts y).isInf && !(parts x).beq (parts y))) = false := hsum
    cases hu : parts x with
    | infinity s =>
        rw [hu] at hnan
        cases hv : parts y with
        | notANumber =>
            rw [hv] at hnan
            cases hnan
        | infinity s' =>
            rw [hv] at hnan
            cases s <;> cases s' <;> first | rfl | cases hnan
        | _ => rfl
    | _ =>
        rw [hu] at hinf
        cases hinf
  rw [parts_add, hadd, unpack_pack_parts]

theorem add_comm_parts (u v : UnpackedFloat) :
    UnpackedFloat.add Format.binary64 u v = UnpackedFloat.add Format.binary64 v u := by
  rcases u with (_ | _) | _ | (_ | _) | ⟨s, m, e, hm⟩ <;>
    rcases v with (_ | _) | _ | (_ | _) | ⟨s', m', e', hm'⟩ <;> try rfl
  simp only [UnpackedFloat.add, min_comm e e', Int.add_comm (s.apply _)]

theorem add_comm (x y : Float) : x + y = y + x :=
  congrArg (fun u => Float.ofModel (Float.Model.pack u)) (add_comm_parts (parts x) (parts y))

theorem parts_neg_eq (x : Float) : parts (-x) = (parts x).neg := by
  have hparts : parts (-x) = (Float.Model.pack (parts x).neg).unpack := rfl
  rw [hparts]
  cases hx : parts x with
  | notANumber => rfl
  | infinity s => cases s <;> rfl
  | zero s => cases s <;> rfl
  | finite s m e hpos => exact (canonical_of_parts hx).unpack_pack (-s)

theorem height_neg (x : Float) : height (parts (-x)) = -height (parts x) := by
  rw [parts_neg_eq]
  have happly : ∀ (s : Sign) (n : Int), (-s).apply n = -s.apply n := by
    intro s n
    cases s with
    | positive => rfl
    | negative => exact (Int.neg_neg n).symm
  cases parts x with
  | notANumber => rfl
  | infinity s => exact happly s beyond
  | zero s => rfl
  | finite s m e hpos => exact happly s (magnitude m e)

theorem isInf_neg (x : Float) : (-x).isInf = x.isInf := by
  have hparts : (-x).isInf = (parts (-x)).isInf := rfl
  have hsame : x.isInf = (parts x).isInf := rfl
  rw [hparts, hsame, parts_neg_eq]
  cases parts x <;> rfl

theorem sub_apply (a : Int) (s : Sign) (b : Int) : a - s.apply b = a + (-s).apply b := by
  cases s with
  | positive => exact Int.sub_eq_add_neg
  | negative => exact Int.sub_neg a b

theorem sub_eq_add_neg (x y : Float) : x - y = x + -y := by
  have hsub : UnpackedFloat.sub Format.binary64 (parts x) (parts y) =
      UnpackedFloat.add Format.binary64 (parts x) (parts (-y)) := by
    rw [parts_neg_eq]
    rcases parts x with (_ | _) | _ | (_ | _) | ⟨s, m, e, hm⟩ <;>
      rcases parts y with (_ | _) | _ | (_ | _) | ⟨s', m', e', hm'⟩ <;> try rfl
    simp only [UnpackedFloat.sub, UnpackedFloat.add, UnpackedFloat.neg, sub_apply]
  exact congrArg (fun u => Float.ofModel (Float.Model.pack u)) hsub

/-- A sum grows with its terms. -/
theorem add_le_add_right {x y : Float} (hle : x ≤ y) (z : Float)
    (hx : (x + z).isNaN = false) (hy : (y + z).isNaN = false) : x + z ≤ y + z := by
  obtain ⟨hxn, hyn⟩ := isNaN_of_le hle
  rw [le_iff_height hxn hyn] at hle
  rw [le_iff_height hx hy]
  have hzn : z.isNaN = false := by
    rw [isNaN_add] at hx
    simp only [Bool.or_eq_false_iff] at hx
    exact hx.1.2
  cases hz : z.isInf with
  | true =>
      rw [add_comm] at hx hy
      rw [add_comm x, add_comm y, parts_add_of_isInf hz hx, parts_add_of_isInf hz hy]
  | false =>
      cases hxi : x.isInf with
      | true =>
          rw [parts_add_of_isInf hxi hx]
          cases hyi : y.isInf with
          | true =>
              rw [parts_add_of_isInf hyi hy]
              exact hle
          | false =>
              have hbounds := IsFinite.height_bounds ⟨hyi, hyn⟩
              rcases height_of_isInf hxi with hheight | hheight
              · omega
              · rw [hheight]
                exact (height_bounds _).1
      | false =>
          cases hyi : y.isInf with
          | true =>
              have hbounds := IsFinite.height_bounds ⟨hxi, hxn⟩
              rw [parts_add_of_isInf hyi hy]
              rcases height_of_isInf hyi with hheight | hheight
              · rw [hheight]
                exact (height_bounds _).2
              · omega
          | false =>
              rw [height_add ⟨hxi, hxn⟩ ⟨hz, hzn⟩, height_add ⟨hyi, hyn⟩ ⟨hz, hzn⟩]
              exact capped_mono (nearest_mono (Int.add_le_add_right hle _))

theorem sub_le_sub_right {x y : Float} (hle : x ≤ y) (z : Float)
    (hx : (x - z).isNaN = false) (hy : (y - z).isNaN = false) : x - z ≤ y - z := by
  simp only [sub_eq_add_neg] at *
  exact add_le_add_right hle (-z) hx hy

theorem lt_of_lt_of_le {x y z : Float} (hlt : x < y) (hle : y ≤ z) : x < z := by
  obtain ⟨hx, hy⟩ := isNaN_of_le (le_of_lt hlt)
  have hz := (isNaN_of_le hle).2
  rw [lt_iff_height hx hy] at hlt
  rw [le_iff_height hy hz] at hle
  rw [lt_iff_height hx hz]
  omega

/-- What has become too old stays so: an age grows with the time. Where the later time has no age,
because it and what it is counted from are the same infinity, the earlier age is above nothing. -/
theorem lt_sub_of_le {a x y z : Float} (hlt : a < x - z) (hle : x ≤ y) : a < y - z := by
  obtain ⟨ha, hx⟩ := isNaN_of_le (le_of_lt hlt)
  cases hy : (y - z).isNaN with
  | false => exact lt_of_lt_of_le hlt (sub_le_sub_right hle z hx hy)
  | true =>
      exfalso
      obtain ⟨hxn, hyn⟩ := isNaN_of_le hle
      have hage := hx
      rw [isNaN_sub] at hx hy
      simp only [hyn, Bool.false_or, Bool.or_eq_true, Bool.and_eq_true] at hy
      simp only [hxn, Bool.false_or, Bool.or_eq_false_iff, Bool.and_eq_false_iff] at hx
      obtain ⟨hzn, hcancel⟩ := hx
      obtain ⟨⟨-, hz⟩, hyz⟩ := hy.resolve_left (by rw [hzn]; exact Bool.false_ne_true)
      rw [beq_iff_height hyn hzn] at hyz
      rw [le_iff_height hxn hyn] at hle
      rw [lt_iff_height ha hage] at hlt
      rw [sub_eq_add_neg, add_comm] at hage hlt
      rw [parts_add_of_isInf (by rw [isInf_neg, hz]) hage, height_neg] at hlt
      -- the time that ages are counted from is infinitely long ago, and so is the earlier time
      have habove := (height_bounds a).1
      have hfloor := (height_bounds x).1
      have hz' := height_of_isInf hz
      have hlowest : height (parts x) = -beyond := by omega
      have hsame : (x == z) = true := (beq_iff_height hxn hzn).mpr (by omega)
      have hinfinite : x.isInf = true := by
        by_contra hfinite
        have hbounds := IsFinite.height_bounds ⟨Bool.eq_false_of_not_eq_true hfinite, hxn⟩
        omega
      simp [hinfinite, hz, hsame] at hcancel

end HeaterHost.Double
