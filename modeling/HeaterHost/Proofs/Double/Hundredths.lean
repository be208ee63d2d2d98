import HeaterHost.Proofs.Double.Sums

/-!
# Hundredths

A whole number of hundredths becomes a double in degrees by one conversion and one division, and both
may round. Even so the double lies between absolute zero and a thousand degrees exactly if the whole
number does: near the two limits hundredths are much further apart than doubles, and far away from
them the exponents decide.
-/

namespace HeaterHost.Double

open Decimal Float.Model Float.Model.UnpackedFloat

/-! ### Order -/

/-- Mantissas of full length are compared by their exponents first. -/
theorem lex_of_mul_le {m₁ m₂ a b : Nat} (hfull₁ : Full m₁) (hfull₂ : Full m₂)
    (hle : m₁ * 2 ^ a ≤ m₂ * 2 ^ b) : a < b ∨ a = b ∧ m₁ ≤ m₂ := by
  rcases Nat.lt_trichotomy a b with hlt | rfl | hgt
  · exact .inl hlt
  · exact .inr ⟨rfl, Nat.le_of_mul_le_mul_right hle (Nat.two_pow_pos a)⟩
  · exfalso
    have hpow : 2 ^ (b + 1) ≤ 2 ^ a := Nat.pow_le_pow_right (by decide) hgt
    have hbig : m₂ * 2 ^ b < m₁ * 2 ^ a := by
      calc m₂ * 2 ^ b < 2 ^ 53 * 2 ^ b := Nat.mul_lt_mul_of_pos_right hfull₂.2 (Nat.two_pow_pos b)
        _ = 2 ^ 52 * 2 ^ (b + 1) := by ring
        _ ≤ m₁ * 2 ^ a := Nat.mul_le_mul hfull₁.1 hpow
    omega

theorem lex_of_mul_lt {m₁ m₂ a b : Nat} (hfull₁ : Full m₁) (hfull₂ : Full m₂)
    (hlt : m₁ * 2 ^ a < m₂ * 2 ^ b) : a < b ∨ a = b ∧ m₁ < m₂ := by
  refine (lex_of_mul_le hfull₁ hfull₂ hlt.le).imp_right ?_
  rintro ⟨rfl, -⟩
  exact ⟨rfl, Nat.lt_of_mul_lt_mul_right hlt⟩

section order

variable {x y : Float} {m₁ m₂ : Nat} {e₁ e₂ : Int} {hpos₁ : 0 < m₁} {hpos₂ : 0 < m₂}

theorem le_of_opposite (hx : parts x = .finite .negative m₁ e₁ hpos₁)
    (hy : parts y = .finite .positive m₂ e₂ hpos₂) : x ≤ y := by
  rw [le_iff, hx, hy]
  rfl

theorem positive_le_iff (hx : parts x = .finite .positive m₁ e₁ hpos₁)
    (hy : parts y = .finite .positive m₂ e₂ hpos₂) :
    x ≤ y ↔ e₁ < e₂ ∨ e₁ = e₂ ∧ m₁ ≤ m₂ := by
  rw [le_iff, hx, hy]
  change ((compare e₁ e₂).then (compare m₁ m₂)).isLE = true ↔ _
  rcases Int.lt_trichotomy e₁ e₂ with hlt | rfl | hgt
  · rw [Int.compare_eq_lt.mpr hlt]
    exact iff_of_true rfl (.inl hlt)
  · rw [Int.compare_eq_eq.mpr rfl]
    simpa using Nat.isLE_compare
  · rw [Int.compare_eq_gt.mpr hgt]
    exact iff_of_false Bool.false_ne_true (by omega)

theorem negative_le_iff (hx : parts x = .finite .negative m₁ e₁ hpos₁)
    (hy : parts y = .finite .negative m₂ e₂ hpos₂) :
    x ≤ y ↔ e₂ < e₁ ∨ e₂ = e₁ ∧ m₂ ≤ m₁ := by
  rw [le_iff, hx, hy]
  change ((compare e₁ e₂).then (compare m₁ m₂)).swap.isLE = true ↔ _
  rcases Int.lt_trichotomy e₁ e₂ with hlt | rfl | hgt
  · rw [Int.compare_eq_lt.mpr hlt]
    exact iff_of_false Bool.false_ne_true (by omega)
  · rw [Int.compare_eq_eq.mpr rfl]
    change (compare m₁ m₂).swap.isLE = true ↔ _
    rw [Nat.compare_swap]
    simpa using Nat.isLE_compare
  · rw [Int.compare_eq_gt.mpr hgt]
    exact iff_of_true rfl (.inl hgt)

end order

/-! ### Division by a hundred -/

theorem parts_hundred : parts 100.0 = .finite .positive (100 * 2 ^ 46) (-46) (by decide) := rfl

theorem divCore_hundred {m : Nat} {e : Int} (hfull : Full m) (hlow : -1067 ≤ e) :
    divCore Format.binary64 m e (100 * 2 ^ 46) (-46) =
      (m * 2 ^ 53 / (100 * 2 ^ 46), e - 7,
        accuracyOfFraction (m * 2 ^ 53 % (100 * 2 ^ 46)) (100 * 2 ^ 46)) := by
  have hlog : (100 * 2 ^ 46 : Nat).log2 = 52 := by decide
  have htarget : Format.binary64.targetExponent
      (totalExponent m e - totalExponent (100 * 2 ^ 46) (-46)) = e - 7 := by
    simp only [Format.targetExponent, totalExponent, Format.mantissaBits, Format.minExponent,
      hfull.log2, hlog]
    omega
  have hmin : min (e - -46) (e - 7) = e - 7 := by omega
  have hamount : (e - -46 - (e - 7)).toNat = 53 := by omega
  simp only [divCore, htarget, hmin, hamount, Nat.shiftLeft_eq]

/-- The quotient by a hundred keeps its full length, and at most one bit more. -/
theorem quotient_hundred_bounds {m : Nat} (hfull : Full m) :
    2 ^ 52 ≤ m * 2 ^ 53 / (100 * 2 ^ 46) ∧ m * 2 ^ 53 / (100 * 2 ^ 46) < 2 ^ 54 ∧
      m * 2 ^ 53 / (100 * 2 ^ 46) * 100 ≤ m * 2 ^ 7 ∧
      m * 2 ^ 7 < (m * 2 ^ 53 / (100 * 2 ^ 46) + 1) * 100 := by
  obtain ⟨hge, hlt⟩ := hfull
  omega

/-- The mantissa shifted to its place is at most one unit of its own last place away from the exact
quotient. -/
theorem parts_div_hundred {x : Float} {s : Sign} {m : Nat} {e : Int} (hfull : Full m)
    (hlow : -1067 ≤ e) (hhigh : e ≤ 971) (hx : parts x = .finite s m e hfull.pos) :
    ∃ (m' k : Nat) (hfull' : Full m'),
      parts (x / 100.0) = .finite s m' (e - 7 + k) hfull'.pos ∧ k ≤ 2 ∧
      m' * 2 ^ k * 100 ≤ m * 2 ^ 7 + 100 * 2 ^ k ∧ m * 2 ^ 7 < m' * 2 ^ k * 100 + 100 * 2 ^ k := by
  have hcore := divCore_hundred hfull hlow
  obtain ⟨hge, hshort, hbelow, habove⟩ := quotient_hundred_bounds hfull
  generalize m * 2 ^ 53 / (100 * 2 ^ 46) = q at hcore hge hshort hbelow habove
  obtain ⟨m', k, hround, hmantissa, hk, hle, hlt⟩ := round_bounds (s := s)
    (accuracyOfFraction (m * 2 ^ 53 % (100 * 2 ^ 46)) (100 * 2 ^ 46)) hge hshort
    (e := e - 7) (by omega)
  have hsign : s / .positive = s := by cases s <;> rfl
  refine ⟨m', k, hround, ?_, hk, by omega, by omega⟩
  have hquotient : UnpackedFloat.div Format.binary64 (parts x) (parts 100.0) =
      .finite s m' (e - 7 + k) hround.pos := by
    rw [hx, parts_hundred]
    simp only [UnpackedFloat.div, hcore, hsign, hmantissa]
  change (Float.Model.pack (UnpackedFloat.div Format.binary64 (parts x) (parts 100.0))).unpack = _
  rw [hquotient]
  exact unpack_pack s hround (by omega) (by omega)

theorem parts_div_hundred_of_infinity {x : Float} {s : Sign} (hx : parts x = .infinity s) :
    parts (x / 100.0) = .infinity s := by
  have hquotient : UnpackedFloat.div Format.binary64 (parts x) (parts 100.0) = .infinity s := by
    rw [hx, parts_hundred]
    cases s <;> rfl
  change (Float.Model.pack (UnpackedFloat.div Format.binary64 (parts x) (parts 100.0))).unpack = _
  rw [hquotient]
  cases s <;> rfl

/-! ### Whole numbers of hundredths -/

/-- A hundredth of a whole number that a mantissa holds, in units of `2 ^ -59`. -/
theorem parts_short_div_hundred {x : Float} {s : Sign} {n : Nat} (hpos : 0 < n) (hlt : n < 2 ^ 53)
    (hx : parts x =
      .finite s (n * 2 ^ padding n) (-(padding n : Int)) (full_padded hpos hlt).pos) :
    ∃ (m k : Nat) (hfull : Full m),
      parts (x / 100.0) = .finite s m (n.log2 + k - 59) hfull.pos ∧ k ≤ 2 ∧
      m * 2 ^ (n.log2 + k) * 100 ≤ n * 2 ^ 59 + 100 * 2 ^ (n.log2 + k) ∧
      n * 2 ^ 59 < m * 2 ^ (n.log2 + k) * 100 + 100 * 2 ^ (n.log2 + k) := by
  have hlog : n.log2 < 53 := (Nat.log2_lt hpos.ne').mpr hlt
  have hpad : padding n + n.log2 = 52 := by
    unfold padding
    omega
  obtain ⟨m, k, hfull, hparts, hk, hbelow, habove⟩ :=
    parts_div_hundred (full_padded hpos hlt) (by omega) (by omega) hx
  have hunits : n * 2 ^ padding n * 2 ^ 7 * 2 ^ n.log2 = n * 2 ^ 59 := by
    calc n * 2 ^ padding n * 2 ^ 7 * 2 ^ n.log2 = n * 2 ^ (padding n + n.log2) * 2 ^ 7 := by ring
      _ = n * 2 ^ 59 := by rw [hpad]; ring
  have hplace : (-(padding n : Int)) - 7 + k = n.log2 + k - 59 := by omega
  refine ⟨m, k, hfull, by simpa only [hplace] using hparts, hk, ?_, ?_⟩
  · calc m * 2 ^ (n.log2 + k) * 100 = m * 2 ^ k * 100 * 2 ^ n.log2 := by ring
      _ ≤ (n * 2 ^ padding n * 2 ^ 7 + 100 * 2 ^ k) * 2 ^ n.log2 := Nat.mul_le_mul_right _ hbelow
      _ = n * 2 ^ 59 + 100 * 2 ^ (n.log2 + k) := by rw [Nat.add_mul, hunits]; ring
  · calc n * 2 ^ 59 = n * 2 ^ padding n * 2 ^ 7 * 2 ^ n.log2 := hunits.symm
      _ < (m * 2 ^ k * 100 + 100 * 2 ^ k) * 2 ^ n.log2 :=
          Nat.mul_lt_mul_of_pos_right habove (Nat.two_pow_pos _)
      _ = m * 2 ^ (n.log2 + k) * 100 + 100 * 2 ^ (n.log2 + k) := by ring

theorem parts_ofNat_of_le {n : Nat} (hle : 2 ^ 53 ≤ n) :
    parts (Float.ofNat n) = .infinity .positive ∨
      ∃ m e, ∃ hfull : Full m, parts (Float.ofNat n) = .finite .positive m e hfull.pos ∧
        1 ≤ e ∧ e ≤ 971 := by
  have hpos : 0 < n := by omega
  have hlong : 53 ≤ n.log2 := (Nat.le_log2 hpos.ne').mpr hle
  have hshifted : 0 < n <<< 53 * 10 ^ 0 := by
    rw [Nat.shiftLeft_eq]
    omega
  have hlog : (n <<< 53 * 10 ^ 0).log2 = n.log2 + 53 := by
    rw [Nat.shiftLeft_eq, Nat.pow_zero, Nat.mul_one]
    exact log2_shifted hpos 53
  obtain ⟨k, hk⟩ : ∃ k : Nat, (n.log2 : Int) - 52 = -53 + 0 + k := ⟨n.log2 + 1, by omega⟩
  have htarget : Format.binary64.targetExponent (totalExponent (n <<< 53 * 10 ^ 0) (-53 + 0)) =
      -53 + 0 + k := by
    rw [targetExponent_total, hlog]
    omega
  obtain ⟨m, e, hregular, hround, hvalue⟩ :=
    roundWithAccuracy_exact .positive hshifted (by decide) htarget
  have hparts : parts (Float.ofNat n) =
      (Float.Model.pack (.finite .positive m e hregular.pos)).unpack := by
    have hscientific : UnpackedFloat.ofScientific Format.binary64 n 0 =
        .finite .positive m e hregular.pos := by
      rw [UnpackedFloat.ofScientific, exponentBits_pow, dif_neg hpos.ne', if_neg (by omega),
        if_neg (by omega), if_pos le_rfl]
      exact hround
    change parts (Float.ofScientific n false 0) = _
    rw [Float.ofScientific, dif_neg (by omega), ← hscientific]
    rfl
  -- the last place of a number so large is at least that of two
  have hexponent : 1 ≤ e := by
    obtain ⟨-, -, hcarried | hmin⟩ := rounded_bounds hshifted (by decide) htarget
    · by_contra hsmall
      have hplace : (e + 1074).toNat + 1 ≤ (-53 + 0 + (k : Int) + 1074).toNat := by omega
      refine Nat.lt_irrefl (magnitude m e) ?_
      calc magnitude m e < 2 ^ 53 * 2 ^ (e + 1074).toNat :=
            Nat.mul_lt_mul_of_pos_right hregular.short (Nat.two_pow_pos _)
        _ = 2 ^ 52 * 2 ^ ((e + 1074).toNat + 1) := by ring
        _ ≤ _ := Nat.mul_le_mul hcarried (Nat.pow_le_pow_right two_pos hplace)
        _ = magnitude m e := hvalue.symm
    · omega
  by_cases hhigh : e ≤ 971
  · have hfull : Full m := ⟨hregular.full.resolve_right (by omega), hregular.short⟩
    exact .inr ⟨m, e, hfull, hparts.trans (unpack_pack .positive hfull (by omega) hhigh),
      hexponent, hhigh⟩
  · exact .inl (hparts.trans (unpack_pack_of_large .positive hregular.pos (by omega)))

/-- The parts of a double that a whole number is converted to, with a sign. The mantissa holds the
number, unless that is large. -/
inductive Converted (s : Sign) (n : Nat) (x : Float) : Prop
  | short (hpos : 0 < n) (hlt : n < 2 ^ 53)
      (hparts : parts x =
        .finite s (n * 2 ^ padding n) (-(padding n : Int)) (full_padded hpos hlt).pos)
  | infinite (hle : 2 ^ 53 ≤ n) (hparts : parts x = .infinity s)
  | long {m : Nat} {e : Int} (hle : 2 ^ 53 ≤ n) (hfull : Full m) (hlow : 1 ≤ e) (hhigh : e ≤ 971)
      (hparts : parts x = .finite s m e hfull.pos)

theorem converted_ofNat {n : Nat} (hpos : 0 < n) : Converted .positive n (Float.ofNat n) := by
  rcases Nat.lt_or_ge n (2 ^ 53) with hlt | hle
  · exact .short hpos hlt (parts_ofNat hpos hlt)
  · rcases parts_ofNat_of_le hle with hparts | ⟨m, e, hfull, hparts, hlow, hhigh⟩
    · exact .infinite hle hparts
    · exact .long hle hfull hlow hhigh hparts

theorem converted_neg_ofNat {n : Nat} (hpos : 0 < n) : Converted .negative n (-Float.ofNat n) := by
  cases converted_ofNat hpos with
  | short hpos hlt hparts => exact .short hpos hlt (by rw [parts_neg_eq, hparts]; rfl)
  | infinite hle hparts => exact .infinite hle (by rw [parts_neg_eq, hparts]; rfl)
  | long hle hfull hlow hhigh hparts =>
      exact .long hle hfull hlow hhigh (by rw [parts_neg_eq, hparts]; rfl)

/-! ### Limits -/

/-- A double without its sign, in units of `2 ^ -59`, that stands for a limit of hundredths. What one
hundredth less and one hundredth more can become is clear of it. -/
structure StandsFor (limit mantissa place : Nat) : Prop where
  full : Full mantissa
  limit_lt : limit < 2 ^ 53
  place_lt : place < 53
  less : (limit - 1) * (2 ^ 59 + 400) ≤ mantissa * 2 ^ place * 100
  more : mantissa * 2 ^ place * 100 ≤ (limit + 1) * (2 ^ 59 - 400)

/-- Rounding is not off by as much as one hundredth. -/
theorem unit_bounds {n k : Nat} (hpos : 0 < n) (hk : k ≤ 2) :
    2 ^ (n.log2 + k) ≤ 4 * n := by
  have hlog : 2 ^ n.log2 ≤ n := Nat.log2_self_le hpos.ne'
  calc 2 ^ (n.log2 + k) = 2 ^ n.log2 * 2 ^ k := Nat.pow_add ..
    _ ≤ n * 2 ^ 2 := Nat.mul_le_mul hlog (Nat.pow_le_pow_right two_pos hk)
    _ = 4 * n := by ring

section limit

variable {limit mantissa place : Nat} (hlimit : StandsFor limit mantissa place)
  {x : Float} {s : Sign} {n : Nat} (hx : Converted s n x)

include hlimit hx

theorem parts_below_limit (hlt : n < limit) :
    ∃ m e, ∃ hfull : Full m, parts (x / 100.0) = .finite s m e hfull.pos ∧
      (e < place - 59 ∨ e = place - 59 ∧ m ≤ mantissa) := by
  have hshort := hlt.trans hlimit.limit_lt
  cases hx with
  | short hpos _ hparts =>
      obtain ⟨m, k, hfull, hparts, hk, hbelow, -⟩ := parts_short_div_hundred hpos hshort hparts
      have hunit := unit_bounds hpos hk
      have hsize : m * 2 ^ (n.log2 + k) * 100 ≤ mantissa * 2 ^ place * 100 := by
        calc m * 2 ^ (n.log2 + k) * 100 ≤ n * 2 ^ 59 + n * 400 := by omega
          _ = n * (2 ^ 59 + 400) := (Nat.mul_add ..).symm
          _ ≤ (limit - 1) * (2 ^ 59 + 400) := Nat.mul_le_mul_right _ (by omega)
          _ ≤ mantissa * 2 ^ place * 100 := hlimit.less
      have hlex := lex_of_mul_le hfull hlimit.full (Nat.le_of_mul_le_mul_right hsize (by decide))
      exact ⟨m, _, hfull, hparts, by omega⟩
  | infinite hle | long hle => exact absurd hshort (Nat.not_lt.mpr hle)

theorem parts_above_limit (hgt : limit < n) :
    parts (x / 100.0) = .infinity s ∨
      ∃ m e, ∃ hfull : Full m, parts (x / 100.0) = .finite s m e hfull.pos ∧
        ¬ (e < place - 59 ∨ e = place - 59 ∧ m ≤ mantissa) := by
  have hplace := hlimit.place_lt
  cases hx with
  | short hpos hlt hparts =>
      obtain ⟨m, k, hfull, hparts, hk, -, habove⟩ := parts_short_div_hundred hpos hlt hparts
      have hunit := unit_bounds hpos hk
      have hsize : mantissa * 2 ^ place * 100 < m * 2 ^ (n.log2 + k) * 100 := by
        calc mantissa * 2 ^ place * 100 ≤ (limit + 1) * (2 ^ 59 - 400) := hlimit.more
          _ ≤ n * (2 ^ 59 - 400) := Nat.mul_le_mul_right _ hgt
          _ = n * 2 ^ 59 - n * 400 := Nat.mul_sub ..
          _ < m * 2 ^ (n.log2 + k) * 100 := by omega
      have hlex := lex_of_mul_lt hlimit.full hfull (Nat.lt_of_mul_lt_mul_right hsize)
      exact .inr ⟨m, _, hfull, hparts, by omega⟩
  | infinite _ hparts => exact .inl (parts_div_hundred_of_infinity hparts)
  | long _ hfull hlow hhigh hparts =>
      -- the last place of a number so large stays above that of the limit
      obtain ⟨m, k, hfull', hparts, -⟩ := parts_div_hundred hfull (by omega) hhigh hparts
      exact .inr ⟨m, _, hfull', hparts, by omega⟩

end limit

theorem parts_absoluteZero :
    parts (-273.15) = .finite .negative 4805305618032230 (-44) (by decide) := rfl

theorem absoluteZero_standsFor : StandsFor 27315 4805305618032230 15 where
  full := by constructor <;> decide
  limit_lt := by decide
  place_lt := by decide
  less := by decide
  more := by decide

theorem parts_thousand :
    parts 1000.0 = .finite .positive (1000 * 2 ^ 43) (-43) (by decide) := rfl

theorem thousand_standsFor : StandsFor 100000 (1000 * 2 ^ 43) 16 where
  full := by constructor <;> decide
  limit_lt := by decide
  place_lt := by decide
  less := by decide
  more := by decide

theorem ofNat_div_hundred_le_iff {n : Nat} (hpos : 0 < n) :
    (-273.15 ≤ Float.ofNat n / 100.0 ∧ Float.ofNat n / 100.0 ≤ 1000.0) ↔ n ≤ 100000 := by
  have hx := converted_ofNat hpos
  rcases Nat.lt_trichotomy n 100000 with hlt | rfl | hgt
  · obtain ⟨m, e, hfull, hparts, hle⟩ := parts_below_limit thousand_standsFor hx hlt
    refine iff_of_true ⟨le_of_opposite parts_absoluteZero hparts, ?_⟩ hlt.le
    exact (positive_le_iff hparts parts_thousand).mpr hle
  · exact iff_of_true (by decide +kernel) le_rfl
  · refine iff_of_false (not_and_of_not_right _ ?_) (Nat.not_le.mpr hgt)
    rcases parts_above_limit thousand_standsFor hx hgt with hparts | ⟨m, e, hfull, hparts, hgreater⟩
    · rw [le_iff, hparts, parts_thousand]
      exact Bool.false_ne_true
    · exact mt (positive_le_iff hparts parts_thousand).mp hgreater

theorem neg_ofNat_div_hundred_le_iff {n : Nat} (hpos : 0 < n) :
    (-273.15 ≤ -Float.ofNat n / 100.0 ∧ -Float.ofNat n / 100.0 ≤ 1000.0) ↔ n ≤ 27315 := by
  have hx := converted_neg_ofNat hpos
  rcases Nat.lt_trichotomy n 27315 with hlt | rfl | hgt
  · obtain ⟨m, e, hfull, hparts, hle⟩ := parts_below_limit absoluteZero_standsFor hx hlt
    refine iff_of_true ⟨?_, le_of_opposite hparts parts_thousand⟩ hlt.le
    exact (negative_le_iff parts_absoluteZero hparts).mpr hle
  · exact iff_of_true (by decide +kernel) le_rfl
  · refine iff_of_false (not_and_of_not_left _ ?_) (Nat.not_le.mpr hgt)
    rcases parts_above_limit absoluteZero_standsFor hx hgt with
      hparts | ⟨m, e, hfull, hparts, hgreater⟩
    · rw [le_iff, hparts, parts_absoluteZero]
      exact Bool.false_ne_true
    · exact mt (negative_le_iff parts_absoluteZero hparts).mp hgreater

/-- A whole number of hundredths, as a double in degrees, lies between absolute zero and a thousand
degrees exactly if the whole number does. -/
theorem ofInt_div_hundred_bounds_iff (n : Int) :
    (-273.15 ≤ Float.ofInt n / 100.0 ∧ Float.ofInt n / 100.0 ≤ 1000.0) ↔
      -27315 ≤ n ∧ n ≤ 100000 := by
  cases n with
  | ofNat n =>
      rcases Nat.eq_zero_or_pos n with rfl | hpos
      · exact iff_of_true (by decide +kernel) (by decide)
      · refine (ofNat_div_hundred_le_iff hpos).trans ?_
        simp only [Int.ofNat_eq_natCast]
        omega
  | negSucc n =>
      refine (neg_ofNat_div_hundred_le_iff (Nat.succ_pos n)).trans ?_
      omega

end HeaterHost.Double
