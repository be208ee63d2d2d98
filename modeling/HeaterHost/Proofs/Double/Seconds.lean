import HeaterHost.Time
import HeaterHost.Proofs.Double.NonNegative

/-!
# Seconds as spans

A positive number of seconds has a span exactly below `2 ^ 64`, and the span ends before the end of
time exactly below `2 ^ 63`. No rounding comes in between: a double that large is a whole number of
seconds, and the greatest double below a power of two stays clear of it.
-/

namespace HeaterHost.Double

open Float.Model Float.Model.UnpackedFloat

/-- The first number of seconds without a span: `2 ^ 64`. -/
def tooManySeconds : Float := 18446744073709551616.0

/-- The first number of seconds that is as long as all time: `2 ^ 63`. -/
def endlessSeconds : Float := 9223372036854775808.0

theorem parts_tooManySeconds :
    parts tooManySeconds = .finite .positive (2 ^ 52) 12 (by decide) := rfl

theorem parts_endlessSeconds :
    parts endlessSeconds = .finite .positive (2 ^ 52) 11 (by decide) := rfl

/-- Below a power of two are the doubles with a smaller exponent. -/
theorem lt_power_iff {x y : Float} {m : Nat} {e k : Int} {hpos : 0 < m}
    (hx : parts x = .finite .positive m e hpos)
    (hy : parts y = .finite .positive (2 ^ 52) k (by decide)) (hk : -1074 < k) : x < y ↔ e < k := by
  have hcanonical := canonical_of_parts hx
  rw [lt_iff, hx, hy]
  change (some ((compare e k).then (compare m (2 ^ 52))) == some .lt) = true ↔ e < k
  rcases Int.lt_trichotomy e k with hlt | rfl | hgt
  · rw [Int.compare_eq_lt.mpr hlt]
    exact iff_of_true rfl hlt
  · have hge : 2 ^ 52 ≤ m := hcanonical.full.resolve_right (by omega)
    refine iff_of_false ?_ (Int.lt_irrefl e)
    rw [Int.compare_eq_eq.mpr rfl]
    intro hsmall
    have hcompare : compare m (2 ^ 52) = .lt := by simpa using hsmall
    exact absurd (Nat.compare_eq_lt.mp hcompare) (Nat.not_lt.mpr hge)
  · rw [Int.compare_eq_gt.mpr hgt]
    exact iff_of_false (by simp) (by omega)

/-! ### Nanoseconds -/

theorem roundEven_one (num : Nat) : Decimal.roundEven num 1 = num := by
  simp [Decimal.roundEven, Nat.mod_one]

theorem roundEven_le (num den : Nat) : Decimal.roundEven num den ≤ num / den + 1 := by
  unfold Decimal.roundEven
  dsimp only
  split
  · omega
  · split <;> omega

theorem roundEven_pos {num den : Nat} (hden : 0 < den) (hle : den ≤ num) :
    0 < Decimal.roundEven num den := by
  have hwhole : 0 < num / den := Nat.div_pos hle hden
  unfold Decimal.roundEven
  dsimp only
  split
  · exact hwhole
  · split <;> omega

/-- The nanoseconds of a finite double. -/
def nanoseconds (m : Nat) (e : Int) : Nat :=
  Decimal.roundEven ((Decimal.quotient m e).1 * Span.second) (Decimal.quotient m e).2

theorem ofSeconds?_eq {x : Float} {m : Nat} {e : Int} {hpos : 0 < m}
    (hx : parts x = .finite .positive m e hpos) :
    Span.ofSeconds? x =
      if nanoseconds m e < 2 ^ 64 * Span.second then some (nanoseconds m e) else none := by
  have hlimit : 0x10000000000000000 = 2 ^ 64 := by norm_num
  simp only [Span.ofSeconds?, ofFloat_eq_binary, hx, binary, isNegative, Bool.false_and,
    Bool.false_eq_true, ↓reduceIte, hlimit]
  exact if_congr Iff.rfl rfl rfl

theorem nanoseconds_of_whole {m : Nat} {e : Int} (hwhole : 0 ≤ e) :
    nanoseconds m e = m * 2 ^ e.toNat * Span.second := by
  obtain ⟨k, rfl⟩ := Int.eq_ofNat_of_zero_le hwhole
  rw [nanoseconds]
  change Decimal.roundEven (m <<< k * Span.second) 1 = _
  rw [roundEven_one, Nat.shiftLeft_eq]
  rfl

/-- Doubles that are not whole are short: they count nanoseconds below `2 ^ 54` seconds. -/
theorem nanoseconds_of_fraction {m : Nat} {e : Int} (hshort : m < 2 ^ 53) (hfraction : e < 0) :
    nanoseconds m e < 2 ^ 54 * Span.second := by
  obtain ⟨k, rfl⟩ := Int.eq_negSucc_of_lt_zero hfraction
  rw [nanoseconds]
  change Decimal.roundEven (m * Span.second) (1 <<< (k + 1)) < _
  have hbound := roundEven_le (m * Span.second) (1 <<< (k + 1))
  have hquotient : m * Span.second / 1 <<< (k + 1) ≤ m * Span.second := Nat.div_le_self _ _
  have hsecond : m * Span.second < 2 ^ 53 * Span.second :=
    Nat.mul_lt_mul_of_pos_right hshort (by decide)
  have hroom : 2 ^ 53 * Span.second + 1 ≤ 2 ^ 54 * Span.second := by decide
  omega

theorem whole_lt {m j k : Nat} (hshort : m < 2 ^ 53) (hlt : j < k) :
    m * 2 ^ j + 2 ^ j ≤ 2 ^ (52 + k) := by
  calc m * 2 ^ j + 2 ^ j = (m + 1) * 2 ^ j := by ring
    _ ≤ 2 ^ 53 * 2 ^ j := Nat.mul_le_mul_right _ hshort
    _ = 2 ^ (53 + j) := (Nat.pow_add 2 53 j).symm
    _ ≤ 2 ^ (52 + k) := Nat.pow_le_pow_right (by decide) (by omega)

theorem le_whole {m j k : Nat} (hfull : 2 ^ 52 ≤ m) (hle : k ≤ j) : 2 ^ (52 + k) ≤ m * 2 ^ j := by
  calc 2 ^ (52 + k) = 2 ^ 52 * 2 ^ k := Nat.pow_add 2 52 k
    _ ≤ m * 2 ^ j := Nat.mul_le_mul hfull (Nat.pow_le_pow_right (by decide) hle)

section spans

variable {x : Float} {m : Nat} {e : Int} {hpos : 0 < m}

theorem nanoseconds_lt_iff (hcanonical : Canonical m e) {k : Nat} (hk : 2 ≤ k) :
    nanoseconds m e < 2 ^ (52 + k) * Span.second ↔ e < k := by
  rcases Int.lt_or_le e 0 with hfraction | hwhole
  · refine iff_of_true ?_ (by omega)
    calc nanoseconds m e < 2 ^ 54 * Span.second :=
          nanoseconds_of_fraction hcanonical.short hfraction
      _ ≤ 2 ^ (52 + k) * Span.second :=
          Nat.mul_le_mul_right _ (Nat.pow_le_pow_right (by decide) (by omega))
  · rw [nanoseconds_of_whole hwhole, Nat.mul_lt_mul_right (by decide)]
    by_cases hsmall : e < k
    · refine iff_of_true ?_ hsmall
      have hbelow := whole_lt (j := e.toNat) (k := k) hcanonical.short (by omega)
      have hpower : 0 < 2 ^ e.toNat := Nat.two_pow_pos _
      omega
    · refine iff_of_false ?_ hsmall
      have hfull : 2 ^ 52 ≤ m := hcanonical.full.resolve_right (by omega)
      exact Nat.not_lt.mpr (le_whole hfull (by omega))

theorem isSome_ofSeconds?_iff (hx : parts x = .finite .positive m e hpos) :
    (Span.ofSeconds? x).isSome = true ↔ x < tooManySeconds := by
  have hfits := nanoseconds_lt_iff (canonical_of_parts hx) (k := 12) (by decide)
  rw [ofSeconds?_eq hx, lt_power_iff hx parts_tooManySeconds (by decide)]
  refine Iff.trans ?_ hfits
  split
  case isTrue hshort => exact iff_of_true rfl hshort
  case isFalse hlong => exact iff_of_false Bool.false_ne_true hlong

theorem ofSeconds?_lt_endOfTime_iff (hx : parts x = .finite .positive m e hpos) {span : Span}
    (hspan : Span.ofSeconds? x = some span) :
    span < Instant.endOfTime ↔ x < endlessSeconds := by
  have hend : Instant.endOfTime = 2 ^ (52 + 11) * Span.second := by norm_num [Instant.endOfTime]
  rw [ofSeconds?_eq hx] at hspan
  split at hspan
  · cases hspan
    rw [hend, nanoseconds_lt_iff (canonical_of_parts hx) (by decide),
      lt_power_iff hx parts_endlessSeconds (by decide)]
    rfl
  · cases hspan

theorem nanoseconds_pos (hcanonical : Canonical m e) (hlow : -56 ≤ e) : 0 < nanoseconds m e := by
  rcases Int.lt_or_le e 0 with hfraction | hwhole
  · obtain ⟨k, rfl⟩ := Int.eq_negSucc_of_lt_zero hfraction
    have hfull : 2 ^ 52 ≤ m := hcanonical.full.resolve_right (by omega)
    change 0 < Decimal.roundEven (m * Span.second) (1 <<< (k + 1))
    rw [Nat.one_shiftLeft]
    refine roundEven_pos (Nat.two_pow_pos _) ?_
    calc 2 ^ (k + 1) ≤ 2 ^ 56 := Nat.pow_le_pow_right (by decide) (by omega)
      _ ≤ 2 ^ 52 * Span.second := by norm_num [Span.second]
      _ ≤ m * Span.second := Nat.mul_le_mul_right _ hfull
  · rw [nanoseconds_of_whole hwhole]
    have hsecond : 0 < Span.second := by decide
    have hpos := hcanonical.pos
    positivity

end spans

theorem parts_tenth : ∃ m hpos, parts 0.1 = .finite .positive m (-56) hpos :=
  ⟨_, by decide, rfl⟩

/-- A tenth of a second and more. -/
theorem parts_of_tenth_le {x : Float} (hfinite : Decimal.isFinite x = true) (hlow : ¬ x < 0.1) :
    ∃ m e hpos, parts x = .finite .positive m e hpos ∧ -56 ≤ e := by
  obtain ⟨tenth, htenth, htenths⟩ := parts_tenth
  have hle : 0.1 ≤ x := le_of_not_lt (isNaN_of_isFinite hfinite) (by decide +kernel) hlow
  rw [le_iff, htenths] at hle
  cases hx : parts x with
  | notANumber =>
      rw [hx] at hle
      cases hle
  | infinity s => exact absurd hx (ne_infinity_of_isFinite hfinite s)
  | zero s =>
      rw [hx] at hle
      cases hle
  | finite s m e hpos =>
      rw [hx] at hle
      cases s with
      | negative => cases hle
      | positive =>
          refine ⟨m, e, hpos, rfl, Int.not_lt.mp fun hlt => ?_⟩
          change ((compare (-56) e).then (compare tenth m)).isLE = true at hle
          rw [Int.compare_eq_gt.mpr hlt] at hle
          cases hle

/-- What becomes of a report time that a board can keep up with. -/
theorem span_of_tenth_le {x : Float} (hfinite : Decimal.isFinite x = true) (hlow : ¬ x < 0.1) :
    ((Span.ofSeconds? x).isSome = true ↔ x < tooManySeconds) ∧
    ∀ span, Span.ofSeconds? x = some span → 0 < span ∧
      (span < Instant.endOfTime ↔ x < endlessSeconds) := by
  obtain ⟨m, e, hpos, hx, hlow⟩ := parts_of_tenth_le hfinite hlow
  refine ⟨isSome_ofSeconds?_iff hx,
    fun span hspan => ⟨?_, ofSeconds?_lt_endOfTime_iff hx hspan⟩⟩
  rw [ofSeconds?_eq hx] at hspan
  split at hspan
  · cases hspan
    exact nanoseconds_pos (canonical_of_parts hx) hlow
  · cases hspan

end HeaterHost.Double
