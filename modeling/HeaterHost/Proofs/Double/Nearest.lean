import HeaterHost.Proofs.Double.Parts

/-!
# The nearest double

Products and quotients of doubles are worked out to more bits than a double has and then rounded.
What was cut off is remembered in two bits, and that is enough: every number that is nearest to a
double is rounded to just that double.
-/

namespace HeaterHost.Double

open Float.Model Float.Model.UnpackedFloat

/-- What a mantissa and its two residual bits say of a number: its whole part, and how its fraction
compares with a half. -/
structure Approximates (em : ExtendedMantissa) (w : ℚ) : Prop where
  whole_le : (em.mantissa : ℚ) ≤ w
  lt_next : w < em.mantissa + 1
  round : em.roundBit = true ↔ em.mantissa + 1 / 2 ≤ w
  sticky : em.stickyBit = false ↔ w = em.mantissa ∨ w = em.mantissa + 1 / 2

/-- The whole number next to `w`, the even one of two that are equally near. -/
structure NextTo (w : ℚ) (n : Nat) : Prop where
  low : (n : ℚ) - 1 / 2 ≤ w
  high : w ≤ n + 1 / 2
  even : n % 2 = 1 → (n : ℚ) - 1 / 2 < w ∧ w < n + 1 / 2

namespace Approximates

variable {em : ExtendedMantissa} {w : ℚ}

theorem exact_iff (h : Approximates em w) :
    (em.roundBit || em.stickyBit) = false ↔ w = em.mantissa := by
  rw [Bool.or_eq_false_iff, ← Bool.not_eq_true, h.round, h.sticky]
  constructor
  · rintro ⟨hlow, hwhole | hhalf⟩
    · exact hwhole
    · exact absurd hhalf.ge hlow
  · intro hwhole
    exact ⟨by linarith, .inl hwhole⟩

theorem shiftRightOne (h : Approximates em w) : Approximates em.shiftRightOne (w / 2) := by
  have hexact := h.exact_iff
  have hwhole := h.whole_le
  have hnext := h.lt_next
  have hm : (em.mantissa : ℚ) = 2 * (em.mantissa / 2 : Nat) + (em.mantissa % 2 : Nat) := by
    exact_mod_cast (Nat.div_add_mod em.mantissa 2).symm
  rcases Nat.mod_two_eq_zero_or_one em.mantissa with hbit | hbit
  · rw [hbit, Nat.cast_zero] at hm
    refine ⟨?_, ?_, iff_of_false (by simp [ExtendedMantissa.shiftRightOne, hbit]) ?_,
      hexact.trans ⟨fun hw => .inl ?_, ?_⟩⟩
    all_goals simp only [ExtendedMantissa.shiftRightOne]
    · linarith
    · linarith
    · linarith
    · linarith
    · rintro (hw | hw)
      · linarith
      · linarith
  · rw [hbit, Nat.cast_one] at hm
    refine ⟨?_, ?_, iff_of_true (by simp [ExtendedMantissa.shiftRightOne, hbit]) ?_,
      hexact.trans ⟨fun hw => .inr ?_, ?_⟩⟩
    all_goals simp only [ExtendedMantissa.shiftRightOne]
    · linarith
    · linarith
    · linarith
    · linarith
    · rintro (hw | hw)
      · linarith
      · linarith

theorem shiftRight (h : Approximates em w) (k : Nat) : Approximates (em >>> k) (w / 2 ^ k) := by
  change Approximates (k.repeat ExtendedMantissa.shiftRightOne em) (w / 2 ^ k)
  induction k with
  | zero => simpa [Nat.repeat] using h
  | succ k ih =>
      rw [Nat.repeat, pow_succ, ← div_div]
      exact ih.shiftRightOne

theorem roundedMantissa_eq (h : Approximates em w) {n : Nat} (hn : NextTo w n) :
    em.roundedMantissa = n := by
  obtain ⟨m, r, s⟩ := em
  obtain ⟨hwhole, hnext, hround, hsticky⟩ := h
  obtain ⟨hlow, hhigh, heven⟩ := hn
  dsimp only at hwhole hnext hround hsticky
  have hle : m ≤ n := by
    have hlt : (m : ℚ) < n + 1 := by linarith
    exact Nat.lt_succ_iff.mp (by exact_mod_cast hlt)
  have hge : n ≤ m + 1 := by
    have hlt : (n : ℚ) < m + 2 := by linarith
    exact Nat.lt_succ_iff.mp (by exact_mod_cast hlt)
  have hcases : n = m ∨ n = m + 1 := by omega
  cases r with
  | false =>
      have hbelow : w < m + 1 / 2 := by simpa using hround
      have hn : n = m := by
        rcases hcases with hn | rfl
        · exact hn
        · push_cast at hlow
          linarith
      cases s <;> exact hn.symm
  | true =>
      have habove : (m : ℚ) + 1 / 2 ≤ w := hround.mp rfl
      cases s with
      | false =>
          have hw : w = m + 1 / 2 := (hsticky.mp rfl).resolve_left (by intro hw; linarith)
          change m + m % 2 = n
          rcases hcases with rfl | rfl
          · by_contra hodd
            have := (heven (by omega)).2
            linarith
          · by_contra hodd
            have := (heven (by omega)).1
            push_cast at this
            linarith
      | true =>
          have hhalf : w ≠ m + 1 / 2 := by
            intro hw
            cases hsticky.mpr (.inr hw)
          have hn : n = m + 1 := by
            rcases hcases with rfl | hn
            · exact absurd (le_antisymm hhigh habove) hhalf
            · exact hn
          exact hn.symm

end Approximates

/-- How far the numbers that round to a double reach down from it, in quarters of its last place.
Below a power of two the doubles lie twice as close. -/
def gapBelow (m : Nat) (e : Int) : Nat :=
  if m = 2 ^ 52 ∧ -1074 < e then 1 else 2

/-- The number rounds to `m * 2 ^ e`: it is nearer to it than to any other double, or as near, and
then the mantissa is even. -/
structure Rounds (m : Nat) (e : Int) (q : ℚ) : Prop where
  low : ((4 * m - gapBelow m e : Nat) : ℚ) * 2 ^ (e - 2) ≤ q
  high : q ≤ ((4 * m + 2 : Nat) : ℚ) * 2 ^ (e - 2)
  inside : m % 2 = 1 → ((4 * m - gapBelow m e : Nat) : ℚ) * 2 ^ (e - 2) < q ∧
    q < ((4 * m + 2 : Nat) : ℚ) * 2 ^ (e - 2)

namespace Rounds

variable {m : Nat} {e : Int} {q : ℚ}

theorem lt_two_zpow (h : Canonical m e) (hq : Rounds m e q) : q < 2 ^ (e + 53) := by
  have hshort := h.short
  have hsplit : (2 : ℚ) ^ (e + 53) = 2 ^ (55 : ℤ) * 2 ^ (e - 2) := by
    rw [← zpow_add₀ two_ne_zero]
    congr 1
    ring
  calc q ≤ ((4 * m + 2 : Nat) : ℚ) * 2 ^ (e - 2) := hq.high
    _ < (2 ^ 55 : Nat) * 2 ^ (e - 2) := by
        gcongr
        omega
    _ = 2 ^ (e + 53) := by
        rw [hsplit]
        norm_num

theorem two_zpow_lt (h : Canonical m e) (hq : Rounds m e q) (hlow : -1074 < e) :
    2 ^ (e + 51) < q := by
  have hfull := h.full
  have hgap : 2 ^ 53 < 4 * m - gapBelow m e := by
    unfold gapBelow
    split <;> omega
  have hsplit : (2 : ℚ) ^ (e + 51) = 2 ^ (53 : ℤ) * 2 ^ (e - 2) := by
    rw [← zpow_add₀ two_ne_zero]
    congr 1
    ring
  calc (2 : ℚ) ^ (e + 51) = (2 ^ 53 : Nat) * 2 ^ (e - 2) := by
        rw [hsplit]
        norm_num
    _ < ((4 * m - gapBelow m e : Nat) : ℚ) * 2 ^ (e - 2) := by gcongr
    _ ≤ q := hq.low

theorem pos (h : Canonical m e) (hq : Rounds m e q) : 0 < q := by
  have hpos := h.pos
  have hgap : 0 < 4 * m - gapBelow m e := by
    unfold gapBelow
    split <;> omega
  calc (0 : ℚ) < ((4 * m - gapBelow m e : Nat) : ℚ) * 2 ^ (e - 2) := by positivity
    _ ≤ q := hq.low

/-- Nothing but a power of two has numbers below it that round to it from the binade before. -/
theorem eq_of_lt (h : Canonical m e) (hq : Rounds m e q) (hlow : -1074 < e)
    (hbelow : q < 2 ^ (e + 52)) : m = 2 ^ 52 := by
  have hfull := h.full
  by_contra hne
  have hgap : 2 ^ 54 ≤ 4 * m - gapBelow m e := by
    unfold gapBelow
    split <;> omega
  have hsplit : (2 : ℚ) ^ (e + 52) = 2 ^ (54 : ℤ) * 2 ^ (e - 2) := by
    rw [← zpow_add₀ two_ne_zero]
    congr 1
    ring
  have hle : (2 : ℚ) ^ (e + 52) ≤ q := by
    calc (2 : ℚ) ^ (e + 52) = (2 ^ 54 : Nat) * 2 ^ (e - 2) := by
          rw [hsplit]
          norm_num
      _ ≤ ((4 * m - gapBelow m e : Nat) : ℚ) * 2 ^ (e - 2) := by gcongr
      _ ≤ q := hq.low
  exact absurd hbelow (not_lt.mpr hle)

theorem nextTo (h : Canonical m e) (hq : Rounds m e q) : NextTo (q / 2 ^ e) m := by
  have hpos := h.pos
  have hscale : (2 : ℚ) ^ e = 4 * 2 ^ (e - 2) := by
    rw [zpow_sub₀ two_ne_zero]
    ring
  have hunit : (0 : ℚ) < 2 ^ (e - 2) := by positivity
  have hgap : 4 * m ≤ (4 * m - gapBelow m e) + 2 := by
    unfold gapBelow
    split <;> omega
  have hlow : (4 * m - 2 : ℚ) * 2 ^ (e - 2) ≤ ((4 * m - gapBelow m e : Nat) : ℚ) * 2 ^ (e - 2) := by
    have hcast : (4 * m : ℚ) ≤ ((4 * m - gapBelow m e : Nat) : ℚ) + 2 := by exact_mod_cast hgap
    gcongr
    linarith
  have hhigh : ((4 * m + 2 : Nat) : ℚ) * 2 ^ (e - 2) = (4 * m + 2 : ℚ) * 2 ^ (e - 2) := by
    push_cast
    rfl
  refine ⟨?_, ?_, fun hodd => ⟨?_, ?_⟩⟩
  · rw [le_div_iff₀ (by positivity), hscale]
    linarith [hq.low]
  · rw [div_le_iff₀ (by positivity), hscale]
    linarith [hq.high]
  · rw [lt_div_iff₀ (by positivity), hscale]
    linarith [(hq.inside hodd).1]
  · rw [div_lt_iff₀ (by positivity), hscale]
    linarith [(hq.inside hodd).2]

theorem nextTo_carry (hq : Rounds (2 ^ 52) e q) (hlow : -1074 < e) (hbelow : q < 2 ^ (e + 52)) :
    NextTo (q / 2 ^ (e - 1)) (2 ^ 53) := by
  have hscale : (2 : ℚ) ^ (e - 1) = 2 * 2 ^ (e - 2) := by
    rw [zpow_sub₀ two_ne_zero, zpow_sub₀ two_ne_zero]
    ring
  have htop : (2 : ℚ) ^ (e + 52) = 2 ^ 54 * 2 ^ (e - 2) := by
    rw [zpow_sub₀ two_ne_zero, zpow_add₀ two_ne_zero]
    ring
  have hquarter : ((4 * 2 ^ 52 - gapBelow (2 ^ 52) e : Nat) : ℚ) = 2 ^ 54 - 1 := by
    rw [gapBelow, if_pos ⟨rfl, hlow⟩]
    norm_num
  have hge := hq.low
  rw [hquarter] at hge
  rw [htop] at hbelow
  refine ⟨?_, ?_, by simp⟩
  · rw [le_div_iff₀ (by positivity), hscale]
    push_cast
    linarith
  · rw [div_le_iff₀ (by positivity), hscale]
    push_cast
    have : (0 : ℚ) < 2 ^ (e - 2) := by positivity
    linarith

end Rounds

theorem Canonical.shift_eq {m : Nat} {e : Int} (h : Canonical m e) :
    shiftToTargetExponent Format.binary64 m e .exact = (⟨m, false, false⟩, e) := by
  have hlog : m.log2 < 53 := (Nat.log2_lt h.pos.ne').mpr h.short
  have hlow := h.low
  have htarget : Format.binary64.targetExponent (totalExponent m e) = e := by
    simp only [Format.targetExponent, totalExponent, Format.mantissaBits, Format.minExponent]
    rcases h.full with hge | hmin
    · have hfull : 52 ≤ m.log2 := (Nat.le_log2 h.pos.ne').mpr hge
      omega
    · omega
  simp only [shiftToTargetExponent, shiftToExponent, htarget]
  simp [HShiftRight.hShiftRight, Nat.repeat, ExtendedMantissa.ofMantissaAndAccuracy]

/-- The length of a mantissa gives the binade of what it approximates. -/
theorem lt_zpow_log2 {M : Nat} {E : Int} {v : ℚ} (hnext : v / 2 ^ E < M + 1) :
    v < 2 ^ ((M.log2 : Int) + 1 + E) := by
  have hM : M + 1 ≤ 2 ^ (M.log2 + 1) := Nat.lt_log2_self
  rw [div_lt_iff₀ (by positivity)] at hnext
  calc v < (M + 1 : ℚ) * 2 ^ E := hnext
    _ ≤ (2 ^ (M.log2 + 1) : Nat) * 2 ^ E := by
        gcongr
        exact_mod_cast hM
    _ = 2 ^ ((M.log2 : Int) + 1 + E) := by
        rw [zpow_add₀ two_ne_zero]
        push_cast
        rfl

theorem zpow_log2_le {M : Nat} {E : Int} {v : ℚ} (hpos : 0 < M) (hle : M ≤ v / 2 ^ E) :
    2 ^ ((M.log2 : Int) + E) ≤ v := by
  have hM : 2 ^ M.log2 ≤ M := Nat.log2_self_le hpos.ne'
  rw [le_div_iff₀ (by positivity)] at hle
  calc (2 : ℚ) ^ ((M.log2 : Int) + E) = (2 ^ M.log2 : Nat) * 2 ^ E := by
        rw [zpow_add₀ two_ne_zero]
        push_cast
        rfl
    _ ≤ M * 2 ^ E := by gcongr
    _ ≤ v := hle

/-- A number that rounds to a double is shifted to the exponent of the double, or to the one below
it if the double is a power of two and the number is less. -/
theorem targetExponent_cases {m M : Nat} {e E : Int} {v : ℚ} (h : Canonical m e)
    (hv : Rounds m e v) (hle : M ≤ v / 2 ^ E) (hnext : v / 2 ^ E < M + 1)
    (hbits : E ≤ Format.binary64.targetExponent (totalExponent M E)) :
    Format.binary64.targetExponent (totalExponent M E) = e ∨
      Format.binary64.targetExponent (totalExponent M E) = e - 1 ∧ m = 2 ^ 52 ∧ -1074 < e ∧
        v < 2 ^ (e + 52) := by
  have htarget : Format.binary64.targetExponent (totalExponent M E) =
      max ((M.log2 : Int) + E - 52) (-1074) := by
    simp only [Format.targetExponent, totalExponent, Format.mantissaBits, Format.minExponent]
    omega
  rw [htarget] at hbits ⊢
  have hlow := h.low
  have hupper := lt_zpow_log2 hnext
  have htop : max ((M.log2 : Int) + E - 52) (-1074) ≤ e := by
    rcases Nat.eq_zero_or_pos M with rfl | hpos
    · rw [Nat.log2_zero] at hbits ⊢
      omega
    · have hlt := (zpow_lt_zpow_iff_right₀ (by norm_num)).mp
        ((zpow_log2_le hpos hle).trans_lt (hv.lt_two_zpow h))
      omega
  by_cases hmin : e = -1074
  · left
    omega
  · have hbinade := (zpow_lt_zpow_iff_right₀ (by norm_num)).mp
      ((hv.two_zpow_lt h (by omega)).trans hupper)
    by_cases heq : max ((M.log2 : Int) + E - 52) (-1074) = e
    · exact .inl heq
    · have hbelow : v < 2 ^ (e + 52) := by
        refine hupper.trans_le (zpow_le_zpow_right₀ (by norm_num) ?_)
        omega
      exact .inr ⟨by omega, hv.eq_of_lt h (by omega) hbelow, by omega, hbelow⟩

/-- A number is shifted to the exponent of the double that it rounds to and then rounded to its
mantissa; what is just below a power of two reaches it by a carry. -/
theorem roundWithAccuracy_eq_finite {m M : Nat} {e E : Int} {v : ℚ} {a : Accuracy} (s : Sign)
    (h : Canonical m e) (hv : Rounds m e v)
    (happrox : Approximates (ExtendedMantissa.ofMantissaAndAccuracy M a) (v / 2 ^ E))
    (hbits : E ≤ Format.binary64.targetExponent (totalExponent M E)) :
    roundWithAccuracy Format.binary64 s M E a = .finite s m e h.pos := by
  have hM := mantissa_ofMantissaAndAccuracy M a
  have hwhole := happrox.whole_le
  have hnext := happrox.lt_next
  rw [hM] at hwhole hnext
  obtain ⟨t, ht⟩ : ∃ t, Format.binary64.targetExponent (totalExponent M E) = t := ⟨_, rfl⟩
  have hcases := targetExponent_cases h hv hwhole hnext hbits
  rw [ht] at hbits hcases
  obtain ⟨k, rfl⟩ := Int.le.dest hbits
  have hshift : shiftToTargetExponent Format.binary64 M E a =
      (ExtendedMantissa.ofMantissaAndAccuracy M a >>> k, E + k) := by
    simp only [shiftToTargetExponent, shiftToExponent, ht, add_sub_cancel_left,
      Int.toNat_natCast]
  have hshifted := happrox.shiftRight k
  have hvalue : v / 2 ^ E / 2 ^ k = v / 2 ^ (E + (k : Int)) := by
    rw [div_div, ← zpow_natCast, ← zpow_add₀ two_ne_zero]
  rw [hvalue] at hshifted
  rw [roundWithAccuracy, hshift]
  dsimp only
  rcases hcases with heq | ⟨heq, rfl, hlow, hbelow⟩
  · rw [heq] at hshifted ⊢
    rw [hshifted.roundedMantissa_eq (hv.nextTo h)]
    simp only [h.shift_eq]
    exact dif_neg h.pos.ne'
  · rw [heq] at hshifted ⊢
    rw [hshifted.roundedMantissa_eq (hv.nextTo_carry hlow hbelow)]
    simp only [shift_carried (e := e - 1) (by omega), Int.sub_add_cancel]
    rfl

/-! ### Products and quotients -/

theorem approximates_exact (M : Nat) :
    Approximates (ExtendedMantissa.ofMantissaAndAccuracy M .exact) M := by
  refine ⟨le_rfl, lt_add_one _, iff_of_false Bool.false_ne_true ?_, iff_of_true rfl (.inl rfl)⟩
  change ¬ (M : ℚ) + 1 / 2 ≤ M
  linarith

theorem roundBit_fraction (M rest : Nat) {den : Nat} (hden : 0 < den) :
    (ExtendedMantissa.ofMantissaAndAccuracy M (accuracyOfFraction rest den)).roundBit = true ↔
      den ≤ 2 * rest := by
  unfold accuracyOfFraction
  split
  case isTrue hzero => exact iff_of_false Bool.false_ne_true (by omega)
  case isFalse hpos =>
    rcases Nat.lt_trichotomy (2 * rest) den with hlt | heq | hgt
    · rw [Nat.compare_eq_lt.mpr hlt]
      exact iff_of_false Bool.false_ne_true (by omega)
    · rw [Nat.compare_eq_eq.mpr heq]
      exact iff_of_true rfl (by omega)
    · rw [Nat.compare_eq_gt.mpr hgt]
      exact iff_of_true rfl (by omega)

theorem stickyBit_fraction (M rest : Nat) {den : Nat} (hden : 0 < den) :
    (ExtendedMantissa.ofMantissaAndAccuracy M (accuracyOfFraction rest den)).stickyBit = false ↔
      rest = 0 ∨ 2 * rest = den := by
  unfold accuracyOfFraction
  split
  case isTrue hzero => exact iff_of_true rfl (.inl hzero)
  case isFalse hpos =>
    rcases Nat.lt_trichotomy (2 * rest) den with hlt | heq | hgt
    · rw [Nat.compare_eq_lt.mpr hlt]
      exact iff_of_false (by rintro ⟨⟩) (by omega)
    · rw [Nat.compare_eq_eq.mpr heq]
      exact iff_of_true rfl (.inr heq)
    · rw [Nat.compare_eq_gt.mpr hgt]
      exact iff_of_false (by rintro ⟨⟩) (by omega)

theorem approximates_fraction (num : Nat) {den : Nat} (hden : 0 < den) :
    Approximates (ExtendedMantissa.ofMantissaAndAccuracy (num / den)
      (accuracyOfFraction (num % den) den)) (num / den) := by
  have hpos : (0 : ℚ) < den := by exact_mod_cast hden
  have hM := mantissa_ofMantissaAndAccuracy (num / den) (accuracyOfFraction (num % den) den)
  have hround := roundBit_fraction (num / den) (num % den) hden
  have hsticky := stickyBit_fraction (num / den) (num % den) hden
  have hsplit : (num : ℚ) = den * (num / den : Nat) + (num % den : Nat) := by
    exact_mod_cast (Nat.div_add_mod num den).symm
  have hrest : ((num % den : Nat) : ℚ) < den := by exact_mod_cast Nat.mod_lt num hden
  have hnonneg : (0 : ℚ) ≤ (num % den : Nat) := Nat.cast_nonneg _
  refine ⟨?_, ?_, hround.trans ?_, hsticky.trans (or_congr ?_ ?_)⟩
  all_goals rw [hM]
  · rw [le_div_iff₀ hpos]
    linarith
  · rw [div_lt_iff₀ hpos]
    linarith
  · have hcast : den ≤ 2 * (num % den) ↔ (den : ℚ) ≤ 2 * (num % den : Nat) := by norm_cast
    rw [le_div_iff₀ hpos, hcast]
    constructor <;> intro _ <;> linarith
  · have hcast : num % den = 0 ↔ ((num % den : Nat) : ℚ) = 0 := by norm_cast
    rw [div_eq_iff hpos.ne', hcast]
    constructor <;> intro _ <;> linarith
  · have hcast : 2 * (num % den) = den ↔ 2 * ((num % den : Nat) : ℚ) = den := by norm_cast
    rw [div_eq_iff hpos.ne', hcast]
    constructor <;> intro _ <;> linarith

theorem le_targetExponent {M : Nat} {E : Int} (hlong : 2 ^ 52 ≤ M ∨ E ≤ -1074) :
    E ≤ Format.binary64.targetExponent (totalExponent M E) := by
  simp only [Format.targetExponent, totalExponent, Format.mantissaBits, Format.minExponent]
  rcases hlong with hlong | hlow
  · have hlog : 52 ≤ M.log2 := (Nat.le_log2 (by omega)).mpr hlong
    omega
  · omega

theorem mul_eq_finite {m m₁ m₂ : Nat} {e e₁ e₂ : Int} (h : Canonical m e)
    (hv : Rounds m e (m₁ * 2 ^ e₁ * (m₂ * 2 ^ e₂))) (hpos₁ : 0 < m₁) (hpos₂ : 0 < m₂)
    (hlong : 2 ^ 52 ≤ m₁ * m₂) :
    UnpackedFloat.mul Format.binary64 (.finite .positive m₁ e₁ hpos₁)
      (.finite .positive m₂ e₂ hpos₂) = .finite .positive m e h.pos := by
  refine roundWithAccuracy_eq_finite .positive h hv ?_ (le_targetExponent (.inl hlong))
  have hvalue : (m₁ * 2 ^ e₁ * (m₂ * 2 ^ e₂) : ℚ) / 2 ^ (e₁ + e₂) = (m₁ * m₂ : Nat) := by
    rw [zpow_add₀ two_ne_zero]
    push_cast
    field_simp
  rw [hvalue]
  exact approximates_exact _

theorem divCore_spec {m₁ m₂ : Nat} {e₁ e₂ : Int} (hpos₁ : 0 < m₁) (hpos₂ : 0 < m₂) :
    ∃ (k : Nat) (E : Int), (k : Int) = e₁ - e₂ - E ∧
      divCore Format.binary64 m₁ e₁ m₂ e₂ =
        (m₁ * 2 ^ k / m₂, E, accuracyOfFraction (m₁ * 2 ^ k % m₂) m₂) ∧
      (2 ^ 52 ≤ m₁ * 2 ^ k / m₂ ∨ E ≤ -1074) := by
  obtain ⟨E, hE⟩ : ∃ E, min (e₁ - e₂)
      (Format.binary64.targetExponent (totalExponent m₁ e₁ - totalExponent m₂ e₂)) = E := ⟨_, rfl⟩
  have hE' := hE
  simp only [Format.targetExponent, totalExponent, Format.mantissaBits, Format.minExponent] at hE'
  obtain ⟨k, hk⟩ := Int.le.dest (a := E) (b := e₁ - e₂) (by omega)
  refine ⟨k, E, by omega, ?_, ?_⟩
  · have hamount : (e₁ - e₂ - E).toNat = k := by omega
    simp only [divCore, hE, hamount, Nat.shiftLeft_eq]
  · by_cases hlow : E ≤ -1074
    · exact .inr hlow
    · left
      rw [Nat.le_div_iff_mul_le hpos₂]
      calc 2 ^ 52 * m₂ ≤ 2 ^ 52 * 2 ^ (m₂.log2 + 1) :=
            Nat.mul_le_mul_left _ Nat.lt_log2_self.le
        _ = 2 ^ (m₂.log2 + 53) := by ring
        _ ≤ 2 ^ (m₁.log2 + k) := Nat.pow_le_pow_right (by decide) (by omega)
        _ = 2 ^ m₁.log2 * 2 ^ k := Nat.pow_add ..
        _ ≤ m₁ * 2 ^ k := Nat.mul_le_mul_right _ (Nat.log2_self_le hpos₁.ne')

theorem div_eq_finite {m m₁ m₂ : Nat} {e e₁ e₂ : Int} (h : Canonical m e)
    (hv : Rounds m e (m₁ * 2 ^ e₁ / (m₂ * 2 ^ e₂))) (hpos₁ : 0 < m₁) (hpos₂ : 0 < m₂) :
    UnpackedFloat.div Format.binary64 (.finite .positive m₁ e₁ hpos₁)
      (.finite .positive m₂ e₂ hpos₂) = .finite .positive m e h.pos := by
  obtain ⟨k, E, hk, hcore, hlong⟩ := @divCore_spec _ _ e₁ e₂ hpos₁ hpos₂
  simp only [UnpackedFloat.div, hcore]
  refine roundWithAccuracy_eq_finite .positive h hv ?_ (le_targetExponent hlong)
  have hvalue : (m₁ * 2 ^ e₁ / (m₂ * 2 ^ e₂) : ℚ) / 2 ^ E = (m₁ * 2 ^ k : Nat) / m₂ := by
    have hexponent : e₁ = E + e₂ + k := by omega
    have hne : (m₂ : ℚ) ≠ 0 := by exact_mod_cast hpos₂.ne'
    rw [hexponent, zpow_add₀ two_ne_zero, zpow_add₀ two_ne_zero]
    push_cast
    rw [zpow_natCast]
    field_simp
  rw [hvalue]
  exact approximates_fraction _ hpos₂

end HeaterHost.Double
