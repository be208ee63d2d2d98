import Mathlib.Algebra.BigOperators.Field
import HeaterHost.Autotune.Identification
import HeaterHost.Proofs.Exact

/-!
# Limit cycles

A relay makes a heater swing between two temperatures, and its gains are found from how far and how
fast it swings. In exact arithmetic the amplitude and the period of any peaks are means, so gains do
not depend on where time and temperature begin and go along with a change of the unit of time or of
the power of the relay. Of an ideal limit cycle, amplitude and period are its own, however long the
temperature takes to rise and to fall.
-/

namespace HeaterHost

namespace Gains

/-- The gains for a heater that takes `stretch` times as long. -/
noncomputable def slowed (stretch : ℝ) (gains : Gains ℝ) : Gains ℝ :=
  { kp := gains.kp, ki := gains.ki / stretch, kd := gains.kd * stretch }

noncomputable def scaled (factor : ℝ) (gains : Gains ℝ) : Gains ℝ :=
  { kp := factor * gains.kp, ki := factor * gains.ki, kd := factor * gains.kd }

end Gains

namespace Autotune

/-- A peak on a clock that runs `stretch` times as fast and is ahead by `delay`, of a temperature
that is higher by `lift`. -/
noncomputable def Peak.moved (stretch delay lift : ℝ) (peak : Peak ℝ) : Peak ℝ :=
  { peak with time := stretch * peak.time + delay, temp := peak.temp + lift }

/-- An ideal limit cycle. The peaks go back and forth between two temperatures, and each comes back
after one period. -/
structure LimitCycle (centre amplitude period : ℝ) (peaks : List (Peak ℝ)) : Prop where
  alternates : peaks.IsChain fun a b =>
    a.temp = centre - amplitude ∧ b.temp = centre + amplitude ∨
      a.temp = centre + amplitude ∧ b.temp = centre - amplitude
  returns : ∀ i (h : i + 2 < peaks.length), peaks[i + 2].time = peaks[i].time + period

/-! ### Means -/

theorem total_eq_sum (xs : List ℝ) : total xs = xs.sum := by
  rw [List.sum_eq_foldl, total, Scalar.zero_real]

theorem mean_eq (xs : List ℝ) : mean xs = xs.sum / xs.length := by
  rw [mean, total_eq_sum, Scalar.ofCount_real]

theorem mean_map_mul (factor : ℝ) (xs : List ℝ) :
    mean (xs.map (factor * ·)) = factor * mean xs := by
  rw [mean_eq, mean_eq, List.sum_map_mul_left, List.map_id', List.length_map, mul_div_assoc]

theorem mean_of_forall_eq {xs : List ℝ} {x : ℝ} (hne : xs ≠ []) (hall : ∀ y ∈ xs, y = x) :
    mean xs = x := by
  have hlength : (xs.length : ℝ) ≠ 0 := by
    exact_mod_cast mt List.length_eq_zero_iff.mp hne
  have hsum : xs.sum = xs.length * x := by
    conv_lhs => rw [List.eq_replicate_of_mem hall]
    rw [List.sum_replicate, nsmul_eq_mul]
  rw [mean_eq, hsum, mul_div_cancel_left₀ _ hlength]

/-! ### Amplitude and period -/

noncomputable def amplitude (peaks : List (Peak ℝ)) : ℝ :=
  mean (swings peaks) / 2

noncomputable def period (peaks : List (Peak ℝ)) : ℝ :=
  mean (periods peaks)

/-- Gains come of three peaks or more that swing far enough and go forward in time. -/
theorem gainsOfPeaks_eq (peaks : List (Peak ℝ)) (relay : ℝ) :
    gainsOfPeaks peaks relay =
      if 3 ≤ peaks.length ∧ 1 / 10 ≤ amplitude peaks ∧ 0 < period peaks then
        .ok (gainsOfSwing relay (amplitude peaks) (period peaks))
      else .error .noOscillation := by
  unfold gainsOfPeaks
  by_cases hlength : peaks.length < 3
  · rw [if_pos hlength, if_neg fun h => absurd h.1 (by omega)]
  rw [if_neg hlength]
  dsimp only
  rw [Scalar.two_real, Scalar.tenth_real, Scalar.zero_real, ← amplitude, ← period]
  by_cases hdismissed : amplitude peaks < 1 / 10 ∨ period peaks ≤ 0
  · rw [if_pos hdismissed, if_neg]
    rintro ⟨-, hfar, hforward⟩
    exact hdismissed.elim hfar.not_gt hforward.not_ge
  · rw [if_neg hdismissed, if_pos]
    rw [not_or, not_lt, not_le] at hdismissed
    exact ⟨by omega, hdismissed⟩

theorem gainsOfSwing_eq (relay amplitude period : ℝ) :
    gainsOfSwing relay amplitude period =
      let kp := 255 * 0.6 * 4 * relay / (Real.pi * amplitude)
      { kp, ki := kp / (period / 2), kd := kp * period / 8 } := by
  have hkp : (0.6 : ℝ) * (4.0 * relay / (Real.pi * amplitude)) * 255.0 =
      255 * 0.6 * 4 * relay / (Real.pi * amplitude) := by
    norm_num [Scalar.literal_real]
    ring
  simp only [gainsOfSwing, Gains.unit, Scalar.pi_real, hkp]
  norm_num [Scalar.literal_real]
  ring

theorem gainsOfSwing_pos {relay amplitude period : ℝ} (hrelay : 0 < relay)
    (hamplitude : 0 < amplitude) (hperiod : 0 < period) :
    let gains := gainsOfSwing relay amplitude period
    0 < gains.kp ∧ 0 < gains.ki ∧ 0 < gains.kd := by
  have hkp : 0 < 255 * 0.6 * 4 * relay / (Real.pi * amplitude) := by
    norm_num [Scalar.literal_real]
    positivity
  rw [gainsOfSwing_eq]
  exact ⟨hkp, by positivity, by positivity⟩

theorem gainsOfSwing_scaled (factor relay amplitude period : ℝ) :
    gainsOfSwing (factor * relay) amplitude period =
      (gainsOfSwing relay amplitude period).scaled factor := by
  simp only [gainsOfSwing_eq, Gains.scaled, Gains.mk.injEq]
  refine ⟨?_, ?_, ?_⟩ <;> ring

theorem gainsOfSwing_slowed (stretch relay amplitude period : ℝ) :
    gainsOfSwing relay amplitude (stretch * period) =
      (gainsOfSwing relay amplitude period).slowed stretch := by
  simp only [gainsOfSwing_eq, Gains.slowed, Gains.mk.injEq]
  refine ⟨trivial, ?_, ?_⟩ <;> ring

/-! ### Other clocks and thermometers -/

theorem swings_moved (stretch delay lift : ℝ) (peaks : List (Peak ℝ)) :
    swings (peaks.map (.moved stretch delay lift)) = swings peaks := by
  simp only [swings, ← List.map_drop, List.zipWith_map, Peak.moved, add_sub_add_right_eq_sub]

theorem periods_moved (stretch delay lift : ℝ) (peaks : List (Peak ℝ)) :
    periods (peaks.map (.moved stretch delay lift)) = (periods peaks).map (stretch * ·) := by
  simp only [periods, ← List.map_drop, List.zipWith_map, List.map_zipWith, Peak.moved,
    add_sub_add_right_eq_sub, mul_sub]

theorem amplitude_moved (stretch delay lift : ℝ) (peaks : List (Peak ℝ)) :
    amplitude (peaks.map (.moved stretch delay lift)) = amplitude peaks := by
  rw [amplitude, swings_moved, amplitude]

theorem period_moved (stretch delay lift : ℝ) (peaks : List (Peak ℝ)) :
    period (peaks.map (.moved stretch delay lift)) = stretch * period peaks := by
  rw [period, periods_moved, mean_map_mul, period]

theorem gainsOfPeaks_moved {stretch : ℝ} (hstretch : 0 < stretch) (delay lift relay : ℝ)
    (peaks : List (Peak ℝ)) :
    gainsOfPeaks (peaks.map (.moved stretch delay lift)) relay =
      (gainsOfPeaks peaks relay).map (.slowed stretch) := by
  rw [gainsOfPeaks_eq, gainsOfPeaks_eq, amplitude_moved, period_moved, List.length_map,
    gainsOfSwing_slowed]
  simp only [mul_pos_iff_of_pos_left hstretch]
  split <;> rfl

theorem gainsOfPeaks_scaled (factor relay : ℝ) (peaks : List (Peak ℝ)) :
    gainsOfPeaks peaks (factor * relay) = (gainsOfPeaks peaks relay).map (.scaled factor) := by
  rw [gainsOfPeaks_eq, gainsOfPeaks_eq, gainsOfSwing_scaled]
  split <;> rfl

/-! ### The ideal swing -/

namespace LimitCycle

variable {centre a p : ℝ} {peaks : List (Peak ℝ)}

theorem amplitude_eq (hcycle : LimitCycle centre a p peaks) (ha : 0 ≤ a)
    (hlength : 3 ≤ peaks.length) : amplitude peaks = a := by
  have hne : swings peaks ≠ [] := by
    rw [← List.length_pos_iff, swings, List.length_zipWith, List.length_drop]
    omega
  -- No mean has to be computed, as every swing is the same, whether up or down.
  have hswing : ∀ swing ∈ swings peaks, swing = 2 * a := by
    intro swing hmem
    obtain ⟨i, hi, rfl⟩ := List.mem_iff_getElem.mp hmem
    have hi' : i + 1 < peaks.length := by
      rw [swings, List.length_zipWith, List.length_drop] at hi
      omega
    simp only [swings, List.getElem_zipWith, List.getElem_drop, Scalar.abs_real, add_comm 1 i]
    rcases List.isChain_iff_getElem.mp hcycle.alternates i hi' with ⟨hlow, hhigh⟩ | ⟨hhigh, hlow⟩
    · rw [hlow, hhigh, show centre + a - (centre - a) = 2 * a by ring, abs_of_nonneg (by linarith)]
    · rw [hlow, hhigh, show centre - a - (centre + a) = -(2 * a) by ring, abs_neg,
        abs_of_nonneg (by linarith)]
  rw [amplitude, mean_of_forall_eq hne hswing, mul_div_cancel_left₀ _ two_ne_zero]

theorem period_eq (hcycle : LimitCycle centre a p peaks) (hlength : 3 ≤ peaks.length) :
    period peaks = p := by
  have hne : periods peaks ≠ [] := by
    rw [← List.length_pos_iff, periods, List.length_zipWith, List.length_drop]
    omega
  refine mean_of_forall_eq hne fun gap hmem => ?_
  obtain ⟨i, hi, rfl⟩ := List.mem_iff_getElem.mp hmem
  have hi' : i + 2 < peaks.length := by
    rw [periods, List.length_zipWith, List.length_drop] at hi
    omega
  simp only [periods, List.getElem_zipWith, List.getElem_drop, add_comm 2 i,
    hcycle.returns i hi', add_sub_cancel_left]

end LimitCycle

/-- **Gains of any oscillation.** In exact arithmetic, gains that are found are positive, so none is
refused where gains may not be negative. They do not depend on where time and temperature begin. If
everything takes `stretch` times as long, `kp` is the same, `ki` is divided and `kd` multiplied by
`stretch`. Gains are in proportion to the power of the relay. For every ideal limit cycle there are
gains, and they are those that its amplitude and its period give. -/
theorem gains_of_any_oscillation (relay : ℝ) (hrelay : 0 < relay) (peaks : List (Peak ℝ)) :
    (∀ gains, gainsOfPeaks peaks relay = .ok gains →
      0 < gains.kp ∧ 0 < gains.ki ∧ 0 < gains.kd) ∧
    (∀ delay lift,
      gainsOfPeaks (peaks.map (.moved 1 delay lift)) relay = gainsOfPeaks peaks relay) ∧
    (∀ stretch, 0 < stretch → gainsOfPeaks (peaks.map (.moved stretch 0 0)) relay =
      (gainsOfPeaks peaks relay).map (.slowed stretch)) ∧
    (∀ factor, gainsOfPeaks peaks (factor * relay) =
      (gainsOfPeaks peaks relay).map (.scaled factor)) ∧
    (∀ centre a p, 3 ≤ peaks.length → 0.1 ≤ a → 0 < p → LimitCycle centre a p peaks →
      let kp := 255 * 0.6 * 4 * relay / (Real.pi * a)
      gainsOfPeaks peaks relay = .ok { kp, ki := kp / (p / 2), kd := kp * p / 8 }) := by
  refine ⟨?positive, ?unchanged, ?slowed, ?scaled, ?ideal⟩
  case positive =>
    intro gains hgains
    rw [gainsOfPeaks_eq] at hgains
    split at hgains
    case isTrue hfound =>
      obtain ⟨-, hfar, hforward⟩ := hfound
      obtain rfl := Except.ok.inj hgains
      exact gainsOfSwing_pos hrelay (by linarith) hforward
    case isFalse => cases hgains
  case unchanged =>
    intro delay lift
    rw [gainsOfPeaks_eq, gainsOfPeaks_eq, amplitude_moved, period_moved, List.length_map, one_mul]
  case slowed => exact fun stretch hstretch => gainsOfPeaks_moved hstretch 0 0 relay peaks
  case scaled => exact fun factor => gainsOfPeaks_scaled factor relay peaks
  case ideal =>
    intro centre a p hlength hfar hforward hcycle
    rw [Scalar.tenth_real] at hfar
    rw [gainsOfPeaks_eq, hcycle.amplitude_eq (by linarith) hlength, hcycle.period_eq hlength,
      if_pos ⟨hlength, hfar, hforward⟩, gainsOfSwing_eq]

/-- Ten degrees up in four seconds, and down in six. -/
noncomputable def quickRise : List (Peak ℝ) :=
  [{ time := 0, temp := 195, high := false }, { time := 4, temp := 205, high := true },
    { time := 10, temp := 195, high := false }, { time := 14, temp := 205, high := true }]

theorem quickRise_limitCycle : LimitCycle 200 5 10 quickRise where
  alternates := by norm_num [quickRise]
  returns i h := by
    have hfirst : i = 0 ∨ i = 1 := by
      simp only [quickRise, List.length_cons, List.length_nil] at h
      omega
    rcases hfirst with rfl | rfl <;> norm_num [quickRise]

theorem gains_of_quickRise :
    (0 : ℝ) < 1 / 2 ∧ ∃ gains, gainsOfPeaks quickRise (1 / 2) = .ok gains ∧
      gains.kp = 255 * 0.6 * 4 * (1 / 2) / (Real.pi * 5) ∧
      gains.ki = gains.kp / (10 / 2) ∧ gains.kd = gains.kp * 10 / 8 ∧
      0 < gains.kp ∧ 0 < gains.ki ∧ 0 < gains.kd := by
  obtain ⟨hpositive, _, _, _, hideal⟩ :=
    gains_of_any_oscillation (1 / 2) (by norm_num) quickRise
  have hgains := hideal 200 5 10 (by simp [quickRise]) (by norm_num [Scalar.literal_real])
    (by norm_num) quickRise_limitCycle
  exact ⟨by norm_num, _, hgains, rfl, rfl, rfl, hpositive _ hgains⟩

end Autotune

end HeaterHost
