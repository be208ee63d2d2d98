import HeaterHost.Proofs.Exact
import HeaterHost.Proofs.Heater.RelayInCharge

/-!
# Phases of the relay

A relay is on to begin with. It goes off at a reading at the target or above, and on at one that is
below it by `delta` or more. Every switch ends a phase, and every phase has a peak: the first of its
lowest readings if it was on, the first of its highest if it was off. All this is said about the
readings alone. In exact arithmetic a relay that keeps no more than one reading of the phase comes to
the same, whatever the readings are.
-/

namespace HeaterHost.Autotune

/-! ### What the readings say -/

section Reference

variable (target delta : ℝ)

/-- Whether a relay is on after a reading. -/
noncomputable def switched (on : Bool) (temp : ℝ) : Bool :=
  if target ≤ temp then false else if temp ≤ target - delta then true else on

/-- Whether the relay is on after readings, oldest first. -/
noncomputable def isOn (readings : List (Sample ℝ)) : Bool :=
  readings.foldl (fun on reading => switched target delta on reading.value) true

/-- The places of the readings at which the relay switches. -/
noncomputable def switches (readings : List (Sample ℝ)) : List Nat :=
  (List.range readings.length).filter fun i =>
    isOn target delta (readings.take (i + 1)) != isOn target delta (readings.take i)

/-- The readings after the last switch. -/
noncomputable def openPhase (readings : List (Sample ℝ)) : List (Sample ℝ) :=
  readings.drop (((switches target delta readings).getLast?.map (· + 1)).getD 0)

/-- The readings after the last switch before the place `i`, up to and including the one there. -/
noncomputable def phase (readings : List (Sample ℝ)) (i : Nat) : List (Sample ℝ) :=
  openPhase target delta (readings.take i) ++ readings[i]?.toList

end Reference

/-- A relay that is on looks for the lowest reading, and one that is off for the highest. -/
def Beyond (on : Bool) (x y : ℝ) : Prop :=
  if on then x < y else y < x

/-- The first of the extreme readings of a phase. -/
def FirstExtreme (on : Bool) (readings : List (Sample ℝ)) (s : Sample ℝ) : Prop :=
  ∃ before after, readings = before ++ s :: after ∧
    (∀ b ∈ before, Beyond on s.value b.value) ∧ ∀ a ∈ after, ¬ Beyond on a.value s.value

/-- The peak that the phase before the switch at the place `i` ends in. -/
def PeakAt (target delta : ℝ) (readings : List (Sample ℝ)) (peak : Peak ℝ) (i : Nat) : Prop :=
  let on := isOn target delta (readings.take i)
  ∃ s, FirstExtreme on (phase target delta readings i) s ∧
    peak = { time := s.timestamp, temp := s.value, high := !on }

/-! ### One more reading -/

section Concat

variable {target delta : ℝ} {readings : List (Sample ℝ)} {reading : Sample ℝ}

theorem isOn_concat :
    isOn target delta (readings ++ [reading]) =
      switched target delta (isOn target delta readings) reading.value := by
  rw [isOn, List.foldl_append, List.foldl_cons, List.foldl_nil, isOn]

theorem lt_length_of_mem_switches {i : Nat} (hi : i ∈ switches target delta readings) :
    i < readings.length :=
  List.mem_range.mp (List.mem_of_mem_filter hi)

theorem switches_concat :
    switches target delta (readings ++ [reading]) = switches target delta readings ++
      if isOn target delta (readings ++ [reading]) = isOn target delta readings then []
      else [readings.length] := by
  have hearlier : (List.range readings.length).filter (fun i =>
      isOn target delta ((readings ++ [reading]).take (i + 1)) !=
        isOn target delta ((readings ++ [reading]).take i)) = switches target delta readings := by
    refine List.filter_congr fun i hi => ?_
    have hi := List.mem_range.mp hi
    rw [List.take_append_of_le_length (by omega), List.take_append_of_le_length (by omega)]
  rw [switches, List.length_append, List.length_singleton, List.range_succ, List.filter_append,
    hearlier]
  congr 1
  rw [List.filter_singleton, List.take_left, List.take_of_length_le (by simp)]
  by_cases hsame : isOn target delta (readings ++ [reading]) = isOn target delta readings
  · simp [hsame]
  · simp [bne_iff_ne.mpr hsame, hsame]

theorem phase_concat {i : Nat} (hi : i < readings.length) :
    phase target delta (readings ++ [reading]) i = phase target delta readings i := by
  rw [phase, phase, List.take_append_of_le_length hi.le, List.getElem?_append_left hi]

theorem phase_length :
    phase target delta (readings ++ [reading]) readings.length =
      openPhase target delta readings ++ [reading] := by
  rw [phase, List.take_left]
  simp

theorem openPhase_concat_of_same
    (hsame : isOn target delta (readings ++ [reading]) = isOn target delta readings) :
    openPhase target delta (readings ++ [reading]) =
      openPhase target delta readings ++ [reading] := by
  rw [openPhase, switches_concat, if_pos hsame, List.append_nil, openPhase]
  refine List.drop_append_of_le_length ?_
  cases hlast : (switches target delta readings).getLast? with
  | none => exact Nat.zero_le _
  | some i => exact lt_length_of_mem_switches (List.mem_of_getLast? hlast)

theorem openPhase_concat_of_switch
    (hswitch : isOn target delta (readings ++ [reading]) ≠ isOn target delta readings) :
    openPhase target delta (readings ++ [reading]) = [] := by
  rw [openPhase, switches_concat, if_neg hswitch]
  simp

theorem peakAt_concat {peak : Peak ℝ} {i : Nat} (hi : i < readings.length) :
    PeakAt target delta (readings ++ [reading]) peak i ↔ PeakAt target delta readings peak i := by
  rw [PeakAt, PeakAt, phase_concat hi, List.take_append_of_le_length hi.le]

/-- A further reading does not change the peaks there are. -/
theorem peaksAt_concat {peaks : List (Peak ℝ)}
    (hpeaks : List.Forall₂ (PeakAt target delta readings) peaks (switches target delta readings)) :
    List.Forall₂ (PeakAt target delta (readings ++ [reading])) peaks
      (switches target delta readings) := by
  obtain ⟨hlength, hat⟩ := List.forall₂_iff_zip.mp hpeaks
  refine List.forall₂_iff_zip.mpr ⟨hlength, fun hpair => ?_⟩
  rw [peakAt_concat (lt_length_of_mem_switches (List.of_mem_zip hpair).2)]
  exact hat hpair

end Concat

/-! ### The extreme of a phase -/

theorem Beyond.trans {on : Bool} {x y z : ℝ} (hxy : Beyond on x y) (hyz : Beyond on y z) :
    Beyond on x z := by
  cases on <;> simp only [Beyond, Bool.false_eq_true, ↓reduceIte] at * <;> linarith

theorem Beyond.of_not {on : Bool} {x y z : ℝ} (hxy : Beyond on x y) (hzy : ¬ Beyond on z y) :
    Beyond on x z := by
  cases on <;> simp only [Beyond, Bool.false_eq_true, ↓reduceIte, not_lt] at * <;> linarith

theorem firstExtreme_singleton (on : Bool) (s : Sample ℝ) : FirstExtreme on [s] s :=
  ⟨[], [], rfl, by simp, by simp⟩

theorem FirstExtreme.concat_beyond {on : Bool} {readings : List (Sample ℝ)} {s reading : Sample ℝ}
    (hs : FirstExtreme on readings s) (hbeyond : Beyond on reading.value s.value) :
    FirstExtreme on (readings ++ [reading]) reading := by
  obtain ⟨before, after, rfl, hbefore, hafter⟩ := hs
  refine ⟨before ++ s :: after, [], rfl, ?_, by simp⟩
  intro b hb
  rcases List.mem_append.mp hb with hb | hb
  · exact hbeyond.trans (hbefore b hb)
  · rcases List.mem_cons.mp hb with rfl | hb
    · exact hbeyond
    · exact hbeyond.of_not (hafter b hb)

theorem FirstExtreme.concat_not_beyond {on : Bool} {readings : List (Sample ℝ)}
    {s reading : Sample ℝ} (hs : FirstExtreme on readings s)
    (hbeyond : ¬ Beyond on reading.value s.value) : FirstExtreme on (readings ++ [reading]) s := by
  obtain ⟨before, after, rfl, hbefore, hafter⟩ := hs
  refine ⟨before, after ++ [reading], by simp, hbefore, ?_⟩
  intro a ha
  rcases List.mem_append.mp ha with ha | ha
  · exact hafter a ha
  · rwa [List.mem_singleton.mp ha]

/-! ### What a relay keeps -/

/-- A relay has followed the readings: it is on when they say so, it knows the extreme of the phase
that is not over, and for every switch it has one peak. -/
structure Relay.Follows (r : Relay ℝ) (readings : List (Sample ℝ)) : Prop where
  heating : r.heating = isOn r.target r.limits.delta readings
  extreme : match r.extreme with
    | none => openPhase r.target r.limits.delta readings = []
    | some old => ∃ s, FirstExtreme r.heating (openPhase r.target r.limits.delta readings) s ∧
        old = (s.timestamp, s.value)
  peaks : List.Forall₂ (PeakAt r.target r.limits.delta readings) r.peaks
    (switches r.target r.limits.delta readings)
  /-- Low and high take turns. -/
  turns : ∀ k (h : k < r.peaks.length), r.peaks[k].high = k.bodd
  turn : r.heating = !r.peaks.length.bodd

namespace Relay

variable {r : Relay ℝ} {readings : List (Sample ℝ)} {reading : Sample ℝ}

theorem start_follows (target startedAt : ℝ) (limits : Limits ℝ) :
    (start target limits startedAt).Follows [] where
  heating := rfl
  extreme := rfl
  peaks := .nil
  turns _ h := absurd h (Nat.not_lt_zero _)
  turn := by simp [start]

/-- As it is on and off at different temperatures, the relay only has to look for one of them. -/
theorem switched_eq (hdelta : 0 < r.limits.delta) (temp : ℝ) :
    switched r.target r.limits.delta r.heating temp =
      if r.switchesAt temp then !r.heating else r.heating := by
  unfold switched switchesAt
  cases r.heating with
  | true =>
      by_cases hhot : r.target ≤ temp <;> simp [hhot]
  | false =>
      by_cases hhot : r.target ≤ temp
      · have hwarm : ¬ temp ≤ r.target - r.limits.delta := by linarith
        simp [hhot, hwarm]
      · simp [hhot]

/-- The extreme of the phase with a further reading. -/
theorem Follows.extremeWith (hr : r.Follows readings) (reading : Sample ℝ) :
    ∃ s, FirstExtreme r.heating
        (openPhase r.target r.limits.delta readings ++ [reading]) s ∧
      r.extremeWith reading.timestamp reading.value = (s.timestamp, s.value) := by
  have hextreme := hr.extreme
  unfold Relay.extremeWith
  split at hextreme
  case h_1 hnone =>
    -- The first reading of a phase is an extreme, as there is no other.
    rw [hextreme, hnone]
    exact ⟨reading, firstExtreme_singleton r.heating reading, rfl⟩
  case h_2 old hsome =>
    obtain ⟨s, hs, rfl⟩ := hextreme
    have hbeyond : (if r.heating then decide (reading.value < s.value)
        else decide (s.value < reading.value)) = true ↔
          Beyond r.heating reading.value s.value := by
      cases r.heating <;> simp [Beyond]
    rw [hsome]
    by_cases hnew : Beyond r.heating reading.value s.value
    · exact ⟨reading, hs.concat_beyond hnew, if_pos (hbeyond.mpr hnew)⟩
    · exact ⟨s, hs.concat_not_beyond hnew, if_neg (mt hbeyond.mp hnew)⟩

theorem Follows.isOn_concat (hr : r.Follows readings) (hdelta : 0 < r.limits.delta)
    (reading : Sample ℝ) :
    isOn r.target r.limits.delta (readings ++ [reading]) =
      if r.switchesAt reading.value then !r.heating else r.heating := by
  rw [Autotune.isOn_concat, ← hr.heating, switched_eq hdelta]

/-- At a switch the phase ends, and its extreme becomes a peak. -/
theorem Follows.switch (hr : r.Follows readings) {s : Sample ℝ}
    (hfirst : FirstExtreme r.heating (openPhase r.target r.limits.delta readings ++ [reading]) s)
    (hon : isOn r.target r.limits.delta (readings ++ [reading]) = !r.heating)
    (sampleCount : Nat) :
    ({ r with
      heating := !r.heating
      extreme := none
      peaks := r.peaks ++ [{ time := s.timestamp, temp := s.value, high := !r.heating }]
      sampleCount } : Relay ℝ).Follows (readings ++ [reading]) := by
  have hswitch : isOn r.target r.limits.delta (readings ++ [reading]) ≠
      isOn r.target r.limits.delta readings := by
    rw [hon, hr.heating]
    exact Bool.not_ne_self _
  have hpeak : PeakAt r.target r.limits.delta (readings ++ [reading])
      { time := s.timestamp, temp := s.value, high := !r.heating } readings.length := by
    refine ⟨s, ?_, ?_⟩
    · rw [List.take_left, phase_length, ← hr.heating]
      exact hfirst
    · rw [List.take_left, ← hr.heating]
  refine ⟨hon.symm, openPhase_concat_of_switch hswitch, ?_, ?_, by simp [hr.turn]⟩
  · dsimp only
    rw [switches_concat, if_neg hswitch]
    exact List.rel_append (peaksAt_concat hr.peaks) (.cons hpeak .nil)
  · intro k hk
    rw [List.getElem_append]
    split
    case isTrue hearlier => exact hr.turns k hearlier
    case isFalse hlast =>
      have hk : k = r.peaks.length := by
        rw [List.length_append, List.length_singleton] at hk
        omega
      subst hk
      simp [hr.turn]

theorem Follows.hold (hr : r.Follows readings) {s : Sample ℝ}
    (hfirst : FirstExtreme r.heating (openPhase r.target r.limits.delta readings ++ [reading]) s)
    (hon : isOn r.target r.limits.delta (readings ++ [reading]) = r.heating) (sampleCount : Nat) :
    { r with extreme := some (s.timestamp, s.value), sampleCount }.Follows
      (readings ++ [reading]) := by
  have hsame : isOn r.target r.limits.delta (readings ++ [reading]) =
      isOn r.target r.limits.delta readings := by
    rw [hon, hr.heating]
  refine ⟨hon.symm, ⟨s, ?_, rfl⟩, ?_, hr.turns, hr.turn⟩
  · dsimp only
    rw [openPhase_concat_of_same hsame]
    exact hfirst
  · dsimp only
    rw [switches_concat, if_pos hsame, List.append_nil]
    exact peaksAt_concat hr.peaks

theorem Follows.advance (hr : r.Follows readings) (hdelta : 0 < r.limits.delta)
    (reading : Sample ℝ) :
    (r.advance reading.timestamp reading.value).Follows (readings ++ [reading]) := by
  obtain ⟨s, hfirst, hextreme⟩ := hr.extremeWith reading
  have hon := hr.isOn_concat hdelta reading
  unfold Relay.advance
  dsimp only
  rw [hextreme]
  by_cases hswitches : r.switchesAt reading.value = true
  · rw [if_pos hswitches] at hon ⊢
    exact hr.switch hfirst hon _
  · rw [if_neg hswitches] at hon ⊢
    exact hr.hold hfirst hon _

/-! ### One feed -/

/-- A reading and the time it is fed at are within the limits of a relay. -/
def Admits (limits : Limits ℝ) (startedAt : ℝ) (feed : Sample ℝ × ℝ) : Prop :=
  feed.2 - startedAt ≤ limits.timeout ∧ feed.1.value ≤ limits.maxTemp

theorem feed_of_admits {sample : Sample ℝ} {time : ℝ}
    (hadmits : Admits r.limits r.startedAt (sample, time)) :
    r.feed sample time = (r.advance sample.timestamp sample.value,
      r.outcome (r.advance sample.timestamp sample.value) sample.value) := by
  unfold feed expired?
  dsimp only
  rw [if_neg hadmits.1.not_gt]
  exact if_neg hadmits.2.not_gt

theorem advance_startedAt (r : Relay ℝ) (time temp : ℝ) :
    (r.advance time temp).startedAt = r.startedAt := by
  unfold advance
  dsimp only
  split <;> rfl

/-- The peak of a switch is there as soon as the relay has switched. -/
theorem length_peaks_advance (r : Relay ℝ) (time temp : ℝ) :
    (r.advance time temp).peaks.length =
      r.peaks.length + if r.switchesAt temp then 1 else 0 := by
  unfold advance
  dsimp only
  split <;> simp

theorem power_eq (r : Relay ℝ) : r.power = if r.heating then r.limits.maxPower else 0 := by
  rw [power, Scalar.zero_real]

/-- A relay with less than twelve peaks is finished by the reading that leaves it with twelve. -/
theorem outcome_eq (hpeaks : r.peaks.length < 12) (sample : Sample ℝ) :
    let after := r.advance sample.timestamp sample.value
    after.peaks.length ≤ 12 ∧
      r.outcome after sample.value =
        if after.peaks.length < 12 then
          .carryOn (if after.heating then r.limits.maxPower else 0)
        else .finished (gainsOfPeaks (after.peaks.drop 4) (r.limits.maxPower / 2)) := by
  intro after
  have hlength : after.peaks.length =
      r.peaks.length + if r.switchesAt sample.value then 1 else 0 :=
    r.length_peaks_advance sample.timestamp sample.value
  have hlimits : after.limits = r.limits := r.advance_limits sample.timestamp sample.value
  rw [outcome, power_eq, hlimits, Scalar.two_real, requiredPeaks, warmupPeaks]
  by_cases hcarries : after.peaks.length < 12
  · have hunfinished : decide (12 ≤ after.peaks.length) = false :=
      decide_eq_false (Nat.not_le_of_lt hcarries)
    rw [if_pos hcarries, hunfinished, Bool.and_false]
    exact ⟨hcarries.le, if_neg Bool.false_ne_true⟩
  · have hswitches : r.switchesAt sample.value = true := by
      by_contra hholds
      rw [if_neg hholds] at hlength
      omega
    rw [hswitches, if_pos rfl] at hlength
    have hfinished : decide (12 ≤ after.peaks.length) = true := decide_eq_true (by omega)
    rw [if_neg hcarries, hfinished, hswitches]
    exact ⟨by omega, rfl⟩

/-! ### A run -/

/-- The relay after a feed that does not finish it. -/
noncomputable def feed? (r : Relay ℝ) (feed : Sample ℝ × ℝ) : Option (Relay ℝ) :=
  match r.feed feed.1 feed.2 with
  | (after, .carryOn _) => some after
  | (_, .finished _) => none

/-- The relay after feeds of which none finishes it. -/
noncomputable def feedAll? (r : Relay ℝ) (feeds : List (Sample ℝ × ℝ)) : Option (Relay ℝ) :=
  feeds.foldlM feed? r

theorem feedAll?_concat (r : Relay ℝ) (feeds : List (Sample ℝ × ℝ)) (feed : Sample ℝ × ℝ) :
    r.feedAll? (feeds ++ [feed]) = (r.feedAll? feeds).bind (feed? · feed) := by
  simp only [feedAll?, List.foldlM_append, List.foldlM_cons, List.foldlM_nil, bind_pure]
  rfl

theorem feed?_eq (hpeaks : r.peaks.length < 12) {sample : Sample ℝ} {time : ℝ}
    (hadmits : Admits r.limits r.startedAt (sample, time)) :
    r.feed? (sample, time) =
      let after := r.advance sample.timestamp sample.value
      if after.peaks.length < 12 then some after else none := by
  unfold feed?
  dsimp only
  rw [feed_of_admits hadmits, (outcome_eq hpeaks sample).2]
  by_cases hcarries : (r.advance sample.timestamp sample.value).peaks.length < 12
  · rw [if_pos hcarries, if_pos hcarries]
  · rw [if_neg hcarries, if_neg hcarries]

/-- A relay with a task that it has followed the readings at, and that it is not done with. -/
structure UnderWay (target startedAt : ℝ) (limits : Limits ℝ) (readings : List (Sample ℝ))
    (r : Relay ℝ) : Prop where
  target : r.target = target
  startedAt : r.startedAt = startedAt
  limits : r.limits = limits
  follows : r.Follows readings
  unfinished : r.peaks.length < 12

theorem feedAll?_underWay {target startedAt : ℝ} {limits : Limits ℝ} (hdelta : 0 < limits.delta)
    {feeds : List (Sample ℝ × ℝ)} (hfeeds : ∀ feed ∈ feeds, Admits limits startedAt feed) :
    let readings := feeds.map Prod.fst
    match (start target limits startedAt).feedAll? feeds with
    | some r => r.UnderWay target startedAt limits readings
    | none => 12 ≤ (switches target limits.delta readings).length := by
  induction feeds using List.reverseRecOn with
  | nil => exact ⟨rfl, rfl, rfl, start_follows target startedAt limits, by simp [start]⟩
  | append_singleton feeds feed ih =>
      -- By the last feed, which says nothing about the phases before it.
      have ih := ih fun earlier hmem => hfeeds earlier (List.mem_append_left _ hmem)
      have hadmits := hfeeds feed (List.mem_append_right _ (List.mem_singleton_self feed))
      dsimp only at ih ⊢
      rw [feedAll?_concat, List.map_append, List.map_singleton]
      rcases hrun : (start target limits startedAt).feedAll? feeds with _ | r <;> rw [hrun] at ih
      · -- A relay that was finished before stays finished, and its switches stay.
        change 12 ≤ _
        rw [switches_concat, List.length_append]
        exact ih.trans (Nat.le_add_right _ _)
      · obtain ⟨rfl, rfl, rfl, hfollows, hunfinished⟩ := ih
        have hafter := hfollows.advance hdelta feed.1
        have hlength := hafter.peaks.length_eq
        rw [advance_target, advance_limits] at hlength
        rw [Option.bind_some, feed?_eq hunfinished hadmits]
        dsimp only
        by_cases hcarries : (r.advance feed.1.timestamp feed.1.value).peaks.length < 12
        · rw [if_pos hcarries]
          exact ⟨r.advance_target _ _, r.advance_startedAt _ _, r.advance_limits _ _, hafter,
            hcarries⟩
        · rw [if_neg hcarries]
          dsimp only
          omega

/-- **The relay goes by the readings.** In exact arithmetic, whatever the target and the readings, a
relay is under way exactly as long as there were less than twelve switches. After a further feed
there is one peak for each switch, which is the extreme of its phase, low and high in turn. Before
the twelfth switch the feed asks for full power or none, as the readings have the relay on or off.
At the twelfth switch it finishes the relay with the gains of the last eight of twelve peaks. -/
theorem relay_goes_by_readings (target startedAt : ℝ) (limits : Limits ℝ)
    (hdelta : 0 < limits.delta) (feeds : List (Sample ℝ × ℝ))
    (hfeeds : ∀ feed ∈ feeds, Admits limits startedAt feed) :
    let run := (start target limits startedAt).feedAll? feeds
    (run.isSome ↔ (switches target limits.delta (feeds.map Prod.fst)).length < 12) ∧
      ∀ relay ∈ run, ∀ sample time, Admits limits startedAt (sample, time) →
        let readings := feeds.map Prod.fst ++ [sample]
        let places := switches target limits.delta readings
        let after := (relay.feed sample time).1
        let answer := (relay.feed sample time).2
        List.Forall₂ (PeakAt target limits.delta readings) after.peaks places ∧
          (∀ k (h : k < after.peaks.length), after.peaks[k].high = k.bodd) ∧
          places.length ≤ 12 ∧
          (places.length < 12 → answer =
            .carryOn (if isOn target limits.delta readings then limits.maxPower else 0)) ∧
          (places.length = 12 → after.peaks.length = 12 ∧
            answer = .finished (gainsOfPeaks (after.peaks.drop 4) (limits.maxPower / 2))) := by
  intro run
  have hrun : match run with
    | some r => r.UnderWay target startedAt limits (feeds.map Prod.fst)
    | none => 12 ≤ (switches target limits.delta (feeds.map Prod.fst)).length :=
    feedAll?_underWay hdelta hfeeds
  clear_value run
  cases run with
  | none => exact ⟨iff_of_false Bool.false_ne_true (Nat.not_lt_of_le hrun), nofun⟩
  | some r =>
      obtain ⟨rfl, rfl, rfl, hfollows, hunfinished⟩ := hrun
      constructor
      · rw [← hfollows.peaks.length_eq]
        exact iff_of_true rfl hunfinished
      · rintro relay ⟨⟩ sample time hadmits
        have hafter := hfollows.advance hdelta sample
        have hheating := hafter.heating
        have hpeaks := hafter.peaks
        rw [advance_target, advance_limits] at hheating hpeaks
        obtain ⟨hmost, houtcome⟩ := outcome_eq hunfinished sample
        dsimp only
        rw [feed_of_admits hadmits, houtcome, hheating, ← hpeaks.length_eq]
        refine ⟨hpeaks, hafter.turns, hmost, fun hcarries => if_pos hcarries, fun htwelve => ?_⟩
        exact ⟨htwelve, if_neg htwelve.not_lt⟩

/-- Readings of a relay that is to keep to 200 degrees with five degrees of play. -/
noncomputable def slowCooling : List (Sample ℝ × ℝ) :=
  [(.reading 0 190, 0), (.reading 1 200, 1), (.reading 3 204, 3), (.reading 5 196, 5)]

noncomputable def wideLimits : Limits ℝ :=
  { maxPower := 1, maxTemp := 450, delta := 5, timeout := 3600 }

theorem switches_slowCooling :
    switches 200 wideLimits.delta (slowCooling.map Prod.fst) = [1] := by
  norm_num [switches, slowCooling, wideLimits, isOn, switched, Sample.reading, List.range_succ]

theorem switches_slowCooling_concat :
    switches 200 wideLimits.delta (slowCooling.map Prod.fst ++ [.reading 7 195]) = [1, 4] := by
  norm_num [switches, slowCooling, wideLimits, isOn, switched, Sample.reading, List.range_succ]

/-- The relay is off from the second reading on, and the last one switches it on. -/
theorem relay_after_slowCooling :
    (0 : ℝ) < wideLimits.delta ∧ (∀ feed ∈ slowCooling, Admits wideLimits 0 feed) ∧
      ∃ relay, (start 200 wideLimits 0).feedAll? slowCooling = some relay ∧
        (relay.feed (.reading 7 195) 7).1.peaks.length = 2 ∧
        (relay.feed (.reading 7 195) 7).2 = .carryOn 1 := by
  have hdelta : (0 : ℝ) < wideLimits.delta := by norm_num [wideLimits]
  have hfeeds : ∀ feed ∈ slowCooling, Admits wideLimits 0 feed := by
    norm_num [slowCooling, wideLimits, Admits, Sample.reading]
  obtain ⟨hunderWay, hnext⟩ := relay_goes_by_readings 200 0 wideLimits hdelta slowCooling hfeeds
  rw [switches_slowCooling] at hunderWay
  obtain ⟨relay, hrelay⟩ := Option.isSome_iff_exists.mp (hunderWay.mpr (by decide))
  obtain ⟨hpeaks, -, -, hcarries, -⟩ :=
    hnext relay hrelay (.reading 7 195) 7 (by norm_num [wideLimits, Admits, Sample.reading])
  have hon : isOn 200 wideLimits.delta (slowCooling.map Prod.fst ++ [.reading 7 195]) = true := by
    norm_num [slowCooling, wideLimits, isOn, switched, Sample.reading]
  have hanswer := hcarries (by rw [switches_slowCooling_concat]; decide)
  rw [hon, if_pos rfl] at hanswer
  exact ⟨hdelta, hfeeds, relay, hrelay,
    hpeaks.length_eq.trans (by rw [switches_slowCooling_concat]; rfl), hanswer⟩

end Relay

end HeaterHost.Autotune
