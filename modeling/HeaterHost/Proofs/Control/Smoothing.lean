import HeaterHost.Proofs.Exact
import HeaterHost.Control.Smoothing
import HeaterHost.Sample

/-!
# Smoothed readings

In exact arithmetic a reading takes the smoothed temperature a part of the way to itself and never
beyond. Of two histories with the same times the colder one is therefore smoothed to the colder
temperature, however irregular the times are. A history that never changes is smoothed to its own
temperature, so that every other one stays among the temperatures that were read.
-/

namespace HeaterHost

/-- A reading at the same time that is not warmer. -/
def Sample.ColderThan (a b : Sample ℝ) : Prop :=
  a.timestamp = b.timestamp ∧ a.value ≤ b.value

namespace Smoothing

section run

variable {α : Type} [Scalar α]

/-- The smoothing after readings, oldest first. -/
def after (s : Smoothing α) (readings : List (Sample α)) : Smoothing α :=
  readings.foldl (fun s reading => s.update reading.timestamp reading.value) s

theorem after_concat (s : Smoothing α) (readings : List (Sample α)) (reading : Sample α) :
    s.after (readings ++ [reading]) =
      (s.after readings).update reading.timestamp reading.value := by
  rw [after, List.foldl_concat, ← after]

theorem after_extrudeTemp (s : Smoothing α) (readings : List (Sample α)) :
    (s.after readings).extrudeTemp = s.extrudeTemp := by
  induction readings generalizing s with
  | nil => rfl
  | cons reading readings ih => exact ih _

theorem canExtrude_after (s : Smoothing α) {readings : List (Sample α)} (hne : readings ≠ []) :
    (s.after readings).canExtrude = decide (s.extrudeTemp ≤ (s.after readings).smoothed) := by
  obtain ⟨earlier, reading, rfl⟩ := (List.eq_nil_or_concat' readings).resolve_left hne
  rw [after_concat, ← s.after_extrudeTemp earlier]
  rfl

end run

/-- No reading is older than the one before it. -/
def InOrder (readings : List (Sample ℝ)) : Prop :=
  readings.Pairwise fun earlier later => earlier.timestamp ≤ later.timestamp

variable {s s' : Smoothing ℝ} {time temp temp' : ℝ}

/-! ### One reading -/

/-- Where there is a reading before, the smoothed temperature approaches the new one. -/
theorem follow_of_some {last : ℝ} (hlast : s.lastTime = some last) :
    s.follow time temp =
      s.smoothed + min ((time - last) * s.inverseTime) 1 * (temp - s.smoothed) := by
  simp only [follow, hlast, Scalar.least_real, Scalar.one_real]
  rw [mul_comm (temp - s.smoothed)]

theorem follow_steady (hsteady : s.lastTime = none ∨ s.smoothed = temp) :
    s.follow time temp = temp := by
  cases hlast : s.lastTime with
  | none => simp only [follow, hlast]
  | some last =>
      have hsame : s.smoothed = temp := hsteady.resolve_left (by rw [hlast]; exact nofun)
      rw [follow_of_some hlast, hsame, sub_self, mul_zero, add_zero]

/-- A smoothing of the same kind and at the same time that is not warmer. -/
structure Colder (s s' : Smoothing ℝ) : Prop where
  inverseTime : s.inverseTime = s'.inverseTime
  lastTime : s.lastTime = s'.lastTime
  smoothed : s.smoothed ≤ s'.smoothed

theorem Colder.follow (hcolder : s.Colder s') (hpositive : 0 ≤ s.inverseTime)
    (hseen : ∀ last ∈ s.lastTime, last ≤ time) (htemp : temp ≤ temp') :
    s.follow time temp ≤ s'.follow time temp' := by
  cases hlast : s.lastTime with
  | none =>
      rw [follow_steady (.inl hlast), follow_steady (.inl (hcolder.lastTime ▸ hlast))]
      exact htemp
  | some last =>
      have helapsed : 0 ≤ time - last := sub_nonneg.mpr (hseen last hlast)
      have hpart : 0 ≤ min ((time - last) * s.inverseTime) 1 :=
        le_min (mul_nonneg helapsed hpositive) zero_le_one
      rw [follow_of_some hlast, follow_of_some (hcolder.lastTime ▸ hlast), ← hcolder.inverseTime]
      exact Scalar.approach_le_approach hcolder.smoothed htemp hpart (min_le_right _ _)

theorem Colder.update (hcolder : s.Colder s') (hpositive : 0 ≤ s.inverseTime)
    (hseen : ∀ last ∈ s.lastTime, last ≤ time) (htemp : temp ≤ temp') :
    (s.update time temp).Colder (s'.update time temp') where
  inverseTime := hcolder.inverseTime
  lastTime := rfl
  smoothed := hcolder.follow hpositive hseen htemp

/-! ### Histories -/

theorem Colder.after (hcolder : s.Colder s') (hpositive : 0 ≤ s.inverseTime)
    {readings warmer : List (Sample ℝ)} (horder : InOrder readings)
    (hseen : ∀ last ∈ s.lastTime, ∀ reading ∈ readings, last ≤ reading.timestamp)
    (hwarmer : List.Forall₂ Sample.ColderThan readings warmer) :
    (s.after readings).Colder (s'.after warmer) := by
  induction hwarmer generalizing s s' with
  | nil => exact hcolder
  | @cons reading reading' readings warmer hreading _ ih =>
      obtain ⟨htime, htemp⟩ := hreading
      obtain ⟨hnext, hrest⟩ := List.pairwise_cons.mp horder
      have hupdated := hcolder.update hpositive
        (fun last hlast => hseen last hlast reading (List.mem_cons_self ..)) htemp
      rw [Smoothing.after, Smoothing.after, List.foldl_cons, List.foldl_cons, ← htime]
      refine ih hupdated hpositive hrest ?_
      rintro _ ⟨⟩ later hlater
      exact hnext later hlater

theorem create_colder (smoothTime extrudeTemp : ℝ) :
    (create smoothTime extrudeTemp).Colder (create smoothTime extrudeTemp) :=
  ⟨rfl, rfl, le_rfl⟩

theorem smoothed_le_of_colder {smoothTime : ℝ} (hsmooth : 0 < smoothTime) (extrudeTemp : ℝ)
    {readings warmer : List (Sample ℝ)} (horder : InOrder readings)
    (hwarmer : List.Forall₂ Sample.ColderThan readings warmer) :
    ((create smoothTime extrudeTemp).after readings).smoothed ≤
      ((create smoothTime extrudeTemp).after warmer).smoothed := by
  have hpositive : 0 ≤ (create smoothTime extrudeTemp).inverseTime := by
    rw [create, Scalar.one_real]
    positivity
  exact ((create_colder smoothTime extrudeTemp).after hpositive horder nofun hwarmer).smoothed

/-- Readings at the same times that are all of one temperature. -/
def levelled (temp : ℝ) (readings : List (Sample ℝ)) : List (Sample ℝ) :=
  readings.map fun reading => { reading with value := temp }

theorem inOrder_levelled {readings : List (Sample ℝ)} (horder : InOrder readings) (temp : ℝ) :
    InOrder (levelled temp readings) :=
  List.pairwise_map.mpr horder

theorem smoothed_levelled (smoothTime extrudeTemp temp : ℝ) {readings : List (Sample ℝ)}
    (hne : readings ≠ []) :
    ((create smoothTime extrudeTemp).after (levelled temp readings)).smoothed = temp := by
  induction readings using List.reverseRecOn with
  | nil => exact absurd rfl hne
  | append_singleton readings reading ih =>
      rw [levelled, List.map_append, List.map_singleton, after_concat, ← levelled]
      refine follow_steady ?_
      rcases eq_or_ne readings [] with rfl | hearlier
      · exact .inl rfl
      · exact .inr (ih hearlier)

theorem le_smoothed {smoothTime : ℝ} (hsmooth : 0 < smoothTime) (extrudeTemp : ℝ)
    {readings : List (Sample ℝ)} (hne : readings ≠ []) (horder : InOrder readings) {low : ℝ}
    (hlow : ∀ reading ∈ readings, low ≤ reading.value) :
    low ≤ ((create smoothTime extrudeTemp).after readings).smoothed := by
  have hcolder : List.Forall₂ Sample.ColderThan (levelled low readings) readings :=
    List.forall₂_map_left_iff.mpr
      (List.forall₂_same.mpr fun reading hmem => ⟨rfl, hlow reading hmem⟩)
  calc low = ((create smoothTime extrudeTemp).after (levelled low readings)).smoothed :=
        (smoothed_levelled smoothTime extrudeTemp low hne).symm
    _ ≤ _ := smoothed_le_of_colder hsmooth extrudeTemp (inOrder_levelled horder low) hcolder

theorem smoothed_le {smoothTime : ℝ} (hsmooth : 0 < smoothTime) (extrudeTemp : ℝ)
    {readings : List (Sample ℝ)} (hne : readings ≠ []) (horder : InOrder readings) {high : ℝ}
    (hhigh : ∀ reading ∈ readings, reading.value ≤ high) :
    ((create smoothTime extrudeTemp).after readings).smoothed ≤ high := by
  have hcolder : List.Forall₂ Sample.ColderThan readings (levelled high readings) :=
    List.forall₂_map_right_iff.mpr
      (List.forall₂_same.mpr fun reading hmem => ⟨rfl, hhigh reading hmem⟩)
  calc ((create smoothTime extrudeTemp).after readings).smoothed ≤
        ((create smoothTime extrudeTemp).after (levelled high readings)).smoothed :=
        smoothed_le_of_colder hsmooth extrudeTemp horder hcolder
    _ = high := smoothed_levelled smoothTime extrudeTemp high hne

/-- **The smoothed temperature was measured.** In exact arithmetic, after any readings in the order
of their times, the smoothed temperature lies between the lowest and the highest of them. So it is
warm enough to extrude only if some reading was, and it is if all were. Of two histories with the
same times, the one that is nowhere warmer is smoothed to a temperature that is not warmer. -/
theorem smoothed_among_readings (smoothTime extrudeTemp : ℝ) (hsmooth : 0 < smoothTime)
    (readings : List (Sample ℝ)) (hne : readings ≠ []) (horder : InOrder readings) :
    let s := (create smoothTime extrudeTemp).after readings
    (∃ coldest ∈ readings, ∃ warmest ∈ readings,
      (∀ reading ∈ readings,
        coldest.value ≤ reading.value ∧ reading.value ≤ warmest.value) ∧
      coldest.value ≤ s.smoothed ∧ s.smoothed ≤ warmest.value) ∧
    (s.canExtrude = true → ∃ reading ∈ readings, extrudeTemp ≤ reading.value) ∧
    ((∀ reading ∈ readings, extrudeTemp ≤ reading.value) → s.canExtrude = true) ∧
    ∀ warmer, List.Forall₂ Sample.ColderThan readings warmer →
      s.smoothed ≤ ((create smoothTime extrudeTemp).after warmer).smoothed := by
  intro s
  have hextrude : s.canExtrude = decide (extrudeTemp ≤ s.smoothed) := canExtrude_after _ hne
  have hfinite : {reading | reading ∈ readings}.Finite := List.finite_toSet readings
  have hsome : {reading | reading ∈ readings}.Nonempty := List.exists_mem_of_ne_nil readings hne
  obtain ⟨coldest, hcoldest, hlow⟩ := Set.exists_min_image _ Sample.value hfinite hsome
  obtain ⟨warmest, hwarmest, hhigh⟩ := Set.exists_max_image _ Sample.value hfinite hsome
  have hle : s.smoothed ≤ warmest.value := smoothed_le hsmooth extrudeTemp hne horder hhigh
  refine ⟨⟨coldest, hcoldest, warmest, hwarmest,
    fun reading hmem => ⟨hlow reading hmem, hhigh reading hmem⟩,
    le_smoothed hsmooth extrudeTemp hne horder hlow, hle⟩, ?_, ?_, ?_⟩
  · intro hwarm
    rw [hextrude, decide_eq_true_eq] at hwarm
    exact ⟨warmest, hwarmest, hwarm.trans hle⟩
  · intro hall
    rw [hextrude, decide_eq_true_eq]
    exact le_smoothed hsmooth extrudeTemp hne horder hall
  · exact fun warmer hwarmer => smoothed_le_of_colder hsmooth extrudeTemp horder hwarmer

/-- Two of the readings come at once, and one long after them. -/
theorem smoothed_unevenReadings :
    let start : Smoothing ℝ := create 2 100
    let readings : List (Sample ℝ) :=
      [.reading 0 100, .reading 1 200, .reading 1 250, .reading 9 180]
    let warmer : List (Sample ℝ) :=
      [.reading 0 100, .reading 1 210, .reading 1 250, .reading 9 190]
    let s := start.after readings
    (0 : ℝ) < 2 ∧ readings ≠ [] ∧ InOrder readings ∧
      List.Forall₂ Sample.ColderThan readings warmer ∧
      (∀ reading ∈ readings, 100 ≤ reading.value) ∧ s.canExtrude = true ∧
      (∃ reading ∈ readings, 100 ≤ reading.value) ∧ s.smoothed = 180 ∧
      180 ≤ (start.after warmer).smoothed := by
  intro start readings warmer s
  have hne : readings ≠ [] := List.cons_ne_nil _ _
  have horder : InOrder readings := by
    norm_num [InOrder, readings, Sample.reading]
  have hwarmer : List.Forall₂ Sample.ColderThan readings warmer := by
    norm_num [readings, warmer, Sample.ColderThan, Sample.reading]
  have hwarm : ∀ reading ∈ readings, 100 ≤ reading.value := by
    norm_num [readings, Sample.reading]
  have hsmoothed : s.smoothed = 180 := by
    norm_num [s, start, after, update, follow, create, readings, Sample.reading,
      Scalar.least_real, Scalar.one_real, Scalar.zero_real]
  obtain ⟨-, hmeasured, hextrude, hcolder⟩ :=
    smoothed_among_readings 2 100 two_pos readings hne horder
  have hcan : s.canExtrude = true := hextrude hwarm
  exact ⟨two_pos, hne, horder, hwarmer, hwarm, hcan, hmeasured hcan, hsmoothed,
    hsmoothed ▸ hcolder warmer hwarmer⟩

end Smoothing

end HeaterHost
