import HeaterHost.Proofs.Config.Accepted

/-!
# Documented sections

What the options of a heater's section have to be, said of the options alone. A check that refuses
a bad value lets a NaN pass, for which every comparison fails; since all numbers have to be finite,
the section is accepted exactly if its options are as they are documented.
-/

namespace HeaterHost.HeaterConfig

open Double

/-- All the numbers that are set in the section. -/
def numbers (c : HeaterConfig) : List Float :=
  [c.pidKp, c.pidKi, c.pidKd, c.minTemp, c.maxTemp, c.reportTime, c.maxPower, c.smoothTime,
    c.maxDelta, c.tuneDelta, c.tuneTimeout] ++ c.minExtrudeTemp.toList

structure FitsBoard (c : HeaterConfig) : Prop where
  heaterType : c.heaterType = some "PLA_INO_HEATER"
  sensorType : c.sensorType = "PLA_INO_SENSOR"
  control : c.control = .pid
  pidKp : 0.0 ≤ c.pidKp ∧ c.pidKp ≤ 40.0
  pidKi : 0.0 ≤ c.pidKi ∧ c.pidKi ≤ 80.0
  pidKd : 0.0 ≤ c.pidKd ∧ c.pidKd ≤ 10.0
  reportTime : 0.1 ≤ c.reportTime

structure FitsStock (c : HeaterConfig) : Prop where
  heaterType : c.heaterType ≠ some "PLA_INO_HEATER"
  pidKp : 0.0 ≤ c.pidKp
  pidKi : 0.0 ≤ c.pidKi
  pidKd : 0.0 ≤ c.pidKd
  reportTime : 0.0 < c.reportTime

structure Documented (c : HeaterConfig) : Prop where
  finite : ∀ x ∈ c.numbers, Decimal.isFinite x = true
  minTemp : -273.15 ≤ c.minTemp
  range : c.minTemp < c.maxTemp
  maxPower : 0.0 < c.maxPower ∧ c.maxPower ≤ 1.0
  smoothTime : 0.0 < c.smoothTime
  maxDelta : 0.0 < c.maxDelta
  tuneDelta : 0.0 < c.tuneDelta
  tuneTimeout : 0.0 < c.tuneTimeout
  baud : 1 ≤ c.baud
  extrude : ∀ temp ∈ c.minExtrudeTemp, c.minTemp ≤ temp ∧ temp ≤ c.maxTemp
  serial : c.sensorType = "PLA_INO_SENSOR" → ∃ port ∈ c.serial, port ≠ ""
  path : c.FitsBoard ∨ c.FitsStock

variable {c : HeaterConfig} {heater : String}

/-! ### The options that are not numbers -/

theorem path_eq_board_iff : c.path heater = .ok .board ↔
    c.heaterType = some "PLA_INO_HEATER" ∧ c.sensorType = "PLA_INO_SENSOR" ∧ c.control = .pid := by
  by_cases hheater : c.heaterType = some "PLA_INO_HEATER"
  · by_cases hsensor : c.sensorType = "PLA_INO_SENSOR"
    · cases hcontrol : c.control <;>
        simp [path, wantsBoard, hasBoardSensor, boardHeaterType, boardSensorType, hheater, hsensor,
          hcontrol]
    · simp [path, wantsBoard, hasBoardSensor, boardHeaterType, boardSensorType, hheater, hsensor]
  · simp [path, wantsBoard, boardHeaterType, hheater]

theorem path_eq_stock_iff :
    c.path heater = .ok .stock ↔ c.heaterType ≠ some "PLA_INO_HEATER" := by
  constructor
  · intro hpath hheater
    have hboard := (eq_board_iff_of_path hpath).mpr (beq_iff_eq.mpr hheater)
    cases hboard
  · intro hheater
    simp [path, wantsBoard, boardHeaterType, hheater]

theorem checkSerial_eq_ok_iff : c.checkSerial heater = .ok () ↔
    (c.sensorType = "PLA_INO_SENSOR" → ∃ port ∈ c.serial, port ≠ "") := by
  by_cases hsensor : c.sensorType = "PLA_INO_SENSOR"
  · cases hserial : c.serial <;>
      simp [checkSerial, hasBoardSensor, boardSensorType, hsensor, hserial]
  · simp [checkSerial, hasBoardSensor, boardSensorType, hsensor]

/-! ### The numbers -/

theorem finite_iff :
    (∀ option value, (option, some value) ∈ c.numericOptions → Decimal.isFinite value = true) ↔
      ∀ x ∈ c.numbers, Decimal.isFinite x = true := by
  have hmem : ∀ x, x ∈ c.numbers ↔ ∃ option, (option, some x) ∈ c.numericOptions := by
    intro x
    simp only [numbers, numericOptions, List.mem_append, List.mem_cons, List.not_mem_nil, or_false,
      Option.mem_toList, Prod.mk.injEq, Option.some.injEq, exists_or, exists_and_right, exists_eq,
      true_and]
    simp only [eq_comm (a := some x)]
    tauto
  constructor
  · intro hfinite x hx
    obtain ⟨option, hoption⟩ := (hmem x).mp hx
    exact hfinite option x hoption
  · intro hfinite option x hoption
    exact hfinite x ((hmem x).mpr ⟨option, hoption⟩)

theorem numbers_of_minExtrudeTemp {temp : Float} (htemp : c.minExtrudeTemp = some temp) :
    temp ∈ c.numbers :=
  List.mem_append_right _ (Option.mem_toList.mpr htemp)

section Ordered

variable (hnan : ∀ x ∈ c.numbers, x.isNaN = false)

include hnan

theorem checkPath_stock_iff : c.checkPath heater .stock = .ok () ↔
    0.0 ≤ c.pidKp ∧ 0.0 ≤ c.pidKi ∧ 0.0 ≤ c.pidKd ∧ 0.0 < c.reportTime := by
  have hzero : (0.0 : Float).isNaN = false := by decide
  have hkp := not_lt_iff_le (hnan c.pidKp (by simp [numbers])) hzero
  have hki := not_lt_iff_le (hnan c.pidKi (by simp [numbers])) hzero
  have hkd := not_lt_iff_le (hnan c.pidKd (by simp [numbers])) hzero
  have htime := not_le_iff_lt (hnan c.reportTime (by simp [numbers])) hzero
  simp only [checkPath, bind_eq_ok_iff, require_eq_ok_iff, Bool.not_eq_true',
    decide_eq_false_iff_not, hkp, hki, hkd, htime]

theorem checkPath_board_iff : c.checkPath heater .board = .ok () ↔
    (0.0 ≤ c.pidKp ∧ c.pidKp ≤ 40.0) ∧ (0.0 ≤ c.pidKi ∧ c.pidKi ≤ 80.0) ∧
      (0.0 ≤ c.pidKd ∧ c.pidKd ≤ 10.0) ∧ 0.1 ≤ c.reportTime := by
  have htime : ¬ c.reportTime < minReportTime ↔ 0.1 ≤ c.reportTime :=
    not_lt_iff_le (hnan c.reportTime (by simp [numbers])) (by decide)
  simp only [checkPath, bind_eq_ok_iff, require_eq_ok_iff, Bool.not_eq_true', Bool.and_eq_true,
    decide_eq_true_eq, decide_eq_false_iff_not, htime]

theorem fits_iff : (∃ kind, c.path heater = .ok kind ∧ c.checkPath heater kind = .ok ()) ↔
    c.FitsBoard ∨ c.FitsStock := by
  constructor
  · rintro ⟨_ | _, hpath, hcheck⟩
    · obtain ⟨hheater, hsensor, hcontrol⟩ := path_eq_board_iff.mp hpath
      obtain ⟨hkp, hki, hkd, htime⟩ := (checkPath_board_iff hnan).mp hcheck
      exact .inl ⟨hheater, hsensor, hcontrol, hkp, hki, hkd, htime⟩
    · obtain ⟨hkp, hki, hkd, htime⟩ := (checkPath_stock_iff hnan).mp hcheck
      exact .inr ⟨path_eq_stock_iff.mp hpath, hkp, hki, hkd, htime⟩
  · rintro (h | h)
    · exact ⟨.board, path_eq_board_iff.mpr ⟨h.heaterType, h.sensorType, h.control⟩,
        (checkPath_board_iff hnan).mpr ⟨h.pidKp, h.pidKi, h.pidKd, h.reportTime⟩⟩
    · exact ⟨.stock, path_eq_stock_iff.mpr h.heaterType,
        (checkPath_stock_iff hnan).mpr ⟨h.pidKp, h.pidKi, h.pidKd, h.reportTime⟩⟩

theorem checkExtrude_iff : c.checkExtrude heater = .ok () ↔
    ∀ temp ∈ c.minExtrudeTemp, c.minTemp ≤ temp ∧ temp ≤ c.maxTemp := by
  cases htemp : c.minExtrudeTemp with
  | none => simp [checkExtrude, htemp]
  | some temp =>
      have hown := hnan temp (numbers_of_minExtrudeTemp htemp)
      have hmin := not_lt_iff_le hown (hnan c.minTemp (by simp [numbers]))
      have hmax := not_lt_iff_le (hnan c.maxTemp (by simp [numbers])) hown
      simp [checkExtrude, htemp, ← hmin, ← hmax]

theorem accepted_iff_documented : c.Accepted heater ↔ c.Documented := by
  have hzero : (0.0 : Float).isNaN = false := by decide
  have habove := not_lt_iff_le (hnan c.minTemp (by simp [numbers]))
    (show (absoluteZero : Float).isNaN = false by decide)
  have hrange := not_le_iff_lt (hnan c.maxTemp (by simp [numbers]))
    (hnan c.minTemp (by simp [numbers]))
  have hsmooth := not_le_iff_lt (hnan c.smoothTime (by simp [numbers])) hzero
  have hdelta := not_le_iff_lt (hnan c.maxDelta (by simp [numbers])) hzero
  have htune := not_le_iff_lt (hnan c.tuneDelta (by simp [numbers])) hzero
  have htimeout := not_le_iff_lt (hnan c.tuneTimeout (by simp [numbers])) hzero
  constructor
  · intro h
    exact ⟨finite_iff.mp h.finite, habove.mp h.aboveZero, hrange.mp h.range, h.maxPower,
      hsmooth.mp h.smoothTime, hdelta.mp h.maxDelta, htune.mp h.tuneDelta,
      htimeout.mp h.tuneTimeout, Nat.one_le_iff_ne_zero.mpr h.baud,
      (checkExtrude_iff hnan).mp h.extrude, checkSerial_eq_ok_iff.mp h.serial,
      (fits_iff hnan).mp h.path⟩
  · intro h
    exact ⟨finite_iff.mpr h.finite, habove.mpr h.minTemp, hrange.mpr h.range,
      (fits_iff hnan).mpr h.path, h.maxPower, hsmooth.mpr h.smoothTime,
      (checkExtrude_iff hnan).mpr h.extrude, hdelta.mpr h.maxDelta, htune.mpr h.tuneDelta,
      htimeout.mpr h.tuneTimeout, Nat.one_le_iff_ne_zero.mp h.baud,
      checkSerial_eq_ok_iff.mpr h.serial⟩

end Ordered

/-- A section is accepted exactly if its options are as they are documented, whatever doubles its
numbers are. -/
theorem validate_ok_iff_documented (c : HeaterConfig) (heater : String) :
    c.validate heater = .ok () ↔ c.Documented := by
  have hnumbers : (∀ x ∈ c.numbers, Decimal.isFinite x = true) →
      (c.Accepted heater ↔ c.Documented) := fun hfinite =>
    accepted_iff_documented fun x hx => isNaN_of_isFinite (hfinite x hx)
  rw [validate_eq_ok_iff]
  constructor
  · intro h
    exact (hnumbers (finite_iff.mp h.finite)).mp h
  · intro h
    exact (hnumbers h.finite).mpr h

end HeaterHost.HeaterConfig
