import HeaterHost.Config.Validate
import HeaterHost.Proofs.Double.NotANumber

/-!
# Accepted sections

A section is accepted if it passes every check, whichever comes first. What the bounds of its
numbers say is then read off the checks: a section that is accepted has no NaN where it matters.
-/

namespace HeaterHost.HeaterConfig

open Double

/-- The section passes each of its checks. -/
structure Accepted (c : HeaterConfig) (heater : String) : Prop where
  finite : ∀ option value, (option, some value) ∈ c.numericOptions →
    Decimal.isFinite value = true
  aboveZero : ¬ c.minTemp < absoluteZero
  range : ¬ c.maxTemp ≤ c.minTemp
  path : ∃ kind, c.path heater = .ok kind ∧ c.checkPath heater kind = .ok ()
  maxPower : 0.0 < c.maxPower ∧ c.maxPower ≤ 1.0
  smoothTime : ¬ c.smoothTime ≤ 0.0
  extrude : c.checkExtrude heater = .ok ()
  maxDelta : ¬ c.maxDelta ≤ 0.0
  tuneDelta : ¬ c.tuneDelta ≤ 0.0
  tuneTimeout : ¬ c.tuneTimeout ≤ 0.0
  baud : c.baud ≠ 0
  serial : c.checkSerial heater = .ok ()

theorem require_eq_ok_iff {heater option bound : String} {value : Float} {within : Bool} :
    require heater option value bound within = .ok () ↔ within = true := by
  cases within <;> simp [require]

theorem checkFinite_eq_ok_iff {heater : String} {options : List (String × Option Float)} :
    checkFinite heater options = .ok () ↔
      ∀ option value, (option, some value) ∈ options → Decimal.isFinite value = true := by
  induction options with
  | nil => simp [checkFinite]
  | cons entry rest ih =>
      rcases entry with ⟨option, _ | value⟩
      · simp [checkFinite, ih]
      · by_cases hfinite : Decimal.isFinite value = true
        · rw [checkFinite, if_pos hfinite, ih]
          constructor
          · intro hrest option' value' hmem
            rcases List.mem_cons.mp hmem with heq | hmem
            · cases heq
              exact hfinite
            · exact hrest option' value' hmem
          · intro hall option' value' hmem
            exact hall option' value' (List.mem_cons_of_mem _ hmem)
        · rw [checkFinite, if_neg hfinite]
          constructor
          · intro heq
            cases heq
          · intro hall
            exact absurd (hall option value (List.mem_cons_self ..)) hfinite

theorem bind_eq_ok_iff {ε : Type} {x : Except ε Unit} {f : Unit → Except ε Unit} :
    (x >>= f) = .ok () ↔ x = .ok () ∧ f () = .ok () := by
  cases x <;> simp [bind, Except.bind]

theorem path_bind_eq_ok_iff {ε : Type} {x : Except ε HeaterPath} {f : HeaterPath → Except ε Unit}
    {rest : Except ε Unit} :
    (x >>= fun kind => f kind >>= fun _ => rest) = .ok () ↔
      (∃ kind, x = .ok kind ∧ f kind = .ok ()) ∧ rest = .ok () := by
  cases x with
  | error error => simp [bind, Except.bind]
  | ok kind =>
      change (f kind >>= fun _ => rest) = .ok () ↔ _
      rw [bind_eq_ok_iff]
      simp

theorem validate_eq_ok_iff {c : HeaterConfig} {heater : String} :
    c.validate heater = .ok () ↔ c.Accepted heater := by
  unfold validate
  by_cases hrange : c.maxTemp ≤ c.minTemp
  · refine iff_of_false ?_ fun haccepted => haccepted.range hrange
    simp only [bind_eq_ok_iff, if_pos hrange]
    rintro ⟨-, -, hthrown, -⟩
    cases hthrown
  · simp only [if_neg hrange, path_bind_eq_ok_iff, bind_eq_ok_iff, require_eq_ok_iff,
      checkFinite_eq_ok_iff, Bool.not_eq_true', Bool.and_eq_true, decide_eq_true_eq,
      decide_eq_false_iff_not, bne_iff_ne]
    constructor
    · rintro ⟨hfinite, habove, hpath, hpower, hsmooth, hextrude, hdelta, htune, htimeout, hbaud,
        hserial⟩
      exact ⟨hfinite, habove, hrange, hpath, hpower, hsmooth, hextrude, hdelta, htune, htimeout,
        hbaud, hserial⟩
    · rintro ⟨hfinite, habove, -, hpath, hpower, hsmooth, hextrude, hdelta, htune, htimeout,
        hbaud, hserial⟩
      exact ⟨hfinite, habove, hpath, hpower, hsmooth, hextrude, hdelta, htune, htimeout, hbaud,
        hserial⟩

/-- The path of a section follows its heater's type; the sensor's type only decides whether there
is one. -/
theorem eq_board_iff_of_path {c : HeaterConfig} {heater : String} {kind : HeaterPath}
    (hpath : c.path heater = .ok kind) : kind = .board ↔ c.wantsBoard = true := by
  cases hwants : c.wantsBoard with
  | false =>
      simp only [path, hwants, Bool.false_eq_true, ↓reduceIte, Except.ok.injEq] at hpath
      subst hpath
      simp
  | true =>
      simp only [path, hwants, ↓reduceIte] at hpath
      split at hpath
      · cases hpath
      · split at hpath
        · cases hpath
        · cases hpath
          simp

theorem Accepted.zero_le_maxPower {c : HeaterConfig} {heater : String}
    (haccepted : c.Accepted heater) : 0.0 ≤ c.maxPower :=
  le_of_lt haccepted.maxPower.1

theorem Accepted.isFinite_maxPower {c : HeaterConfig} {heater : String}
    (haccepted : c.Accepted heater) : Decimal.isFinite c.maxPower = true :=
  haccepted.finite "max_power" c.maxPower (by simp [numericOptions])

theorem Accepted.isNaN_minTemp {c : HeaterConfig} {heater : String}
    (haccepted : c.Accepted heater) : c.minTemp.isNaN = false :=
  isNaN_of_isFinite (haccepted.finite "min_temp" c.minTemp (by simp [numericOptions]))

theorem Accepted.isNaN_maxTemp {c : HeaterConfig} {heater : String}
    (haccepted : c.Accepted heater) : c.maxTemp.isNaN = false :=
  isNaN_of_isFinite (haccepted.finite "max_temp" c.maxTemp (by simp [numericOptions]))

end HeaterHost.HeaterConfig

namespace HeaterHost.Config

theorem validateHeaters_eq_ok_iff {sections : List (String × HeaterConfig)} :
    validateHeaters sections = .ok () ↔
      ∀ heater options, (heater, options) ∈ sections → options.validate heater = .ok () := by
  induction sections with
  | nil => simp [validateHeaters]
  | cons first rest ih =>
      obtain ⟨name, own⟩ := first
      rw [validateHeaters, HeaterConfig.bind_eq_ok_iff, ih]
      constructor
      · rintro ⟨hfirst, hrest⟩ heater options hmem
        rcases List.mem_cons.mp hmem with heq | hmem
        · cases heq
          exact hfirst
        · exact hrest heater options hmem
      · intro hall
        exact ⟨hall name own (List.mem_cons_self ..),
          fun heater options hmem => hall heater options (List.mem_cons_of_mem _ hmem)⟩

/-- A configuration is accepted only with all of its sections. -/
theorem validate_of_mem {config : Config} (hvalid : config.validate = .ok ()) {heater : String}
    {options : HeaterConfig} (hmem : (heater, options) ∈ config.heaters.entries) :
    options.validate heater = .ok () :=
  validateHeaters_eq_ok_iff.mp (HeaterConfig.bind_eq_ok_iff.mp hvalid).1 heater options hmem

end HeaterHost.Config
