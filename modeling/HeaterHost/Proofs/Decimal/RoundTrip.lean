import HeaterHost.Proofs.Decimal.Reading
import HeaterHost.Proofs.Double.NotANumber

/-!
# Numbers come back

A double that is written with all its digits is read back as itself: the sign of a zero, the
infinities and NaN included. One that is written with a fixed number of places is read back as the
double nearest to what was written.
-/

namespace HeaterHost.Decimal

open Double Float.Model Float.Model.UnpackedFloat

theorem parts_neg_finite {x : Float} {s : Sign} {m : Nat} {e : Int} (h : Canonical m e)
    (hx : parts x = .finite s m e h.pos) : parts (-x) = .finite (-s) m e h.pos := by
  change (Float.Model.pack (parts x).neg).unpack = _
  rw [hx]
  exact h.unpack_pack (-s)

/-- The digits of a double, read without its sign. -/
theorem written_shortest {m : Nat} {e : Int} (h : Canonical m e) :
    ∃ y, Written (Style.precise.render (shortest m e)) y ∧
      parts y = .finite .positive m e h.pos := by
  have hrounds := rounds_shortest h
  have hdigits : (shortest m e).digits ≠ 0 := by
    intro hzero
    have hpos := hrounds.pos h
    rw [Digits.value, hzero, Nat.cast_zero, zero_mul] at hpos
    exact hpos.false
  obtain ⟨n, scale, hvalue, hwritten⟩ := written_precise hdigits
  rw [← hvalue] at hrounds
  exact ⟨_, hwritten, parts_toFloat_of_rounds h hrounds⟩

theorem shortest_zero (e : Int) : shortest 0 e = { digits := 0, scale := 0 } := rfl

theorem written_zero : Written (Style.precise.render { digits := 0, scale := 0 }) 0.0 := by
  have htext : (Style.precise.render { digits := 0, scale := 0 }).toList = ['0', '.', '0'] := by
    simp [Style.render, Style.precise, positional]
  refine ⟨⟨'0', _, htext, rfl⟩, ?_⟩
  rw [htext]
  rfl

theorem read?_nan {x : Float} (hx : parts x = .notANumber) : read? "NaN" = some x := by
  have hnan : parts (0.0 / 0.0) = .notANumber := rfl
  rw [eq_of_parts (hx.trans hnan.symm)]
  rfl

theorem read?_inf {x : Float} {s : Sign} (hx : parts x = .infinity s) :
    read? (signed (isNegative s) "inf") = some x := by
  cases s with
  | positive =>
      have hinf : parts (1.0 / 0.0) = .infinity .positive := rfl
      rw [eq_of_parts (hx.trans hinf.symm)]
      rfl
  | negative =>
      have hinf : parts (-(1.0 / 0.0)) = .infinity .negative := rfl
      rw [eq_of_parts (hx.trans hinf.symm)]
      rfl

/-- **What is written with all its digits is read back as it was.** -/
theorem read?_precise (x : Float) : read? (precise x) = some x := by
  unfold precise Style.text
  rw [ofFloat_eq_binary]
  cases hx : parts x with
  | notANumber => exact read?_nan hx
  | infinity s => exact read?_inf hx
  | zero s =>
      have hzero : parts 0.0 = .zero .positive := rfl
      simp only [binary]
      rw [shortest_zero, read?_signed written_zero]
      cases s with
      | positive => exact congrArg some (eq_of_parts (hzero.trans hx.symm))
      | negative =>
          have hneg : parts (-0.0) = .zero .negative := rfl
          exact congrArg some (eq_of_parts (hneg.trans hx.symm))
  | finite s m e hpos =>
      have h := canonical_of_parts hx
      obtain ⟨y, hwritten, hy⟩ := written_shortest h
      simp only [binary]
      rw [read?_signed hwritten]
      cases s with
      | positive => exact congrArg some (eq_of_parts (hy.trans hx.symm))
      | negative => exact congrArg some (eq_of_parts ((parts_neg_finite h hy).trans hx.symm))

/-! ### Fixed places -/

/-- A double rounded to decimal places, a half going to the even neighbour. The result is the double
nearest to that decimal; infinities and NaN stay. -/
def rounded (places : Nat) (x : Float) : Float :=
  match Binary.ofFloat x with
  | .finite negative mantissa exponent =>
      let (num, den) := quotient mantissa exponent
      let magnitude := toFloat (roundEven (num * Nat.pow 10 places) den) (-places)
      if negative then -magnitude else magnitude
  | _ => x

theorem read?_fixed (places : Nat) (x : Float) :
    read? (fixed places x) = some (rounded places x) := by
  unfold fixed rounded
  rw [ofFloat_eq_binary]
  cases hx : parts x with
  | notANumber => exact read?_nan hx
  | infinity s => exact read?_inf hx
  | zero s =>
      simp only [binary]
      exact read?_signed (written_withPlaces places _) _
  | finite s m e hpos =>
      simp only [binary]
      exact read?_signed (written_withPlaces places _) _

theorem nextTo_of_rest {whole : Nat} {rest : ℚ} (hnonneg : 0 ≤ rest) (hlt : rest < 1) :
    NextTo (whole + rest) (if rest < 1 / 2 then whole
      else if 1 / 2 < rest then whole + 1 else whole + whole % 2) := by
  split
  case isTrue hless => exact ⟨by linarith, by linarith, fun _ => ⟨by linarith, by linarith⟩⟩
  case isFalse hless =>
    split
    case isTrue hmore =>
      refine ⟨?_, ?_, fun _ => ⟨?_, ?_⟩⟩
      all_goals
        push_cast
        linarith
    case isFalse hmore =>
      -- a tie, which goes to the even one of the two neighbours
      have hhalf : rest = 1 / 2 := by linarith
      have hbit : ((whole % 2 : Nat) : ℚ) ≤ 1 := by exact_mod_cast (by omega : whole % 2 ≤ 1)
      have hzero : (0 : ℚ) ≤ (whole % 2 : Nat) := Nat.cast_nonneg _
      refine ⟨?_, ?_, fun hodd => absurd hodd (by omega)⟩
      all_goals
        push_cast at hbit hzero ⊢
        linarith

/-- The quotient is rounded to the whole number next to it. -/
theorem nextTo_roundEven (num : Nat) {den : Nat} (hden : 0 < den) :
    NextTo ((num : ℚ) / den) (roundEven num den) := by
  have hpos : (0 : ℚ) < den := by exact_mod_cast hden
  have hvalue : (num : ℚ) / den = (num / den : Nat) + ((num % den : Nat) : ℚ) / den := by
    have hsplit : (num : ℚ) = den * (num / den : Nat) + (num % den : Nat) := by
      exact_mod_cast (Nat.div_add_mod num den).symm
    calc (num : ℚ) / den = (den * (num / den : Nat) + (num % den : Nat)) / den := by rw [← hsplit]
      _ = (num / den : Nat) + ((num % den : Nat) : ℚ) / den := by
          rw [add_div, mul_div_cancel_left₀ _ hpos.ne']
  have hlt : ((num % den : Nat) : ℚ) / den < 1 := by
    rw [div_lt_one hpos]
    exact_mod_cast Nat.mod_lt num hden
  have hless : 2 * (num % den) < den ↔ ((num % den : Nat) : ℚ) / den < 1 / 2 := by
    rw [div_lt_div_iff₀ hpos two_pos, mul_comm, one_mul]
    norm_cast
  have hmore : den < 2 * (num % den) ↔ 1 / 2 < ((num % den : Nat) : ℚ) / den := by
    rw [div_lt_div_iff₀ two_pos hpos, mul_comm 2, one_mul]
    norm_cast
  unfold roundEven
  simp only [hless, hmore]
  rw [hvalue]
  exact nextTo_of_rest (by positivity) hlt

/-! ### Only NaN becomes NaN -/

theorem isNaN_short {x y : Float} {s s' : Sign} {m m' : Nat} {e e' : Int} {hm : 0 < m}
    {hm' : 0 < m'} (hx : parts x = .finite s m e hm) (hy : parts y = .finite s' m' e' hm') :
    (x * y).isNaN = false ∧ (x / y).isNaN = false := by
  have hmul : (x * y).isNaN = (UnpackedFloat.mul Format.binary64 (parts x) (parts y)).isNaN :=
    isNaN_unpack_pack _
  have hdiv : (x / y).isNaN = (UnpackedFloat.div Format.binary64 (parts x) (parts y)).isNaN :=
    isNaN_unpack_pack _
  rw [hmul, hdiv, hx, hy]
  exact ⟨isNaN_roundWithAccuracy .., isNaN_roundWithAccuracy ..⟩

theorem isNaN_long (n : Nat) (scale : Int) :
    (UnpackedFloat.ofScientific Format.binary64 n scale).isNaN = false := by
  unfold UnpackedFloat.ofScientific
  split
  · rfl
  · split
    · rfl
    · split
      · rfl
      · split
        · exact isNaN_roundWithAccuracy ..
        · exact isNaN_roundWithAccuracy ..

theorem isNaN_ofScientific {n : Nat} (hn : n ≠ 0) (negative : Bool) (e : Nat) :
    (Float.ofScientific n negative e).isNaN = false := by
  unfold Float.ofScientific
  split
  case isTrue hshort =>
    have hn := parts_toFloat (Nat.pos_of_ne_zero hn) hshort.1
    obtain ⟨m, e', hpos, hpower, -, -⟩ := parts_powersOfTen (k := e)
      (by simp [Float.exactlyRepresentablePowersOfTen]; omega)
    obtain ⟨hmul, hdiv⟩ := isNaN_short hn hpower
    cases negative with
    | false => exact hmul
    | true => exact hdiv
  case isFalse => exact (isNaN_unpack_pack _).trans (isNaN_long n _)

theorem isNaN_toFloat (n : Nat) (scale : Int) : (toFloat n scale).isNaN = false := by
  unfold toFloat
  split
  case isTrue => rfl
  case isFalse hn =>
    have hn : n ≠ 0 := by simpa using hn
    dsimp only
    split
    · rfl
    · split
      · rfl
      · split
        · exact isNaN_ofScientific hn ..
        · exact isNaN_ofScientific hn ..

theorem isNaN_neg (x : Float) : (-x).isNaN = x.isNaN := by
  refine (isNaN_unpack_pack (parts x).neg).trans ?_
  rw [isNaN_eq_parts]
  cases parts x <;> rfl

theorem rounded_of_isNaN {x : Float} (hx : x.isNaN = true) (places : Nat) :
    rounded places x = x := by
  rw [isNaN_eq_parts] at hx
  unfold rounded
  rw [ofFloat_eq_binary]
  cases hparts : parts x with
  | notANumber => rfl
  | _ =>
      rw [hparts] at hx
      cases hx

theorem isNaN_rounded (places : Nat) (x : Float) : (rounded places x).isNaN = x.isNaN := by
  have hsigned : ∀ (negative : Bool) (n : Nat) (scale : Int),
      (if negative then -toFloat n scale else toFloat n scale).isNaN = false := by
    intro negative n scale
    split
    · rw [isNaN_neg, isNaN_toFloat]
    · exact isNaN_toFloat n scale
  have hx := isNaN_eq_parts x
  unfold rounded
  rw [ofFloat_eq_binary]
  cases hparts : parts x with
  | notANumber => rfl
  | infinity s => rfl
  | zero s =>
      rw [hx, hparts]
      exact hsigned ..
  | finite s m e hpos =>
      rw [hx, hparts]
      exact hsigned ..

end HeaterHost.Decimal
