import HeaterHost.Proofs.Double.NotANumber
import HeaterHost.Proofs.Double.Parts

/-!
# Doubles that are not negative

Rounding and packing keep the sign of a number, also where it becomes zero or infinite. A quotient
of positive doubles is therefore not negative, and it is no NaN as long as they are not both
infinite.
-/

namespace HeaterHost.Double

open Float.Model Float.Model.UnpackedFloat

/-- The sign of a number; a NaN has none. -/
def sign? : UnpackedFloat → Option Sign
  | .notANumber => none
  | .infinity s => some s
  | .zero s => some s
  | .finite s _ _ _ => some s

/-! ### Packing and rounding -/

theorem ofBitVec_toBitVec (s : Sign) : Sign.ofBitVec s.toBitVec = s := by
  cases s <;> rfl

theorem sign?_unpack {b : BitVec 64}
    (hnumber : (UnpackedFloat.unpack Format.binary64 b).isNaN = false) :
    sign? (UnpackedFloat.unpack Format.binary64 b) =
      some (Sign.ofBitVec (@unpackSign Format.binary64 b)) := by
  unfold UnpackedFloat.unpack at hnumber ⊢
  dsimp only at hnumber ⊢
  split at hnumber
  case isTrue hones =>
    split at hnumber
    case isTrue hzero => rw [if_pos hones, if_pos hzero]; rfl
    case isFalse => cases hnumber
  case isFalse hones =>
    rw [if_neg hones]
    split
    · split <;> rfl
    · rfl

theorem unpackSign_pack (s : Sign) {m : Nat} (e : Int) (hpos : 0 < m) :
    @unpackSign Format.binary64 (UnpackedFloat.pack Format.binary64 (.finite s m e hpos)) =
      s.toBitVec := by
  unfold UnpackedFloat.pack
  dsimp only
  split
  · exact unpackSign_packComponents ..
  · split
    · exact unpackSign_packComponents ..
    · exact unpackSign_packComponents ..

theorem sign?_unpack_pack (u : UnpackedFloat) : sign? (Float.Model.pack u).unpack = sign? u := by
  cases u with
  | notANumber => rfl
  | infinity s => cases s <;> rfl
  | zero s => cases s <;> rfl
  | finite s m e hpos =>
      have hnumber := isNaN_unpack_pack (.finite s m e hpos)
      have hsign := sign?_unpack hnumber
      calc sign? (Float.Model.pack (.finite s m e hpos)).unpack
          = some (Sign.ofBitVec (@unpackSign Format.binary64
              (UnpackedFloat.pack Format.binary64 (.finite s m e hpos)))) := hsign
        _ = some s := by rw [unpackSign_pack, ofBitVec_toBitVec]

theorem sign?_roundWithAccuracy (s : Sign) (m : Nat) (e : Int) (a : Accuracy) :
    sign? (roundWithAccuracy Format.binary64 s m e a) = some s := by
  unfold roundWithAccuracy
  dsimp only
  split <;> rfl

/-! ### Comparisons with zero -/

theorem parts_zero : parts 0.0 = .zero .positive := rfl

theorem zero_le_of_sign? {x : Float} (hsign : sign? (parts x) = some .positive) : 0.0 ≤ x := by
  rw [le_iff, parts_zero]
  cases hx : parts x with
  | notANumber =>
      rw [hx] at hsign
      cases hsign
  | zero s => rfl
  | infinity s =>
      rw [hx] at hsign
      cases hsign
      rfl
  | finite s m e hpos =>
      rw [hx] at hsign
      cases hsign
      rfl

theorem parts_of_zero_lt {x : Float} (hlt : 0.0 < x) :
    parts x = .infinity .positive ∨ ∃ m e hpos, parts x = .finite .positive m e hpos := by
  rw [lt_iff, parts_zero] at hlt
  cases hx : parts x with
  | notANumber =>
      rw [hx] at hlt
      cases hlt
  | zero s =>
      rw [hx] at hlt
      cases hlt
  | infinity s =>
      rw [hx] at hlt
      cases s with
      | negative => cases hlt
      | positive => exact .inl rfl
  | finite s m e hpos =>
      rw [hx] at hlt
      cases s with
      | negative => cases hlt
      | positive => exact .inr ⟨m, e, hpos, rfl⟩

theorem ne_infinity_of_isFinite {x : Float} (hfinite : Decimal.isFinite x = true) (s : Sign) :
    parts x ≠ .infinity s := by
  intro hx
  rw [Decimal.isFinite, ofFloat_eq_binary, hx] at hfinite
  cases hfinite

/-- A positive number in its finite parts. -/
theorem finite_of_zero_lt {x : Float} (hlt : 0.0 < x) (hfinite : Decimal.isFinite x = true) :
    ∃ m e hpos, parts x = .finite .positive m e hpos :=
  (parts_of_zero_lt hlt).resolve_left (ne_infinity_of_isFinite hfinite .positive)

theorem zero_le_div {x y : Float} (hx : 0.0 < x) (hfinite : Decimal.isFinite x = true)
    (hy : 0.0 < y) : 0.0 ≤ x / y := by
  obtain ⟨m, e, hpos, hx⟩ := finite_of_zero_lt hx hfinite
  apply zero_le_of_sign?
  change sign? (Float.Model.pack (UnpackedFloat.div Format.binary64 (parts x) (parts y))).unpack = _
  rw [sign?_unpack_pack, hx]
  rcases parts_of_zero_lt hy with hy | ⟨m', e', hpos', hy⟩
  · rw [hy]
    rfl
  · rw [hy]
    exact sign?_roundWithAccuracy ..

end HeaterHost.Double
