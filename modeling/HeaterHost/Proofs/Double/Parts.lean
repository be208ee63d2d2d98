import HeaterHost.Decimal.Binary
import HeaterHost.Proofs.Double.Rounding

/-!
# Doubles and their parts

A double is nothing but its parts: packing them again gives it back. The mantissas and exponents
of finite doubles are those that come back when they are packed and taken apart.
-/

namespace HeaterHost.Double

open Float.Model Float.Model.UnpackedFloat

/-- The mantissas and exponents of the finite doubles other than zero. -/
structure Canonical (m : Nat) (e : Int) : Prop where
  pos : 0 < m
  short : m < 2 ^ 53
  low : -1074 ≤ e
  high : e ≤ 971
  full : 2 ^ 52 ≤ m ∨ e = -1074

theorem pack_subnormal {m : Nat} (s : Sign) (hpos : 0 < m) (hlt : m < 2 ^ 52) :
    UnpackedFloat.pack Format.binary64 (.finite s m (-1074) hpos) =
      packComponents Format.binary64 s 0#11 (BitVec.ofNat 52 m) := by
  have hlog : m.log2 < 52 := (Nat.log2_lt hpos.ne').mpr hlt
  have hbits : m.log2 + 1 ≠ 53 := by omega
  unfold UnpackedFloat.pack
  simp [Format.exponentBias, Format.mantissaBits, hbits]

theorem unpack_pack_subnormal {m : Nat} (s : Sign) (hpos : 0 < m) (hlt : m < 2 ^ 52) :
    (Float.Model.pack (.finite s m (-1074) hpos)).unpack = .finite s m (-1074) hpos := by
  have hsign : Sign.ofBitVec s.toBitVec = s := by cases s <;> rfl
  have hmantissa : (BitVec.ofNat 52 m).toNat = m := by
    rw [BitVec.toNat_ofNat, Nat.mod_eq_of_lt hlt]
  have hne : BitVec.ofNat 52 m ≠ 0#52 := by
    intro heq
    have hzero := congrArg BitVec.toNat heq
    rw [hmantissa] at hzero
    exact hpos.ne' hzero
  change UnpackedFloat.unpack Format.binary64
    (UnpackedFloat.pack Format.binary64 (.finite s m (-1074) hpos)) = _
  rw [pack_subnormal s hpos hlt]
  unfold UnpackedFloat.unpack
  simp [unpackMantissa_packComponents, unpackExponent_packComponents, hsign, hne, hmantissa,
    Format.exponentBias]

theorem Canonical.unpack_pack {m : Nat} {e : Int} (h : Canonical m e) (s : Sign) :
    (Float.Model.pack (.finite s m e h.pos)).unpack = .finite s m e h.pos := by
  by_cases hge : 2 ^ 52 ≤ m
  · exact Double.unpack_pack s ⟨hge, h.short⟩ h.low h.high
  · obtain rfl : e = -1074 := h.full.resolve_left hge
    exact unpack_pack_subnormal s h.pos (Nat.lt_of_not_le hge)

/-! ### The bits of a double -/

def signBits (b : BitVec 64) : BitVec 1 :=
  @unpackSign Format.binary64 b

def exponentBits (b : BitVec 64) : BitVec 11 :=
  @unpackExponent Format.binary64 b

def mantissaBits (b : BitVec 64) : BitVec 52 :=
  @unpackMantissa Format.binary64 b

theorem toNat_signBits (b : BitVec 64) : (signBits b).toNat = b.toNat >>> 63 := by
  have hb := b.isLt
  simp [signBits, unpackSign, Nat.shiftRight_eq_div_pow]
  omega

theorem toNat_exponentBits (b : BitVec 64) : (exponentBits b).toNat = (b.toNat >>> 52) % 2048 := by
  simp [exponentBits, unpackExponent]

theorem toNat_mantissaBits (b : BitVec 64) : (mantissaBits b).toNat = b.toNat % 2 ^ 52 := by
  simp [mantissaBits, unpackMantissa]

theorem toBitVec_ofBitVec (s : BitVec 1) : (Sign.ofBitVec s).toBitVec = s := by
  revert s
  decide

theorem packComponents_bits (b : BitVec 64) :
    packComponents Format.binary64 (Sign.ofBitVec (signBits b)) (exponentBits b) (mantissaBits b) =
      b := by
  apply BitVec.eq_of_toNat_eq
  have hb := b.isLt
  have hmantissa := (mantissaBits b).isLt
  have hexponent := (exponentBits b).isLt
  rw [packComponents, toBitVec_ofBitVec]
  change (signBits b ++ exponentBits b ++ mantissaBits b).toNat = b.toNat
  rw [BitVec.toNat_append, BitVec.toNat_append, ← Nat.shiftLeft_add_eq_or_of_lt hexponent,
    ← Nat.shiftLeft_add_eq_or_of_lt hmantissa, toNat_signBits, toNat_exponentBits,
    toNat_mantissaBits]
  simp only [Nat.shiftLeft_eq, Nat.shiftRight_eq_div_pow]
  omega

/-- The forms that the bits of a double can have. -/
theorem unpack_bits (b : BitVec 64) :
    UnpackedFloat.unpack Format.binary64 b =
      if exponentBits b = -1#11 then
        if mantissaBits b = 0#52 then .infinity (Sign.ofBitVec (signBits b)) else .notANumber
      else if exponentBits b = 0#11 then
        if h : mantissaBits b = 0#52 then .zero (Sign.ofBitVec (signBits b))
        else .finite (Sign.ofBitVec (signBits b)) (mantissaBits b).toNat (-1074)
          (by simpa [BitVec.toNat_pos, BitVec.pos_iff_ne_zero] using h)
      else .finite (Sign.ofBitVec (signBits b)) (1#1 ++ mantissaBits b).toNat
        ((exponentBits b).toNat - 1075) (by rw [toNat_implicit_append]; omega) := by
  have hunpack : UnpackedFloat.unpack Format.binary64 b =
      if exponentBits b = -1#11 then
        if mantissaBits b = 0#52 then .infinity (Sign.ofBitVec (signBits b)) else .notANumber
      else if exponentBits b = 0#11 then
        if h : mantissaBits b = 0#52 then .zero (Sign.ofBitVec (signBits b))
        else .finite (Sign.ofBitVec (signBits b)) (mantissaBits b).toNat
          ((exponentBits b).toNat - 1075 + 1)
          (by simpa [BitVec.toNat_pos, BitVec.pos_iff_ne_zero] using h)
      else .finite (Sign.ofBitVec (signBits b)) (1#1 ++ mantissaBits b).toNat
        ((exponentBits b).toNat - 1075) (by rw [toNat_implicit_append]; omega) := rfl
  rw [hunpack]
  split
  · rfl
  · split
    case isTrue hzero =>
      simp only [hzero]
      rfl
    · rfl

theorem pack_unpack (f : Float.Model) : Float.Model.pack f.unpack = f := by
  obtain ⟨bits, hvalid⟩ := f
  have hbits := packComponents_bits bits.toBitVec
  have hpack : UnpackedFloat.pack Format.binary64
      (UnpackedFloat.unpack Format.binary64 bits.toBitVec) = bits.toBitVec := by
    have hnan := hvalid.eq_packedNaN
    generalize bits.toBitVec = b at hbits hnan ⊢
    rw [unpack_bits]
    split
    case isTrue he =>
      split
      case isTrue hm =>
        rw [he, hm] at hbits
        exact hbits
      case isFalse hm => exact (hnan he hm).symm
    case isFalse he =>
      split
      case isTrue hzero =>
        split
        case isTrue hm =>
          rw [hzero, hm] at hbits
          exact hbits
        case isFalse hm =>
          rw [pack_subnormal _ _ (mantissaBits b).isLt, BitVec.ofNat_toNat, BitVec.setWidth_eq,
            ← hzero]
          exact hbits
      case isFalse hzero =>
        have hlt := (mantissaBits b).isLt
        have hfull : Full (1#1 ++ mantissaBits b).toNat := by
          rw [toNat_implicit_append]
          constructor <;> omega
        have hones : (exponentBits b).toNat ≠ 2047 := by
          intro heq
          exact he (BitVec.eq_of_toNat_eq heq)
        have hshort := (exponentBits b).isLt
        have hmantissa : BitVec.ofNat 52 (1#1 ++ mantissaBits b).toNat = mantissaBits b := by
          apply BitVec.eq_of_toNat_eq
          rw [toNat_implicit_append, BitVec.toNat_ofNat]
          omega
        rw [pack_full (b := (exponentBits b).toNat) _ hfull (by omega) (by omega), hmantissa,
          BitVec.ofNat_toNat, BitVec.setWidth_eq]
        exact hbits
  rw [Float.Model.pack, Float.Model.unpack, Float.Model.mk.injEq]
  exact congrArg UInt64.ofBitVec hpack

theorem eq_of_parts {x y : Float} (hparts : parts x = parts y) : x = y := by
  have hmodel := congrArg Float.Model.pack hparts
  rw [parts, parts, pack_unpack, pack_unpack] at hmodel
  obtain ⟨f⟩ := x
  obtain ⟨g⟩ := y
  exact congrArg Float.ofModel hmodel

def isNegative : Sign → Bool
  | .negative => true
  | .positive => false

/-- The same parts with the mantissa of zero. -/
def binary : UnpackedFloat → Decimal.Binary
  | .notANumber => .nan
  | .infinity s => .infinite (isNegative s)
  | .zero s => .finite (isNegative s) 0 (-1074)
  | .finite s m e _ => .finite (isNegative s) m e

theorem isNegative_signBits (b : BitVec 64) :
    isNegative (Sign.ofBitVec (signBits b)) = (b.toNat >>> 63 == 1) := by
  rw [← toNat_signBits]
  generalize signBits b = s
  revert s
  decide

theorem ofFloat_eq_binary (x : Float) : Decimal.Binary.ofFloat x = binary (parts x) := by
  have hunpack := unpack_bits x.toBits.toBitVec
  have hparts : parts x = UnpackedFloat.unpack Format.binary64 x.toBits.toBitVec := rfl
  have hbits : x.toBits.toNat = x.toBits.toBitVec.toNat := rfl
  rw [hparts]
  simp only [Decimal.Binary.ofFloat, hbits]
  generalize x.toBits.toBitVec = b at hunpack ⊢
  have hmantissa : b.toNat % 1 <<< 52 = (mantissaBits b).toNat := by
    rw [toNat_mantissaBits]
    rfl
  rw [hunpack, hmantissa, ← toNat_exponentBits, ← isNegative_signBits]
  have hones : (exponentBits b).toNat = 2047 ↔ exponentBits b = -1#11 := by
    rw [← BitVec.toNat_inj]
    rfl
  have hnone : (exponentBits b).toNat = 0 ↔ exponentBits b = 0#11 := by
    rw [← BitVec.toNat_inj]
    rfl
  have hzero : (mantissaBits b).toNat = 0 ↔ mantissaBits b = 0#52 := by
    rw [← BitVec.toNat_inj]
    rfl
  simp only [beq_iff_eq, hones, hnone, hzero]
  split
  · split
    · rfl
    · rfl
  · split
    · split
      case isTrue hm =>
        rw [hzero.mpr hm]
        rfl
      · rfl
    · rw [binary, toNat_implicit_append, Nat.add_comm]
      rfl

theorem canonical_of_parts {x : Float} {s : Sign} {m : Nat} {e : Int} {hpos : 0 < m}
    (hx : parts x = .finite s m e hpos) : Canonical m e := by
  have hparts : parts x = UnpackedFloat.unpack Format.binary64 x.toBits.toBitVec := rfl
  rw [hparts, unpack_bits] at hx
  generalize x.toBits.toBitVec = b at hx
  have hlt := (mantissaBits b).isLt
  have hshort := (exponentBits b).isLt
  have hsum := toNat_implicit_append (mantissaBits b)
  split at hx
  · split at hx <;> cases hx
  case isFalse hones =>
    have hne : (exponentBits b).toNat ≠ 2047 := by
      intro heq
      exact hones (BitVec.eq_of_toNat_eq heq)
    split at hx
    · split at hx
      · cases hx
      · cases hx
        exact ⟨hpos, by omega, by omega, by omega, .inr rfl⟩
    case isFalse hzero =>
      have hpositive : (exponentBits b).toNat ≠ 0 := by
        intro heq
        exact hzero (BitVec.eq_of_toNat_eq heq)
      cases hx
      exact ⟨hpos, by omega, by omega, by omega, .inl (by omega)⟩

end HeaterHost.Double
