import HeaterHost.Text.Utf8

/-!
# The bytes of a text

A text goes over a wire as the bytes of its characters. They are read back as the same text, and a
zero byte stands for nothing but the zero character.
-/

namespace HeaterHost.Text

def bytes (s : String) : List UInt8 :=
  s.toUTF8.toList

theorem toList_loop_eq (b : ByteArray) (i : Nat) (acc : List UInt8) :
    ByteArray.toList.loop b i acc = acc.reverse ++ b.data.toList.drop i := by
  induction hleft : b.size - i generalizing i acc with
  | zero =>
      unfold ByteArray.toList.loop
      rw [if_neg (by omega), List.drop_eq_nil_of_le, List.append_nil]
      rw [Array.length_toList]
      change b.size ≤ i
      omega
  | succ left ih =>
      have hlt : i < b.size := by omega
      have hlength : i < b.data.toList.length := by
        rw [Array.length_toList]
        exact hlt
      have hget : b.get! i = b.data.toList[i] := by
        rw [Array.getElem_toList]
        exact getElem!_pos b.data i hlt
      unfold ByteArray.toList.loop
      rw [if_pos hlt, ih (i + 1) _ (by omega), List.reverse_cons, List.append_assoc,
        List.drop_eq_getElem_cons hlength, hget]
      rfl

theorem toList_eq (b : ByteArray) : b.toList = b.data.toList := by
  rw [ByteArray.toList, toList_loop_eq]
  rfl

theorem bytes_eq (s : String) : bytes s = s.toList.flatMap String.utf8EncodeChar := by
  have hencode : s.toByteArray = (s.toList.flatMap String.utf8EncodeChar).toByteArray := by
    rw [← String.utf8Encode_toList]
    rfl
  rw [bytes, toList_eq, String.toUTF8_eq_toByteArray, hencode, List.data_toByteArray]

@[simp] theorem bytes_append (s t : String) : bytes (s ++ t) = bytes s ++ bytes t := by
  rw [bytes_eq, bytes_eq, bytes_eq, String.toList_append, List.flatMap_append]

theorem fromUTF8?_bytes (s : String) : String.fromUTF8? ⟨(bytes s).toArray⟩ = some s := by
  have hback : (⟨(bytes s).toArray⟩ : ByteArray) = s.toByteArray := by
    rw [bytes, toList_eq, String.toUTF8_eq_toByteArray, Array.toArray_toList]
  rw [hback, String.fromUTF8?, dif_pos s.isValidUTF8]
  rfl

theorem bytes_injective {s t : String} (heq : bytes s = bytes t) : s = t := by
  have hread := fromUTF8?_bytes s
  rw [heq, fromUTF8?_bytes] at hread
  exact (Option.some.inj hread).symm

theorem toNat_val_lt (c : Char) : c.val.toNat < 0x110000 := by
  have hvalid := c.valid
  simp only [UInt32.isValidChar, Nat.isValidChar] at hvalid
  omega

/-- A character of ASCII is one byte, and every byte of a longer encoding has its top bit set. -/
theorem utf8EncodeChar_cases (c : Char) :
    (c.val.toNat < 128 ∧ String.utf8EncodeChar c = [UInt8.ofNat c.val.toNat]) ∨
      (128 ≤ c.val.toNat ∧ ∀ b ∈ String.utf8EncodeChar c, 128 ≤ b.toNat) := by
  have hbound := toNat_val_lt c
  simp only [String.utf8EncodeChar]
  split
  case isTrue hshort => exact .inl ⟨by omega, rfl⟩
  case isFalse hlong =>
    refine .inr ⟨by omega, ?_⟩
    split
    · simp only [List.mem_cons, List.not_mem_nil, or_false, forall_eq_or_imp, forall_eq,
        UInt8.toNat_ofNat']
      omega
    · split
      · simp only [List.mem_cons, List.not_mem_nil, or_false, forall_eq_or_imp, forall_eq,
          UInt8.toNat_ofNat']
        omega
      · simp only [List.mem_cons, List.not_mem_nil, or_false, forall_eq_or_imp, forall_eq,
          UInt8.toNat_ofNat']
        omega

section ascii

variable (mark : Char) (hmark : mark.val.toNat < 128)

include hmark

theorem utf8EncodeChar_of_ascii : String.utf8EncodeChar mark = [UInt8.ofNat mark.val.toNat] := by
  rcases utf8EncodeChar_cases mark with ⟨-, heq⟩ | ⟨hlong, -⟩
  · exact heq
  · omega

theorem mem_utf8EncodeChar_iff {c : Char} :
    UInt8.ofNat mark.val.toNat ∈ String.utf8EncodeChar c ↔ c = mark := by
  have hval : c = mark ↔ c.val.toNat = mark.val.toNat := by
    rw [Char.ext_iff, ← UInt32.toNat_inj]
  rw [hval]
  rcases utf8EncodeChar_cases c with ⟨hshort, heq⟩ | ⟨hlong, hbytes⟩
  · rw [heq, List.mem_singleton, ← UInt8.toNat_inj, UInt8.toNat_ofNat', UInt8.toNat_ofNat']
    omega
  · refine iff_of_false ?_ (by omega)
    intro hmem
    have hbyte := hbytes _ hmem
    rw [UInt8.toNat_ofNat'] at hbyte
    omega

/-- A byte of ASCII stands for its character wherever it is found. -/
theorem getElem?_encoded_iff (cs : List Char) (place : Nat) :
    (cs.flatMap String.utf8EncodeChar)[place]? = some (UInt8.ofNat mark.val.toNat) ↔
      ∃ before after, cs = before ++ mark :: after ∧
        (before.flatMap String.utf8EncodeChar).length = place := by
  induction cs generalizing place with
  | nil => simp
  | cons c cs ih =>
      rw [List.flatMap_cons]
      rcases Nat.lt_or_ge place (String.utf8EncodeChar c).length with hlt | hge
      · rw [List.getElem?_append_left hlt]
        constructor
        · intro hget
          obtain rfl : mark = c :=
            ((mem_utf8EncodeChar_iff mark hmark).mp (List.mem_of_getElem? hget)).symm
          rw [utf8EncodeChar_of_ascii mark hmark, List.length_singleton] at hlt
          exact ⟨[], cs, rfl, (Nat.lt_one_iff.mp hlt).symm⟩
        · rintro ⟨_ | ⟨_, before⟩, after, heq, hplace⟩ <;> cases heq
          · subst hplace
            rw [utf8EncodeChar_of_ascii mark hmark]
            rfl
          · rw [List.flatMap_cons, List.length_append] at hplace
            omega
      · rw [List.getElem?_append_right hge, ih]
        constructor
        · rintro ⟨before, after, rfl, hplace⟩
          refine ⟨c :: before, after, rfl, ?_⟩
          rw [List.flatMap_cons, List.length_append]
          omega
        · rintro ⟨_ | ⟨_, before⟩, after, heq, hplace⟩ <;> cases heq
          · have hpos := List.length_pos_of_mem ((mem_utf8EncodeChar_iff mark hmark).mpr rfl)
            rw [List.flatMap_nil, List.length_nil] at hplace
            omega
          · rw [List.flatMap_cons, List.length_append] at hplace
            exact ⟨before, after, rfl, by omega⟩

end ascii

theorem zero_mem_utf8EncodeChar_iff {c : Char} : 0 ∈ String.utf8EncodeChar c ↔ c = '\x00' :=
  mem_utf8EncodeChar_iff '\x00' (by decide)

theorem zero_mem_bytes_iff {s : String} : 0 ∈ bytes s ↔ '\x00' ∈ s.toList := by
  rw [bytes_eq, List.mem_flatMap]
  constructor
  · rintro ⟨c, hc, hzero⟩
    rwa [← zero_mem_utf8EncodeChar_iff.mp hzero]
  · intro hc
    exact ⟨'\x00', hc, zero_mem_utf8EncodeChar_iff.mpr rfl⟩

end HeaterHost.Text
