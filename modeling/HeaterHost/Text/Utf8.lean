/-!
Reading text from bytes that need not be UTF-8: where they are not, a replacement character stands
for as many bytes as could have begun a character.
-/

namespace HeaterHost.Text.Utf8

def replacement : Char := '\uFFFD'

/-- What the first byte of a character says of it: how many bytes follow, the bounds of the next
one, and the bits it gives. -/
structure Lead where
  following : Nat
  least : Nat
  greatest : Nat
  bits : Nat

def lead? (b : Nat) : Option Lead :=
  if b < 0x80 then some ⟨0, 0, 0, b⟩
  else if b < 0xC2 then none
  else if b < 0xE0 then some ⟨1, 0x80, 0xBF, b - 0xC0⟩
  else if b < 0xF0 then
    some ⟨2, if b == 0xE0 then 0xA0 else 0x80, if b == 0xED then 0x9F else 0xBF, b - 0xE0⟩
  else if b < 0xF5 then
    some ⟨3, if b == 0xF0 then 0x90 else 0x80, if b == 0xF4 then 0x8F else 0xBF, b - 0xF0⟩
  else none

/-- Reads the bytes that follow the first, of which the next has bounds of its own. Gives the
character, or the replacement, and what is left. -/
def tail (bits least greatest : Nat) : (following : Nat) → List UInt8 → Char × List UInt8
  | 0, bytes => (Char.ofNat bits, bytes)
  | _ + 1, [] => (replacement, [])
  | following + 1, b :: bytes =>
      if least ≤ b.toNat && b.toNat ≤ greatest then
        tail (0x40 * bits + (b.toNat - 0x80)) 0x80 0xBF following bytes
      else (replacement, b :: bytes)

theorem length_tail_le (bits least greatest following : Nat) (bytes : List UInt8) :
    (tail bits least greatest following bytes).2.length ≤ bytes.length := by
  fun_induction tail bits least greatest following bytes with
  | case1 => simp
  | case2 => simp
  | case3 _ _ _ _ _ _ _ ih => exact Nat.le_succ_of_le ih
  | case4 => simp

/-- The first character of bytes that start with `b`, and the bytes after it. -/
def character (b : UInt8) (bytes : List UInt8) : Char × List UInt8 :=
  match lead? b.toNat with
  | none => (replacement, bytes)
  | some lead => tail lead.bits lead.least lead.greatest lead.following bytes

theorem length_character_le (b : UInt8) (bytes : List UInt8) :
    (character b bytes).2.length ≤ bytes.length := by
  unfold character
  split
  · exact Nat.le_refl _
  · exact length_tail_le ..

def decode : List UInt8 → List Char
  | [] => []
  | b :: bytes => (character b bytes).1 :: decode (character b bytes).2
termination_by bytes => bytes.length
decreasing_by exact Nat.lt_succ_of_le (length_character_le b bytes)

end HeaterHost.Text.Utf8
