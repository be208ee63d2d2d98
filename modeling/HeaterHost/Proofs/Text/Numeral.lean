import HeaterHost.Text.Numeral

/-!
# Whole numbers as texts

Which texts stand for a whole number, and for which: digits, at least one, after a sign or none.
-/

namespace HeaterHost.Text

/-- A row of digits and the number that it stands for. -/
structure Numeral (cs : List Char) (n : Nat) : Prop where
  ne_nil : cs ≠ []
  digits : ∀ c ∈ cs, c.isDigit = true
  value : Nat.ofDigitChars 10 cs 0 = n

theorem digits?_eq_some_iff {cs : List Char} {acc n : Nat} :
    digits? acc cs = some n ↔ (∀ c ∈ cs, c.isDigit = true) ∧ Nat.ofDigitChars 10 cs acc = n := by
  induction cs generalizing acc with
  | nil => simp [digits?]
  | cons c cs ih =>
      rw [digits?, digit?, Nat.ofDigitChars_cons, List.forall_mem_cons]
      split
      case isTrue hc =>
        rw [Option.bind_some, ih]
        exact ⟨fun ⟨hrest, hvalue⟩ => ⟨⟨hc, hrest⟩, hvalue⟩, fun ⟨⟨_, hrest⟩, hvalue⟩ => ⟨hrest, hvalue⟩⟩
      case isFalse hc =>
        simp [hc]

theorem natural?_eq_some_iff {cs : List Char} {n : Nat} :
    natural? cs = some n ↔ Numeral cs n := by
  cases cs with
  | nil => exact ⟨nofun, fun hn => absurd rfl hn.ne_nil⟩
  | cons c cs =>
      rw [natural?, digits?_eq_some_iff]
      exact ⟨fun hn => ⟨List.cons_ne_nil c cs, hn.1, hn.2⟩, fun hn => ⟨hn.digits, hn.value⟩⟩

theorem numeral_repr (n : Nat) : Numeral (Nat.repr n).toList n := by
  rw [Nat.toList_repr]
  refine ⟨Nat.toDigits_ne_nil, ?_, Nat.ofDigitChars_ten_toDigits⟩
  intro c hc
  exact Nat.isDigit_of_mem_toDigits (by decide) (by decide) hc

/-- Texts for unsigned numbers: a plus sign is not needed. -/
inductive Unsigned : List Char → Nat → Prop
  | bare {cs : List Char} {n : Nat} (hn : Numeral cs n) : Unsigned cs n
  | plus {cs : List Char} {n : Nat} (hn : Numeral cs n) : Unsigned ('+' :: cs) n

inductive Signed : List Char → Int → Prop
  | nonneg {cs : List Char} {n : Nat} (hn : Unsigned cs n) : Signed cs n
  | minus {cs : List Char} {n : Nat} (hn : Numeral cs n) : Signed ('-' :: cs) (-n)

theorem Numeral.head_isDigit {c : Char} {cs : List Char} {n : Nat} (hn : Numeral (c :: cs) n) :
    c.isDigit = true :=
  hn.digits c List.mem_cons_self

theorem Signed.ne_nil {cs : List Char} {n : Int} (hn : Signed cs n) : cs ≠ [] := by
  rintro rfl
  cases hn with
  | nonneg hn =>
      cases hn with
      | bare hn => exact hn.ne_nil rfl

theorem unsigned?_eq_some_iff {bound : Nat} {cs : List Char} {n : Nat} :
    unsigned? bound cs = some n ↔ Unsigned cs n ∧ n < bound := by
  unfold unsigned?
  split
  case h_1 rest =>
    rw [Option.filter_eq_some_iff, natural?_eq_some_iff, decide_eq_true_eq]
    refine and_congr_left fun _ => ⟨.plus, fun hn => ?_⟩
    cases hn with
    | bare hn => cases hn.head_isDigit
    | plus hn => exact hn
  case h_2 hplus =>
    rw [Option.filter_eq_some_iff, natural?_eq_some_iff, decide_eq_true_eq]
    refine and_congr_left fun _ => ⟨.bare, fun hn => ?_⟩
    cases hn with
    | bare hn => exact hn
    | plus hn => exact absurd rfl (hplus _)

theorem signed?_minus (bound : Nat) (rest : List Char) :
    signed? bound ('-' :: rest) =
      ((natural? rest).filter (· ≤ bound)).map fun n : Nat => -(n : Int) := by
  simp only [signed?]
  cases (natural? rest).filter (· ≤ bound) <;> rfl

theorem signed?_of_no_minus {cs : List Char} (hminus : ∀ rest, cs ≠ '-' :: rest) (bound : Nat) :
    signed? bound cs = (unsigned? bound cs).map fun n : Nat => (n : Int) := by
  unfold signed?
  split
  case h_1 rest => exact absurd rfl (hminus rest)
  case h_2 => cases unsigned? bound cs <;> rfl

theorem signed?_eq_some_iff {bound : Nat} (hbound : 0 < bound) {cs : List Char} {n : Int} :
    signed? bound cs = some n ↔ Signed cs n ∧ -bound ≤ n ∧ n < bound := by
  by_cases hminus : ∃ rest, cs = '-' :: rest
  · obtain ⟨rest, rfl⟩ := hminus
    rw [signed?_minus, Option.map_eq_some_iff]
    simp only [Option.filter_eq_some_iff, natural?_eq_some_iff, decide_eq_true_eq]
    constructor
    · rintro ⟨k, ⟨hk, hle⟩, rfl⟩
      exact ⟨.minus hk, by omega, by omega⟩
    · rintro ⟨hn, hlow, -⟩
      cases hn with
      | nonneg hn =>
          cases hn with
          | bare hn => cases hn.head_isDigit
      | @minus _ k hk => exact ⟨k, ⟨hk, by omega⟩, rfl⟩
  · rw [signed?_of_no_minus (not_exists.mp hminus), Option.map_eq_some_iff]
    simp only [unsigned?_eq_some_iff]
    constructor
    · rintro ⟨k, ⟨hk, hlt⟩, rfl⟩
      exact ⟨.nonneg hk, by omega, by omega⟩
    · rintro ⟨hn, -, hlt⟩
      cases hn with
      | @nonneg _ k hk => exact ⟨k, ⟨hk, by omega⟩, rfl⟩
      | minus hk => exact absurd ⟨_, rfl⟩ hminus

theorem unsigned_repr (n : Nat) : Unsigned (Nat.repr n).toList n :=
  .bare (numeral_repr n)

theorem signed_toString (n : Int) : Signed (toString n).toList n := by
  rw [Int.toString_eq_repr, Int.repr_eq_if]
  split
  case isTrue hn =>
    have hsigned : Signed (Nat.repr n.toNat).toList (n.toNat : Int) := .nonneg (unsigned_repr _)
    rwa [Int.toNat_of_nonneg hn] at hsigned
  case isFalse hn =>
    have hvalue : -((-n).toNat : Int) = n := by omega
    have hsigned : Signed ('-' :: (Nat.repr (-n).toNat).toList) (-((-n).toNat : Int)) :=
      .minus (numeral_repr _)
    rw [hvalue] at hsigned
    rw [String.toList_append]
    exact hsigned

end HeaterHost.Text
