import HeaterHost.Decimal.Notation
import HeaterHost.Decimal.Reading
import HeaterHost.Proofs.Decimal.Shortest
import HeaterHost.Proofs.Text.Numeral

/-!
# Reading written numbers

Every way of writing a number is read back as the digits and the scale that were written.
-/

namespace HeaterHost.Decimal

open Text

/-! ### Digits with zeros around them -/

theorem numeral_padded {cs : List Char} {n : Nat} (hn : Numeral cs n) (k : Nat) :
    Numeral (List.replicate k '0' ++ cs) n := by
  refine ⟨by simp [hn.ne_nil], ?_, ?_⟩
  · intro c hc
    rcases List.mem_append.mp hc with hzero | hdigit
    · rw [List.eq_of_mem_replicate hzero]
      rfl
    · exact hn.digits c hdigit
  · rw [Nat.ofDigitChars_append, Nat.ofDigitChars_replicate_zero, Nat.mul_zero]
    exact hn.value

theorem numeral_scaled {cs : List Char} {n : Nat} (hn : Numeral cs n) (k : Nat) :
    Numeral (cs ++ List.replicate k '0') (10 ^ k * n) := by
  refine ⟨by simp [hn.ne_nil], ?_, ?_⟩
  · intro c hc
    rcases List.mem_append.mp hc with hdigit | hzero
    · exact hn.digits c hdigit
    · rw [List.eq_of_mem_replicate hzero]
      rfl
  · rw [Nat.ofDigitChars_append, hn.value, Nat.ofDigitChars_replicate_zero]

/-! ### Numbers without a sign -/

theorem span_digits {whole : List Char} (rest : List Char) (hwhole : ∀ c ∈ whole, c.isDigit = true)
    (hrest : ∀ c ∈ rest.head?, c.isDigit = false) :
    (whole ++ rest).takeWhile Char.isDigit = whole ∧
      (whole ++ rest).dropWhile Char.isDigit = rest := by
  rw [List.takeWhile_append_of_pos hwhole, List.dropWhile_append_of_pos hwhole]
  cases rest with
  | nil => simp
  | cons c cs => simp [hrest c rfl]

/-- What may follow the digits of a number: nothing, or an exponent. -/
inductive Tail : List Char → Int → Prop
  | nil : Tail [] 0
  | exponent (power : Int) : Tail ('e' :: (toString power).toList) power

theorem exponent?_digits {cs : List Char} {n : Nat} (hn : Numeral cs n) :
    exponent? ('e' :: cs) = some (n : Int) := by
  have hread := natural?_eq_some_iff.mpr hn
  simp only [exponent?]
  split
  · exact absurd hn.head_isDigit (by decide)
  · exact absurd hn.head_isDigit (by decide)
  · rw [hread]
    rfl

theorem exponent?_minus {cs : List Char} {n : Nat} (hn : Numeral cs n) :
    exponent? ('e' :: '-' :: cs) = some (-(n : Int)) := by
  have hread := natural?_eq_some_iff.mpr hn
  simp only [exponent?, hread]
  rfl

namespace Tail

variable {tail : List Char} {power : Int}

theorem exponent?_eq (htail : Tail tail power) : exponent? tail = some power := by
  cases htail with
  | nil => rfl
  | exponent =>
      rw [Int.toString_eq_repr, Int.repr_eq_if]
      split
      case isTrue hnonneg =>
        rw [exponent?_digits (numeral_repr _), Int.toNat_of_nonneg hnonneg]
      case isFalse hneg =>
        have htext : ("-" ++ Nat.repr (-power).toNat).toList =
            '-' :: (Nat.repr (-power).toNat).toList := by
          rw [String.toList_append]
          rfl
        rw [htext, exponent?_minus (numeral_repr _)]
        congr 1
        omega

theorem head_not_digit (htail : Tail tail power) : ∀ c ∈ tail.head?, c.isDigit = false := by
  cases htail with
  | nil => simp
  | exponent => simp

end Tail

theorem magnitude?_whole {whole tail : List Char} {n : Nat} {power : Int} (hn : Numeral whole n)
    (htail : Tail tail power) : magnitude? (whole ++ tail) = some (toFloat n power) := by
  obtain ⟨htake, hdrop⟩ := span_digits tail hn.digits htail.head_not_digit
  have hread := natural?_eq_some_iff.mpr hn
  unfold magnitude?
  rw [htake, hdrop]
  cases htail with
  | nil => simp [hread, exponent?]
  | exponent =>
      have hpower : exponent? ('e' :: power.repr.toList) = some power :=
        (Tail.exponent power).exponent?_eq
      simp [hread, hpower]

theorem magnitude?_point {whole fraction tail : List Char} {n : Nat} {power : Int}
    (hn : Numeral (whole ++ fraction) n) (htail : Tail tail power) :
    magnitude? (whole ++ '.' :: (fraction ++ tail)) =
      some (toFloat n (power - fraction.length)) := by
  obtain ⟨hwhole, hfraction⟩ := List.forall_mem_append.mp hn.digits
  obtain ⟨htake, hdrop⟩ := span_digits ('.' :: (fraction ++ tail)) hwhole (by simp)
  obtain ⟨htake', hdrop'⟩ := span_digits tail hfraction htail.head_not_digit
  have hread := natural?_eq_some_iff.mpr hn
  simp only [magnitude?, htake, hdrop, htake', hdrop', hread, htail.exponent?_eq]

/-! ### Signs -/

/-- A text that starts with a digit, and is read as a number without a sign. -/
structure Written (text : String) (x : Float) : Prop where
  first : ∃ c rest, text.toList = c :: rest ∧ c.isDigit = true
  value : magnitude? text.toList = some x

theorem toLower_of_isDigit {c : Char} (hc : c.isDigit = true) : c.toLower = c := by
  simp only [Char.isDigit, Bool.and_eq_true, decide_eq_true_eq] at hc
  unfold Char.toLower
  rw [dif_neg]
  rintro ⟨hlow, -⟩
  exact absurd (UInt32.le_trans hlow hc.2) (by decide)

theorem named?_of_isDigit {c : Char} (hc : c.isDigit = true) (rest : List Char) :
    named? (c :: rest) = none := by
  have hfirst : ∀ name : String, ∀ d cs, name.toList = d :: cs → d.isDigit = false →
      String.ofList ((c :: rest).map Char.toLower) ≠ name := by
    intro name d cs hname hd heq
    rw [← heq, String.toList_ofList, List.map_cons, toLower_of_isDigit hc] at hname
    cases hname
    rw [hc] at hd
    cases hd
  unfold named?
  split
  case h_1 heq => exact absurd heq (hfirst _ 'i' _ rfl rfl)
  case h_2 heq => exact absurd heq (hfirst _ 'i' _ rfl rfl)
  case h_3 heq => exact absurd heq (hfirst _ 'n' _ rfl rfl)
  case h_4 => rfl

theorem read?_signed {text : String} {x : Float} (hx : Written text x) (negative : Bool) :
    read? (signed negative text) = some (if negative then -x else x) := by
  obtain ⟨⟨c, rest, htext, hdigit⟩, hread⟩ := hx
  have hnamed := named?_of_isDigit hdigit rest
  rw [htext] at hread
  cases negative with
  | true =>
      have hminus : (signed true text).toList = '-' :: c :: rest := by
        rw [signed, if_pos rfl, String.toList_append, htext]
        rfl
      simp only [read?, hminus, hnamed, hread]
      rfl
  | false =>
      have hplain : (signed false text).toList = c :: rest := htext
      unfold read?
      rw [hplain]
      split
      case _ negative cs hsplit =>
        split at hsplit
        case _ heq =>
          cases heq
          cases hdigit
        case _ heq =>
          cases heq
          cases hdigit
        case _ =>
          cases hsplit
          rw [hnamed, hread]
          rfl

/-! ### Fixed places -/

/-- A row of digits that is longer than its places. -/
def padded (places n : Nat) : List Char :=
  List.replicate (places + 1 - digitCount n) '0' ++ (Nat.repr n).toList

theorem toList_padded (places n : Nat) :
    (zeros (places + 1 - (Nat.repr n).length) ++ Nat.repr n).toList = padded places n := by
  rw [String.toList_append, zeros, String.toList_ofList]
  rfl

theorem places_lt_length (places n : Nat) : places < (padded places n).length := by
  rw [padded, List.length_append, List.length_replicate, String.length_toList]
  unfold digitCount
  omega

theorem numeral_padding (places n : Nat) : Numeral (padded places n) n :=
  numeral_padded (numeral_repr n) _

/-- Digits that are cut in front of the last `places` of them. -/
theorem written_cut {text : String} {places n : Nat}
    (htext : text.toList = (padded places n).take ((padded places n).length - places) ++
      '.' :: (padded places n).drop ((padded places n).length - places)) :
    Written text (toFloat n (-places)) := by
  have hlength := places_lt_length places n
  have hnumeral := numeral_padding places n
  generalize padded places n = digits at htext hlength hnumeral
  have hfraction : ((digits.drop (digits.length - places)).length : Int) = places := by
    rw [List.length_drop]
    omega
  constructor
  · cases digits with
    | nil => exact absurd rfl hnumeral.ne_nil
    | cons c rest =>
        obtain ⟨k, hk⟩ : ∃ k, (c :: rest).length - places = k + 1 :=
          ⟨(c :: rest).length - places - 1, by omega⟩
        rw [hk, List.take_succ_cons] at htext
        exact ⟨c, _, htext, hnumeral.head_isDigit⟩
  · rw [← List.take_append_drop (digits.length - places) digits] at hnumeral
    have hread := magnitude?_point hnumeral .nil
    rw [List.append_nil, hfraction, Int.zero_sub] at hread
    rw [htext, hread]

theorem written_digits {n : Nat} {cs : List Char} (hn : Numeral cs n) :
    Written (String.ofList cs) (toFloat n 0) := by
  constructor
  · cases cs with
    | nil => exact absurd rfl hn.ne_nil
    | cons c rest => exact ⟨c, rest, String.toList_ofList, hn.head_isDigit⟩
  · rw [String.toList_ofList, ← List.append_nil cs]
    exact magnitude?_whole hn .nil

theorem toList_point (before after : List Char) :
    (String.ofList before ++ "." ++ String.ofList after).toList = before ++ '.' :: after := by
  simp

theorem written_withPlaces (places n : Nat) :
    Written (withPlaces places n) (toFloat n (-places)) := by
  unfold withPlaces
  dsimp only
  split
  case isTrue hplaces =>
    obtain rfl : places = 0 := by simpa using hplaces
    rw [toList_padded, Nat.sub_zero, ← String.length_toList, toList_padded, List.take_length]
    exact written_digits (numeral_padding 0 n)
  case isFalse =>
    apply written_cut
    rw [toList_point, ← String.length_toList, toList_padded]

/-! ### Precise notation -/

theorem written_whole {d : Digits} {k : Nat} (hscale : d.scale = k) (hd : d.digits ≠ 0) :
    Written (positional d true) (toFloat (10 ^ (k + 1) * d.digits) (-1)) := by
  have hnumeral := numeral_scaled (numeral_repr d.digits) (k + 1)
  rw [List.replicate_succ', ← List.append_assoc] at hnumeral
  have htext : (positional d true).toList =
      ((Nat.repr d.digits).toList ++ List.replicate k '0') ++ '.' :: (['0'] ++ []) := by
    have hzero : (d.digits == 0) = false := beq_eq_false_iff_ne.mpr hd
    simp [positional, hscale, hzero, zeros]
  constructor
  · obtain ⟨c, rest, hdigits⟩ := List.exists_cons_of_ne_nil (numeral_repr d.digits).ne_nil
    refine ⟨c, rest ++ List.replicate k '0' ++ ['.', '0'], ?_,
      (numeral_repr d.digits).digits c (by simp [hdigits])⟩
    rw [htext, hdigits]
    simp
  · have hread := magnitude?_point hnumeral .nil
    rw [List.length_singleton, Int.natCast_one, Int.zero_sub] at hread
    rw [htext, hread]

theorem written_places {d : Digits} {k : Nat} (hscale : d.scale = Int.negSucc k)
    (wholePoint : Bool) : Written (positional d wholePoint) (toFloat d.digits d.scale) := by
  have hwritten := written_withPlaces (k + 1) d.digits
  have htext : positional d wholePoint = withPlaces (k + 1) d.digits := by
    simp [positional, withPlaces, hscale]
  rw [htext, hscale]
  exact hwritten

theorem written_scientific (d : Digits) : Written (scientific d) (toFloat d.digits d.scale) := by
  have hnumeral := numeral_repr d.digits
  unfold scientific
  dsimp only
  generalize (Nat.repr d.digits).toList = text at hnumeral
  cases text with
  | nil => exact absurd rfl hnumeral.ne_nil
  | cons c tail =>
      generalize hpower : d.scale + ((c :: tail).length - 1 : Nat) = power
      rw [List.length_cons, Nat.add_sub_cancel] at hpower
      cases tail with
      | nil =>
          have htext : (String.ofList ((c :: []).take 1 ++
              if (List.drop 1 [c]).isEmpty then [] else '.' :: List.drop 1 [c]) ++ "e" ++
                toString power).toList = [c] ++ 'e' :: (toString power).toList := by
            simp
          have hscale : power = d.scale := by simpa using hpower.symm
          refine ⟨⟨c, _, htext, hnumeral.head_isDigit⟩, ?_⟩
          rw [htext, magnitude?_whole hnumeral (.exponent power), hscale]
      | cons next rest =>
          have htext : (String.ofList ((c :: next :: rest).take 1 ++
              if (List.drop 1 (c :: next :: rest)).isEmpty then []
              else '.' :: List.drop 1 (c :: next :: rest)) ++ "e" ++ toString power).toList =
                [c] ++ '.' :: ((next :: rest) ++ 'e' :: (toString power).toList) := by
            simp
          have hscale : power - (next :: rest).length = d.scale := by omega
          refine ⟨⟨c, _, htext, hnumeral.head_isDigit⟩, ?_⟩
          rw [htext, magnitude?_point hnumeral (.exponent power), hscale]

/-- A number other than zero is read back as digits and a scale of the same value. -/
theorem written_precise {d : Digits} (hd : d.digits ≠ 0) :
    ∃ (n : Nat) (scale : Int), (n : ℚ) * 10 ^ scale = d.value ∧
      Written (Style.precise.render d) (toFloat n scale) := by
  unfold Style.render
  dsimp only
  split
  · exact ⟨_, _, rfl, written_scientific d⟩
  · cases hscale : d.scale with
    | ofNat k =>
        refine ⟨_, _, ?_, written_whole hscale hd⟩
        rw [Digits.value, hscale, Int.ofNat_eq_natCast, zpow_natCast]
        push_cast
        rw [zpow_neg_one, pow_succ]
        field_simp
    | negSucc k => exact ⟨_, _, rfl, written_places hscale _⟩

end HeaterHost.Decimal
