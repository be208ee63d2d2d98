import HeaterHost.Decimal.Notation
import HeaterHost.Proofs.Text.Cuts

/-!
# The characters of written numbers

Whatever the double and the style, its text consists of a handful of characters. None of them ends
a word, a command or a frame, so that numbers can stand in all three.
-/

namespace HeaterHost.Decimal

/-- The characters that numbers are written with. -/
def isNumeral (c : Char) : Bool :=
  c.isDigit || "-.Nainfe".toList.contains c

def AllNumeral (cs : List Char) : Prop :=
  ∀ c ∈ cs, isNumeral c = true

namespace AllNumeral

variable {cs ds : List Char}

theorem of_all (hcs : cs.all isNumeral = true) : AllNumeral cs :=
  List.all_eq_true.mp hcs

theorem append (hcs : AllNumeral cs) (hds : AllNumeral ds) : AllNumeral (cs ++ ds) := by
  intro c hc
  exact (List.mem_append.mp hc).elim (hcs c) (hds c)

theorem cons {c : Char} (hc : isNumeral c = true) (hcs : AllNumeral cs) : AllNumeral (c :: cs) :=
  List.forall_mem_cons.mpr ⟨hc, hcs⟩

theorem subset (hcs : AllNumeral cs) (hsub : ds ⊆ cs) : AllNumeral ds := by
  intro c hc
  exact hcs c (hsub hc)

theorem take (hcs : AllNumeral cs) (n : Nat) : AllNumeral (cs.take n) :=
  hcs.subset (List.take_subset n cs)

theorem drop (hcs : AllNumeral cs) (n : Nat) : AllNumeral (cs.drop n) :=
  hcs.subset (List.drop_subset n cs)

theorem nil : AllNumeral [] := by
  intro c hc
  cases hc

end AllNumeral

theorem isNumeral_toNat {c : Char} (hc : isNumeral c = true) :
    45 ≤ c.toNat ∧ c.toNat ≤ 110 ∧ c.toNat ≠ 59 := by
  simp only [isNumeral, Bool.or_eq_true, List.contains_iff_mem] at hc
  rcases hc with hdigit | hmem
  · simp only [Char.isDigit, Bool.and_eq_true, decide_eq_true_eq, ge_iff_le,
      UInt32.le_iff_toNat_le] at hdigit
    change 48 ≤ c.val.toNat ∧ c.val.toNat ≤ 57 at hdigit
    change 45 ≤ c.val.toNat ∧ c.val.toNat ≤ 110 ∧ c.val.toNat ≠ 59
    omega
  · have hall : "-.Nainfe".toList.all
        (fun d => 45 ≤ d.toNat ∧ d.toNat ≤ 110 ∧ d.toNat ≠ 59) = true := by
      decide
    exact of_decide_eq_true (List.all_eq_true.mp hall c hmem)

theorem isSolid_of_isNumeral {c : Char} (hc : isNumeral c = true) : Text.isSolid c = true := by
  obtain ⟨hlow, hhigh, hsemicolon⟩ := isNumeral_toNat hc
  have hblank : Text.isBlank c = false := by
    simp only [Text.isBlank, Bool.or_eq_false_iff, Bool.and_eq_false_iff, decide_eq_false_iff_not,
      beq_eq_false_iff_ne]
    omega
  have hmark : c ≠ ';' := by
    rintro rfl
    exact hsemicolon rfl
  have hzero : c ≠ '\x00' := by
    rintro rfl
    exact absurd hlow (by decide)
  simp [Text.isSolid, hblank, hmark, hzero]

theorem AllNumeral.solid {cs : List Char} (hcs : AllNumeral cs) (hne : cs ≠ []) :
    Text.Solid cs := by
  refine ⟨hne, ?_⟩
  intro c hc
  exact isSolid_of_isNumeral (hcs c hc)

theorem allNumeral_repr (n : Nat) : AllNumeral (Nat.repr n).toList := by
  intro c hc
  rw [Nat.toList_repr] at hc
  simp [isNumeral, Nat.isDigit_of_mem_toDigits (by decide) (by decide) hc]

theorem allNumeral_intRepr (n : Int) : AllNumeral (toString n).toList := by
  rw [Int.toString_eq_repr, Int.repr_eq_if]
  split
  · exact allNumeral_repr _
  · rw [String.toList_append]
    exact AllNumeral.append (.of_all (by decide)) (allNumeral_repr _)

theorem allNumeral_zeros (n : Nat) : AllNumeral (zeros n).toList := by
  intro c hc
  rw [zeros, String.toList_ofList] at hc
  rw [List.eq_of_mem_replicate hc]
  rfl

theorem allNumeral_signed (negative : Bool) {text : String} (htext : AllNumeral text.toList) :
    AllNumeral (signed negative text).toList := by
  unfold signed
  split
  · rw [String.toList_append]
    exact AllNumeral.append (.of_all (by decide)) htext
  · exact htext

theorem allNumeral_positional (d : Digits) (wholePoint : Bool) :
    AllNumeral (positional d wholePoint).toList := by
  have hpoint : AllNumeral ".0".toList := .of_all (by decide)
  have hdot : AllNumeral ".".toList := .of_all (by decide)
  unfold positional
  cases d.scale with
  | ofNat e =>
      have hwhole : AllNumeral (if d.digits == 0 then "0" else Nat.repr d.digits ++ zeros e).toList := by
        split
        · exact .of_all (by decide)
        · rw [String.toList_append]
          exact (allNumeral_repr _).append (allNumeral_zeros _)
      dsimp only
      split
      · rw [String.toList_append]
        exact hwhole.append hpoint
      · exact hwhole
  | negSucc e =>
      dsimp only
      have hpadded : AllNumeral
          (zeros (e + 1 + 1 - (Nat.repr d.digits).length) ++ Nat.repr d.digits).toList := by
        rw [String.toList_append]
        exact (allNumeral_zeros _).append (allNumeral_repr _)
      simp only [String.toList_append, String.toList_ofList] at hpadded ⊢
      exact ((hpadded.take _).append hdot).append (hpadded.drop _)

theorem allNumeral_scientific (d : Digits) : AllNumeral (scientific d).toList := by
  have htext := allNumeral_repr d.digits
  have he : AllNumeral "e".toList := .of_all (by decide)
  unfold scientific
  dsimp only
  rw [String.toList_append, String.toList_append, String.toList_ofList]
  refine AllNumeral.append (AllNumeral.append (AllNumeral.append (htext.take 1) ?_) he)
    (allNumeral_intRepr _)
  split
  · exact AllNumeral.nil
  · exact AllNumeral.cons rfl (htext.drop 1)

theorem allNumeral_text (style : Style) (x : Float) : AllNumeral (style.text x).toList := by
  unfold Style.text
  split
  · exact .of_all (by decide)
  · exact allNumeral_signed _ (.of_all (by decide))
  · refine allNumeral_signed _ ?_
    unfold Style.render
    dsimp only
    split
    · exact allNumeral_scientific _
    · exact allNumeral_positional _ _

theorem allNumeral_withPlaces (places n : Nat) : AllNumeral (withPlaces places n).toList := by
  have hdot : AllNumeral ".".toList := .of_all (by decide)
  have hpadded : AllNumeral (zeros (places + 1 - (Nat.repr n).length) ++ Nat.repr n).toList := by
    rw [String.toList_append]
    exact (allNumeral_zeros _).append (allNumeral_repr _)
  unfold withPlaces
  dsimp only
  split
  · rw [String.toList_ofList]
    exact hpadded.take _
  · simp only [String.toList_append, String.toList_ofList] at hpadded ⊢
    exact ((hpadded.take _).append hdot).append (hpadded.drop _)

theorem allNumeral_fixed (places : Nat) (x : Float) : AllNumeral (fixed places x).toList := by
  unfold fixed
  split
  · exact .of_all (by decide)
  · exact allNumeral_signed _ (.of_all (by decide))
  · exact allNumeral_signed _ (allNumeral_withPlaces _ _)

/-! ### Numbers are never empty -/

theorem signed_ne_nil (negative : Bool) {text : String} (htext : text.toList ≠ []) :
    (signed negative text).toList ≠ [] := by
  unfold signed
  split
  · simp
  · exact htext

theorem positional_ne_nil (d : Digits) (wholePoint : Bool) :
    (positional d wholePoint).toList ≠ [] := by
  unfold positional
  cases d.scale with
  | ofNat e =>
      have hwhole :
          (if d.digits == 0 then "0" else Nat.repr d.digits ++ zeros e).toList ≠ [] := by
        split
        · decide
        · simp
      dsimp only
      split
      · simp
      · exact hwhole
  | negSucc e => simp

theorem text_ne_nil (style : Style) (x : Float) : (style.text x).toList ≠ [] := by
  unfold Style.text
  split
  · decide
  · exact signed_ne_nil _ (by decide)
  · refine signed_ne_nil _ ?_
    unfold Style.render
    dsimp only
    split
    · simp [scientific]
    · exact positional_ne_nil _ _

theorem withPlaces_ne_nil (places n : Nat) : (withPlaces places n).toList ≠ [] := by
  unfold withPlaces
  dsimp only
  split
  case isTrue hplaces =>
    obtain rfl : places = 0 := by simpa using hplaces
    simp
  case isFalse => simp

theorem fixed_ne_nil (places : Nat) (x : Float) : (fixed places x).toList ≠ [] := by
  unfold fixed
  split
  · decide
  · exact signed_ne_nil _ (by decide)
  · exact signed_ne_nil _ (withPlaces_ne_nil _ _)

/-! ### Numbers stand in words, commands and frames -/

theorem solid_repr (n : Nat) : Text.Solid (Nat.repr n).toList :=
  (allNumeral_repr n).solid (by simp)

theorem solid_precise (x : Float) : Text.Solid (precise x).toList :=
  (allNumeral_text _ x).solid (text_ne_nil _ x)

theorem solid_plain (x : Float) : Text.Solid (plain x).toList :=
  (allNumeral_text _ x).solid (text_ne_nil _ x)

theorem solid_fixed (places : Nat) (x : Float) : Text.Solid (fixed places x).toList :=
  (allNumeral_fixed places x).solid (fixed_ne_nil places x)

end HeaterHost.Decimal
