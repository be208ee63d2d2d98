import HeaterHost.Gcode.Tracker
import HeaterHost.Proofs.Decimal.Characters
import HeaterHost.Proofs.Text.Numeral

/-!
# Names of capture files

A capture file is named by its print and by its number in that print, and both can be read off its
name. A print is named by its file and by an identifier of a fixed length, so that prints with
different identifiers have different names, whatever their files are called.
-/

namespace HeaterHost.Gcode

open Text

def captureName (printId : String) (number : Nat) : String :=
  s!"{printId}_gcode_{number}.csv"

def printName (file ident : String) : String :=
  file ++ "_" ++ ident

theorem Tracker.fileName_eq (t : Tracker) : t.fileName = captureName t.printId t.batchNumber := rfl

/-- The first mark of a text without a further one has nothing before it. -/
theorem eq_of_only_mark {mark : Char} {before after after' : List Char} (hafter : mark ∉ after)
    (heq : mark :: after = before ++ mark :: after') : before = [] ∧ after = after' := by
  cases before with
  | nil => exact ⟨rfl, (List.cons.inj heq).2⟩
  | cons first rest =>
      have hrest := (List.cons.inj heq).2
      exact absurd (hrest ▸ List.mem_append_right rest (List.mem_cons_self ..)) hafter

/-- The last mark of a text tells what stands before it and after it. -/
theorem eq_of_last_mark {mark : Char} {before before' after after' : List Char}
    (hafter : mark ∉ after) (hafter' : mark ∉ after')
    (heq : before ++ mark :: after = before' ++ mark :: after') :
    before = before' ∧ after = after' := by
  rcases List.append_eq_append_iff.mp heq with ⟨middle, hbefore, hmark⟩ | ⟨middle, hbefore, hmark⟩
  · obtain ⟨rfl, hsame⟩ := eq_of_only_mark hafter hmark
    rw [List.append_nil] at hbefore
    exact ⟨hbefore.symm, hsame⟩
  · obtain ⟨rfl, hsame⟩ := eq_of_only_mark hafter' hmark
    rw [List.append_nil] at hbefore
    exact ⟨hbefore, hsame.symm⟩

theorem mark_notMem_repr (n : Nat) : '_' ∉ (Nat.repr n).toList := by
  intro hmem
  have hnumeral := Decimal.allNumeral_repr n '_' hmem
  exact absurd hnumeral (by decide)

theorem repr_injective {m n : Nat} (heq : Nat.repr m = Nat.repr n) : m = n := by
  have hm := natural?_eq_some_iff.mpr (numeral_repr m)
  have hn := natural?_eq_some_iff.mpr (numeral_repr n)
  rw [heq, hn] at hm
  exact (Option.some.inj hm).symm

theorem toList_captureName (printId : String) (number : Nat) :
    (captureName printId number).toList =
      (printId.toList ++ "_gcode".toList) ++ '_' :: (Nat.repr number).toList ++ ".csv".toList := by
  have hsep : "_gcode_".toList = "_gcode".toList ++ ['_'] := rfl
  have hname : captureName printId number = printId ++ "_gcode_" ++ Nat.repr number ++ ".csv" := rfl
  rw [hname]
  simp only [String.toList_append, hsep, List.append_assoc, List.cons_append, List.nil_append]

theorem captureName_injective {printId printId' : String} {number number' : Nat}
    (heq : captureName printId number = captureName printId' number') :
    printId = printId' ∧ number = number' := by
  have hlist := congrArg String.toList heq
  rw [toList_captureName, toList_captureName] at hlist
  obtain ⟨hprint, hnumber⟩ := eq_of_last_mark (mark_notMem_repr number)
    (mark_notMem_repr number') (List.append_cancel_right hlist)
  exact ⟨String.toList_injective (List.append_cancel_right hprint),
    repr_injective (String.toList_injective hnumber)⟩

/-- Of two prints with identifiers of one length, equal names mean equal identifiers. -/
theorem ident_eq_of_printName {file file' ident ident' : String}
    (hlength : ident.length = ident'.length)
    (heq : printName file ident = printName file' ident') : ident = ident' := by
  have hlist := congrArg String.toList heq
  simp only [printName, String.toList_append] at hlist
  have hlengths : ident.toList.length = ident'.toList.length := by
    rw [String.length_toList, String.length_toList, hlength]
  exact String.toList_injective (List.append_inj' hlist hlengths).2

theorem length_printName (file ident : String) :
    (printName file ident).length = file.length + 1 + ident.length := by
  rw [printName, String.length_append, String.length_append]
  rfl

end HeaterHost.Gcode
