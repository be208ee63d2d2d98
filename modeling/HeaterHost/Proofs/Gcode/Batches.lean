import Mathlib.Data.List.Nodup
import HeaterHost.Proofs.Gcode.FileNames
import HeaterHost.Proofs.NameMap

/-!
# Batches of captured lines

Each write of a capture appends one batch to the file that its print and its number name. When the
batches of every print are numbered 0, 1, 2, … and the prints follow each other, no file gets two
batches, and the files read print by print and in order of number are the batches in order.
-/

namespace HeaterHost.Gcode

structure Batch where
  /-- How many prints had started before the batch was written. -/
  print : Nat
  printId : String
  number : Nat
  entries : List String

namespace Batch

def file (b : Batch) : String :=
  captureName b.printId b.number

def text (b : Batch) : String :=
  String.join b.entries

/-- The entries of a batch, each with the print whose file it is in. -/
def tagged (b : Batch) : List (String × String) :=
  b.entries.map fun entry => (b.printId, entry)

end Batch

def store (files : NameMap String) (b : Batch) : NameMap String :=
  Tracker.append files b.file b.text

/-- The files of an empty directory after writes of batches. -/
def stored (batches : List Batch) : NameMap String :=
  batches.foldl store .empty

theorem stored_concat (batches : List Batch) (b : Batch) :
    stored (batches ++ [b]) = store (stored batches) b := by
  rw [stored, List.foldl_append]
  rfl

/-- Batches of different files are the whole contents of these files, and there are no others. -/
theorem get?_stored_eq_some_iff {batches : List Batch} (hfiles : (batches.map Batch.file).Nodup)
    {name text : String} :
    (stored batches).get? name = some text ↔ ∃ b ∈ batches, b.file = name ∧ b.text = text := by
  induction batches using List.reverseRecOn generalizing text with
  | nil => simp [stored]
  | append_singleton batches last ih =>
      rw [List.map_append, List.nodup_append] at hfiles
      obtain ⟨hearlier, -, hdisjoint⟩ := hfiles
      have hnew : ∀ b ∈ batches, b.file ≠ last.file := fun b hb =>
        hdisjoint b.file (List.mem_map_of_mem hb) last.file (by simp)
      rw [stored_concat, store, Tracker.append]
      by_cases hname : name = last.file
      · subst hname
        -- no earlier batch has written to this file
        have hnone : (stored batches).get? last.file = none := by
          cases hget : (stored batches).get? last.file with
          | none => rfl
          | some old =>
              obtain ⟨b, hb, hfile, -⟩ := (ih hearlier).mp hget
              exact absurd hfile (hnew b hb)
        rw [hnone, NameMap.get?_insert_self, Option.getD_none, String.empty_append]
        constructor
        · intro htext
          exact ⟨last, List.mem_append_right _ (List.mem_singleton_self _), rfl,
            Option.some.inj htext⟩
        · rintro ⟨b, hb, hfile, rfl⟩
          rcases List.mem_append.mp hb with hold | hlast
          · exact absurd hfile (hnew b hold)
          · rw [List.mem_singleton.mp hlast]
      · rw [NameMap.get?_insert_of_ne _ hname, ih hearlier]
        constructor
        · rintro ⟨b, hb, hfile⟩
          exact ⟨b, List.mem_append_left _ hb, hfile⟩
        · rintro ⟨b, hb, hfile, htext⟩
          rcases List.mem_append.mp hb with hold | hlast
          · exact ⟨b, hold, hfile, htext⟩
          · rw [List.mem_singleton.mp hlast] at hfile
            exact absurd hfile.symm hname

/-! ### The batches of one print -/

def shelf (batches : List Batch) (print : Nat) : List Batch :=
  batches.filter (·.print == print)

theorem mem_shelf {batches : List Batch} {print : Nat} {b : Batch} :
    b ∈ shelf batches print ↔ b ∈ batches ∧ b.print = print := by
  simp [shelf]

theorem shelf_concat_self (batches : List Batch) (b : Batch) :
    shelf (batches ++ [b]) b.print = shelf batches b.print ++ [b] := by
  simp [shelf]

theorem shelf_concat_of_ne (batches : List Batch) {b : Batch} {print : Nat}
    (hne : b.print ≠ print) : shelf (batches ++ [b]) print = shelf batches print := by
  simp [shelf, hne]

/-- The batches of the prints with these names are numbered print by print. -/
structure Shelved (names : List String) (batches : List Batch) : Prop where
  named : ∀ b ∈ batches, names[b.print]? = some b.printId
  numbered : ∀ print, (shelf batches print).map (·.number) =
    List.range (shelf batches print).length
  inOrder : (List.range names.length).flatMap (shelf batches) = batches

namespace Shelved

variable {names : List String} {batches : List Batch}

theorem print_lt (h : Shelved names batches) {b : Batch} (hb : b ∈ batches) :
    b.print < names.length :=
  (List.getElem?_eq_some_iff.mp (h.named b hb)).1

theorem single (name : String) : Shelved [name] [] where
  named := nofun
  numbered _ := rfl
  inOrder := rfl

theorem shelf_length (h : Shelved names batches) : shelf batches names.length = [] := by
  refine List.filter_eq_nil_iff.mpr fun b hb => ?_
  have hlt := h.print_lt hb
  simpa using Nat.ne_of_lt hlt

/-- A further print does not touch the batches of the earlier ones. -/
theorem startPrint (h : Shelved names batches) (name : String) :
    Shelved (names ++ [name]) batches where
  named b hb := by
    rw [List.getElem?_append_left (h.print_lt hb)]
    exact h.named b hb
  numbered := h.numbered
  inOrder := by
    rw [List.length_append, List.length_singleton, List.range_succ, List.flatMap_append, h.inOrder,
      List.flatMap_singleton, h.shelf_length, List.append_nil]

/-- The next batch of the latest print goes to the end of its shelf. -/
theorem write (h : Shelved names batches) {b : Batch} (hprint : names.length = b.print + 1)
    (hnamed : names[b.print]? = some b.printId)
    (hnumber : b.number = (shelf batches b.print).length) :
    Shelved names (batches ++ [b]) where
  named other hother := by
    rcases List.mem_append.mp hother with hold | hnew
    · exact h.named other hold
    · rw [List.mem_singleton.mp hnew]
      exact hnamed
  numbered print := by
    by_cases hlatest : b.print = print
    · subst hlatest
      rw [shelf_concat_self, List.map_append, h.numbered, List.length_append, List.length_singleton,
        List.range_succ, ← hnumber]
      rfl
    · rw [shelf_concat_of_ne _ hlatest]
      exact h.numbered print
  inOrder := by
    have hearlier : (List.range b.print).flatMap (shelf (batches ++ [b])) =
        (List.range b.print).flatMap (shelf batches) :=
      List.flatMap_congr fun print hmem =>
        shelf_concat_of_ne _ (Nat.ne_of_gt (List.mem_range.mp hmem))
    have hsplit : ∀ filed : List Batch, (List.range names.length).flatMap (shelf filed) =
        (List.range b.print).flatMap (shelf filed) ++ shelf filed b.print := by
      intro filed
      rw [hprint, List.range_succ, List.flatMap_append, List.flatMap_singleton]
    calc (List.range names.length).flatMap (shelf (batches ++ [b]))
      _ = (List.range b.print).flatMap (shelf batches) ++ (shelf batches b.print ++ [b]) := by
          rw [hsplit, hearlier, shelf_concat_self]
      _ = (List.range names.length).flatMap (shelf batches) ++ [b] := by
          rw [hsplit, List.append_assoc]
      _ = batches ++ [b] := by
          rw [h.inOrder]

/-! ### The files of numbered batches -/

theorem print_eq (h : Shelved names batches) (hnames : names.Nodup) {print : Nat} {b : Batch}
    (hb : b ∈ batches) (hname : names[print]? = some b.printId) : b.print = print :=
  (List.getElem?_inj (h.print_lt hb) hnames).mp ((h.named b hb).trans hname.symm)

/-- The file of a print that has a number is the batch at that place of the print's shelf. -/
theorem file_eq_iff (h : Shelved names batches) (hnames : names.Nodup) {print number : Nat}
    {name : String} (hname : names[print]? = some name) {b : Batch} :
    b ∈ batches ∧ b.file = captureName name number ↔ (shelf batches print)[number]? = some b := by
  have hnumber : ∀ (place : Nat) (other : Batch),
      (shelf batches print)[place]? = some other → other.number = place := by
    intro place other hplace
    have hplaced := congrArg (·[place]?) (h.numbered print)
    have hlt := (List.getElem?_eq_some_iff.mp hplace).1
    simpa [List.getElem?_map, hplace, List.getElem?_range hlt] using hplaced
  constructor
  · rintro ⟨hb, hfile⟩
    obtain ⟨rfl, rfl⟩ := captureName_injective hfile
    have hmem := mem_shelf.mpr ⟨hb, h.print_eq hnames hb hname⟩
    obtain ⟨place, hplace⟩ := List.mem_iff_getElem?.mp hmem
    rw [hnumber place b hplace]
    exact hplace
  · intro hplace
    obtain ⟨hb, rfl⟩ := mem_shelf.mp (List.mem_of_getElem? hplace)
    have hid : b.printId = name := Option.some.inj ((h.named b hb).symm.trans hname)
    refine ⟨hb, ?_⟩
    rw [Batch.file, hid, hnumber number b hplace]

/-- No two batches have one file. -/
theorem nodup_files (h : Shelved names batches) (hnames : names.Nodup) :
    (batches.map Batch.file).Nodup := by
  rw [← h.inOrder, List.map_flatMap, List.nodup_flatMap]
  constructor
  · intro print _
    have hnodup : ((shelf batches print).map (·.number)).Nodup := by
      rw [h.numbered print]
      exact List.nodup_range
    rw [List.Nodup, List.pairwise_map] at hnodup ⊢
    refine hnodup.imp fun {b other} hne heq => hne ?_
    exact (captureName_injective heq).2
  · refine List.nodup_range.imp_of_mem fun {print print'} _ _ hne => ?_
    intro file hfile hfile'
    obtain ⟨b, hshelf, rfl⟩ := List.mem_map.mp hfile
    obtain ⟨other, hshelf', heq⟩ := List.mem_map.mp hfile'
    obtain ⟨hb, hprint⟩ := mem_shelf.mp hshelf
    obtain ⟨hother, hprint'⟩ := mem_shelf.mp hshelf'
    have hname := h.named other hother
    rw [(captureName_injective heq).1] at hname
    exact hne (hprint.symm.trans ((h.print_eq hnames hb hname).trans hprint'))

end Shelved

/-! ### Reading the files back -/

theorem filterMap_getElem?_range {α : Type} (items : List α) (n : Nat) :
    (List.range n).filterMap (items[·]?) = items.take n := by
  induction n with
  | zero => rfl
  | succ n ih =>
      rw [List.range_succ, List.filterMap_append, ih, List.take_add_one]
      cases hitem : items[n]? with
      | none => simp [hitem]
      | some item => simp [hitem]

/-- The texts of a print's files that have a number less than `count`, in order of number. -/
def readPrint (contents : String → Option String) (count : Nat) (name : String) : List String :=
  (List.range count).filterMap fun number => contents (captureName name number)

/-- The files read print by print, each print in order of number, are the batches. -/
theorem Shelved.read_back {names : List String} {batches : List Batch}
    (h : Shelved names batches) (hnames : names.Nodup) :
    names.flatMap (readPrint (stored batches).get? batches.length) = batches.map Batch.text := by
  have hshelf : ∀ print name, names[print]? = some name →
      readPrint (stored batches).get? batches.length name =
        (shelf batches print).map Batch.text := by
    intro print name hname
    have hfile : ∀ number, (stored batches).get? (captureName name number) =
        ((shelf batches print).map Batch.text)[number]? := by
      intro number
      ext text
      rw [get?_stored_eq_some_iff (h.nodup_files hnames), List.getElem?_map, Option.map_eq_some_iff]
      simp only [← and_assoc, ← h.file_eq_iff hnames hname]
    have hlength : ((shelf batches print).map Batch.text).length ≤ batches.length := by
      rw [List.length_map]
      exact List.length_filter_le ..
    simp only [readPrint, hfile]
    rw [filterMap_getElem?_range, List.take_of_length_le hlength]
  have hprints : names.map (readPrint (stored batches).get? batches.length) =
      (List.range names.length).map fun print => (shelf batches print).map Batch.text := by
    refine List.ext_getElem (by simp) fun print hprint _ => ?_
    rw [List.length_map] at hprint
    rw [List.getElem_map, List.getElem_map, List.getElem_range]
    exact hshelf print _ (List.getElem?_eq_getElem hprint)
  calc names.flatMap (readPrint (stored batches).get? batches.length)
    _ = (List.range names.length).flatMap fun print => (shelf batches print).map Batch.text := by
        rw [List.flatMap_def, List.flatMap_def, hprints]
    _ = ((List.range names.length).flatMap (shelf batches)).map Batch.text := by
        rw [List.map_flatMap]
    _ = batches.map Batch.text := by
        rw [h.inOrder]

theorem join_texts (batches : List Batch) :
    String.join (batches.map Batch.text) =
      String.join ((batches.flatMap Batch.tagged).map (·.2)) := by
  induction batches with
  | nil => rfl
  | cons b rest ih =>
      have htagged : b.tagged.map (·.2) = b.entries := by
        rw [Batch.tagged, List.map_map]
        exact List.map_id b.entries
      rw [List.map_cons, String.join_cons, ih, List.flatMap_cons, List.map_append,
        String.join_append, htagged]
      rfl

end HeaterHost.Gcode
