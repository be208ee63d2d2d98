import HeaterHost.Proofs.Gcode.Capture
import HeaterHost.Proofs.Gcode.Layout
import HeaterHost.Proofs.Text.Search

/-!
# Starts of prints

A line that starts a print is read twice: as a command, and by the tracker, which searches the text
of the line. What the search finds is said by the parts of the line. It takes every command for a
start whose name begins like one; it finds a key by its end, and only in capitals; and it takes all
that follows for the value, other parameters and the comment too.
-/

namespace HeaterHost.Gcode

open Text

/-- The name of a file without the directories before it, if there is one. -/
def baseName? (path : List Char) : Option String :=
  if (afterLast '/' path).isEmpty then none else some (String.ofList (afterLast '/' path))

def withoutQuotes (value : List Char) : List Char :=
  stripBoth (· == '"') value

/-- The file that a line names as a command that starts a print. -/
def dispatchedFile? (line : String) : Option String :=
  (Line.parse? line).bind fun command =>
    if command.name = "SDCARD_PRINT_FILE" then
      (command.get? "FILENAME").bind fun value => baseName? value.toList
    else none

namespace Tracker

/-- The tracker has gone on to a new print of this file, or on with the print in force if there is
no file. -/
structure Begins (t t' : Tracker) (file? : Option String) : Prop where
  prints : t'.prints = file?.elim t.prints fun _ => t.prints + 1
  printId : t'.printId = file?.elim t.printId fun file => printName file (t.freshId (t.prints + 1))

/-- The tracker starts a print at the line exactly if the line is a command that starts one, and
then of the same file. -/
def StartsAlike (t : Tracker) (line : String) (time : Float) : Prop :=
  t.Begins (t.record line time) (dispatchedFile? line)

end Tracker

/-! ### The parts of a line -/

/-- What stands behind the first key that ends like that of a file: its value and all that follows
it. There may be such a key in the comment. -/
def fileText? : List (Gap × Word) → List Char → Option (List Char)
  | [], tail => afterFirst "FILENAME=".toList tail
  | (_, .bare ..) :: row, tail => fileText? row tail
  | (_, .param p) :: row, tail =>
      if "FILENAME".toList <:+ p.key then some (p.value ++ (rowText row ++ tail))
      else fileText? row tail

namespace Layout

/-- The name of the command may have such a key in it. -/
def foundText? (l : Layout) : Option (List Char) :=
  ((afterFirst "FILENAME=".toList l.name).map (· ++ (rowText l.words ++ l.tail))).or
    (fileText? l.words l.tail)

/-- The file that the search finds. -/
def trackedFile? (l : Layout) : Option String :=
  if "SDCARD_PRINT_FILE".toList <+: asciiUpper l.name then
    l.foundText?.bind fun text => baseName? (withoutQuotes (trimmed text))
  else none

/-- The file that the parameters name. -/
def namedFile? (l : Layout) : Option String :=
  if asciiUpper l.name = "SDCARD_PRINT_FILE".toList then
    (l.valuesOf "FILENAME").getLast?.bind fun value => baseName? (withoutQuotes value)
  else none

end Layout

def IsOtherKey (word : Word) : Prop :=
  ∀ p, word = .param p → ¬ "FILENAME".toList <:+ asciiUpper p.key

/-- A start of a print that is the whole of the command's name, has its file as the last parameter
with the key in capitals, if it has one, and no comment. -/
structure Layout.Unmistakable (l : Layout) : Prop where
  name : asciiUpper l.name = "SDCARD_PRINT_FILE".toList
  words : ∃ row, (∀ entry ∈ row, IsOtherKey entry.2) ∧
    (l.words = row ∨
      ∃ gap p, p.key = "FILENAME".toList ∧ l.words = row ++ [(gap, .param p)])
  comment : l.comment = none

/-! ### What the search finds -/

/-- A word ends before white space and before a comment. -/
def IsBreak (c : Char) : Prop :=
  isBlank c = true ∨ c = ';'

theorem IsBreak.notMem {d : Char} (hd : IsBreak d) {phrase : List Char}
    (hphrase : Unbroken phrase) : d ∉ phrase := by
  intro hmem
  rcases hd with hblank | rfl
  · rw [(hphrase d hmem).1] at hblank
    cases hblank
  · exact hphrase.notMem hmem

theorem IsBreak.toUpper_eq {c : Char} (hc : IsBreak c) : c.toUpper = c := by
  rcases hc with hblank | rfl
  · refine dif_neg fun hlower => ?_
    have hlow : 97 ≤ c.toNat := UInt32.le_iff_toNat_le.mp hlower.1
    have hhigh : c.toNat ≤ 122 := UInt32.le_iff_toNat_le.mp hlower.2
    simp only [isBlank, Bool.or_eq_true, Bool.and_eq_true, decide_eq_true_eq, beq_iff_eq] at hblank
    omega
  · rfl

theorem fileText?_eq {tail : List Char} (htail : ∀ d ∈ tail.head?, IsBreak d)
    {row : List (Gap × Word)} (hvalues : ∀ gap p, (gap, Word.param p) ∈ row → '=' ∉ p.value) :
    afterFirst "FILENAME=".toList (rowText row ++ tail) = fileText? row tail := by
  have hphrase : Unbroken "FILENAME=".toList := by decide
  have hne : "FILENAME=".toList ≠ [] := by decide
  induction row with
  | nil => rfl
  | cons entry row ih =>
      obtain ⟨gap, word⟩ := entry
      have hgap : ∀ c ∈ gap.text, c ∉ "FILENAME=".toList := fun c hc =>
        IsBreak.notMem (.inl (gap.blank c hc)) hphrase
      have hnext : ∀ d ∈ (rowText row ++ tail).head?, d ∉ "FILENAME=".toList := fun d hd =>
        (of_head?_rowText (fun _ => .inl) htail hd : IsBreak d).notMem hphrase
      have hrest := ih fun gap p hmem => hvalues gap p (List.mem_cons_of_mem _ hmem)
      rw [rowText, List.append_assoc, List.append_assoc, afterFirst_append_left hne hgap,
        afterFirst_append hne hnext, hrest]
      cases word with
      | bare text _ _ unmarked =>
          have hnone : afterFirst "FILENAME=".toList text = none :=
            afterFirst_eq_none (s := '=') (by decide) unmarked
          rw [Word.text, hnone, fileText?]
          rfl
      | param p =>
          have hstem : "FILENAME=".toList = "FILENAME".toList ++ ['='] := rfl
          rw [Word.text, hstem,
            afterFirst_marked p.key_unmarked (hvalues gap p List.mem_cons_self), fileText?]
          split <;> rfl

namespace Layout

variable (l : Layout)

theorem isBreak_of_head?_tail : ∀ d ∈ l.tail.head?, IsBreak d := by
  intro d hd
  rw [tail, List.head?_append] at hd
  cases hafter : l.after with
  | nil =>
      rw [hafter] at hd
      cases hcomment : l.comment with
      | none =>
          rw [hcomment] at hd
          cases hd
      | some text =>
          rw [hcomment] at hd
          cases hd
          exact .inr rfl
  | cons c after =>
      rw [hafter] at hd
      cases hd
      exact .inl (l.after_blank d (hafter ▸ List.mem_cons_self))

theorem isBreak_of_head?_rest : ∀ d ∈ (rowText l.words ++ l.tail).head?, IsBreak d := fun _ hd =>
  of_head?_rowText (fun _ => .inl) l.isBreak_of_head?_tail hd

theorem toList_line : l.line.toList = l.before ++ (l.name ++ (rowText l.words ++ l.tail)) := by
  rw [line, String.toList_ofList]
  simp only [List.append_assoc]

/-- The search for the start of a print looks at the command's name only. -/
theorem isSome_afterStart :
    (afterStart "SDCARD_PRINT_FILE".toList (asciiUpper (trimmed l.line.toList))).isSome = true ↔
      "SDCARD_PRINT_FILE".toList <+: asciiUpper l.name := by
  obtain ⟨rest, hrest, htrimmed⟩ :=
    exists_trimmed_append l.name_unbroken.bare l.name_ne_nil (rowText l.words ++ l.tail)
  have hbreak : ∀ d ∈ (asciiUpper rest).head?, d ∉ "SDCARD_PRINT_FILE".toList := by
    intro d hd
    rw [asciiUpper, List.head?_map, Option.mem_map] at hd
    obtain ⟨c, hc, rfl⟩ := hd
    obtain ⟨more, hmore⟩ := hrest
    have hnext := l.isBreak_of_head?_rest c (by rw [← hmore, List.head?_append, hc]; rfl)
    rw [hnext.toUpper_eq]
    exact hnext.notMem (by decide)
  rw [l.toList_line, trimmed_append_left l.before_blank, htrimmed, asciiUpper, List.map_append,
    ← asciiUpper, ← asciiUpper, afterStart_append hbreak _ (by decide), Option.isSome_map,
    isSome_afterStart_iff]

theorem afterFirst_line (hvalues : ∀ gap p, (gap, Word.param p) ∈ l.words → '=' ∉ p.value) :
    afterFirst "FILENAME=".toList l.line.toList = l.foundText? := by
  have hphrase : Unbroken "FILENAME=".toList := by decide
  have hne : "FILENAME=".toList ≠ [] := by decide
  have hbefore : ∀ c ∈ l.before, c ∉ "FILENAME=".toList := fun c hc =>
    IsBreak.notMem (.inl (l.before_blank c hc)) hphrase
  rw [l.toList_line, afterFirst_append_left hne hbefore,
    afterFirst_append hne fun d hd => (l.isBreak_of_head?_rest d hd).notMem hphrase,
    fileText?_eq l.isBreak_of_head?_tail hvalues, foundText?]

theorem printFile?_line (hvalues : ∀ gap p, (gap, Word.param p) ∈ l.words → '=' ∉ p.value) :
    Tracker.printFile? l.line = l.trackedFile? := by
  have htext := afterFirst_trimmed (show "FILENAME=".toList ≠ [] by decide)
    (Unbroken.no_blank (by decide)) l.line.toList
  rw [l.afterFirst_line hvalues] at htext
  have hread : Tracker.printFile? l.line =
      (afterStart "SDCARD_PRINT_FILE".toList (asciiUpper (trimmed l.line.toList))).bind fun _ =>
        (afterFirst "FILENAME=".toList (trimmed l.line.toList)).bind fun text =>
          baseName? (withoutQuotes (trimmed text)) := rfl
  have hfile : ∀ text? : Option (List Char),
      (text?.bind fun text => baseName? (withoutQuotes (trimmed text))) =
        (text?.map trimmed).bind fun text => baseName? (withoutQuotes text) := by
    intro text?
    rw [Option.bind_map]
    rfl
  rw [hread, hfile, htext, ← hfile, trackedFile?]
  simp only [← l.isSome_afterStart]
  cases afterStart "SDCARD_PRINT_FILE".toList (asciiUpper (trimmed l.line.toList)) with
  | none => rfl
  | some rest => rfl

theorem dispatchedFile?_line : dispatchedFile? l.line = l.namedFile? := by
  have hname : String.ofList (asciiUpper l.name) = "SDCARD_PRINT_FILE" ↔
      asciiUpper l.name = "SDCARD_PRINT_FILE".toList := by
    rw [← String.toList_inj, String.toList_ofList]
  rw [dispatchedFile?, l.parse?_line, Option.bind_some, namedFile?]
  simp only [hname, Line.get?, l.get?_params, Option.bind_map, Function.comp_def,
    String.toList_ofList, withoutQuotes]

end Layout

/-! ### Starts that are read in one way -/

theorem IsOtherKey.valueFor? {word : Word} (hother : IsOtherKey word) :
    word.valueFor? "FILENAME" = none := by
  cases word with
  | bare text _ _ _ => rfl
  | param p =>
      refine if_neg fun hkey => hother p rfl ?_
      rw [hkey]

theorem fileText?_append_of_other {row : List (Gap × Word)}
    (hrow : ∀ entry ∈ row, IsOtherKey entry.2) (row' : List (Gap × Word)) (tail : List Char) :
    fileText? (row ++ row') tail = fileText? row' tail := by
  induction row with
  | nil => rfl
  | cons entry row ih =>
      obtain ⟨hentry, hrest⟩ := List.forall_mem_cons.mp hrow
      rcases entry with ⟨gap, _ | p⟩
      · exact ih hrest
      · have hkey : ¬ "FILENAME".toList <:+ p.key := fun hends =>
          hentry p rfl (hends.map Char.toUpper)
        rw [List.cons_append, fileText?, if_neg hkey, ih hrest]

theorem Layout.valuesOf_of_other {row : List (Gap × Word)}
    (hrow : ∀ entry ∈ row, IsOtherKey entry.2) :
    (row.filterMap fun entry => entry.2.valueFor? "FILENAME") = [] :=
  List.filterMap_eq_nil_iff.mpr fun entry hentry => (hrow entry hentry).valueFor?

theorem Layout.Unmistakable.trackedFile?_eq {l : Layout} (h : l.Unmistakable) :
    l.trackedFile? = l.namedFile? := by
  have htail : l.tail = l.after := by
    rw [tail, h.comment]
    exact List.append_nil _
  have hname : afterFirst "FILENAME=".toList l.name = none := by
    refine afterFirst_eq_none (s := '=') (by decide) fun hmem => ?_
    have hupper : '=' ∈ asciiUpper l.name := List.mem_map.mpr ⟨'=', hmem, rfl⟩
    rw [h.name] at hupper
    exact absurd hupper (by decide)
  rw [trackedFile?, namedFile?, if_pos h.name, if_pos (by rw [h.name]), foundText?, hname,
    Option.map_none, Option.none_or, htail, valuesOf]
  obtain ⟨row, hrow, hwords | ⟨gap, p, hkey, hwords⟩⟩ := h.words
  · have hnone : afterFirst "FILENAME=".toList l.after = none :=
      afterFirst_eq_none (s := '=') (by decide) (notMem_of_allBlank rfl l.after_blank)
    have htext := fileText?_append_of_other hrow [] l.after
    rw [List.append_nil, fileText?, hnone] at htext
    rw [hwords, htext, valuesOf_of_other hrow]
    rfl
  · have hvalue : trimmed (p.value ++ l.after) = p.value :=
      trimmed_of_bare AllBlank.nil p.value_unbroken.bare l.after_blank
    have hown : Word.valueFor? "FILENAME" (.param p) = some p.value := by
      rw [Word.valueFor?, hkey]
      rfl
    rw [hwords, fileText?_append_of_other hrow, fileText?, if_pos (by rw [hkey]),
      List.filterMap_append, valuesOf_of_other hrow]
    simp only [List.filterMap_cons, hown, List.filterMap_nil, List.nil_append, rowText,
      List.getLast?_singleton, Option.bind_some, hvalue]

/-! ### What the tracker does -/

theorem file_eq_of_printName {file file' ident : String}
    (heq : printName file ident = printName file' ident) : file = file' := by
  have hlist := congrArg String.toList heq
  simp only [printName, String.toList_append, List.append_assoc] at hlist
  exact String.toList_injective (List.append_cancel_right hlist)

namespace Tracker

variable {t t' : Tracker}

theorem begins_none (t : Tracker) : t.Begins t none :=
  ⟨rfl, rfl⟩

theorem begins_startPrint (t : Tracker) (file : String) : t.Begins (t.startPrint file) file := by
  obtain ⟨capture, batchNumber, hwritten⟩ := t.exists_writeBatch_eq
  rw [startPrint, hwritten]
  exact ⟨rfl, rfl⟩

namespace Begins

variable {file? : Option String}

theorem writeBatch (h : t.Begins t' file?) : t.Begins t'.writeBatch file? := by
  obtain ⟨capture, batchNumber, hwritten⟩ := t'.exists_writeBatch_eq
  rw [hwritten]
  exact ⟨h.prints, h.printId⟩

theorem countLine (h : t.Begins t' file?) (line : String) : t.Begins (t'.countLine line) file? :=
  ⟨h.prints, h.printId⟩

theorem captureLine (h : t.Begins t' file?) (line : String) (time : Float) :
    t.Begins (t'.captureLine line time) file? := by
  have hadded : ∀ batch : List String, t.Begins { t' with batch } file? := fun _ =>
    ⟨h.prints, h.printId⟩
  rcases t'.captureLine_cases line time with heq | ⟨entry, heq | heq⟩ <;> rw [heq]
  · exact h
  · exact hadded _
  · exact (hadded _).writeBatch

theorem file_eq {file'? : Option String} (h : t.Begins t' file?) (h' : t.Begins t' file'?) :
    file? = file'? := by
  have hprints := h.prints.symm.trans h'.prints
  have hprintId := h.printId.symm.trans h'.printId
  rcases file? with _ | file <;> rcases file'? with _ | file'
  · rfl
  · exact absurd hprints (Nat.succ_ne_self _).symm
  · exact absurd hprints (Nat.succ_ne_self _)
  · rw [file_eq_of_printName hprintId]

end Begins

/-- A line goes on to the print that the tracker finds in it. -/
theorem begins_record (t : Tracker) (line : String) (time : Float) :
    t.Begins (t.record line time) (printFile? line) := by
  unfold record
  cases hfile : printFile? line with
  | none => exact (t.begins_none.countLine line).captureLine line time
  | some file => exact ((t.begins_startPrint file).countLine line).captureLine line time

/-- A start is read alike exactly if both find the same file in the line, or both none. -/
theorem startsAlike_iff (t : Tracker) (line : String) (time : Float) :
    t.StartsAlike line time ↔ printFile? line = dispatchedFile? line := by
  constructor
  · exact (t.begins_record line time).file_eq
  · intro heq
    rw [StartsAlike, ← heq]
    exact t.begins_record line time

end Tracker

/-- What a line starts, when no value has an equals sign in it. The tracker starts a print of the
file that the search finds, and none if it finds none; the command starts a print of the file that
the parameters name. The two are alike exactly if these files are the same; so they are if the
command does not begin like a start of a print, and if the start is unmistakable. -/
theorem print_starts_alike_iff (t : Tracker) (l : Layout) (time : Float)
    (hvalues : ∀ gap p, (gap, Word.param p) ∈ l.words → '=' ∉ p.value) :
    t.Begins (t.record l.line time) l.trackedFile? ∧
    dispatchedFile? l.line = l.namedFile? ∧
    (t.StartsAlike l.line time ↔ l.trackedFile? = l.namedFile?) ∧
    (¬ "SDCARD_PRINT_FILE".toList <+: asciiUpper l.name ∨ l.Unmistakable →
      t.StartsAlike l.line time) := by
  have htracked := l.printFile?_line hvalues
  have halike : t.StartsAlike l.line time ↔ l.trackedFile? = l.namedFile? := by
    rw [t.startsAlike_iff, htracked, l.dispatchedFile?_line]
  have hbegins := t.begins_record l.line time
  rw [htracked] at hbegins
  refine ⟨hbegins, l.dispatchedFile?_line, halike, ?_⟩
  rw [halike]
  rintro (hother | hplain)
  · have hname : asciiUpper l.name ≠ "SDCARD_PRINT_FILE".toList := fun heq =>
      hother (by rw [heq])
    rw [Layout.trackedFile?, Layout.namedFile?, if_neg hother, if_neg hname]
  · exact hplain.trackedFile?_eq

def cubeStart : Layout where
  before := []
  name := "SDCARD_PRINT_FILE".toList
  words := [
    (space, .param ⟨"FILENAME".toList, "\"cube.gcode\"".toList, by decide, by decide, by decide⟩)]
  after := space.text
  comment := none
  before_blank := AllBlank.nil
  name_ne_nil := by decide
  name_unbroken := by decide
  after_blank := space.blank

theorem unmistakable_cubeStart : cubeStart.Unmistakable where
  name := by decide
  words := ⟨[], nofun, .inr ⟨_, _, rfl, rfl⟩⟩
  comment := rfl

theorem cubeStart_starts_alike :
    let start := Tracker.create 1 benchyIdent .off
    cubeStart.line = "SDCARD_PRINT_FILE FILENAME=\"cube.gcode\" " ∧
    cubeStart.namedFile? = some "cube.gcode" ∧
    start.StartsAlike cubeStart.line 1 := by
  intro start
  have hvalues : ∀ gap p, (gap, Word.param p) ∈ cubeStart.words → '=' ∉ p.value := by
    intro gap p hmem
    cases List.mem_singleton.mp hmem
    decide
  exact ⟨by decide, by decide,
    (print_starts_alike_iff start cubeStart 1 hvalues).2.2.2 (.inr unmistakable_cubeStart)⟩

/-- The same start with a comment, which the tracker takes for a part of the file's name. -/
def commentedStart : Layout :=
  { cubeStart with comment := some " spare part".toList }

theorem commentedStart_starts_differently :
    let start := Tracker.create 1 benchyIdent .off
    commentedStart.line = "SDCARD_PRINT_FILE FILENAME=\"cube.gcode\" ; spare part" ∧
    dispatchedFile? commentedStart.line = some "cube.gcode" ∧
    (start.record commentedStart.line 1).printId =
      printName "cube.gcode\" ; spare part" (benchyIdent 1) ∧
    ¬ start.StartsAlike commentedStart.line 1 := by
  intro start
  rw [start.startsAlike_iff]
  exact ⟨by decide, by decide +kernel, by decide +kernel, by decide +kernel⟩

end HeaterHost.Gcode
