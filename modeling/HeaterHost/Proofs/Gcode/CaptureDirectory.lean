import HeaterHost.Proofs.Gcode.Capture
import HeaterHost.Proofs.Text.Search

/-!
# The directory of a capture

A capture writes to nothing outside its directory, whatever lines it is given. Of the path that a
line names for a print only the part behind the last slash gets into the name of the print, and so
into the names of files; the name of the print is all that the tracker keeps of it.
-/

namespace HeaterHost.Gcode

open Text

/-- A name that stands for something in a directory itself. -/
structure SingleName (name : String) : Prop where
  ne_empty : name ≠ ""
  no_slash : '/' ∉ name.toList
  ne_dot : name ≠ "."
  ne_dots : name ≠ ".."

/-- What stands before the names of the files in a directory. -/
def directoryStart (dir : String) : String :=
  if dir = "" ∨ dir.toList.getLast? = some '/' then dir else dir ++ "/"

/-- The path of a name that is looked up from a directory. An absolute one does not depend on it. -/
def joined (dir name : String) : String :=
  if name.toList.head? = some '/' then name else directoryStart dir ++ name

/-- The identifier of a print is written in lower-case hexadecimal digits and hyphens. -/
def IsIdent (ident : String) : Prop :=
  ∀ c ∈ ident.toList, c.isDigit = true ∨ ('a' ≤ c ∧ c ≤ 'f') ∨ c = '-'

instance (ident : String) : Decidable (IsIdent ident) :=
  List.decidableBAll (fun c : Char => c.isDigit = true ∨ ('a' ≤ c ∧ c ≤ 'f') ∨ c = '-') ident.toList

theorem IsIdent.no_slash {ident : String} (hident : IsIdent ident) : '/' ∉ ident.toList := by
  intro hmem
  exact absurd (hident '/' hmem) (by decide)

theorem IsIdent.append {front back : String} (hfront : IsIdent front) (hback : IsIdent back) :
    IsIdent (front ++ back) := by
  intro c hc
  rw [String.toList_append, List.mem_append] at hc
  exact hc.elim (hfront c) (hback c)

theorem joined_of_single {name : String} (hname : SingleName name) (dir : String) :
    joined dir name = directoryStart dir ++ name := by
  refine if_neg fun hslash => hname.no_slash ?_
  exact List.mem_of_mem_head? hslash

/-- A file of a print whose name has no slash is in the directory itself. -/
theorem singleName_captureName {printId : String} (hprint : '/' ∉ printId.toList) (number : Nat) :
    SingleName (captureName printId number) := by
  have hmark : '_' ∈ (captureName printId number).toList := by
    rw [toList_captureName]
    simp
  have hne : ∀ name : String, '_' ∉ name.toList → captureName printId number ≠ name := by
    rintro name hname rfl
    exact hname hmark
  refine ⟨hne _ (by decide), ?_, hne _ (by decide), hne _ (by decide)⟩
  have hnumber : '/' ∉ (Nat.repr number).toList := by
    intro hmem
    exact absurd ((numeral_repr number).digits '/' hmem) (by decide)
  rw [toList_captureName]
  simp [-Nat.toList_repr, hprint, hnumber]

namespace Tracker

theorem slash_notMem_printFile {line file : String} (hstart : printFile? line = some file) :
    '/' ∉ file.toList := by
  simp only [printFile?, Option.bind_eq_bind, Option.bind_eq_some_iff] at hstart
  obtain ⟨-, -, rest, -, hfile⟩ := hstart
  split at hfile
  · cases hfile
  · cases hfile
    rw [String.toList_ofList]
    exact mark_notMem_afterLast '/' _

theorem isCapturing_begun (t : Tracker) (line : String) :
    (t.begun line).isCapturing = t.isCapturing := by
  cases hstart : printFile? line with
  | none => simp only [begun, hstart, Option.elim_none]
  | some file =>
      simp only [begun, hstart, Option.elim_some]
      exact t.isCapturing_writeBatch

theorem isCapturing_countLine (t : Tracker) (line : String) :
    (t.countLine line).isCapturing = t.isCapturing := rfl

theorem isCapturing_addLine (t : Tracker) (line : String × Float) :
    (t.addLine line).isCapturing = t.isCapturing := rfl

/-- A tracker that captures nothing only counts the line. -/
theorem record_of_not_capturing {t : Tracker} (hcapturing : ¬t.isCapturing = true) (line : String)
    (time : Float) : t.record line time = (t.begun line).countLine line := by
  have hbegun : ¬((t.begun line).countLine line).isCapturing = true := by
    rwa [isCapturing_countLine, isCapturing_begun]
  cases hstart : printFile? line with
  | none =>
      simp only [begun, hstart, Option.elim_none] at hbegun
      simp only [record, begun, hstart, Option.elim_none]
      exact if_neg hbegun
  | some file =>
      simp only [begun, hstart, Option.elim_some] at hbegun
      simp only [record, begun, hstart, Option.elim_some]
      exact if_neg hbegun

theorem isCapturing_perform (t : Tracker) (call : TrackerCall) :
    (t.perform call).isCapturing = t.isCapturing := by
  cases call with
  | flush => exact t.isCapturing_writeBatch
  | record line time =>
      rw [perform]
      by_cases hcapturing : t.isCapturing = true
      · rw [record_eq hcapturing]
        split
        · rw [isCapturing_writeBatch, noted, isCapturing_addLine, isCapturing_begun]
        · rw [noted, isCapturing_addLine, isCapturing_begun]
      · rw [record_of_not_capturing hcapturing, isCapturing_countLine, isCapturing_begun]

theorem isCapturing_replay (t : Tracker) (calls : List TrackerCall) :
    (t.replay calls).isCapturing = t.isCapturing := by
  induction calls generalizing t with
  | nil => rfl
  | cons call calls ih => exact (ih (t.perform call)).trans (t.isCapturing_perform call)

theorem contents_of_not_capturing {t : Tracker} (hcapturing : ¬t.isCapturing = true)
    (name : String) : t.contents name = none := by
  unfold isCapturing at hcapturing
  split at hcapturing
  · next hcapture => rw [contents, hcapture]
  · exact absurd rfl hcapturing
  · exact absurd rfl hcapturing

/-! ### The names of the prints -/

/-- The print in force and all that may follow have names without a slash. -/
structure Contained (t : Tracker) : Prop where
  printId : '/' ∉ t.printId.toList
  freshId : ∀ n, IsIdent (t.freshId n)

namespace Contained

variable {t : Tracker}

theorem writeBatch (h : t.Contained) : t.writeBatch.Contained := by
  obtain ⟨capture, batchNumber, hwritten⟩ := t.exists_writeBatch_eq
  rw [hwritten]
  exact ⟨h.printId, h.freshId⟩

theorem begun (h : t.Contained) (line : String) : (t.begun line).Contained := by
  cases hstart : printFile? line with
  | none =>
      simp only [Tracker.begun, hstart, Option.elim_none]
      exact h
  | some file =>
      simp only [Tracker.begun, hstart, Option.elim_some]
      refine ⟨?_, h.writeBatch.freshId⟩
      have hfile := slash_notMem_printFile hstart
      have hident := (h.writeBatch.freshId (t.writeBatch.prints + 1)).no_slash
      simp [startPrint, hfile, hident]

theorem countLine (h : t.Contained) (line : String) : (t.countLine line).Contained :=
  ⟨h.printId, h.freshId⟩

theorem addLine (h : t.Contained) (line : String × Float) : (t.addLine line).Contained :=
  ⟨h.printId, h.freshId⟩

theorem perform (h : t.Contained) (call : TrackerCall) : (t.perform call).Contained := by
  cases call with
  | flush => exact h.writeBatch
  | record line time =>
      rw [Tracker.perform]
      by_cases hcapturing : t.isCapturing = true
      · rw [record_eq hcapturing]
        split
        · exact ((h.begun line).addLine (line, time)).writeBatch
        · exact (h.begun line).addLine (line, time)
      · rw [record_of_not_capturing hcapturing]
        exact (h.begun line).countLine line

theorem due (h : t.Contained) : ∀ b ∈ t.due, '/' ∉ b.printId.toList := by
  intro b hb
  unfold Tracker.due at hb
  split at hb
  · cases hb
  · rw [List.mem_singleton.mp hb]
    exact h.printId

/-- What a call writes belongs to the print before it or to the one that it starts. -/
theorem writes (h : t.Contained) (call : TrackerCall) :
    ∀ b ∈ t.writes call, '/' ∉ b.printId.toList := by
  cases call with
  | flush => exact h.due
  | record line time =>
      intro b hb
      rcases List.mem_append.mp hb with hleft | hfilled
      · cases hstart : printFile? line with
        | none =>
            simp only [left, hstart, Option.elim_none] at hleft
            cases hleft
        | some file =>
            simp only [left, hstart, Option.elim_some] at hleft
            exact h.due b hleft
      · unfold filled at hfilled
        split at hfilled
        · exact ((h.begun line).addLine (line, time)).due b hfilled
        · cases hfilled

theorem written (h : t.Contained) (calls : List TrackerCall) :
    ∀ b ∈ t.written calls, '/' ∉ b.printId.toList := by
  induction calls generalizing t with
  | nil => nofun
  | cons call calls ih =>
      intro b hb
      exact (List.mem_append.mp hb).elim (h.writes call b) (ih (h.perform call) b)

end Contained

theorem contained_create {freshId : Nat → String} (hident : ∀ n, IsIdent (freshId n)) (size : Nat)
    (capture : Capture) : (create size freshId capture).Contained where
  printId := show '/' ∉ "NO_ID_KLIPPER".toList by decide
  freshId := hident

/-! ### The files that change -/

variable {t : Tracker} {name : String}

theorem contents_writeBatch (hname : name ∉ t.due.map Batch.file) :
    t.writeBatch.contents name = t.contents name := by
  by_cases hbatch : t.batch = []
  · rw [writeBatch_of_nil hbatch]
  · rw [due_of_ne_nil hbatch, List.map_singleton, List.mem_singleton] at hname
    have hother : name ≠ t.fileName := hname
    rw [writeBatch, if_neg (by simpa using hbatch)]
    cases hcapture : t.capture with
    | off => simp only [contents, hcapture]
    | unwritable => simp only [contents, hcapture]
    | directory files =>
        by_cases hfile : isFileName t.fileName = true
        · simp only [contents, hcapture, if_pos hfile, append]
          exact NameMap.get?_insert_of_ne _ hother _
        · simp only [contents, hcapture, if_neg hfile]

theorem contents_begun {line : String} (hname : name ∉ (t.left line).map Batch.file) :
    (t.begun line).contents name = t.contents name := by
  cases hstart : printFile? line with
  | none => simp only [begun, hstart, Option.elim_none]
  | some file =>
      simp only [left, hstart, Option.elim_some] at hname
      simp only [begun, hstart, Option.elim_some]
      exact contents_writeBatch hname

theorem contents_addLine (t : Tracker) (line : String × Float) :
    (t.addLine line).contents = t.contents := rfl

theorem contents_perform (hcapturing : t.isCapturing = true) {call : TrackerCall}
    (hname : name ∉ (t.writes call).map Batch.file) :
    (t.perform call).contents name = t.contents name := by
  cases call with
  | flush => exact contents_writeBatch hname
  | record line time =>
      rw [writes, List.map_append, List.mem_append, not_or] at hname
      obtain ⟨hleft, hfilled⟩ := hname
      have hnoted : (t.noted line time).contents name = t.contents name := by
        rw [noted, contents_addLine]
        exact contents_begun hleft
      rw [perform, record_eq hcapturing, ← hnoted]
      unfold filled at hfilled
      split
      case isTrue hfull =>
        rw [if_pos hfull] at hfilled
        exact contents_writeBatch hfilled
      case isFalse => rfl

/-- A run changes no file but those of the batches that it writes. -/
theorem contents_replay (hcapturing : t.isCapturing = true) {calls : List TrackerCall}
    (hname : name ∉ (t.written calls).map Batch.file) :
    (t.replay calls).contents name = t.contents name := by
  induction calls generalizing t with
  | nil => rfl
  | cons call calls ih =>
      rw [written, List.map_append, List.mem_append, not_or] at hname
      calc (t.replay (call :: calls)).contents name
        _ = (t.perform call).contents name :=
            ih ((t.isCapturing_perform call).trans hcapturing) hname.2
        _ = t.contents name := contents_perform hcapturing hname.1

/-- The paths that a run opens for writing, one for each batch, when the tracker captures to this
directory. -/
def opened (dir : String) (t : Tracker) (calls : List TrackerCall) : List String :=
  if t.isCapturing then (t.written calls).map fun b => joined dir b.file else []

theorem Contained.opened (h : t.Contained) (dir : String) (calls : List TrackerCall) :
    ∀ path ∈ t.opened dir calls, ∃ name, SingleName name ∧ path = directoryStart dir ++ name := by
  intro path hpath
  unfold Tracker.opened at hpath
  split at hpath
  · obtain ⟨b, hb, rfl⟩ := List.mem_map.mp hpath
    have hname : SingleName b.file := singleName_captureName (h.written calls b hb) b.number
    exact ⟨b.file, hname, joined_of_single hname dir⟩
  · cases hpath

theorem joined_mem_opened {calls : List TrackerCall}
    (hchanged : (t.replay calls).contents name ≠ t.contents name) (dir : String) :
    joined dir name ∈ t.opened dir calls := by
  by_cases hcapturing : t.isCapturing = true
  · rw [opened, if_pos hcapturing]
    by_contra hnot
    refine hchanged (contents_replay hcapturing fun hmem => hnot ?_)
    obtain ⟨b, hb, rfl⟩ := List.mem_map.mp hmem
    exact List.mem_map_of_mem hb
  · have hafter : ¬(t.replay calls).isCapturing = true := by
      rwa [isCapturing_replay]
    rw [contents_of_not_capturing hafter, contents_of_not_capturing hcapturing] at hchanged
    exact absurd rfl hchanged

end Tracker

/-- Captures never leave their directory, whatever the lines are. Each path that is opened for
writing is that of the directory with a single name behind it, and no file changes that is not
opened. -/
theorem captures_stay_in_directory (dir : String) (size : Nat) (freshId : Nat → String)
    (capture : Capture) (calls : List TrackerCall) (hident : ∀ n, IsIdent (freshId n)) :
    let start := Tracker.create size freshId capture
    (∀ path ∈ start.opened dir calls,
      ∃ name, SingleName name ∧ path = directoryStart dir ++ name) ∧
    ∀ name, (start.replay calls).contents name ≠ start.contents name →
      joined dir name ∈ start.opened dir calls :=
  ⟨(Tracker.contained_create hident size capture).opened dir calls,
    fun _ hchanged => Tracker.joined_mem_opened hchanged dir⟩

/-- Prints that name files elsewhere: above the directory, at the root, and the directory above. -/
def escapeRun : List TrackerCall := [
  .record "SDCARD_PRINT_FILE FILENAME=\"../../etc/passwd\"" 1,
  .record "SDCARD_PRINT_FILE FILENAME=/etc/cron.d/" 2,
  .record "SDCARD_PRINT_FILE FILENAME=\"\"/tmp/..\"" 3,
  .flush]

theorem isIdent_benchyIdent (n : Nat) : IsIdent (benchyIdent n) := by
  have hfront : IsIdent "00000000-0000-4000-8000-00000000000" := by decide
  exact hfront.append fun c hc => .inl ((numeral_repr n).digits c hc)

theorem escapeRun_stays_in_directory :
    let start := Tracker.create 4 benchyIdent (.directory .empty)
    start.opened "captures" escapeRun =
        ["captures/passwd_00000000-0000-4000-8000-000000000001_gcode_0.csv",
          "captures/.._00000000-0000-4000-8000-000000000002_gcode_0.csv"] ∧
      ∀ path ∈ start.opened "captures" escapeRun,
        ∃ name, SingleName name ∧ path = "captures/" ++ name := by
  intro start
  have hdir : directoryStart "captures" = "captures/" := by decide +kernel
  have hstays := (captures_stay_in_directory "captures" 4 benchyIdent (.directory .empty) escapeRun
    isIdent_benchyIdent).1
  rw [hdir] at hstays
  exact ⟨by decide +kernel, hstays⟩

end HeaterHost.Gcode
