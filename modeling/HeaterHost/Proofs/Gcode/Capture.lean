import HeaterHost.Proofs.Gcode.Batches
import HeaterHost.Proofs.Gcode.Bookkeeping

/-!
# The capture of command lines

What the tracker of a capture writes over a run of lines and flushes. Every line is written once,
to a file of the print in force, and no file is written twice: a start of a print first writes what
belongs to the print before it, and the numbers of a print's batches start at 0 again only with a
name that no other print has.
-/

namespace HeaterHost.Gcode

inductive TrackerCall where
  | record (line : String) (time : Float)
  | flush

def TrackerCall.line? : TrackerCall → Option (String × Float)
  | .record line time => some (line, time)
  | .flush => none

/-! ### What a capture has to hold -/

def recorded (calls : List TrackerCall) : List (String × Float) :=
  calls.filterMap TrackerCall.line?

theorem recorded_concat (calls : List TrackerCall) (call : TrackerCall) :
    recorded (calls ++ [call]) = recorded calls ++ call.line?.toList := by
  rw [recorded, List.filterMap_append]
  cases call <;> rfl

/-- The files of the prints that a run of lines starts. -/
def printFiles (lines : List (String × Float)) : List String :=
  lines.filterMap fun line => Tracker.printFile? line.1

/-- The names of the prints. The first name is that of the lines before any print. -/
def printNames (freshId : Nat → String) (lines : List (String × Float)) : List String :=
  "NO_ID_KLIPPER" :: (printFiles lines).mapIdx fun i file => printName file (freshId (i + 1))

theorem printNames_ne_nil (freshId : Nat → String) (lines : List (String × Float)) :
    printNames freshId lines ≠ [] :=
  List.cons_ne_nil _ _

/-- The name of the print after these lines: of the latest that one of them has started. -/
def printInForce (freshId : Nat → String) (lines : List (String × Float)) : String :=
  (printNames freshId lines).getLast (printNames_ne_nil freshId lines)

def entryText (count : Nat) (line : String × Float) : String :=
  s!"{count},{Decimal.plain line.2},{line.1}\n"

/-- The entries of a run of lines, counted from 1, each with the print in force at its line. -/
def entriesOf (freshId : Nat → String) (lines : List (String × Float)) : List (String × String) :=
  lines.mapIdx fun i line => (printInForce freshId (lines.take (i + 1)), entryText (i + 1) line)

section Lines

variable (freshId : Nat → String) (lines : List (String × Float)) (line : String × Float)

theorem length_printNames : (printNames freshId lines).length = (printFiles lines).length + 1 := by
  rw [printNames, List.length_cons, List.length_mapIdx]

theorem printNames_concat_of_start {file : String}
    (hstart : Tracker.printFile? line.1 = some file) :
    printNames freshId (lines ++ [line]) =
      printNames freshId lines ++ [printName file (freshId ((printFiles lines).length + 1))] := by
  have hfiles : printFiles (lines ++ [line]) = printFiles lines ++ [file] := by
    rw [printFiles, printFiles, List.filterMap_append]
    simp [hstart]
  rw [printNames, hfiles, List.mapIdx_concat]
  rfl

theorem printNames_concat_of_other (hother : Tracker.printFile? line.1 = none) :
    printNames freshId (lines ++ [line]) = printNames freshId lines := by
  have hfiles : printFiles (lines ++ [line]) = printFiles lines := by
    rw [printFiles, printFiles, List.filterMap_append]
    simp [hother]
  rw [printNames, hfiles]
  rfl

theorem entriesOf_concat : entriesOf freshId (lines ++ [line]) =
    entriesOf freshId lines ++
      [(printInForce freshId (lines ++ [line]), entryText (lines.length + 1) line)] := by
  rw [entriesOf, List.mapIdx_concat, List.take_of_length_le (by simp)]
  congr 1
  refine List.mapIdx_eq_mapIdx_iff.mpr fun i hi => ?_
  rw [List.take_append_of_le_length hi]

end Lines

/-- Prints whose identifiers differ have different names, and none is that of no print. -/
theorem nodup_printNames {freshId : Nat → String} {lines : List (String × Float)}
    (hform : ∀ i < (printFiles lines).length, (freshId (i + 1)).length = 36)
    (hdistinct : ((List.range (printFiles lines).length).map fun i => freshId (i + 1)).Nodup) :
    (printNames freshId lines).Nodup := by
  rw [printNames, List.nodup_cons]
  constructor
  · intro hmem
    obtain ⟨i, hi, heq⟩ := List.mem_mapIdx.mp hmem
    have hlength := congrArg String.length heq
    have hnone : "NO_ID_KLIPPER".length = 13 := rfl
    rw [length_printName, hform i hi, hnone] at hlength
    omega
  · rw [List.Nodup, List.pairwise_iff_getElem] at hdistinct ⊢
    intro i j hi hj hij heq
    rw [List.length_mapIdx] at hi hj
    rw [List.getElem_mapIdx, List.getElem_mapIdx] at heq
    have hident := ident_eq_of_printName ((hform i hi).trans (hform j hj).symm) heq
    refine hdistinct i j (by simpa using hi) (by simpa using hj) hij ?_
    rw [List.getElem_map, List.getElem_map, List.getElem_range, List.getElem_range]
    exact hident

namespace Tracker

/-! ### What a call writes -/

/-- The batch that a write of a capture puts into a file. -/
def due (t : Tracker) : List Batch :=
  if t.batch.isEmpty then [] else [⟨t.prints, t.printId, t.batchNumber, t.batch.reverse⟩]

def perform (t : Tracker) : TrackerCall → Tracker
  | .record line time => t.record line time
  | .flush => t.flush

def replay (t : Tracker) (calls : List TrackerCall) : Tracker :=
  calls.foldl perform t

/-- The tracker in the print that a line belongs to. -/
def begun (t : Tracker) (line : String) : Tracker :=
  (printFile? line).elim t t.startPrint

def addLine (t : Tracker) (line : String × Float) : Tracker :=
  { t.countLine line.1 with batch := entryText (t.count + 1) line :: t.batch }

/-- The tracker with a line in its batch, before a full batch is written. -/
def noted (t : Tracker) (line : String) (time : Float) : Tracker :=
  (t.begun line).addLine (line, time)

/-- What a line leaves behind: the rest of the print before it, when it starts one. -/
def left (t : Tracker) (line : String) : List Batch :=
  (printFile? line).elim [] fun _ => t.due

/-- The batch that a line fills, if it fills one. -/
def filled (t : Tracker) : List Batch :=
  if t.batchSize ≤ t.batch.length then t.due else []

/-- The batches that a call writes in turn. -/
def writes (t : Tracker) : TrackerCall → List Batch
  | .record line time => t.left line ++ (t.noted line time).filled
  | .flush => t.due

/-- The batches that a run of calls writes. -/
def written (t : Tracker) : List TrackerCall → List Batch
  | [] => []
  | call :: calls => t.writes call ++ (t.perform call).written calls

def contents (t : Tracker) (name : String) : Option String :=
  match t.capture with
  | .directory files => files.get? name
  | .off | .unwritable => none

theorem contents_of_directory {t : Tracker} {files : NameMap String}
    (hcapture : t.capture = .directory files) : t.contents = files.get? := by
  funext name
  rw [contents, hcapture]

theorem replay_concat (t : Tracker) (calls : List TrackerCall) (call : TrackerCall) :
    t.replay (calls ++ [call]) = (t.replay calls).perform call := by
  rw [replay, List.foldl_append]
  rfl

theorem written_concat (t : Tracker) (calls : List TrackerCall) (call : TrackerCall) :
    t.written (calls ++ [call]) = t.written calls ++ (t.replay calls).writes call := by
  induction calls generalizing t with
  | nil => simp [written, replay]
  | cons first rest ih =>
      rw [List.cons_append, written, written, ih, List.append_assoc]
      rfl

theorem isCapturing_writeBatch (t : Tracker) : t.writeBatch.isCapturing = t.isCapturing := by
  rw [writeBatch]
  by_cases hempty : t.batch.isEmpty = true
  · rw [if_pos hempty]
  · rw [if_neg hempty]
    cases hcapture : t.capture with
    | off => simp only [isCapturing, hcapture]
    | unwritable => simp only [isCapturing, hcapture]
    | directory files =>
        by_cases hname : isFileName t.fileName = true
        · simp only [isCapturing, hcapture, if_pos hname]
        · simp only [isCapturing, hcapture, if_neg hname]

/-- A capturing tracker notes the line, and writes the batch that is full then. -/
theorem record_eq {t : Tracker} (hcapturing : t.isCapturing = true) (line : String) (time : Float) :
    t.record line time =
      if (t.noted line time).batchSize ≤ (t.noted line time).batch.length then
        (t.noted line time).writeBatch
      else t.noted line time := by
  have hcaptured : ∀ {begun : Tracker}, begun.isCapturing = true →
      (begun.countLine line).captureLine line time =
        let noted := begun.addLine (line, time)
        if noted.batchSize ≤ noted.batch.length then noted.writeBatch else noted := by
    intro begun hbegun
    exact if_pos hbegun
  cases hstart : printFile? line with
  | none =>
      simp only [record, noted, begun, hstart, Option.elim_none]
      exact hcaptured hcapturing
  | some file =>
      simp only [record, noted, begun, hstart, Option.elim_some]
      exact hcaptured ((isCapturing_writeBatch t).trans hcapturing)

theorem due_of_nil {t : Tracker} (hbatch : t.batch = []) : t.due = [] := by
  rw [due, hbatch]
  rfl

theorem writeBatch_of_nil {t : Tracker} (hbatch : t.batch = []) : t.writeBatch = t := by
  rw [writeBatch, hbatch]
  rfl

theorem due_of_ne_nil {t : Tracker} (hbatch : t.batch ≠ []) :
    t.due = [⟨t.prints, t.printId, t.batchNumber, t.batch.reverse⟩] := by
  rw [due, if_neg (by simpa using hbatch)]

theorem exists_writeBatch_eq (t : Tracker) :
    ∃ capture batchNumber, t.writeBatch = { t with capture, batch := [], batchNumber } := by
  by_cases hbatch : t.batch = []
  · refine ⟨t.capture, t.batchNumber, ?_⟩
    rw [writeBatch_of_nil hbatch, ← hbatch]
  · rw [writeBatch, if_neg (by simpa using hbatch)]
    exact ⟨_, _, rfl⟩

/-- A write into a directory stores what is due, when its file can have its name. -/
theorem writeBatch_of_ne_nil {t : Tracker} (hbatch : t.batch ≠ []) {batches : List Batch}
    (hcapture : t.capture = .directory (stored batches))
    (hname : ∀ b ∈ t.due, isFileName b.file = true) :
    t.writeBatch = { t with
      capture := .directory (stored (batches ++ t.due)), batch := [],
      batchNumber := t.batchNumber + 1 } := by
  rw [due_of_ne_nil hbatch] at hname ⊢
  have hfile : isFileName t.fileName = true := by
    have hdue := hname _ (List.mem_singleton_self _)
    rw [Batch.file] at hdue
    rw [fileName_eq]
    exact hdue
  rw [writeBatch, if_neg (by simpa using hbatch)]
  simp only [hcapture, if_pos hfile, stored_concat]
  rfl

/-- Whether a batch has room for one more line. -/
def HasRoom (t : Tracker) : Prop :=
  t.batch.length < t.batchSize

theorem hasRoom_writeBatch {t : Tracker} (hsize : 0 < t.batchSize) : t.writeBatch.HasRoom := by
  obtain ⟨capture, batchNumber, hwritten⟩ := t.exists_writeBatch_eq
  rw [hwritten]
  exact hsize

theorem hasRoom_begun {t : Tracker} (hroom : t.HasRoom) (line : String) :
    (t.begun line).HasRoom := by
  cases hstart : printFile? line with
  | none =>
      simp only [begun, hstart, Option.elim_none]
      exact hroom
  | some file =>
      simp only [begun, hstart, Option.elim_some]
      exact hasRoom_writeBatch (Nat.zero_lt_of_lt hroom)

theorem batchSize_noted (t : Tracker) (line : String) (time : Float) :
    (t.noted line time).batchSize = (t.begun line).batchSize := by
  rw [noted, addLine, countLine]

theorem hasRoom_perform {t : Tracker} (hcapturing : t.isCapturing = true) (hroom : t.HasRoom)
    (call : TrackerCall) : (t.perform call).HasRoom := by
  cases call with
  | flush => exact hasRoom_writeBatch (Nat.zero_lt_of_lt hroom)
  | record line time =>
      rw [perform, record_eq hcapturing]
      by_cases hfull : (t.noted line time).batchSize ≤ (t.noted line time).batch.length
      · rw [if_pos hfull]
        have hsize : 0 < (t.begun line).batchSize := Nat.zero_lt_of_lt (hasRoom_begun hroom line)
        rw [← batchSize_noted t line time] at hsize
        exact hasRoom_writeBatch hsize
      · rw [if_neg hfull]
        exact Nat.lt_of_not_le hfull

/-! ### The numbers of files

A print can have `2 ^ 32` files. It takes as many lines to get there.
-/

/-- Each file of the print, and the batch that is not written yet, has taken a line at least. -/
def NumberedByLines (t : Tracker) : Prop :=
  t.batchNumber + min 1 t.batch.length ≤ t.count

theorem NumberedByLines.writeBatch {t : Tracker} (h : t.NumberedByLines) :
    t.writeBatch.NumberedByLines := by
  by_cases hbatch : t.batch = []
  · rwa [writeBatch_of_nil hbatch]
  · have hlength := List.length_pos_iff.mpr hbatch
    rw [NumberedByLines] at h
    rw [Tracker.writeBatch, if_neg (by simpa using hbatch), NumberedByLines]
    simp only [List.length_nil]
    omega

theorem NumberedByLines.startPrint {t : Tracker} (h : t.NumberedByLines) (file : String) :
    (t.startPrint file).NumberedByLines := by
  have hwritten := h.writeBatch
  rw [NumberedByLines] at hwritten ⊢
  simp only [Tracker.startPrint]
  omega

theorem NumberedByLines.note {t : Tracker} (h : t.NumberedByLines) (line : String)
    (time : Float) : ((t.countLine line).captureLine line time).NumberedByLines := by
  rw [NumberedByLines] at h
  have hnoted : ∀ batch : List String,
      NumberedByLines { t.countLine line with batch := batch } := by
    intro batch
    rw [NumberedByLines]
    simp only [countLine]
    omega
  rcases (t.countLine line).captureLine_cases line time with heq | ⟨entry, heq | heq⟩ <;> rw [heq]
  · exact hnoted t.batch
  · exact hnoted (entry :: t.batch)
  · exact (hnoted (entry :: t.batch)).writeBatch

theorem NumberedByLines.record {t : Tracker} (h : t.NumberedByLines) (line : String)
    (time : Float) : (t.record line time).NumberedByLines := by
  rw [Tracker.record]
  cases printFile? line with
  | none => exact h.note line time
  | some file => exact (h.startPrint file).note line time

theorem NumberedByLines.replay {t : Tracker} (h : t.NumberedByLines) (calls : List TrackerCall) :
    (t.replay calls).NumberedByLines := by
  induction calls generalizing t with
  | nil => exact h
  | cons call calls ih =>
      cases call with
      | record line time => exact ih (h.record line time)
      | flush => exact ih h.writeBatch

theorem count_replay (t : Tracker) (calls : List TrackerCall) :
    (t.replay calls).count = t.count + (recorded calls).length := by
  induction calls generalizing t with
  | nil => rfl
  | cons call calls ih =>
      cases call with
      | record line time =>
          refine (ih (t.record line time)).trans ?_
          rw [(t.record_books line time).1, Nat.add_assoc, Nat.add_comm 1]
          rfl
      | flush => exact (ih t.writeBatch).trans (by rw [t.writeBatch_books.1]; rfl)

/-- No file of a run has a number that is above the number of its lines, so a run of fewer than
`2 ^ 32` lines never comes to the end of the numbers. -/
theorem batchNumber_replay_le (c : TrackerConfig) (freshId : Nat → String)
    (calls : List TrackerCall) :
    ((ofConfig c freshId).replay calls).batchNumber ≤ (recorded calls).length := by
  have hnumbered : (ofConfig c freshId).NumberedByLines := Nat.le_refl 0
  have hlines := hnumbered.replay calls
  rw [NumberedByLines, count_replay] at hlines
  have hnone : (ofConfig c freshId).count = 0 := rfl
  omega

end Tracker

/-! ### The books of a capture -/

/-- The files of a capture hold these batches, and with the lines not yet written these entries. -/
structure Captured (names : List String) (entries : List (String × String)) (batches : List Batch)
    (t : Tracker) : Prop where
  capture : t.capture = .directory (stored batches)
  shelved : Shelved names batches
  prints : names.length = t.prints + 1
  printId : names[t.prints]? = some t.printId
  batchNumber : t.batchNumber = (shelf batches t.prints).length
  entries : batches.flatMap Batch.tagged ++ t.batch.reverse.map (fun entry => (t.printId, entry)) =
    entries
  sizes : ∀ b ∈ batches, 1 ≤ b.entries.length ∧ b.entries.length ≤ t.batchSize
  room : t.batch.length ≤ t.batchSize

namespace Captured

variable {names : List String} {entries : List (String × String)} {batches : List Batch}
  {t : Tracker}

theorem isCapturing (h : Captured names entries batches t) : t.isCapturing = true := by
  rw [Tracker.isCapturing, h.capture]

theorem write (h : Captured names entries batches t)
    (hname : ∀ b ∈ t.due, Tracker.isFileName b.file = true) :
    Captured names entries (batches ++ t.due) t.writeBatch := by
  by_cases hbatch : t.batch = []
  · rw [Tracker.due_of_nil hbatch, Tracker.writeBatch_of_nil hbatch, List.append_nil]
    exact h
  · rw [Tracker.writeBatch_of_ne_nil hbatch h.capture hname, Tracker.due_of_ne_nil hbatch]
    refine ⟨rfl, h.shelved.write h.prints h.printId h.batchNumber, h.prints, h.printId, ?_, ?_, ?_,
      Nat.zero_le _⟩
    · rw [shelf_concat_self batches ⟨t.prints, _, _, _⟩, List.length_append, ← h.batchNumber]
      rfl
    · rw [← h.entries, List.flatMap_append, List.flatMap_singleton]
      exact List.append_nil _
    · intro b hb
      rcases List.mem_append.mp hb with hold | hnew
      · exact h.sizes b hold
      · rw [List.mem_singleton.mp hnew, List.length_reverse]
        exact ⟨List.length_pos_iff.mpr hbatch, h.room⟩

/-- A print starts when nothing of the print before it is left to write. -/
theorem startPrint (h : Captured names entries batches t) (hempty : t.batch = []) (name : String) :
    Captured (names ++ [name]) entries batches
      { t with prints := t.prints + 1, printId := name, batchNumber := 0 } where
  capture := h.capture
  shelved := h.shelved.startPrint name
  prints := by rw [List.length_append, h.prints, List.length_singleton]
  printId := by rw [← h.prints, List.getElem?_concat_length]
  batchNumber := by
    have hempty := h.shelved.shelf_length
    rw [h.prints] at hempty
    simp only [hempty, List.length_nil]
  entries := by
    rw [← h.entries, hempty]
    rfl
  sizes := h.sizes
  room := h.room

theorem note (h : Captured names entries batches t) (hroom : t.HasRoom)
    (count : Nat) (lastLine : Option String) (entry : String) :
    Captured names (entries ++ [(t.printId, entry)]) batches
      { t with count, lastLine, batch := entry :: t.batch } where
  capture := h.capture
  shelved := h.shelved
  prints := h.prints
  printId := h.printId
  batchNumber := h.batchNumber
  entries := by
    rw [← h.entries, List.reverse_cons, List.map_append, List.append_assoc]
    rfl
  sizes := h.sizes
  room := hroom

/-- The latest of the names of the prints is that of the print in force. -/
theorem printInForce_eq {freshId : Nat → String} {lines : List (String × Float)}
    (h : Captured (printNames freshId lines) entries batches t) :
    printInForce freshId lines = t.printId := by
  have hlast := h.printId
  have hplace : t.prints = (printNames freshId lines).length - 1 := by
    rw [h.prints]
    rfl
  rw [hplace, ← List.getLast?_eq_getElem?,
    List.getLast?_eq_some_getLast (printNames_ne_nil freshId lines)] at hlast
  exact Option.some.inj hlast

end Captured

/-- A capture that has taken these lines, in the prints with these names. -/
structure Recorded (size : Nat) (freshId : Nat → String) (names : List String)
    (lines : List (String × Float)) (batches : List Batch) (t : Tracker) : Prop where
  captured : Captured names (entriesOf freshId lines) batches t
  batchSize : t.batchSize = size
  freshId : t.freshId = freshId
  count : t.count = lines.length

namespace Recorded

variable {size : Nat} {freshId : Nat → String} {names : List String}
  {lines : List (String × Float)} {batches : List Batch} {t : Tracker}

theorem writeBatch (h : Recorded size freshId names lines batches t)
    (hname : ∀ b ∈ t.due, Tracker.isFileName b.file = true) :
    Recorded size freshId names lines (batches ++ t.due) t.writeBatch := by
  have hcaptured := h.captured.write hname
  obtain ⟨capture, batchNumber, hwritten⟩ := t.exists_writeBatch_eq
  rw [hwritten] at hcaptured ⊢
  exact ⟨hcaptured, h.batchSize, h.freshId, h.count⟩

/-- A line that starts a print finds the print before it written, and itself in the new one. -/
theorem begin (h : Recorded size freshId (printNames freshId lines) lines batches t)
    (line : String × Float) (hname : ∀ b ∈ t.left line.1, Tracker.isFileName b.file = true) :
    Recorded size freshId (printNames freshId (lines ++ [line])) lines (batches ++ t.left line.1)
      (t.begun line.1) := by
  cases hstart : Tracker.printFile? line.1 with
  | none =>
      simp only [Tracker.left, Tracker.begun, hstart, Option.elim_none, List.append_nil]
      rw [printNames_concat_of_other freshId lines line hstart]
      exact h
  | some file =>
      simp only [Tracker.left, hstart, Option.elim_some] at hname
      simp only [Tracker.left, Tracker.begun, hstart, Option.elim_some]
      obtain ⟨hcaptured, hbatchSize, hfresh, hcount⟩ := h.writeBatch hname
      have hprints : t.writeBatch.prints = (printFiles lines).length := by
        have hnames := hcaptured.prints
        rw [length_printNames] at hnames
        exact (Nat.succ.inj hnames).symm
      have hempty : t.writeBatch.batch = [] := by
        obtain ⟨capture, batchNumber, hwritten⟩ := t.exists_writeBatch_eq
        rw [hwritten]
      have hid : printName file (freshId ((printFiles lines).length + 1)) =
          printName file (t.writeBatch.freshId (t.writeBatch.prints + 1)) := by
        rw [hfresh, hprints]
      have hnew := hcaptured.startPrint hempty
        (printName file (freshId ((printFiles lines).length + 1)))
      rw [← printNames_concat_of_start freshId lines line hstart, hid] at hnew
      exact ⟨hnew, hbatchSize, hfresh, hcount⟩

/-- The line's entry goes to the print in force, and counts one more than the lines before it. -/
theorem note {line : String × Float}
    (h : Recorded size freshId (printNames freshId (lines ++ [line])) lines batches t)
    (hroom : t.HasRoom) :
    Recorded size freshId (printNames freshId (lines ++ [line])) (lines ++ [line]) batches
      (t.addLine line) where
  captured := by
    have hnoted := h.captured.note hroom (t.count + 1) (some line.1) (entryText (t.count + 1) line)
    have hentries : entriesOf freshId lines ++ [(t.printId, entryText (t.count + 1) line)] =
        entriesOf freshId (lines ++ [line]) := by
      rw [entriesOf_concat, h.captured.printInForce_eq, h.count]
    rw [hentries] at hnoted
    exact hnoted
  batchSize := h.batchSize
  freshId := h.freshId
  count := by
    rw [List.length_append, ← h.count]
    rfl

theorem fill (h : Recorded size freshId names lines batches t)
    (hname : ∀ b ∈ t.filled, Tracker.isFileName b.file = true) :
    Recorded size freshId names lines (batches ++ t.filled)
      (if t.batchSize ≤ t.batch.length then t.writeBatch else t) := by
  by_cases hfull : t.batchSize ≤ t.batch.length
  · rw [Tracker.filled, if_pos hfull] at hname ⊢
    rw [if_pos hfull]
    exact h.writeBatch hname
  · rw [Tracker.filled, if_neg hfull, if_neg hfull, List.append_nil]
    exact h

theorem perform (h : Recorded size freshId (printNames freshId lines) lines batches t)
    (hroom : t.HasRoom) (call : TrackerCall)
    (hname : ∀ b ∈ t.writes call, Tracker.isFileName b.file = true) :
    Recorded size freshId (printNames freshId (lines ++ call.line?.toList))
      (lines ++ call.line?.toList) (batches ++ t.writes call) (t.perform call) := by
  cases call with
  | flush =>
      simp only [TrackerCall.line?, Option.toList_none, List.append_nil]
      exact h.writeBatch hname
  | record line time =>
      have hleft : ∀ b ∈ t.left line, Tracker.isFileName b.file = true := fun b hb =>
        hname b (List.mem_append_left _ hb)
      have hfilled : ∀ b ∈ (t.noted line time).filled, Tracker.isFileName b.file = true :=
        fun b hb => hname b (List.mem_append_right _ hb)
      have hnoted := (h.begin (line, time) hleft).note (Tracker.hasRoom_begun hroom line)
      rw [← Tracker.noted] at hnoted
      have hfill := hnoted.fill hfilled
      rw [List.append_assoc] at hfill
      rw [Tracker.perform, Tracker.record_eq h.captured.isCapturing]
      exact hfill

/-- A run of calls keeps the books of a capture, and room for the next line. -/
theorem replay {start : Tracker} (h : Recorded size freshId (printNames freshId []) [] [] start)
    (hroom : start.HasRoom) (calls : List TrackerCall)
    (hname : ∀ b ∈ start.written calls, Tracker.isFileName b.file = true) :
    Recorded size freshId (printNames freshId (recorded calls)) (recorded calls)
        (start.written calls) (start.replay calls) ∧
      (start.replay calls).HasRoom := by
  induction calls using List.reverseRecOn with
  | nil => exact ⟨h, hroom⟩
  | append_singleton calls call ih =>
      rw [Tracker.written_concat] at hname ⊢
      rw [Tracker.replay_concat, recorded_concat]
      obtain ⟨hearlier, hbefore⟩ := ih fun b hb => hname b (List.mem_append_left _ hb)
      exact ⟨hearlier.perform hbefore call fun b hb => hname b (List.mem_append_right _ hb),
        Tracker.hasRoom_perform hearlier.captured.isCapturing hbefore call⟩

end Recorded

/-- The tracker of a section with a directory has written nothing. -/
theorem recorded_ofConfig {c : TrackerConfig} (hdir : c.outputDir.isSome = true)
    (hsize : 1 ≤ c.batchSize) (freshId : Nat → String) :
    Recorded c.batchSize freshId (printNames freshId []) [] [] (Tracker.ofConfig c freshId) where
  captured := {
    capture := by
      rw [Tracker.ofConfig, hdir]
      rfl
    shelved := Shelved.single _
    prints := rfl
    printId := rfl
    batchNumber := rfl
    entries := rfl
    sizes := nofun
    room := Nat.zero_le _ }
  batchSize := Nat.max_eq_left hsize
  freshId := rfl
  count := rfl

theorem hasRoom_ofConfig (c : TrackerConfig) (freshId : Nat → String) :
    (Tracker.ofConfig c freshId).HasRoom :=
  Nat.lt_of_lt_of_le Nat.zero_lt_one (Nat.le_max_right _ _)

/-- No line is lost from a capture whose writes succeed, when the prints have identifiers of 36
characters that differ from each other. After a run of lines and flushes that ends with a flush, the
batches written hold every line once, in order, with its count and the print in force, which for a
line that starts a print is the new one; each batch has between 1 and `batchSize` lines and is the
whole contents of a file of its own, and there are no other files; and the files read print by
print, in order of number, are the recorded lines. -/
theorem capture_loses_no_line (c : TrackerConfig) (freshId : Nat → String)
    (calls : List TrackerCall) (hdir : c.outputDir.isSome = true) (hsize : 1 ≤ c.batchSize)
    (hform : ∀ i < (printFiles (recorded calls)).length, (freshId (i + 1)).length = 36)
    (hdistinct : ((List.range (printFiles (recorded calls)).length).map
      fun i => freshId (i + 1)).Nodup)
    (hwrites : ∀ b ∈ (Tracker.ofConfig c freshId).written (calls ++ [.flush]),
      Tracker.isFileName b.file = true) :
    let start := Tracker.ofConfig c freshId
    let lines := recorded calls
    let batches := start.written (calls ++ [.flush])
    let contents := (start.replay (calls ++ [.flush])).contents
    batches.flatMap Batch.tagged = entriesOf freshId lines ∧
      (∀ b ∈ batches, 1 ≤ b.entries.length ∧ b.entries.length ≤ c.batchSize) ∧
      (batches.map Batch.file).Nodup ∧
      (∀ name text, contents name = some text ↔ ∃ b ∈ batches, b.file = name ∧ b.text = text) ∧
      String.join ((printNames freshId lines).flatMap (readPrint contents batches.length)) =
        String.join ((entriesOf freshId lines).map (·.2)) := by
  intro start lines batches contents
  have hnames : (printNames freshId lines).Nodup := nodup_printNames hform hdistinct
  have hlines : recorded (calls ++ [.flush]) = lines := by
    rw [recorded_concat, TrackerCall.line?, Option.toList_none, List.append_nil]
  obtain ⟨⟨hcaptured, hbatchSize, -, -⟩, -⟩ :=
    (recorded_ofConfig hdir hsize freshId).replay (hasRoom_ofConfig c freshId) (calls ++ [.flush])
      hwrites
  rw [hlines] at hcaptured
  -- the flush at the end leaves nothing to write
  have hbatch : (start.replay (calls ++ [.flush])).batch = [] := by
    obtain ⟨capture, batchNumber, hflushed⟩ := (start.replay calls).exists_writeBatch_eq
    rw [Tracker.replay_concat, Tracker.perform, Tracker.flush, hflushed]
  have hentries : batches.flatMap Batch.tagged = entriesOf freshId lines := by
    have hall := hcaptured.entries
    rw [hbatch, List.reverse_nil, List.map_nil, List.append_nil] at hall
    exact hall
  have hcontents : contents = (stored batches).get? :=
    Tracker.contents_of_directory hcaptured.capture
  have hfiles := hcaptured.shelved.nodup_files hnames
  refine ⟨hentries, ?_, hfiles, ?_, ?_⟩
  · intro b hb
    have hb := hcaptured.sizes b hb
    rw [hbatchSize] at hb
    exact hb
  · intro name text
    rw [hcontents]
    exact get?_stored_eq_some_iff hfiles
  · rw [hcontents, hcaptured.shelved.read_back hnames, join_texts, hentries]

/-- Two lines before a print, its start, and two lines of it, with a flush in between. -/
def benchyRun : List TrackerCall := [
  .record "G28" 1,
  .record "G1 X1" 1.5,
  .record "M104 S200" 2,
  .record "SDCARD_PRINT_FILE FILENAME=jobs/benchy.gcode" 2.5,
  .flush,
  .record "G1 X2" 3,
  .record "G1 X3" 4]

def benchyIdent (n : Nat) : String :=
  "00000000-0000-4000-8000-00000000000" ++ Nat.repr n

theorem benchyRun_loses_no_line :
    let start := Tracker.ofConfig { outputDir := some "captures", batchSize := 2 } benchyIdent
    let batches := start.written (benchyRun ++ [.flush])
    let contents := (start.replay (benchyRun ++ [.flush])).contents
    batches.length = 4 ∧
      String.join ((printNames benchyIdent (recorded benchyRun)).flatMap
          (readPrint contents batches.length)) =
        "1,1,G28\n2,1.5,G1 X1\n3,2,M104 S200\n" ++
          "4,2.5,SDCARD_PRINT_FILE FILENAME=jobs/benchy.gcode\n5,3,G1 X2\n6,4,G1 X3\n" := by
  intro start batches contents
  have hkept := capture_loses_no_line { outputDir := some "captures", batchSize := 2 } benchyIdent
    benchyRun rfl (by decide) (by decide +kernel) (by decide +kernel) (by decide +kernel)
  exact ⟨by decide +kernel, hkept.2.2.2.2.trans (by decide +kernel)⟩

end HeaterHost.Gcode
