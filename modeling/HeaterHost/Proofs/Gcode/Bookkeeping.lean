import HeaterHost.Gcode.Tracker

/-!
# What a tracker keeps of a line

A line is counted and kept as the latest one, whatever becomes of its capture: that adds an entry to
the batch, and may write the batch to a file.
-/

namespace HeaterHost.Gcode.Tracker

/-- A line that is captured goes into the batch, which is then written if it is full. -/
theorem captureLine_cases (t : Tracker) (line : String) (time : Float) :
    t.captureLine line time = t ∨ ∃ entry,
      t.captureLine line time = { t with batch := entry :: t.batch } ∨
      t.captureLine line time = writeBatch { t with batch := entry :: t.batch } := by
  unfold captureLine
  split
  · refine .inr ⟨s!"{t.count},{Decimal.plain time},{line}\n", ?_⟩
    dsimp only
    split
    · exact .inr rfl
    · exact .inl rfl
  · exact .inl rfl

theorem writeBatch_books (t : Tracker) :
    t.writeBatch.count = t.count ∧ t.writeBatch.lastLine = t.lastLine ∧
      t.writeBatch.printId = t.printId := by
  unfold writeBatch
  split <;> exact ⟨rfl, rfl, rfl⟩

theorem captureLine_books (t : Tracker) (line : String) (time : Float) :
    (t.captureLine line time).count = t.count ∧
      (t.captureLine line time).lastLine = t.lastLine ∧
      (t.captureLine line time).printId = t.printId := by
  rcases t.captureLine_cases line time with heq | ⟨entry, heq | heq⟩ <;> rw [heq]
  · exact ⟨rfl, rfl, rfl⟩
  · exact ⟨rfl, rfl, rfl⟩
  · exact writeBatch_books _

/-- A line is counted and kept as the last one. The print changes only with a line that names the
file of another. -/
theorem record_books (t : Tracker) (line : String) (time : Float) :
    (t.record line time).count = t.count + 1 ∧ (t.record line time).lastLine = some line ∧
      (printFile? line = none → (t.record line time).printId = t.printId) := by
  cases hfile : printFile? line with
  | none =>
      have hrecord : t.record line time = (t.countLine line).captureLine line time := by
        simp only [record, hfile]
      rw [hrecord]
      obtain ⟨hcount, hlast, hprint⟩ := captureLine_books (t.countLine line) line time
      exact ⟨hcount, hlast, fun _ => hprint⟩
  | some file =>
      have hrecord : t.record line time =
          ((t.startPrint file).countLine line).captureLine line time := by
        simp only [record, hfile]
      rw [hrecord]
      obtain ⟨hcount, hlast, -⟩ := captureLine_books ((t.startPrint file).countLine line) line time
      refine ⟨hcount.trans ?_, hlast, nofun⟩
      exact congrArg (· + 1) (writeBatch_books t).1

end HeaterHost.Gcode.Tracker
