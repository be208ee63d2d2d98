import HeaterHost.Host.FaultLog
import HeaterHost.Proofs.NameMap

/-!
# What the fault log keeps

The log is compared with everything it was told, whoever told it. A report always changes
something; a clear does only if the latest word of its source was a report. The active faults are
what all those changes leave behind, and the history is the latest of them.
-/

namespace HeaterHost

def FaultSignal.fault? {α : Type} : FaultSignal α → Option (Fault α)
  | .raised fault => some fault
  | .cleared => none

/-- What a source told the fault log. -/
structure FaultNote where
  source : String
  signal : FaultSignal Float

def FaultEvent.applyTo (event : FaultEvent) (active : NameMap (Fault Float)) :
    NameMap (Fault Float) :=
  match event.fault with
  | some fault => active.insert event.source fault
  | none => active.erase event.source

namespace FaultLog

/-! ### What was told -/

/-- The log after everything it was told, newest first. -/
def ofNotes (notes : List FaultNote) : FaultLog :=
  notes.foldr (fun note log => log.note note.source note.signal) {}

/-- The fault that a source is left with: that of its latest note. -/
def latest (source : String) (notes : List FaultNote) : Option (Fault Float) :=
  (notes.find? fun note => note.source == source).bind fun note => note.signal.fault?

/-- The notes that changed something, newest first: the reports, and the clears of sources that
were at fault. -/
def changes : List FaultNote → List FaultEvent
  | [] => []
  | ⟨source, .raised fault⟩ :: earlier => ⟨source, some fault⟩ :: changes earlier
  | ⟨source, .cleared⟩ :: earlier =>
      if (latest source earlier).isSome then ⟨source, none⟩ :: changes earlier
      else changes earlier

/-- The active faults after changes, newest first. -/
def activeAfter (events : List FaultEvent) : NameMap (Fault Float) :=
  events.foldr FaultEvent.applyTo .empty

theorem ofNotes_cons (note : FaultNote) (earlier : List FaultNote) :
    ofNotes (note :: earlier) = (ofNotes earlier).note note.source note.signal := rfl

/-- A log that takes in all that one source has to say was told each of its signals. -/
theorem noteAll_ofNotes (source : String) (signals : List (FaultSignal Float))
    (notes : List FaultNote) :
    (ofNotes notes).noteAll source signals =
      ofNotes (signals.map (fun signal => ⟨source, signal⟩) ++ notes) := by
  induction signals with
  | nil => rfl
  | cons signal rest ih =>
      simp only [noteAll, List.foldr_cons, List.map_cons, List.cons_append, ofNotes_cons] at ih ⊢
      rw [ih]

theorem latest_cons_self (source : String) (signal : FaultSignal Float)
    (earlier : List FaultNote) : latest source (⟨source, signal⟩ :: earlier) = signal.fault? := by
  simp [latest]

theorem latest_cons_of_ne {source other : String} (hne : other ≠ source)
    (signal : FaultSignal Float) (earlier : List FaultNote) :
    latest other (⟨source, signal⟩ :: earlier) = latest other earlier := by
  simp [latest, Ne.symm hne]

/-! ### One note -/

theorem note_raised (log : FaultLog) (source : String) (fault : Fault Float) :
    log.note source (.raised fault) =
      { active := log.active.insert source fault
        history := pushWithin historyLimit log.history ⟨source, some fault⟩ } := rfl

/-- A clear counts only for a source that is at fault. -/
theorem note_cleared (log : FaultLog) (source : String) :
    log.note source .cleared =
      if (log.active.get? source).isSome then
        { active := log.active.erase source
          history := pushWithin historyLimit log.history ⟨source, none⟩ }
      else log := rfl

/-! ### The active faults -/

theorem active_note_self (log : FaultLog) (source : String) (signal : FaultSignal Float) :
    (log.note source signal).active.get? source = signal.fault? := by
  cases signal with
  | raised fault => exact NameMap.get?_insert_self ..
  | cleared =>
      rw [note_cleared]
      split
      case isTrue => exact NameMap.get?_erase_self ..
      case isFalse hnone => exact Option.not_isSome_iff_eq_none.mp hnone

theorem active_note_of_ne (log : FaultLog) {source other : String} (hne : other ≠ source)
    (signal : FaultSignal Float) :
    (log.note source signal).active.get? other = log.active.get? other := by
  cases signal with
  | raised fault => exact NameMap.get?_insert_of_ne _ hne _
  | cleared =>
      rw [note_cleared]
      split
      · exact NameMap.get?_erase_of_ne _ hne
      · rfl

/-- Each source is listed with the fault that its latest note left it with. -/
theorem active_ofNotes_get? (notes : List FaultNote) (source : String) :
    (ofNotes notes).active.get? source = latest source notes := by
  induction notes with
  | nil => rfl
  | cons note earlier ih =>
      obtain ⟨noted, signal⟩ := note
      rw [ofNotes_cons]
      by_cases hsource : source = noted
      · subst hsource
        rw [active_note_self, latest_cons_self]
      · rw [active_note_of_ne _ hsource, latest_cons_of_ne hsource, ih]

theorem active_ofNotes (notes : List FaultNote) :
    (ofNotes notes).active = activeAfter (changes notes) := by
  induction notes with
  | nil => rfl
  | cons note earlier ih =>
      obtain ⟨source, signal⟩ := note
      rw [ofNotes_cons]
      cases signal with
      | raised fault =>
          rw [note_raised, ih]
          rfl
      | cleared =>
          rw [note_cleared, active_ofNotes_get?, changes]
          split
          · rw [ih]
            rfl
          · exact ih

/-! ### The history -/

theorem history_ofNotes (notes : List FaultNote) :
    (ofNotes notes).history = ((changes notes).take historyLimit).reverse := by
  induction notes with
  | nil => rfl
  | cons note earlier ih =>
      obtain ⟨source, signal⟩ := note
      rw [ofNotes_cons]
      cases signal with
      | raised fault => rw [note_raised, ih, pushWithin_latest (by decide), changes]
      | cleared =>
          rw [note_cleared, active_ofNotes_get?, changes]
          split
          · rw [ih, pushWithin_latest (by decide)]
          · exact ih

end FaultLog

end HeaterHost
