import HeaterHost.Proofs.Heater.FaultMoves
import HeaterHost.Proofs.Host.FaultHistory

/-!
# A heater and the fault log

A heater runs beside anything else that tells the fault log something under another name; what it
has to say is collected after each event. The log lists exactly the fault that the heater holds,
and each transition is told once: a clear follows a report, and a report that follows another is of
another kind. Without a recovery in between the same kind can still come back, after the other
kind.
-/

namespace HeaterHost

/-! ### What a heater tells the log -/

/-- Signals, newest first, in an order that makes sense: a clear comes right after a report, and a
report that comes right after another is of another kind. -/
def FaultSignal.Orderly {α : Type} : List (FaultSignal α) → Prop
  | [] => True
  | .cleared :: earlier => (∃ fault rest, earlier = .raised fault :: rest) ∧ Orderly earlier
  | .raised fault :: earlier =>
      (∀ other rest, earlier = .raised other :: rest → fault.kind ≠ other.kind) ∧ Orderly earlier

theorem FaultSignal.eq_raised_of_kind {α : Type} {signal : FaultSignal α} {kind : FaultKind}
    (hkind : signal.fault?.map Fault.kind = some kind) :
    ∃ fault, signal = .raised fault ∧ fault.kind = kind := by
  cases signal with
  | raised fault => exact ⟨fault, rfl, Option.some.inj hkind⟩
  | cleared => cases hkind

namespace FaultSignal.Orderly

variable {α : Type} {told : List (FaultSignal α)}

theorem of_append {later earlier : List (FaultSignal α)} (h : Orderly (later ++ earlier)) :
    Orderly earlier := by
  induction later with
  | nil => exact h
  | cons signal rest ih =>
      cases signal with
      | raised fault => exact ih h.2
      | cleared => exact ih h.2

theorem report_before_clear (h : Orderly told) {later earlier : List (FaultSignal α)}
    (htold : told = later ++ .cleared :: earlier) :
    ∃ fault rest, earlier = .raised fault :: rest := by
  subst htold
  exact h.of_append.1

theorem kind_ne (h : Orderly told) {later earlier : List (FaultSignal α)} {fault other : Fault α}
    (htold : told = later ++ .raised fault :: .raised other :: earlier) :
    fault.kind ≠ other.kind := by
  subst htold
  exact h.of_append.1 other earlier rfl

end FaultSignal.Orderly

/-- The fault of a heater against everything it has told so far, newest first. -/
structure BoardHeater.Reported {α : Type} (h : BoardHeater α) (told : List (FaultSignal α)) :
    Prop where
  held : h.fault = told.head?.bind FaultSignal.fault?
  marked : h.state ≠ .shutdown → (h.state = .faulted ↔ h.fault.isSome = true)
  orderly : FaultSignal.Orderly told

namespace BoardHeater.Reported

variable {α : Type} {h h' : BoardHeater α} {told : List (FaultSignal α)}

theorem create [Scalar α] (name : String) (settings : HeaterSettings α) :
    (BoardHeater.create name settings).Reported [] where
  held := rfl
  marked _ := by simp [BoardHeater.create]
  orderly := trivial

theorem raised_of_isSome (hreported : h.Reported told) (hfault : h.fault.isSome = true) :
    ∃ fault earlier, told = .raised fault :: earlier := by
  rw [hreported.held] at hfault
  match told, hfault with
  | .raised fault :: earlier, _ => exact ⟨fault, earlier, rfl⟩

/-- A fault that is not like the present one is of another kind than the latest report. -/
theorem kind_ne_of_new (hreported : h.Reported told) {cause other : Fault α}
    (hnew : h.hasFaultLike cause = false) {rest : List (FaultSignal α)}
    (htold : told = .raised other :: rest) : cause.kind ≠ other.kind := by
  have hheld : h.fault = some other := by rw [hreported.held, htold]; rfl
  rw [hasFaultLike, hheld] at hnew
  exact fun heq => by simp [heq] at hnew

/-- One event: whatever it tells is told once, and the fault is that of the latest signal. -/
theorem move (hreported : h.Reported told) (hcollected : h.signals = []) (hmove : h.FaultMove h') :
    h'.Reported (h'.signals ++ told) := by
  cases hmove with
  | quiet name fault signals state =>
      rw [signals, hcollected, List.nil_append]
      refine ⟨fault.trans hreported.held, fun hrunning => ?_, hreported.orderly⟩
      rw [fault]
      rcases state with hsame | ⟨hvalidated, hactive⟩ | hshutdown
      · rw [hsame] at hrunning ⊢
        exact hreported.marked hrunning
      · have hbefore := hreported.marked (by simp [hvalidated])
        simpa [hvalidated, hactive] using hbefore
      · exact absurd hshutdown hrunning
  | raised name cause isNew fault signals state =>
      rw [signals, hcollected]
      refine ⟨fault, fun _ => ?_, fun other rest => hreported.kind_ne_of_new isNew,
        hreported.orderly⟩
      simp [state, fault]
  | recovered name faulted fault signals state =>
      have hheld : h.fault.isSome = true :=
        (hreported.marked (by simp [faulted])).mp faulted
      rw [signals, hcollected, if_pos hheld]
      refine ⟨fault, fun _ => ?_, hreported.raised_of_isSome hheld, hreported.orderly⟩
      simp [state, fault]

end BoardHeater.Reported

/-! ### Beside other sources -/

/-- What one source told, newest first. -/
def FaultNote.told (source : String) (notes : List FaultNote) : List (FaultSignal Float) :=
  (notes.filter fun note => note.source == source).map (·.signal)

theorem FaultLog.latest_eq_told (source : String) (notes : List FaultNote) :
    latest source notes = (FaultNote.told source notes).head?.bind FaultSignal.fault? := by
  rw [latest, FaultNote.told, List.head?_map, List.head?_filter]
  cases notes.find? fun note => note.source == source <;> rfl

/-- A heater, the fault log, and everything the log was told by anyone, newest first. -/
structure Reporting where
  heater : BoardHeater Float
  log : FaultLog
  notes : List FaultNote

inductive ReportingEvent where
  | own (event : HeaterEvent Float)
  | other (source : String) (signal : FaultSignal Float)

namespace Reporting

def start (name : String) (settings : HeaterSettings Float) : Reporting :=
  { heater := .create name settings, log := {}, notes := [] }

/-- After an event of its own the heater's signals are collected. -/
def perform (r : Reporting) : ReportingEvent → Reporting
  | .own event =>
      let heater := r.heater.perform event
      { heater := heater.collected
        log := r.log.noteAll heater.name heater.signals
        notes := heater.signals.map (fun signal => ⟨heater.name, signal⟩) ++ r.notes }
  | .other source signal =>
      { r with log := r.log.note source signal, notes := ⟨source, signal⟩ :: r.notes }

def replay (r : Reporting) (events : List ReportingEvent) : Reporting :=
  events.foldl perform r

/-- Everything the heater told, newest first. -/
def told (r : Reporting) : List (FaultSignal Float) :=
  FaultNote.told r.heater.name r.notes

structure Sound (name : String) (r : Reporting) : Prop where
  named : r.heater.name = name
  collected : r.heater.signals = []
  log : r.log = FaultLog.ofNotes r.notes
  reported : r.heater.Reported (FaultNote.told name r.notes)

namespace Sound

variable {name : String} {r : Reporting}

theorem start (name : String) (settings : HeaterSettings Float) :
    Sound name (Reporting.start name settings) where
  named := rfl
  collected := rfl
  log := rfl
  reported := .create name settings

theorem own (hsound : Sound name r) (event : HeaterEvent Float) :
    Sound name (r.perform (.own event)) := by
  have hmove := r.heater.perform_move event
  have hname : (r.heater.perform event).name = name := hmove.name.trans hsound.named
  have htold : FaultNote.told name
      ((r.heater.perform event).signals.map (fun signal => ⟨name, signal⟩) ++ r.notes) =
        (r.heater.perform event).signals ++ FaultNote.told name r.notes := by
    simp [FaultNote.told, List.filter_map, Function.comp_def]
  have hreported := hsound.reported.move hsound.collected hmove
  rw [← htold] at hreported
  refine ⟨hname, rfl, ?_, ?_⟩
  · simp only [perform, hsound.log, FaultLog.noteAll_ofNotes]
  · simp only [perform, hname]
    exact ⟨hreported.held, hreported.marked, hreported.orderly⟩

theorem other (hsound : Sound name r) {source : String} (hsource : source ≠ name)
    (signal : FaultSignal Float) : Sound name (r.perform (.other source signal)) where
  named := hsound.named
  collected := hsound.collected
  log := by simp only [perform, hsound.log, FaultLog.ofNotes_cons]
  reported := by
    simpa [perform, FaultNote.told, hsource] using hsound.reported

theorem replay (hsound : Sound name r) {events : List ReportingEvent}
    (hothers : ∀ source signal, .other source signal ∈ events → source ≠ name) :
    Sound name (r.replay events) := by
  induction events generalizing r with
  | nil => exact hsound
  | cons event rest ih =>
      have hrest : ∀ source signal, .other source signal ∈ rest → source ≠ name :=
        fun source signal hmem => hothers source signal (List.mem_cons_of_mem _ hmem)
      cases event with
      | own event => exact ih (hsound.own event) hrest
      | other source signal =>
          exact ih (hsound.other (hothers source signal (List.mem_cons_self ..)) signal) hrest

end Sound

/-- A heater is faulted exactly while it holds a fault, until it is shut down; the log lists
exactly the fault it holds, at all times; each of its clears comes right after a report of its own,
and two reports of its own in a row differ in kind. Whoever tells the log what, its history is the
latest hundred notes that changed something, and the active faults are what all of those leave
behind: each source with the fault its latest note left it with. -/
theorem faults_told_once (name : String) (settings : HeaterSettings Float)
    (events : List ReportingEvent)
    (hothers : ∀ source signal, .other source signal ∈ events → source ≠ name) :
    let r := (start name settings).replay events
    (r.heater.state ≠ .shutdown →
      (r.heater.state = .faulted ↔ r.heater.fault.isSome = true)) ∧
    r.log = FaultLog.ofNotes r.notes ∧
    r.log.active.get? name = r.heater.fault ∧
    (∀ later earlier, r.told = later ++ .cleared :: earlier →
      ∃ fault rest, earlier = .raised fault :: rest) ∧
    (∀ later earlier fault other,
      r.told = later ++ .raised fault :: .raised other :: earlier → fault.kind ≠ other.kind) ∧
    ∀ notes : List FaultNote,
      (FaultLog.ofNotes notes).history = ((FaultLog.changes notes).take 100).reverse ∧
      (FaultLog.ofNotes notes).active = FaultLog.activeAfter (FaultLog.changes notes) ∧
      ∀ source, (FaultLog.ofNotes notes).active.get? source = FaultLog.latest source notes := by
  intro r
  have hsound : Sound name r := (Sound.start name settings).replay hothers
  have htold : r.told = FaultNote.told name r.notes := by rw [told, hsound.named]
  have hlisted : r.log.active.get? name = r.heater.fault := by
    rw [hsound.log, FaultLog.active_ofNotes_get?, FaultLog.latest_eq_told, hsound.reported.held]
  rw [htold]
  refine ⟨hsound.reported.marked, hsound.log, hlisted, ?_, ?_, ?_⟩
  · intro later earlier hclear
    exact hsound.reported.orderly.report_before_clear hclear
  · intro later earlier fault other hreports
    exact hsound.reported.orderly.kind_ne hreports
  · intro notes
    exact ⟨FaultLog.history_ofNotes notes, FaultLog.active_ofNotes notes,
      FaultLog.active_ofNotes_get? notes⟩

def boardSettings : HeaterSettings Float :=
  (HeaterConfig.onBoard "/dev/ttyACM1" 10.0 450.0).settings

/-- The sensor is lost, then the heater is too hot, then the sensor is lost again. -/
def lostAgain : List ReportingEvent :=
  [.own (.activate 0.0), .own (.tick .missing 0.0 1.0), .own (.tick (.reading 2.0 500.0) 0.0 2.0),
    .own (.tick .missing 0.0 3.0)]

def besideBed : List ReportingEvent :=
  .other "bed" (.raised (.overTemperature 130.0 120.0)) :: lostAgain

theorem besideBed_told_once :
    (∀ source signal, .other source signal ∈ besideBed → source ≠ "extruder") ∧
    ((start "extruder" boardSettings).replay besideBed).log.active.get? "extruder" =
      ((start "extruder" boardSettings).replay besideBed).heater.fault := by
  have hothers : ∀ source signal, .other source signal ∈ besideBed → source ≠ "extruder" := by
    simp [besideBed, lostAgain]
  exact ⟨hothers, (faults_told_once "extruder" boardSettings besideBed hothers).2.2.1⟩

/-- Two reports without a clear between them can be of one kind. -/
theorem lostAgain_same_kind :
    ¬ ∀ (name : String) (settings : HeaterSettings Float) (events : List ReportingEvent),
      (∀ source signal, .other source signal ∈ events → source ≠ name) →
      ∀ later between earlier fault other,
        ((start name settings).replay events).told =
          later ++ .raised fault :: (between ++ .raised other :: earlier) →
        .cleared ∉ between → fault.kind ≠ other.kind := by
  intro hdiffer
  have hkinds : ((start "extruder" boardSettings).replay lostAgain).told.map
      (fun signal => signal.fault?.map Fault.kind) =
        [some .sensorLost, some .overTemperature, some .sensorLost] := by
    decide +kernel
  obtain ⟨last, rest, htold, hlast, hkinds⟩ := List.map_eq_cons_iff.mp hkinds
  obtain ⟨hot, rest, rfl, hhot, hkinds⟩ := List.map_eq_cons_iff.mp hkinds
  obtain ⟨first, rest, rfl, hfirst, -⟩ := List.map_eq_cons_iff.mp hkinds
  obtain ⟨fault, rfl, hfault⟩ := FaultSignal.eq_raised_of_kind hlast
  obtain ⟨middle, rfl, -⟩ := FaultSignal.eq_raised_of_kind hhot
  obtain ⟨other, rfl, hother⟩ := FaultSignal.eq_raised_of_kind hfirst
  have hne := hdiffer "extruder" boardSettings lostAgain (by simp [lostAgain])
    [] [.raised middle] rest fault other htold (by simp)
  exact hne (hfault.trans hother.symm)

end Reporting

end HeaterHost
