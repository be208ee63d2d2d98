import HeaterHost.Proofs.Link.Tap
import HeaterHost.Proofs.Sensor.History
import HeaterHost.Proofs.Sensor.Waiting
import HeaterHost.Proofs.Wire.Instructions

/-!
# What a sensor writes, in order

Every frame that a step writes has a reason: the board gets its gains, a command that waited is
delivered, or telemetry is asked for. The gains come first and once. The commands come in the order
in which they were pushed, none twice and none left out, and a query comes only when no command
waits any more. This holds whatever the line does with attempts to connect, writes and reads.
-/

namespace HeaterHost

open Wire

/-- The reason why a frame is written. -/
inductive Writing where
  | upload
  | order (command : DeviceCommand Float)
  | query

namespace Writing

def text (gains : Gains Float) : Writing → String
  | upload => uploadText gains
  | order command => command.text
  | query => DeviceCommand.text .queryTelemetry

def frame (gains : Gains Float) (w : Writing) : List UInt8 :=
  encodeFrame (w.text gains)

/-- The commands that were written, in order. -/
def orders (written : List Writing) : List (DeviceCommand Float) :=
  written.filterMap fun w =>
    match w with
    | order command => some command
    | _ => none

theorem orders_append (written more : List Writing) :
    orders (written ++ more) = orders written ++ orders more :=
  List.filterMap_append

/-- The bytes of the upload are those of no other frame. -/
theorem frame_ne_upload {gains : Gains Float} {w : Writing} (hw : w ≠ upload) :
    w.frame gains ≠ upload.frame gains := by
  intro hframe
  have hbodies := congrArg Simulator.BoardLine.bodies hframe
  rw [frame, frame, text, bodies_upload] at hbodies
  cases w with
  | upload => exact hw rfl
  | order command =>
      rw [text, bodies_command] at hbodies
      exact body_ne_uploadBody command gains (List.head_eq_of_cons_eq hbodies)
  | query =>
      rw [text, bodies_command] at hbodies
      exact body_ne_uploadBody .queryTelemetry gains (List.head_eq_of_cons_eq hbodies)

end Writing

/-- An event at a line with a tap. The line changes behind the tap. -/
def SensorEvent.tapped {ω : Type} : SensorEvent ω → SensorEvent (Tapped ω)
  | push command => push command
  | step => step
  | disturb change => disturb fun t => { t with wire := change t.wire }

namespace Sensor

variable {ω : Type} [Transport ω]

/-! ### The writings of a step -/

/-- The upload, if the board has got its gains in between. -/
def uploadBetween (s t : Sensor ω) : List Writing :=
  if s.uploaded = false ∧ t.uploaded = true then [.upload] else []

/-- The commands that have stopped to wait in between. -/
def ordersBetween (s t : Sensor ω) : List Writing :=
  (s.waiting.take (s.waiting.length - t.waiting.length)).map .order

/-- What a step writes: the gains, if the board gets them, the commands that stop to wait, and the
query, if an answer is waited for. -/
def stepWritings (s : Sensor ω) : List Writing :=
  s.uploadBetween s.begin.1 ++ s.ordersBetween s.begin.1 ++
    if s.begin.2.toOption.isSome then [.query] else []

/-- What the steps of a run write. -/
def writings (clock : ω → Float) (s : Sensor ω) : List (SensorEvent ω) → List Writing
  | [] => []
  | .step :: events => s.stepWritings ++ writings clock (s.stepBy clock).1 events
  | event :: events => writings clock (s.perform clock event) events

omit [Transport ω] in
theorem uploadBetween_eq_nil {s t : Sensor ω} (h : t.uploaded = s.uploaded) :
    s.uploadBetween t = [] := by
  refine if_neg ?_
  rw [h]
  simp

omit [Transport ω] in
theorem uploadBetween_congr {s s' t t' : Sensor ω} (hs : s'.uploaded = s.uploaded)
    (ht : t'.uploaded = t.uploaded) : s'.uploadBetween t' = s.uploadBetween t := by
  rw [uploadBetween, uploadBetween, hs, ht]

omit [Transport ω] in
theorem ordersBetween_of_append {s t : Sensor ω} {delivered : List (DeviceCommand Float)}
    (hwaiting : s.waiting = delivered ++ t.waiting) :
    s.ordersBetween t = delivered.map .order := by
  rw [ordersBetween, hwaiting, List.length_append, Nat.add_sub_cancel, List.take_left]

/-! ### The record of a sensor -/

/-- What a sensor has written: the frames on the line, with what was pushed and what waits. -/
structure Recorded (gains : Gains Float) (pushed : List (DeviceCommand Float))
    (written : List Writing) (s : Sensor (Tapped ω)) : Prop where
  same : s.gains = gains
  live : s.stopped = false
  frames : s.session.wire.frames = written.map (Writing.frame gains)
  ledger : Writing.orders written ++ s.waiting = pushed
  fresh : s.uploaded = false → written = []
  first : s.uploaded = true → ∃ later, written = .upload :: later ∧ .upload ∉ later

/-- A board that is connected has its gains. -/
def Primed (s : Sensor ω) : Prop :=
  s.session.link.isOpen = true → s.uploaded = true

omit [Transport ω] in
theorem Primed.of_closed {s : Sensor ω} (hclosed : s.session.link.isOpen = false) : s.Primed := by
  intro hopen
  rw [hclosed] at hopen
  cases hopen

variable {gains : Gains Float} {pushed : List (DeviceCommand Float)} {written : List Writing}
  {s t : Sensor (Tapped ω)}

omit [Transport ω] in
theorem Recorded.congr (hs : s.Recorded gains pushed written) (hgains : t.gains = s.gains)
    (hlive : t.stopped = s.stopped) (hframes : t.session.wire.frames = s.session.wire.frames)
    (hwaiting : t.waiting = s.waiting) (huploaded : t.uploaded = s.uploaded) :
    t.Recorded gains pushed written := by
  refine ⟨hgains.trans hs.same, hlive.trans hs.live, hframes.trans hs.frames, ?_, ?_, ?_⟩
  · rw [hwaiting]
    exact hs.ledger
  · rw [huploaded]
    exact hs.fresh
  · rw [huploaded]
    exact hs.first

omit [Transport ω] in
theorem Recorded.withSession (hs : s.Recorded gains pushed written)
    {session : Session (Tapped ω)} (hframes : session.wire.frames = s.session.wire.frames) :
    Recorded gains pushed written { s with session } :=
  hs.congr rfl rfl hframes rfl rfl

omit [Transport ω] in
theorem Recorded.noUpload (ht : t.Recorded gains pushed written)
    (huploaded : t.uploaded = s.uploaded) :
    t.Recorded gains pushed (written ++ s.uploadBetween t) := by
  rw [uploadBetween_eq_nil huploaded, List.append_nil]
  exact ht

omit [Transport ω] in
theorem Recorded.takeQueue (hs : s.Recorded gains pushed written) :
    s.takeQueue.Recorded gains pushed written :=
  hs.congr rfl rfl rfl s.takeQueue_waiting rfl

omit [Transport ω] in
theorem Recorded.publishFailure (hs : s.Recorded gains pushed written) :
    s.publishFailure.1.Recorded gains pushed written :=
  hs.congr rfl rfl rfl rfl rfl

omit [Transport ω] in
theorem Recorded.push (hs : s.Recorded gains pushed written) (command : DeviceCommand Float) :
    (s.push command).Recorded gains (pushed ++ [command]) written := by
  have hpush : s.push command = { s with queue := s.queue ++ [command] } := by
    rw [Sensor.push, hs.live]
    rfl
  rw [hpush]
  refine ⟨hs.same, hs.live, hs.frames, ?_, hs.fresh, hs.first⟩
  rw [← hs.ledger, waiting, waiting, List.append_assoc, List.append_assoc]

omit [Transport ω] in
/-- The upload has been written, the first of all frames. -/
theorem Recorded.upload (hs : s.Recorded gains pushed written) (hfresh : s.uploaded = false)
    {session : Session (Tapped ω)}
    (hwrites : Session.Writes (Writing.text gains .upload) s.session session) :
    Recorded gains pushed (written ++ [.upload]) { s with session, uploaded := true } := by
  refine ⟨hs.same, hs.live, ?_, ?_, nofun, fun _ => ?_⟩
  · dsimp only
    rw [hwrites.frames, hs.frames, List.map_append]
    rfl
  · rw [Writing.orders_append]
    exact (congrArg (· ++ s.waiting) (List.append_nil _)).trans hs.ledger
  · rw [hs.fresh hfresh]
    exact ⟨[], rfl, List.not_mem_nil⟩

omit [Transport ω] in
/-- Another frame has been written. -/
theorem Recorded.wrote (hs : s.Recorded gains pushed written) (huploaded : s.uploaded = true)
    {w : Writing} (hw : w ≠ .upload) {session : Session (Tapped ω)}
    (hwrites : Session.Writes (w.text gains) s.session session)
    {pending : List (DeviceCommand Float)}
    (hpending : s.pending = Writing.orders [w] ++ pending) :
    Recorded gains pushed (written ++ [w]) { s with session, pending } := by
  refine ⟨hs.same, hs.live, ?_, ?_, ?_, fun _ => ?_⟩
  · dsimp only
    rw [hwrites.frames, hs.frames, List.map_append]
    rfl
  · rw [Writing.orders_append, ← hs.ledger, waiting, waiting, hpending, List.append_assoc,
      List.append_assoc]
  · dsimp only
    rw [huploaded]
    exact nofun
  · obtain ⟨later, rfl, hlater⟩ := hs.first huploaded
    refine ⟨later ++ [w], rfl, ?_⟩
    rw [List.mem_append, List.mem_singleton, not_or]
    exact ⟨hlater, fun h => hw h.symm⟩

/-! ### One step -/

theorem upload_recorded {done : Bool} (hs : s.Recorded gains pushed written)
    (hopen : s.session.link.isOpen = true) (hupload : s.upload = (t, done)) :
    t.Recorded gains pushed (written ++ s.uploadBetween t) ∧ t.Primed ∧
      t.pending = s.pending ∧ t.queue = s.queue ∧
      t.session.wire.attempts = s.session.wire.attempts := by
  unfold upload at hupload
  split at hupload
  case isTrue huploaded =>
    cases hupload
    exact ⟨hs.noUpload rfl, fun _ => huploaded, rfl, rfl, rfl⟩
  case isFalse hfresh =>
    rw [Bool.not_eq_true] at hfresh
    split at hupload
    case h_1 session hsend =>
      cases hupload
      have hwrites := Session.send_ok_of_isOpen hopen hsend
      rw [uploadBetween, if_pos ⟨hfresh, rfl⟩]
      exact ⟨hs.upload hfresh (hs.same ▸ hwrites), fun _ => rfl, rfl, rfl, hwrites.attempts⟩
    case h_2 session error hsend =>
      cases hupload
      obtain ⟨hquiet, hclosed⟩ := Session.send_error_of_isOpen hopen hsend
      exact ⟨(hs.withSession hquiet.frames).noUpload rfl, .of_closed hclosed, rfl, rfl,
        hquiet.attempts⟩

theorem ensureConnected_recorded {connected : Bool} (hs : s.Recorded gains pushed written)
    (hprimed : s.Primed) (hensure : s.ensureConnected = (t, connected)) :
    t.Recorded gains pushed (written ++ s.uploadBetween t) ∧ t.Primed ∧
      t.pending = s.pending ∧ t.queue = s.queue ∧
      t.session.wire.attempts ≤ s.session.wire.attempts + 1 := by
  unfold ensureConnected at hensure
  split at hensure
  case isTrue =>
    cases hensure
    exact ⟨hs.noUpload rfl, hprimed, rfl, rfl, Nat.le_succ _⟩
  case isFalse =>
    obtain ⟨hframes, hattempts⟩ := s.session.reopen_tap
    unfold connect at hensure
    split at hensure
    case h_1 session hreopen =>
      rw [hreopen] at hframes hattempts
      have hopened : ({ s with session }.connected).Recorded gains pushed written :=
        hs.congr rfl rfl hframes rfl rfl
      obtain ⟨hrecorded, hprimed', hpending, hqueue, hsame⟩ :=
        upload_recorded hopened (Session.isOpen_of_reopen_ok hreopen) hensure
      exact ⟨hrecorded, hprimed', hpending, hqueue, (hsame.trans hattempts).le⟩
    case h_2 session error hreopen =>
      cases hensure
      rw [hreopen] at hframes hattempts
      have hclosed := Session.isOpen_of_reopen_error hreopen
      obtain ⟨_, _, _, hfailed⟩ := connectFailed_eq { s with session }
      rw [hfailed]
      exact ⟨.noUpload (hs.congr rfl rfl hframes rfl rfl) rfl, .of_closed hclosed, rfl, rfl,
        hattempts.le⟩

/-- Delivering writes commands from the front of those that wait, all of them unless a write
fails. -/
theorem deliver_recorded {commands : List (DeviceCommand Float)} {done : Bool}
    (hs : Recorded gains pushed written { s with pending := commands })
    (hopen : s.session.link.isOpen = true) (huploaded : s.uploaded = true)
    (hdeliver : s.deliver commands = (t, done)) :
    ∃ delivered, commands = delivered ++ t.pending ∧
      t.Recorded gains pushed (written ++ delivered.map .order) ∧
      t.queue = s.queue ∧ t.uploaded = true ∧
      t.session.wire.attempts = s.session.wire.attempts ∧
      (done = true → t.pending = []) := by
  induction commands generalizing s written with
  | nil =>
      cases hdeliver
      refine ⟨[], rfl, ?_, rfl, huploaded, rfl, fun _ => rfl⟩
      rw [List.map_nil, List.append_nil]
      exact hs
  | cons command rest ih =>
      unfold deliver at hdeliver
      split at hdeliver
      case h_1 session hsend =>
        have hwrites := Session.send_ok_of_isOpen hopen hsend
        have hwrote : Recorded gains pushed (written ++ [.order command])
            { s with session, pending := rest } :=
          hs.wrote (w := .order command) huploaded nofun hwrites rfl
        obtain ⟨delivered, hrest, hrecorded, hqueue, hsame, hattempts, hdone⟩ :=
          ih (s := { s with session }) hwrote hwrites.isOpen huploaded hdeliver
        refine ⟨command :: delivered, congrArg (command :: ·) hrest, ?_, hqueue, hsame,
          hattempts.trans hwrites.attempts, hdone⟩
        rw [List.map_cons, List.append_cons]
        exact hrecorded
      case h_2 session error hsend =>
        cases hdeliver
        have hquiet := (Session.send_error_of_isOpen hopen hsend).1
        refine ⟨[], rfl, ?_, rfl, huploaded, hquiet.attempts, nofun⟩
        rw [List.map_nil, List.append_nil]
        exact hs.withSession hquiet.frames

theorem ask_recorded {ending : Except (Sample Float) Instant}
    (hs : s.Recorded gains pushed written)
    (hopen : s.session.link.isOpen = true) (huploaded : s.uploaded = true)
    (hask : s.ask = (t, ending)) :
    t.Recorded gains pushed (written ++ if ending.toOption.isSome then [.query] else []) ∧
      t.waiting = s.waiting ∧ t.uploaded = true ∧
      t.session.wire.attempts = s.session.wire.attempts := by
  unfold ask Session.ask at hask
  split at hask
  case h_1 session hsend =>
    cases hask
    have hwrites := Session.send_ok_of_isOpen hopen hsend
    have hwrote := hs.wrote (w := .query) huploaded nofun hwrites rfl
    exact ⟨hwrote, rfl, huploaded, hwrites.attempts⟩
  case h_2 session error hsend =>
    cases hask
    have hquiet := (Session.send_error_of_isOpen hopen hsend).1
    rw [Except.toOption, Option.isSome_none, if_neg Bool.false_ne_true, List.append_nil]
    exact ⟨(hs.withSession hquiet.frames).publishFailure, rfl, huploaded, hquiet.attempts⟩

omit [Transport ω] in
/-- The writings of a step, put together from those of its parts. -/
theorem Recorded.between {connected : Sensor (Tapped ω)} {delivered : List (DeviceCommand Float)}
    {query : List Writing} (ht : t.Recorded gains pushed
      (written ++ s.takeQueue.uploadBetween connected ++ delivered.map .order ++ query))
    (huploaded : t.uploaded = connected.uploaded) (hwaiting : s.waiting = delivered ++ t.waiting) :
    t.Recorded gains pushed (written ++ (s.uploadBetween t ++ s.ordersBetween t ++ query)) := by
  rw [ordersBetween_of_append hwaiting, uploadBetween_congr rfl huploaded, ← List.append_assoc,
    ← List.append_assoc]
  exact ht

/-- The first half of a step does all of its writing, with at most one attempt to connect. If it
ends in a query no command waits any more. -/
theorem begin_recorded {ending : Except (Sample Float) Instant}
    (hs : s.Recorded gains pushed written) (hprimed : s.Primed)
    (hbegin : s.begin = (t, ending)) :
    t.Recorded gains pushed (written ++ (s.uploadBetween t ++ s.ordersBetween t ++
        if ending.toOption.isSome then [.query] else [])) ∧
      t.Primed ∧ (ending.toOption.isSome = true → t.waiting = []) ∧
      t.session.wire.attempts ≤ s.session.wire.attempts + 1 := by
  unfold Sensor.begin at hbegin
  split at hbegin
  case h_1 connected hensure =>
    cases hbegin
    obtain ⟨hconnected, hprimed', hpending, hqueue, hattempts⟩ :=
      ensureConnected_recorded hs.takeQueue hprimed hensure
    have huploaded : connected.publishFailure.1.uploaded = connected.uploaded := rfl
    have hnone : s.waiting = [] ++ connected.publishFailure.1.waiting := by
      change s.takeQueue.pending = connected.pending ++ connected.queue
      rw [hpending, hqueue]
      exact (List.append_nil _).symm
    refine ⟨.between ?_ huploaded hnone, hprimed', nofun, hattempts⟩
    rw [List.map_nil, List.append_nil, Except.toOption, Option.isSome_none,
      if_neg Bool.false_ne_true, List.append_nil]
    exact hconnected.publishFailure
  case h_2 connected hensure =>
    obtain ⟨hconnected, hprimed', hpending, hqueue, hattempts⟩ :=
      ensureConnected_recorded hs.takeQueue hprimed hensure
    -- from here on every send finds the session open, so none of them connects by itself
    have hopen := isOpen_of_ensureConnected hensure
    have huploaded := hprimed' hopen
    cases hdeliver : connected.deliver connected.pending with
    | mk delivered done =>
        obtain ⟨commands, hcommands, hdelivered, hqueue', huploaded', hattempts', hdone⟩ :=
          deliver_recorded hconnected hopen huploaded hdeliver
        have hempty : delivered.queue = [] := hqueue'.trans hqueue
        have hwaiting : s.waiting = commands ++ delivered.waiting := by
          rw [waiting.eq_def delivered, hempty, List.append_nil, ← hcommands, hpending]
          rfl
        have hsame := huploaded'.trans huploaded.symm
        rw [hdeliver] at hbegin
        cases done with
        | false =>
            cases hbegin
            refine ⟨.between ?_ hsame hwaiting, fun _ => huploaded', nofun,
              hattempts'.trans_le hattempts⟩
            rw [Except.toOption, Option.isSome_none, if_neg Bool.false_ne_true, List.append_nil]
            exact hdelivered.publishFailure
        | true =>
            have hopen' := isOpen_of_deliver hopen hdeliver
            obtain ⟨hasked, hwaits, huploaded'', hattempts''⟩ :=
              ask_recorded hdelivered hopen' huploaded' hbegin
            rw [← hwaits] at hwaiting
            refine ⟨.between hasked (huploaded''.trans huploaded.symm) hwaiting,
              fun _ => huploaded'', fun _ => ?_, (hattempts''.trans hattempts').trans_le hattempts⟩
            rw [hwaits, waiting, hdone rfl, hempty]
            rfl

/-- Waiting for the answer writes nothing. -/
theorem await_recorded {session : Session (Tapped ω)} {limit : Instant}
    {result : Except LinkError Telemetry} (hs : s.Recorded gains pushed written)
    (hprimed : s.Primed) (hawait : s.session.await limit = (session, result)) :
    Recorded gains pushed written { s with session } ∧ Primed { s with session } ∧
      session.wire.attempts = s.session.wire.attempts := by
  have hquiet := s.session.quiet_await limit
  rw [hawait] at hquiet
  exact ⟨hs.withSession hquiet.frames, fun hopen => hprimed (hquiet.isOpen hopen), hquiet.attempts⟩

theorem stepBy_recorded (clock : Tapped ω → Float) (hs : s.Recorded gains pushed written)
    (hprimed : s.Primed) :
    (s.stepBy clock).1.Recorded gains pushed (written ++ s.stepWritings) ∧
      (s.stepBy clock).1.Primed ∧
      (s.stepBy clock).1.session.wire.attempts ≤ s.session.wire.attempts + 1 := by
  unfold stepBy stepWritings
  cases hbegin : s.begin with
  | mk asked ending =>
      obtain ⟨hrecorded, hprimed', -, hattempts⟩ := begin_recorded hs hprimed hbegin
      cases ending with
      | error sample => exact ⟨hrecorded, hprimed', hattempts⟩
      | ok limit =>
          dsimp only
          cases hawait : asked.session.await limit with
          | mk session result =>
              obtain ⟨hawaited, hprimed'', hsame⟩ := await_recorded hrecorded hprimed' hawait
              cases result with
              | error error => exact ⟨hawaited.publishFailure, hprimed'', hsame.trans_le hattempts⟩
              | ok telemetry =>
                  obtain ⟨_, _, haccept⟩ :=
                    accept_eq { asked with session } (clock session.wire) telemetry
                  dsimp only
                  rw [haccept]
                  exact ⟨hawaited.congr rfl rfl rfl rfl rfl, hprimed'', hsame.trans_le hattempts⟩

/-- A step that asks for telemetry has written every command that there was. -/
theorem orders_of_query_mem (hs : s.Recorded gains pushed written) (hprimed : s.Primed)
    (hquery : .query ∈ s.stepWritings) :
    Writing.orders (written ++ s.stepWritings) = pushed := by
  have hsome : s.begin.2.toOption.isSome = true := by
    simp only [stepWritings, uploadBetween, ordersBetween, List.mem_append, List.mem_map] at hquery
    rcases hquery with (hupload | ⟨_, -, ⟨⟩⟩) | hquery
    · split at hupload <;> simp at hupload
    · by_contra hnone
      rw [if_neg hnone] at hquery
      cases hquery
  obtain ⟨hrecorded, -, hwaiting, -⟩ := begin_recorded hs hprimed rfl
  have hledger := hrecorded.ledger
  rw [hwaiting hsome, List.append_nil] at hledger
  exact hledger

/-! ### A run -/

theorem replay_recorded (clock : Tapped ω → Float) (hs : s.Recorded gains pushed written)
    (hprimed : s.Primed) (events : List (SensorEvent ω)) :
    (s.replay clock (events.map .tapped)).Recorded gains (pushed ++ SensorEvent.pushes events)
        (written ++ s.writings clock (events.map .tapped)) ∧
      (s.replay clock (events.map .tapped)).Primed := by
  induction events generalizing s pushed written with
  | nil =>
      refine ⟨?_, hprimed⟩
      simpa [SensorEvent.pushes, writings, replay] using hs
  | cons event events ih =>
      cases event with
      | push command =>
          have hpush : (s.push command).Primed := by
            unfold Sensor.push
            split <;> exact hprimed
          have hrest := ih (hs.push command) hpush
          rw [List.append_assoc] at hrest
          exact hrest
      | step =>
          obtain ⟨hstep, hprimed', -⟩ := stepBy_recorded clock hs hprimed
          have hrest := ih hstep hprimed'
          rw [List.append_assoc] at hrest
          exact hrest
      | disturb change => exact ih (hs.withSession rfl) hprimed

/-- **Commands are written in order, once, and after the gains.** In every run the frames that were
written are those of its writings. The first of them, and no other, is the upload of the gains. The
commands among them are a prefix of the commands that were pushed. A step that writes a query has by
then written every command, and a step makes at most one attempt to connect. -/
theorem commands_written_in_order (clock : Tapped ω → Float) (name endpoint : String)
    (gains : Gains Float) (reportTime : Span) (capacity : Nat) (wire : ω)
    (events : List (SensorEvent ω)) :
    let start := create name endpoint gains reportTime capacity { wire : Tapped ω }
    let s := start.replay clock (events.map .tapped)
    let written := start.writings clock (events.map .tapped)
    let upload := Writing.upload.frame gains
    s.session.wire.frames = written.map (Writing.frame gains) ∧
      (s.session.wire.frames = [] ∨
        ∃ later, s.session.wire.frames = upload :: later ∧ upload ∉ later) ∧
      Writing.orders written <+: SensorEvent.pushes events ∧
      (s.stepBy clock).1.session.wire.frames =
        s.session.wire.frames ++ s.stepWritings.map (Writing.frame gains) ∧
      (.query ∈ s.stepWritings →
        Writing.orders (written ++ s.stepWritings) = SensorEvent.pushes events) ∧
      (s.stepBy clock).1.session.wire.attempts ≤ s.session.wire.attempts + 1 := by
  intro start s written upload
  have hstart : start.Recorded gains [] [] := ⟨rfl, rfl, rfl, rfl, fun _ => rfl, nofun⟩
  obtain ⟨hrecorded, hprimed⟩ := replay_recorded clock hstart nofun events
  obtain ⟨hstep, -, hattempts⟩ := stepBy_recorded clock hrecorded hprimed
  refine ⟨hrecorded.frames, ?_, ⟨_, hrecorded.ledger⟩, ?_,
    orders_of_query_mem hrecorded hprimed, hattempts⟩
  · cases huploaded : s.uploaded with
    | false => exact .inl (hrecorded.frames.trans (by rw [hrecorded.fresh huploaded]; rfl))
    | true =>
        obtain ⟨later, hwritten, hlater⟩ := hrecorded.first huploaded
        refine .inr ⟨later.map (Writing.frame gains), ?_, ?_⟩
        · rw [hrecorded.frames, hwritten]
          rfl
        · rintro hmem
          obtain ⟨w, hw, hframe⟩ := List.mem_map.mp hmem
          exact Writing.frame_ne_upload (fun h => hlater (h ▸ hw)) hframe
  · rw [hstep.frames, hrecorded.frames, List.map_append]

end Sensor

end HeaterHost
