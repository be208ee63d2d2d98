import HeaterHost.Host.Bench
import HeaterHost.Host.Setup
import HeaterHost.Proofs.Link.AnswerOrder
import HeaterHost.Proofs.Sensor.History
import HeaterHost.Proofs.Sensor.Waiting

/-!
# The answer that a caller is shown

Somebody who asks a board something queues a command and takes the first line from the console that
looks like an answer. Lines come in the order of the questions, but a question that nobody waits
for any more is still asked and still answered. The line that is shown is the caller's own answer
exactly if that answer is heard in time and none to an older question is heard before it.
-/

namespace HeaterHost

open Wire

namespace Question

variable (q : Question)

def asks (command : DeviceCommand Float) : Bool :=
  command.text = q.command.text

variable {q}

theorem countP_asks_cons (command : DeviceCommand Float) (rest : List (DeviceCommand Float)) :
    (command :: rest).countP q.asks = q.asksIn command.text + rest.countP q.asks := by
  rw [List.countP_cons, Nat.add_comm, asksIn]
  simp only [asks, decide_eq_true_eq]

theorem asksIn_upload (gains : Gains Float) : q.asksIn (uploadText gains) = 0 :=
  if_neg (text_ne_uploadText q.command gains).symm

/-- Only the question itself is written like it. -/
theorem asks_iff {command : DeviceCommand Float} : q.asks command = true ↔ command = q.command := by
  rw [asks, decide_eq_true_eq]
  refine ⟨fun htext => ?_, fun heq => by rw [heq]⟩
  have hanswered := q.answered
  have hletter := command.head?_text
  rw [htext, DeviceCommand.head?_text] at hletter
  cases hcommand : q.command with
  | firmwareVersion | readPidValues =>
      rw [hcommand] at hletter
      cases command <;> first | rfl | cases hletter
  | _ =>
      rw [hcommand] at hanswered
      cases hanswered

theorem asksIn_query : q.asksIn (DeviceCommand.text .queryTelemetry) = 0 := by
  have hanswered := q.answered
  refine if_neg fun htext => ?_
  have hletter := q.command.head?_text
  rw [← htext] at hletter
  cases hcommand : q.command with
  | queryTelemetry =>
      rw [hcommand] at hanswered
      cases hanswered
  | _ =>
      rw [hcommand] at hletter
      cases hletter

end Question

namespace Sensor

variable {q : Question} {s t u : Sensor (QuestionLine q)}

/-- A sensor goes on: its session does, and every question that stops to wait has been asked. -/
structure Advances (s t : Sensor (QuestionLine q)) : Prop where
  live : t.stopped = s.stopped
  asked : ∃ more, Session.Progress more s.session t.session ∧
    more + t.waiting.countP q.asks = s.waiting.countP q.asks

theorem Advances.trans (h : s.Advances t) (h' : t.Advances u) : s.Advances u := by
  obtain ⟨more, hprogress, hcount⟩ := h.asked
  obtain ⟨further, hprogress', hcount'⟩ := h'.asked
  refine ⟨h'.live.trans h.live, more + further, hprogress.trans hprogress', ?_⟩
  omega

theorem Advances.of_idle (hprogress : Session.Progress 0 s.session t.session)
    (hwaiting : t.waiting = s.waiting) (hlive : t.stopped = s.stopped) : s.Advances t :=
  ⟨hlive, 0, hprogress, by rw [Nat.zero_add, hwaiting]⟩

theorem Advances.orderly (h : s.Advances t) : t.session.Orderly := by
  obtain ⟨more, hprogress, -⟩ := h.asked
  exact hprogress.orderly

theorem upload_advances {done : Bool} (hs : s.session.Orderly) (hupload : s.upload = (t, done)) :
    s.Advances t := by
  unfold upload at hupload
  split at hupload
  · cases hupload
    exact .of_idle (.refl hs) rfl rfl
  · split at hupload
    case h_1 session hsend =>
      cases hupload
      have hprogress := Session.send_progress hs hsend
      rw [show q.asksIn s.uploadText = 0 from Question.asksIn_upload s.gains] at hprogress
      exact .of_idle hprogress rfl rfl
    case h_2 session error hsend =>
      cases hupload
      exact .of_idle (Session.send_error_progress hsend) rfl rfl

theorem ensureConnected_advances {connected : Bool} (hs : s.session.Orderly)
    (hensure : s.ensureConnected = (t, connected)) : s.Advances t := by
  unfold ensureConnected connect at hensure
  split at hensure
  · cases hensure
    exact .of_idle (.refl hs) rfl rfl
  · split at hensure
    case h_1 session hreopen =>
      have hreopened := Session.reopen_ok_progress hreopen
      have hconnected : s.Advances ({ s with session }.connected) := .of_idle hreopened rfl rfl
      exact hconnected.trans (upload_advances hreopened.orderly hensure)
    case h_2 session error hreopen =>
      cases hensure
      obtain ⟨_, _, _, hfailed⟩ := connectFailed_eq { s with session }
      rw [hfailed]
      exact .of_idle (Session.reopen_error_progress hreopen) rfl rfl

theorem deliver_advances {commands : List (DeviceCommand Float)} {done : Bool}
    (hs : s.session.Orderly) (hdeliver : s.deliver commands = (t, done)) :
    Advances { s with pending := commands } t := by
  induction commands generalizing s with
  | nil =>
      cases hdeliver
      exact .of_idle (.refl hs) rfl rfl
  | cons command rest ih =>
      unfold deliver at hdeliver
      split at hdeliver
      case h_1 session hsend =>
        have hsent := Session.send_progress hs hsend
        have hfirst : Advances { s with pending := command :: rest }
            { s with session, pending := rest } :=
          ⟨rfl, _, hsent, (Question.countP_asks_cons command (rest ++ s.queue)).symm⟩
        exact hfirst.trans (ih (s := { s with session }) hsent.orderly hdeliver)
      case h_2 session error hsend =>
        cases hdeliver
        exact .of_idle (Session.send_error_progress hsend) rfl rfl

theorem ask_advances {ending : Except (Sample Float) Instant} (hs : s.session.Orderly)
    (hask : s.ask = (t, ending)) :
    s.Advances t ∧ (ending.toOption.isSome = true → t.session.link.isOpen = true) := by
  unfold ask Session.ask at hask
  split at hask
  case h_1 session hsend =>
    cases hask
    have hprogress := Session.send_progress hs hsend
    rw [Question.asksIn_query] at hprogress
    exact ⟨.of_idle hprogress rfl rfl, fun _ => Session.isOpen_of_send_ok hsend⟩
  case h_2 session error hsend =>
    cases hask
    exact ⟨.of_idle (Session.send_error_progress hsend) rfl rfl, nofun⟩

theorem begin_advances {ending : Except (Sample Float) Instant} (hs : s.session.Orderly)
    (hbegin : s.begin = (t, ending)) :
    s.Advances t ∧ (ending.toOption.isSome = true → t.session.link.isOpen = true) := by
  have htaken : s.Advances s.takeQueue := .of_idle (.refl hs) s.takeQueue_waiting rfl
  unfold Sensor.begin at hbegin
  split at hbegin
  case h_1 connected hensure =>
    cases hbegin
    have hconnected := htaken.trans (ensureConnected_advances hs hensure)
    exact ⟨hconnected.trans (.of_idle (.refl hconnected.orderly) rfl rfl), nofun⟩
  case h_2 connected hensure =>
    have hconnected := htaken.trans (ensureConnected_advances hs hensure)
    cases hdeliver : connected.deliver connected.pending with
    | mk delivered done =>
        have hdelivered := hconnected.trans (deliver_advances hconnected.orderly hdeliver)
        rw [hdeliver] at hbegin
        cases done with
        | false =>
            cases hbegin
            exact ⟨hdelivered.trans (.of_idle (.refl hdelivered.orderly) rfl rfl), nofun⟩
        | true =>
            obtain ⟨hasked, hopen⟩ := ask_advances hdelivered.orderly hbegin
            exact ⟨hdelivered.trans hasked, hopen⟩

theorem finish_advances (hs : s.session.Orderly) (hopen : s.session.link.isOpen = true)
    (deadline : Instant) : s.Advances (s.finish deadline).1 := by
  have hawaited := Session.await_progress hs hopen deadline
  have hwaiting := s.finish_waiting deadline
  unfold finish at hwaiting ⊢
  cases hawait : s.session.await deadline with
  | mk session result =>
      rw [hawait] at hawaited hwaiting
      cases result with
      | error error => exact .of_idle hawaited hwaiting rfl
      | ok telemetry =>
          obtain ⟨_, _, haccept⟩ := accept_eq { s with session } session.now.seconds telemetry
          dsimp only at hwaiting ⊢
          rw [haccept] at hwaiting ⊢
          exact .of_idle hawaited hwaiting rfl

end Sensor

/-! ### Histories -/

/-- A sensor whose steps take their time. -/
structure Sampling (q : Question) where
  sensor : Sensor (QuestionLine q)
  /-- Until when the step that has begun waits for its answer. -/
  waiting : Option Instant := none

inductive SamplingEvent where
  | push (command : DeviceCommand Float)
  | beginStep
  | finishStep
  | pass (time : Instant)

/-- The commands that are pushed in a run, oldest first. -/
def SamplingEvent.pushes (events : List SamplingEvent) : List (DeviceCommand Float) :=
  events.filterMap fun event =>
    match event with
    | push command => some command
    | _ => none

namespace Sampling

variable {q : Question}

/-- The sampling after an event. A step begins only when the one before it is over. -/
def perform (x : Sampling q) : SamplingEvent → Sampling q
  | .push command => { x with sensor := x.sensor.push command }
  | .beginStep =>
      match x.waiting with
      | some _ => x
      | none => { sensor := x.sensor.begin.1, waiting := x.sensor.begin.2.toOption }
  | .finishStep =>
      match x.waiting with
      | none => x
      | some deadline => { sensor := (x.sensor.finish deadline).1 }
  | .pass time => { x with sensor := x.sensor.elapse time }

def replay (x : Sampling q) (events : List SamplingEvent) : Sampling q :=
  events.foldl perform x

/-- A sensor that has not been used, on a line to a board. -/
def start (q : Question) (name endpoint : String) (gains : Gains Float) (reportTime : Span)
    (capacity : Nat) (turns : List q.Turn) : Sampling q :=
  { sensor := Sensor.create name endpoint gains reportTime capacity { turns } }

def link (x : Sampling q) : Link :=
  x.sensor.session.link

/-- The numbers of the questions that are out: those whose answers are still to come, and those that
wait to be asked. -/
def outstanding (x : Sampling q) : List Nat :=
  x.sensor.session.coming ++
    List.range' x.sensor.session.wire.asked (x.sensor.waiting.countP q.asks)

structure Sound (x : Sampling q) : Prop where
  live : x.sensor.stopped = false
  orderly : x.sensor.session.Orderly
  isOpen : x.waiting.isSome = true → x.sensor.session.link.isOpen = true

/-- Between two moments of a run so many questions were pushed, and each of them was asked or
waits. -/
structure Leads (pushed : Nat) (x y : Sampling q) : Prop where
  sound : y.Sound
  asked : ∃ more, Session.Progress more x.sensor.session y.sensor.session ∧
    more + y.sensor.waiting.countP q.asks = x.sensor.waiting.countP q.asks + pushed

theorem Leads.trans {pushed further : Nat} {x y z : Sampling q} (h : Leads pushed x y)
    (h' : Leads further y z) : Leads (pushed + further) x z := by
  obtain ⟨more, hprogress, hcount⟩ := h.asked
  obtain ⟨more', hprogress', hcount'⟩ := h'.asked
  refine ⟨h'.sound, more + more', hprogress.trans hprogress', ?_⟩
  omega

theorem Leads.of_advances {x : Sampling q} (hx : x.Sound) {sensor : Sensor (QuestionLine q)}
    (hsensor : x.sensor.Advances sensor) {waiting : Option Instant}
    (hopen : waiting.isSome = true → sensor.session.link.isOpen = true) :
    Leads 0 x { sensor, waiting } :=
  ⟨⟨hsensor.live.trans hx.live, hsensor.orderly, hopen⟩, hsensor.asked⟩

theorem perform_leads {x : Sampling q} (hx : x.Sound) (event : SamplingEvent) :
    Leads ((SamplingEvent.pushes [event]).countP q.asks) x (x.perform event) := by
  cases event with
  | push command =>
      have hwaiting := x.sensor.push_waiting command
      rw [hx.live, if_neg Bool.false_ne_true] at hwaiting
      have hpush : x.sensor.push command =
          { x.sensor with queue := x.sensor.queue ++ [command] } :=
        if_neg (by rw [hx.live]; exact Bool.false_ne_true)
      refine ⟨?_, 0, ?_, ?_⟩
      · rw [perform, hpush]
        exact ⟨hx.live, hx.orderly, hx.isOpen⟩
      · rw [perform, hpush]
        exact .refl hx.orderly
      · rw [Nat.zero_add, perform, hwaiting, List.countP_append]
        rfl
  | beginStep =>
      unfold perform
      dsimp only
      split
      · exact ⟨hx, 0, .refl hx.orderly, Nat.zero_add _⟩
      · obtain ⟨hbegin, hopen⟩ := Sensor.begin_advances hx.orderly rfl
        exact .of_advances hx hbegin hopen
  | finishStep =>
      unfold perform
      dsimp only
      split
      case h_1 => exact ⟨hx, 0, .refl hx.orderly, Nat.zero_add _⟩
      case h_2 deadline hwaiting =>
        have hopen := hx.isOpen (by rw [hwaiting]; rfl)
        exact .of_advances hx (Sensor.finish_advances hx.orderly hopen deadline) nofun
  | pass time =>
      exact ⟨⟨hx.live, hx.orderly, hx.isOpen⟩, 0, .of_same hx.orderly rfl rfl rfl, Nat.zero_add _⟩

theorem replay_leads {x : Sampling q} (hx : x.Sound) (events : List SamplingEvent) :
    Leads ((SamplingEvent.pushes events).countP q.asks) x (x.replay events) := by
  induction events generalizing x with
  | nil => exact ⟨hx, 0, .refl hx.orderly, Nat.zero_add _⟩
  | cons event events ih =>
      have hfirst := perform_leads hx event
      have hall := hfirst.trans (ih hfirst.sound)
      rw [← List.countP_append, SamplingEvent.pushes, SamplingEvent.pushes,
        ← List.filterMap_append] at hall
      exact hall

/-! ### The line that is shown -/

/-- The numbers of the answers that are found on the console in time, after its first `seen`
lines. -/
def heard (x : Sampling q) (seen : Nat) (deadline : Instant) : List Nat :=
  q.lineNumbers ((found (x.link.consoleAfter seen)).filter fun line => line.time < deadline)

theorem start_sound (q : Question) (name endpoint : String) (gains : Gains Float)
    (reportTime : Span) (capacity : Nat) (turns : List q.Turn) :
    (start q name endpoint gains reportTime capacity turns).Sound :=
  ⟨rfl, nofun, nofun⟩

/-- Questions are numbered in the order they were pushed: those that are out have the last numbers
before `own`, which the next one will have. -/
structure Numbered (x : Sampling q) (own : Nat) : Prop where
  coming : x.sensor.session.coming.Sublist (List.range' 0 x.sensor.session.wire.asked)
  waiting : x.sensor.session.wire.asked + x.sensor.waiting.countP q.asks = own

theorem replay_start_numbered (q : Question) (name endpoint : String) (gains : Gains Float)
    (reportTime : Span) (capacity : Nat) (turns : List q.Turn) (events : List SamplingEvent) :
    ((start q name endpoint gains reportTime capacity turns).replay events).Numbered
      ((SamplingEvent.pushes events).countP q.asks) := by
  have hleads := replay_leads (start_sound q name endpoint gains reportTime capacity turns) events
  obtain ⟨more, hprogress, hcount⟩ := hleads.asked
  obtain ⟨fresh, -, horder⟩ := hprogress.order
  have hasked := hprogress.asked.trans (Nat.zero_add more)
  constructor
  · rw [hasked]
    exact (List.sublist_append_right _ _).trans horder
  · rw [hasked]
    exact hcount.trans (Nat.zero_add _)

theorem Numbered.lt_of_outstanding {x : Sampling q} {own number : Nat} (hx : x.Numbered own)
    (hnumber : number ∈ x.outstanding) : number < own := by
  have hown := hx.waiting
  rcases List.mem_append.mp hnumber with hmem | hmem
  · have hlt := (List.mem_range'_1.mp (hx.coming.subset hmem)).2
    omega
  · have hlt := (List.mem_range'_1.mp hmem).2
    omega

end Sampling

/-! ### Lines that are found -/

theorem found_sublist (lines : List ConsoleLine) : (found lines).Sublist lines := by
  have hgroups : ∀ groups : List (List ConsoleLine),
      (groups.flatMap lastOnes).Sublist groups.flatten := by
    intro groups
    induction groups with
    | nil => exact List.Sublist.refl _
    | cons group groups ih =>
        rw [List.flatMap_cons, List.flatten_cons]
        exact (List.drop_sublist _ _).append ih
  have hfound := hgroups (lines.splitBy fun a b => a.time == b.time)
  rwa [List.flatten_splitBy] at hfound

theorem Question.lineNumbers_cons {q : Question} (line : ConsoleLine) (rest : List ConsoleLine) :
    q.lineNumbers (line :: rest) =
      if q.command.isAnsweredBy line.text then q.number line.text :: q.lineNumbers rest
      else q.lineNumbers rest := by
  cases hanswers : q.command.isAnsweredBy line.text with
  | true =>
      have hnumber : q.number? line.text = some (q.number line.text) := if_pos hanswers
      exact List.filterMap_cons_some hnumber
  | false =>
      have hnumber : q.number? line.text = none := by rw [number?, hanswers]; rfl
      exact List.filterMap_cons_none hnumber

/-- The line that is shown is the first answer that is found in time. -/
theorem Question.head?_of_find? {q : Question} {lines : List ConsoleLine} {deadline : Instant}
    {line : ConsoleLine}
    (hfind : (lines.find? fun line =>
      line.time < deadline && q.command.isAnsweredBy line.text) = some line) :
    (q.lineNumbers (lines.filter fun line => line.time < deadline)).head? =
      some (q.number line.text) := by
  induction lines with
  | nil => cases hfind
  | cons first rest ih =>
      rw [List.find?_cons] at hfind
      rw [List.filter_cons]
      cases htime : decide (first.time < deadline) with
      | false =>
          rw [htime, Bool.false_and] at hfind
          exact ih hfind
      | true =>
          rw [if_pos rfl, lineNumbers_cons]
          rw [htime, Bool.true_and] at hfind
          cases hanswers : q.command.isAnsweredBy first.text with
          | false =>
              rw [hanswers] at hfind
              exact ih hfind
          | true =>
              rw [hanswers] at hfind
              obtain rfl := Option.some.inj hfind
              rfl

namespace Sampling

variable {q : Question}

/-- What is found on the console later has been asked in this order, and was out or is new. -/
theorem heard_sublist {x y : Sampling q} {pushed : Nat} (h : Leads pushed x y) {seen : Nat}
    (hseen : x.link.console.length ≤ seen) (deadline : Instant) :
    ∃ more, y.sensor.session.wire.asked = x.sensor.session.wire.asked + more ∧
      more ≤ x.sensor.waiting.countP q.asks + pushed ∧
      (y.heard seen deadline).Sublist
        (x.sensor.session.coming ++ List.range' x.sensor.session.wire.asked more) := by
  obtain ⟨more, hprogress, hcount⟩ := h.asked
  obtain ⟨fresh, hconsole, horder⟩ := hprogress.order
  refine ⟨more, hprogress.asked, by omega, ?_⟩
  have hafter : (y.link.consoleAfter seen).Sublist fresh := by
    have hnone : x.sensor.session.link.console.reverse.drop seen = [] :=
      List.drop_eq_nil_of_le (List.length_reverse.trans_le hseen)
    rw [Link.consoleAfter, link, hconsole, List.drop_append, hnone, List.nil_append]
    exact List.drop_sublist _ _
  have hfound := (found_sublist (y.link.consoleAfter seen)).trans hafter
  have hnumbers : (y.heard seen deadline).Sublist (q.lineNumbers fresh) :=
    (List.filter_sublist.trans hfound).filterMap _
  exact (hnumbers.trans (List.sublist_append_left _ _)).trans horder

theorem Numbered.heard_sorted {x y : Sampling q} {own pushed : Nat} (hx : x.Numbered own)
    (h : Leads pushed x y) {seen : Nat} (hseen : x.link.console.length ≤ seen)
    (deadline : Instant) : (y.heard seen deadline).Pairwise (· < ·) := by
  obtain ⟨more, -, -, hheard⟩ := heard_sublist h hseen deadline
  have hall := hheard.trans (hx.coming.append_right _)
  have hrange := List.range'_append_1 (s := 0) (m := x.sensor.session.wire.asked) (n := more)
  rw [Nat.zero_add] at hrange
  rw [hrange] at hall
  exact List.Pairwise.sublist hall List.pairwise_lt_range'

/-- What is heard was out before, or has been pushed since. -/
theorem Numbered.out_or_new {x y : Sampling q} {own pushed number : Nat} (hx : x.Numbered own)
    (h : Leads pushed x y) {seen : Nat} (hseen : x.link.console.length ≤ seen)
    {deadline : Instant} (hnumber : number ∈ y.heard seen deadline) :
    number ∈ x.outstanding ∨ own ≤ number ∧ number < own + pushed := by
  obtain ⟨more, -, hmore, hheard⟩ := heard_sublist h hseen deadline
  have hown := hx.waiting
  rcases List.mem_append.mp (hheard.subset hnumber) with hmem | hmem
  · exact .inl (List.mem_append_left _ hmem)
  · obtain ⟨hge, hlt⟩ := List.mem_range'_1.mp hmem
    -- of the numbers given since, the first went to questions that were waiting already
    by_cases hle : own ≤ number
    · exact .inr ⟨hle, by omega⟩
    · exact .inl (List.mem_append_right _ (List.mem_range'_1.mpr (by omega)))

/-- The line that is shown has the least number of those that are heard. -/
theorem Numbered.shown_least {x y : Sampling q} {own pushed : Nat} (hx : x.Numbered own)
    (h : Leads pushed x y) {seen : Nat} (hseen : x.link.console.length ≤ seen)
    {deadline : Instant} {line : ConsoleLine}
    (hanswer : y.link.answer? seen q.command deadline = some line) :
    q.number line.text ∈ y.heard seen deadline ∧
      ∀ number ∈ y.heard seen deadline, q.number line.text ≤ number := by
  have hsorted := hx.heard_sorted h hseen deadline
  obtain ⟨rest, hfirst⟩ := List.head?_eq_some_iff.mp (Question.head?_of_find? hanswer)
  change y.heard seen deadline = q.number line.text :: rest at hfirst
  rw [hfirst] at hsorted ⊢
  refine ⟨List.mem_cons_self, fun number hnumber => ?_⟩
  rcases List.mem_cons.mp hnumber with rfl | hrest
  · exact Nat.le_refl _
  · exact Nat.le_of_lt (List.rel_of_pairwise_cons hsorted hrest)

theorem countP_asks_push {later : List SamplingEvent}
    (hlater : q.command ∉ SamplingEvent.pushes later) :
    (SamplingEvent.pushes (.push q.command :: later)).countP q.asks = 1 := by
  have hquiet : (SamplingEvent.pushes later).countP q.asks = 0 := by
    refine List.countP_eq_zero.mpr fun command hmem hasks => hlater ?_
    rwa [← Question.asks_iff.mp hasks]
  change (q.command :: SamplingEvent.pushes later).countP q.asks = 1
  rw [List.countP_cons_of_pos (Question.asks_iff.mpr rfl), hquiet]

/-- **Whose answer is shown.** -/
theorem shown_answer_is_own_iff (q : Question) (name endpoint : String) (gains : Gains Float)
    (reportTime : Span) (capacity : Nat) (turns : List q.Turn)
    (earlier later : List SamplingEvent) (seen : Nat) (deadline : Instant) (line : ConsoleLine) :
    let x := (start q name endpoint gains reportTime capacity turns).replay earlier
    let y := x.replay (.push q.command :: later)
    let own := (SamplingEvent.pushes earlier).countP q.asks
    x.link.console.length ≤ seen → y.link.answer? seen q.command deadline = some line →
      (∀ number ∈ x.outstanding, number < own) ∧
      (q.number line.text ∈ x.outstanding ∨ own ≤ q.number line.text) ∧
      (q.number line.text = own ↔
        own ∈ y.heard seen deadline ∧
          ∀ number ∈ y.heard seen deadline, number ∉ x.outstanding) ∧
      (x.outstanding = [] → q.command ∉ SamplingEvent.pushes later →
        q.number line.text = own) := by
  intro x y own hseen hanswer
  have hx : x.Numbered own :=
    replay_start_numbered q name endpoint gains reportTime capacity turns earlier
  have hsound : x.Sound :=
    (replay_leads (start_sound q name endpoint gains reportTime capacity turns) earlier).sound
  have hleads : Leads _ x y := replay_leads hsound (.push q.command :: later)
  obtain ⟨hshown, hleast⟩ := hx.shown_least hleads hseen hanswer
  have horigin := hx.out_or_new hleads hseen hshown
  refine ⟨fun _ => hx.lt_of_outstanding, horigin.imp_right And.left, ⟨?_, ?_⟩, ?_⟩
  · intro heq
    refine ⟨heq ▸ hshown, fun number hnumber hout => ?_⟩
    have hle := hleast number hnumber
    have hlt := hx.lt_of_outstanding hout
    omega
  · rintro ⟨hmem, hnone⟩
    have hge := (horigin.resolve_left (hnone _ hshown)).1
    exact Nat.le_antisymm (hleast own hmem) hge
  · intro hnone hlater
    have hnotOut : q.number line.text ∉ x.outstanding := by
      rw [hnone]
      exact List.not_mem_nil
    obtain ⟨hge, hlt⟩ := horigin.resolve_left hnotOut
    rw [countP_asks_push hlater] at hlt
    omega

/-! ### Two callers who are answered in turn -/

/-- The gains of a board, which are changed between the first question and the second. -/
def gainsQuestion : Question where
  command := .readPidValues
  answered := rfl
  number line := if line = "kp:20 ki:1 kd:2" then 1 else 0

def answer (line : String) (whole : terminator ∉ Text.bytes line)
    (reads : readBody (Text.bytes line) = some (.ok line))
    (answers : gainsQuestion.command.isAnsweredBy line = true) : gainsQuestion.Remark :=
  .reply { line, body := Text.bytes line, whole, reads, answers }

def telemetry : gainsQuestion.Remark :=
  .aside {
    body := Text.bytes "tick:1, T_a:2500"
    whole := by decide +kernel
    unrelated := by decide +kernel }

/-- In each step the board answers the question and then the query for telemetry. -/
def promptTurns : List gainsQuestion.Turn :=
  [{ outcome := .works 255 }, { outcome := .works 255 }, { outcome := .works 255 },
    { outcome := .works 255 },
    { remarks :=
        [answer "kp:13.41 ki:30.91 kd:1.46" (by decide +kernel) (by decide +kernel)
          (by decide +kernel), telemetry]
      outcome := .works 255 },
    { outcome := .works 255 }, { outcome := .works 255 },
    { remarks :=
        [answer "kp:20 ki:1 kd:2" (by decide +kernel) (by decide +kernel) (by decide +kernel),
          telemetry]
      outcome := .works 255 }]

def promptSampling : Sampling gainsQuestion :=
  start gainsQuestion "extruder" "board" { kp := 13.41, ki := 30.91, kd := 1.46 } 100000000 10
    promptTurns

theorem prompt_answer_is_own :
    let x := promptSampling.replay [.push .readPidValues, .beginStep, .finishStep]
    let y := x.replay [.push .readPidValues, .beginStep, .finishStep]
    ∃ line, y.link.answer? 1 .readPidValues replyTimeout = some line ∧
      gainsQuestion.number line.text = 1 := by
  have hanswer : ((promptSampling.replay [.push .readPidValues, .beginStep, .finishStep]).replay
      [.push .readPidValues, .beginStep, .finishStep]).link.answer? 1 .readPidValues replyTimeout =
      some { time := 0, text := "kp:20 ki:1 kd:2" } := by
    decide +kernel
  have hown := shown_answer_is_own_iff gainsQuestion "extruder" "board"
    { kp := 13.41, ki := 30.91, kd := 1.46 } 100000000 10 promptTurns
    [.push .readPidValues, .beginStep, .finishStep] [.beginStep, .finishStep] 1 replyTimeout _
    (by decide +kernel) hanswer
  exact ⟨_, hanswer, hown.2.2.2 (by decide +kernel) (by simp [SamplingEvent.pushes])⟩

end Sampling

/-! ### A caller who is shown an older answer -/

/-- The host of one heater, whose simulated board is not plugged in. -/
def offlineBench : Option (Bench Simulator.Line) :=
  let line : Simulator.BoardLine :=
    { name := "extruder", board := { model := .hotend }, switches := { offline := true } }
  let plan : HeaterPlan Simulator.Line :=
    { config := .onBoard "/dev/ttyACM1" 10.0 450.0
      wire := some ({ farEnd := .board line }, "sim:extruder") }
  let host := Host.setUp (NameMap.empty.insert "extruder" plan) (.create 1 (fun _ => "") .off)
  host.toOption.map fun host => { host }

def Bench.plugIn (b : Bench Simulator.Line) : Bench Simulator.Line :=
  { b with host := b.host.withSensor "extruder" fun s =>
      match s.session.wire.farEnd with
      | .board line => { s with session := { s.session with wire := { s.session.wire with
          farEnd := .board { line with switches := {} } } } }
      | _ => s }

/-- The gains are asked for, changed, and asked for again when the board is back. -/
def Bench.askTwice (b : Bench Simulator.Line) : List (Option String) × Option (List String) :=
  let (b, first) := b.execute "INO_READ_PID_VALUES" none
  let (b, changed) := b.execute "SET_PID_VALUES KP=20 KI=1 KD=2" none
  let (b, second) := b.plugIn.execute "INO_READ_PID_VALUES" (some "extruder")
  ([first, changed, second].map (·.toOption),
    (b.host.sensor? "extruder").map fun s => (s.session.link.consoleAfter 0).map (·.text))

/-- The second caller is shown the answer to the question of the first, with the gains from before
the change. The answer to the caller's own question comes right after it. -/
theorem offline_question_answers_later_one :
    offlineBench.map Bench.askTwice = some (
      [some "extruder: sent 'a', no reply",
        some "extruder: PID set to Kp=20.000 Ki=1.000 Kd=2.000",
        some "extruder: kp:13.41 ki:30.91 kd:1.46"],
      some ["kp:13.41 ki:30.91 kd:1.46", "kp:20 ki:1 kd:2"]) := by
  decide +kernel

end HeaterHost
