import HeaterHost.Proofs.Link.OwnAnswer
import Mathlib.Logic.Function.Iterate

/-!
# The course of operations

Operations on a session, taken in steps so small that none calls the decoder twice. A request takes
its frames one by one, and reads when there is none. The steps end where the operations do, so that
what holds after every step holds at every moment of the operations.
-/

namespace HeaterHost

open Wire

/-- What comes next in an operation. -/
inductive Stage where
  | resting
  /-- The decoder is asked for a frame. -/
  | sifting (limit : Instant)
  /-- The decoder has just had no frame, and the stream is read. -/
  | reading (limit : Instant)
deriving Repr, DecidableEq

/-- A session in the course of operations. -/
structure Course (ω : Type) where
  session : Session ω
  stage : Stage := .resting
  /-- The operations that have not begun. -/
  pending : List LinkOperation

namespace Course

def withLink {ω : Type} (c : Course ω) (link : Link) : Course ω :=
  { c with session := { c.session with link } }

variable {ω : Type} [Transport ω]

/-- Begins the next operation. Only a request takes more than that. -/
def enter (c : Course ω) : Course ω :=
  match c.pending with
  | [] => c
  | .request :: rest =>
      match c.session.ask with
      | (session, .error _) => { session, pending := rest }
      | (session, .ok ()) => { session, stage := .sifting session.deadline, pending := rest }
  | operation :: rest => { session := c.session.perform operation, pending := rest }

/-- Goes on with what was found among the frames. An answer ends the request, and one that makes no
sense ends the session. -/
def resume (c : Course ω) (limit : Instant) :
    Option (Except TelemetryError Telemetry) → Course ω
  | none => { c with stage := .reading limit }
  | some (.ok _) => { c with stage := .resting }
  | some (.error _) =>
      { c with
        session := { link := c.session.link.fault, wire := Transport.hangUp c.session.wire }
        stage := .resting }

def takeFrame (c : Course ω) (limit : Instant) : Course ω :=
  match c.session.link.decoder.next with
  | (none, decoder) => (c.withLink { c.session.link with decoder }).resume limit none
  | (some (.error _), decoder) => c.withLink { c.session.link with decoder }.discarded
  | (some (.ok text), decoder) =>
      let heard := { c.session.link with decoder }.heard c.session.now
      if isTelemetry text then (c.withLink heard).resume limit (some (Telemetry.parse text))
      else c.withLink (heard.publish c.session.now text)

def read (c : Course ω) (limit : Instant) : Course ω :=
  match Transport.receive c.session.wire limit with
  | (.data bytes, wire) =>
      { c with session := { link := c.session.link.received bytes, wire }, stage := .sifting limit }
  | (.silence, wire) =>
      { c with
        session := { link := c.session.link.timedOut, wire := Transport.hangUp wire }
        stage := .resting }
  | (.closed, wire) | (.failed _, wire) =>
      { c with
        session := { link := c.session.link.fault, wire := Transport.hangUp wire }
        stage := .resting }

def step (c : Course ω) : Course ω :=
  match c.stage with
  | .resting => c.enter
  | .sifting limit => c.takeFrame limit
  | .reading limit => c.read limit

theorem step_sifting (s : Session ω) (limit : Instant) (pending : List LinkOperation) :
    step { session := s, stage := .sifting limit, pending } =
      takeFrame { session := s, stage := .sifting limit, pending } limit :=
  rfl

theorem step_reading (s : Session ω) (limit : Instant) (pending : List LinkOperation) :
    step { session := s, stage := .reading limit, pending } =
      read { session := s, stage := .reading limit, pending } limit :=
  rfl

def Reaches (c c' : Course ω) : Prop :=
  ∃ n, step^[n] c = c'

/-- The course of operations on a session after so many steps. -/
def after (s : Session ω) (operations : List LinkOperation) (n : Nat) : Course ω :=
  step^[n] { session := s, pending := operations }

namespace Reaches

variable {c c' c'' : Course ω}

theorem refl (c : Course ω) : c.Reaches c :=
  ⟨0, rfl⟩

theorem head (hrest : c.step.Reaches c') : c.Reaches c' := by
  obtain ⟨n, hn⟩ := hrest
  exact ⟨n + 1, hn⟩

theorem one (c : Course ω) : c.Reaches c.step :=
  head (refl c.step)

theorem trans (h : c.Reaches c') (h' : c'.Reaches c'') : c.Reaches c'' := by
  obtain ⟨m, rfl⟩ := h
  obtain ⟨n, rfl⟩ := h'
  exact ⟨n + m, Function.iterate_add_apply step n m c⟩

end Reaches

/-! ### The steps end where the operations do -/

variable (pending : List LinkOperation)

/-- A request goes through the frames that are complete one by one. -/
theorem reaches_sift {l link : Link} {wire : ω} {result : Option (Except TelemetryError Telemetry)}
    (hsift : l.sift (Transport.now wire) = (link, result)) (limit : Instant) :
    Reaches { session := { link := l, wire }, stage := .sifting limit, pending }
      (resume { session := { link, wire }, stage := .sifting limit, pending } limit result) := by
  fun_induction Link.sift l (Transport.now wire) with
  | case1 l decoder hnext =>
      cases hsift
      refine .head ?_
      rw [step_sifting, takeFrame, hnext]
      exact .refl _
  | case2 l decoder l' error hnext _ _ ih =>
      refine .head ?_
      rw [step_sifting, takeFrame, hnext]
      exact ih hsift
  | case3 l decoder l' text hnext htelemetry =>
      cases hsift
      refine .head ?_
      rw [step_sifting, takeFrame, hnext]
      simp only [htelemetry, if_true]
      exact .refl _
  | case4 l decoder l' text hnext htelemetry _ _ ih =>
      refine .head ?_
      rw [step_sifting, takeFrame, hnext]
      simp only [htelemetry]
      exact ih hsift

/-- A request ends as it does when it is not taken in steps. -/
theorem reaches_await (s : Session ω) (limit : Instant) :
    Reaches { session := s, stage := .sifting limit, pending }
      { session := (s.await limit).1, pending } := by
  fun_induction Session.await s limit with
  | case1 s link telemetry hsift => exact reaches_sift pending hsift limit
  | case2 s link error hsift => exact reaches_sift pending hsift limit
  | case3 s link hsift bytes wire hreceive _ ih =>
      refine (reaches_sift pending hsift limit).trans (.head ?_)
      rw [resume, step_reading, read, hreceive]
      exact ih
  | case4 s link hsift wire hreceive | case5 s link hsift error wire hreceive
  | case6 s link hsift wire hreceive =>
      refine (reaches_sift pending hsift limit).trans (.head ?_)
      rw [resume, step_reading, read, hreceive]
      exact .refl _

theorem reaches_perform (s : Session ω) (operation : LinkOperation) :
    Reaches { session := s, pending := operation :: pending }
      { session := s.perform operation, pending } := by
  cases operation with
  | reopen | send _ | close => exact .one _
  | request =>
      refine .head ?_
      rw [step, enter, Session.perform, Session.request]
      rcases s.ask with ⟨asked, error | ⟨⟩⟩
      · exact .refl _
      · exact reaches_await pending asked asked.deadline

/-- The course passes through what each of the operations leaves. -/
theorem reaches_replay (s : Session ω) (operations : List LinkOperation) :
    Reaches { session := s, pending := operations ++ pending }
      { session := s.replay operations, pending } := by
  induction operations generalizing s with
  | nil => exact .refl _
  | cons operation rest ih =>
      exact (reaches_perform (rest ++ pending) s operation).trans (ih (s.perform operation))

end Course

end HeaterHost
