import HeaterHost.Sensor.Basic
import HeaterHost.Proofs.Link.Answers
import HeaterHost.Proofs.Sensor.Acceptance

/-!
# The books of a sensor

Every command that was pushed is written once and in its place, or still waits: what a sensor has
written and what it holds back are always, in this order, what it was given. A step that fails
leaves the rest of its commands for the next one.
-/

namespace HeaterHost

open Simulator Wire

namespace Sensor

variable {gains : Gains Float} {limit : Nat} {pushed : List (DeviceCommand Float)}

/-- The books of a sensor: the orders it has written and the commands that wait are, in this order,
the commands that were pushed. -/
structure Booked (gains : Gains Float) (limit : Nat) (pushed : List (DeviceCommand Float))
    (s : Sensor LossyLine) : Prop where
  same : s.gains = gains
  live : s.stopped = false
  attuned : s.session.Attuned gains limit
  ledger : s.session.wire.orders gains ++ (s.pending ++ s.queue).map DeviceCommand.body =
    pushed.map DeviceCommand.body
  commands : ∀ command ∈ s.pending ++ s.queue, command ≠ .queryTelemetry

variable {s s' : Sensor LossyLine} {session : Session LossyLine}

theorem Booked.congr (hs : s.Booked gains limit pushed) (hgains : s'.gains = s.gains)
    (hlive : s'.stopped = s.stopped) (hsession : s'.session = s.session)
    (hpending : s'.pending = s.pending) (hqueue : s'.queue = s.queue) :
    s'.Booked gains limit pushed := by
  refine ⟨hgains.trans hs.same, hlive.trans hs.live, hsession ▸ hs.attuned, ?_, ?_⟩
  · rw [hsession, hpending, hqueue]
    exact hs.ledger
  · rw [hpending, hqueue]
    exact hs.commands

theorem Booked.publishFailure (hs : s.Booked gains limit pushed) :
    s.publishFailure.1.Booked gains limit pushed :=
  hs.congr rfl rfl rfl rfl rfl

theorem Booked.takeQueue (hs : s.Booked gains limit pushed) :
    s.takeQueue.Booked gains limit pushed := by
  refine ⟨hs.same, hs.live, hs.attuned, ?_, ?_⟩
  · have hledger := hs.ledger
    simp only [Sensor.takeQueue, List.append_nil] at hledger ⊢
    exact hledger
  · have hcommands := hs.commands
    simp only [Sensor.takeQueue, List.append_nil] at hcommands ⊢
    exact hcommands

theorem Booked.push (hs : s.Booked gains limit pushed) {command : DeviceCommand Float}
    (hcommand : command ≠ .queryTelemetry) :
    (s.push command).Booked gains limit (pushed ++ [command]) := by
  have hpush : s.push command = { s with queue := s.queue ++ [command] } := by
    rw [Sensor.push, hs.live]
    rfl
  rw [hpush]
  refine ⟨hs.same, hs.live, hs.attuned, ?_, ?_⟩
  · dsimp only
    rw [← List.append_assoc, List.map_append, ← List.append_assoc, hs.ledger, List.map_append]
  · dsimp only
    rw [← List.append_assoc]
    exact List.forall_mem_append.mpr ⟨hs.commands, List.forall_mem_singleton.mpr hcommand⟩

/-- A session that has written no order leaves the ledger as it was. -/
theorem Booked.withSession (hs : s.Booked gains limit pushed) {limit' : Nat}
    (hattuned : session.Attuned gains limit')
    (horders : session.wire.orders gains = s.session.wire.orders gains) :
    Booked gains limit' pushed { s with session } := by
  refine ⟨hs.same, hs.live, hattuned, ?_, hs.commands⟩
  dsimp only
  rw [horders]
  exact hs.ledger

theorem Booked.ended (hs : s.Booked gains limit pushed)
    (hended : Session.Ended gains s.session session) (limit' : Nat) :
    Booked gains limit' pushed { s with session } :=
  hs.withSession (hended.attuned limit') (LossyLine.orders_congr gains hended.written)

/-! ### One step -/

theorem upload_books {uploaded : Bool} (hs : s.Booked gains 0 pushed)
    (hupload : s.upload = (s', uploaded)) :
    s'.Booked gains 0 pushed ∧ s'.pending = s.pending ∧ s'.queue = s.queue := by
  have hbodies : BoardLine.bodies (encodeFrame s.uploadText) = [uploadBody gains] := by
    rw [← hs.same]
    exact bodies_upload s.gains
  unfold upload at hupload
  split at hupload
  · cases hupload
    exact ⟨hs, rfl, rfl⟩
  · split at hupload
    case h_1 session hsend =>
      cases hupload
      have hwrote := Session.send_ok hs.attuned hbodies .upload hsend
      have hattuned := hwrote.attuned
      rw [queries_upload] at hattuned
      have horders := LossyLine.orders_concat_of_not hwrote.written (isOrder_upload gains)
      exact ⟨(hs.withSession hattuned horders).congr rfl rfl rfl rfl rfl, rfl, rfl⟩
    case h_2 session error hsend =>
      cases hupload
      exact ⟨hs.ended (Session.send_error hs.attuned hsend) 0, rfl, rfl⟩

theorem connectFailed_books (hs : s.Booked gains limit pushed) :
    s.connectFailed.Booked gains limit pushed ∧ s.connectFailed.pending = s.pending ∧
      s.connectFailed.queue = s.queue := by
  unfold connectFailed
  dsimp only
  split
  · exact ⟨hs.congr rfl rfl rfl rfl rfl, rfl, rfl⟩
  · exact ⟨hs.congr rfl rfl rfl rfl rfl, rfl, rfl⟩

theorem ensureConnected_books {connected : Bool} (hs : s.Booked gains 0 pushed)
    (hensure : s.ensureConnected = (s', connected)) :
    s'.Booked gains 0 pushed ∧ s'.pending = s.pending ∧ s'.queue = s.queue := by
  unfold ensureConnected at hensure
  split at hensure
  · cases hensure
    exact ⟨hs, rfl, rfl⟩
  · unfold connect at hensure
    split at hensure
    case h_1 session hreopen =>
      obtain ⟨hattuned, -, hwritten⟩ := Session.reopen_ok hs.attuned.sound hreopen
      have hbooked := hs.withSession hattuned (LossyLine.orders_congr gains hwritten)
      have hconnected : ({ s with session }.connected).Booked gains 0 pushed :=
        hbooked.congr rfl rfl rfl rfl rfl
      have hbooks := upload_books hconnected hensure
      exact hbooks
    case h_2 session error hreopen =>
      cases hensure
      exact connectFailed_books (hs.ended (Session.reopen_error hs.attuned.sound hreopen) 0)

/-- Writing the commands that wait moves them from the end of the ledger to its middle, one by
one. -/
theorem deliver_books {commands : List (DeviceCommand Float)} {delivered : Bool}
    (hs : Booked gains 0 pushed { s with pending := commands })
    (hdeliver : s.deliver commands = (s', delivered)) :
    s'.Booked gains 0 pushed ∧ s'.queue = s.queue ∧ (delivered = true → s'.pending = []) := by
  induction commands generalizing s with
  | nil =>
      cases hdeliver
      exact ⟨hs, rfl, fun _ => rfl⟩
  | cons command rest ih =>
      obtain ⟨hcommand, hrest⟩ := List.forall_mem_cons.mp hs.commands
      unfold deliver at hdeliver
      split at hdeliver
      case h_1 session hsend =>
        have hwrote := Session.send_ok hs.attuned (bodies_command command) (.order command hcommand)
          hsend
        have hattuned := hwrote.attuned
        rw [queries_command hcommand] at hattuned
        refine ih (s := { s with session }) ⟨hs.same, hs.live, hattuned, ?_, hrest⟩ hdeliver
        dsimp only
        rw [LossyLine.orders_concat hwrote.written (isOrder_body gains hcommand),
          List.append_assoc]
        exact hs.ledger
      case h_2 session error hsend =>
        cases hdeliver
        have hended := hs.ended (Session.send_error hs.attuned hsend) 0
        exact ⟨hended, rfl, fun h => by cases h⟩

theorem ask_books {deadline : Instant} (hs : s.Booked gains 0 pushed)
    (hask : s.ask = (s', .ok deadline)) :
    s'.Booked gains 1 pushed ∧ s'.session.link.isOpen = true ∧ Session.Asked s'.session.wire.unread ∧
      s'.pending = s.pending ∧ s'.queue = s.queue := by
  have hbodies := bodies_command .queryTelemetry
  unfold ask Session.ask at hask
  split at hask
  case h_1 session hsend =>
    cases hask
    have hwrote := Session.send_ok hs.attuned hbodies .query hsend
    have hattuned := hwrote.attuned
    have hone : queries [DeviceCommand.queryTelemetry.body] = 1 := by simp [queries]
    rw [hone] at hattuned
    have horders := LossyLine.orders_concat_of_not hwrote.written (isOrder_query gains)
    refine ⟨hs.withSession hattuned horders, hwrote.isOpen, ?_, rfl, rfl⟩
    intro body hbody
    rw [hwrote.last] at hbody
    exact (Option.some.inj hbody).symm
  case h_2 => cases hask

theorem ask_failed_books {sample : Sample Float} (hs : s.Booked gains 0 pushed)
    (hask : s.ask = (s', .error sample)) :
    s'.Booked gains 0 pushed := by
  unfold ask Session.ask at hask
  split at hask
  case h_1 => cases hask
  case h_2 session error hsend =>
    cases hask
    exact (hs.ended (Session.send_error hs.attuned hsend) 0).publishFailure

/-- The first half of a step has written every command that was pushed before it, and the query
after them, or it is the whole step. -/
theorem begin_books {ending : Except (Sample Float) Instant} (hs : s.Booked gains 0 pushed)
    (hbegin : s.begin = (s', ending)) :
    (ending.toOption = none ∧ s'.Booked gains 0 pushed) ∨
      (ending.toOption.isSome = true ∧ s'.Booked gains 1 pushed ∧ s'.session.link.isOpen = true ∧
        Session.Asked s'.session.wire.unread ∧ s'.pending = [] ∧ s'.queue = []) := by
  unfold Sensor.begin at hbegin
  split at hbegin
  case h_1 connected hconnected =>
    cases hbegin
    exact .inl ⟨rfl, (ensureConnected_books hs.takeQueue hconnected).1.publishFailure⟩
  case h_2 connected hconnected =>
    obtain ⟨hbooked, hpending, hqueue⟩ := ensureConnected_books hs.takeQueue hconnected
    split at hbegin
    case h_1 delivered hdelivered =>
      cases hbegin
      exact .inl ⟨rfl, (deliver_books hbooked hdelivered).1.publishFailure⟩
    case h_2 delivered hdelivered =>
      obtain ⟨hwritten, hsame, hnone⟩ := deliver_books hbooked hdelivered
      cases ending with
      | error sample => exact .inl ⟨rfl, ask_failed_books hwritten hbegin⟩
      | ok deadline =>
          obtain ⟨hasked, hopen, hlast, hpending', hqueue'⟩ := ask_books hwritten hbegin
          refine .inr ⟨rfl, hasked, hopen, hlast, hpending'.trans (hnone rfl), ?_⟩
          rw [hqueue', hsame, hqueue]
          rfl

theorem finish_books (deadline : Instant) (hs : s.Booked gains 1 pushed)
    (hopen : s.session.link.isOpen = true) (hasked : Session.Asked s.session.wire.unread) :
    (s.finish deadline).1.Booked gains 0 pushed ∧
      (s.finish deadline).1.session.wire.orders gains = s.session.wire.orders gains ∧
      ((s.finish deadline).1.view.sample.valid = true →
        (s.finish deadline).1.session.wire.unread = []) := by
  unfold finish
  split
  case h_1 session telemetry hawait =>
    obtain ⟨hattuned, hunread, hwritten⟩ := Session.await_ok hs.attuned hopen hasked hawait
    have horders := LossyLine.orders_congr gains hwritten
    have hbooked := hs.withSession hattuned horders
    unfold accept
    dsimp only
    split
    · exact ⟨hbooked.congr rfl rfl rfl rfl rfl, horders, fun _ => hunread⟩
    · exact ⟨hbooked.congr rfl rfl rfl rfl rfl, horders, fun _ => hunread⟩
  case h_2 session error hawait =>
    have hended := Session.await_error hs.attuned hopen hawait
    have horders := LossyLine.orders_congr gains hended.written
    refine ⟨(hs.ended hended 0).publishFailure, horders, fun hvalid => ?_⟩
    rw [publishFailure_valid] at hvalid
    cases hvalid

end Sensor

end HeaterHost
