import HeaterHost.Proofs.Link.Outcomes

/-!
# Attempts to connect

A line of any kind that keeps the outcome of every attempt to connect. A session dials when it opens
a stream, and at no other time: whatever is written and read on a session that is open, and however
it ends, its line has been dialled as often as before.
-/

namespace HeaterHost

open Wire

/-- A line with a list of the attempts to connect. It has no say in what the line does. -/
structure Dialled (ω : Type) where
  wire : ω
  /-- Whether each attempt succeeded, newest first. -/
  dials : List Bool := []

variable {ω : Type} [Transport ω]

instance : Transport (Dialled ω) where
  now d := Transport.now d.wire
  connect d :=
    let (result, wire) := Transport.connect d.wire
    (result, { wire, dials := result.isOk :: d.dials })
  write d bytes :=
    let (result, wire) := Transport.write d.wire bytes
    (result, { d with wire })
  receive d limit :=
    let (reception, wire) := Transport.receive d.wire limit
    (reception, { d with wire })
  hangUp d := { d with wire := Transport.hangUp d.wire }
  elapse d time := { d with wire := Transport.elapse d.wire time }
  backlog d := Transport.backlog d.wire
  backlog_receive d := Transport.backlog_receive d.wire

namespace Session

/-- A session has gone over into another to the same endpoint without an attempt to connect. -/
structure Undialled (s s' : Session (Dialled ω)) : Prop where
  endpoint : s'.link.endpoint = s.link.endpoint
  dials : s'.wire.dials = s.wire.dials

variable {s s' : Session (Dialled ω)}

omit [Transport ω] in
theorem Undialled.trans {s'' : Session (Dialled ω)} (h : s.Undialled s') (h' : s'.Undialled s'') :
    s.Undialled s'' :=
  ⟨h'.endpoint.trans h.endpoint, h'.dials.trans h.dials⟩

/-- Opening a stream is one attempt to connect. -/
theorem reopen_dials (s : Session (Dialled ω)) :
    s.reopen.1.link.endpoint = s.link.endpoint ∧
      s.reopen.1.wire.dials = s.reopen.2.isOk :: s.wire.dials := by
  have hdials : (Transport.connect s.wire).2.dials =
      (Transport.connect s.wire).1.isOk :: s.wire.dials := rfl
  unfold reopen
  split
  case h_1 wire hconnect | h_2 error wire hconnect =>
    rw [hconnect] at hdials
    exact ⟨rfl, hdials⟩

theorem writeFrame_undialled (s : Session (Dialled ω)) (text : String) :
    s.Undialled (s.writeFrame text).1 := by
  have hdials : (Transport.write s.wire (encodeFrame text)).2.dials = s.wire.dials := rfl
  unfold writeFrame
  split
  case h_1 wire hwrite | h_2 error wire hwrite =>
    rw [hwrite] at hdials
    exact ⟨rfl, hdials⟩

theorem send_undialled (hopen : s.link.isOpen = true) (text : String) :
    s.Undialled (s.send text).1 := by
  rw [send_of_isOpen hopen]
  exact s.writeFrame_undialled text

theorem await_undialled (s : Session (Dialled ω)) (limit : Instant) :
    s.Undialled (s.await limit).1 := by
  fun_induction Session.await s limit with
  | case1 s link telemetry hsift | case2 s link error hsift =>
      obtain ⟨_, _, _, _, _, rfl⟩ := Link.sift_eq hsift
      exact ⟨rfl, rfl⟩
  | case3 s link hsift bytes wire hreceive _ ih =>
      obtain ⟨_, _, _, _, _, rfl⟩ := Link.sift_eq hsift
      have hdials : (Transport.receive s.wire limit).2.dials = s.wire.dials := rfl
      rw [hreceive] at hdials
      exact ⟨ih.endpoint, ih.dials.trans hdials⟩
  | case4 s link hsift wire hreceive | case5 s link hsift error wire hreceive
  | case6 s link hsift wire hreceive =>
      obtain ⟨_, _, _, _, _, rfl⟩ := Link.sift_eq hsift
      have hdials : (Transport.receive s.wire limit).2.dials = s.wire.dials := rfl
      rw [hreceive] at hdials
      exact ⟨rfl, hdials⟩

theorem request_undialled (hopen : s.link.isOpen = true) : s.Undialled s.request.1 := by
  have hasked := send_undialled hopen (DeviceCommand.text .queryTelemetry)
  unfold request ask
  split
  case h_1 error hask =>
    rw [hask] at hasked
    exact hasked
  case h_2 asked hask =>
    rw [hask] at hasked
    exact hasked.trans (asked.await_undialled asked.deadline)

end Session

end HeaterHost
