import HeaterHost.Proofs.Link.OpenSession

/-!
# A tap on a line

A line of any kind with a tap on it, which takes down the frames whose write succeeds and counts
the attempts to connect. It has no say in what the line does. On an open session an operation makes
no attempt to connect; one that fails leaves the session closed.
-/

namespace HeaterHost

open Wire

structure Tapped (ω : Type) where
  wire : ω
  attempts : Nat := 0
  /-- The frames that were written, oldest first. -/
  frames : List (List UInt8) := []

variable {ω : Type} [Transport ω]

instance : Transport (Tapped ω) where
  now t := Transport.now t.wire
  connect t :=
    let (result, wire) := Transport.connect t.wire
    (result, { t with wire, attempts := t.attempts + 1 })
  write t bytes :=
    match Transport.write t.wire bytes with
    | (.ok (), wire) => (.ok (), { t with wire, frames := t.frames ++ [bytes] })
    | (.error error, wire) => (.error error, { t with wire })
  receive t limit :=
    let (reception, wire) := Transport.receive t.wire limit
    (reception, { t with wire })
  hangUp t := { t with wire := Transport.hangUp t.wire }
  elapse t time := { t with wire := Transport.elapse t.wire time }
  backlog t := Transport.backlog t.wire
  backlog_receive t := Transport.backlog_receive t.wire

namespace Tapped

variable {t t' : Tapped ω} {bytes : List UInt8}

theorem write_ok (hwrite : Transport.write t bytes = (.ok (), t')) :
    t'.frames = t.frames ++ [bytes] ∧ t'.attempts = t.attempts := by
  simp only [Transport.write] at hwrite
  split at hwrite <;> cases hwrite
  exact ⟨rfl, rfl⟩

theorem write_error {error : IoError} (hwrite : Transport.write t bytes = (.error error, t')) :
    t'.frames = t.frames ∧ t'.attempts = t.attempts := by
  simp only [Transport.write] at hwrite
  split at hwrite <;> cases hwrite
  exact ⟨rfl, rfl⟩

end Tapped

namespace Session

/-- A session has gone over into another without a frame or an attempt to connect, and without
coming open. -/
structure Quiet (s s' : Session (Tapped ω)) : Prop where
  frames : s'.wire.frames = s.wire.frames
  attempts : s'.wire.attempts = s.wire.attempts
  isOpen : s'.link.isOpen = true → s.link.isOpen = true

omit [Transport ω] in
theorem Quiet.of_closed {s s' : Session (Tapped ω)} (hframes : s'.wire.frames = s.wire.frames)
    (hattempts : s'.wire.attempts = s.wire.attempts) (hclosed : s'.link.isOpen = false) :
    s.Quiet s' := by
  refine ⟨hframes, hattempts, fun hopen => ?_⟩
  rw [hclosed] at hopen
  cases hopen

omit [Transport ω] in
theorem Quiet.trans {s s' s'' : Session (Tapped ω)} (h : s.Quiet s') (h' : s'.Quiet s'') :
    s.Quiet s'' :=
  ⟨h'.frames.trans h.frames, h'.attempts.trans h.attempts, fun hopen => h.isOpen (h'.isOpen hopen)⟩

/-- One frame was written, on a session that is open before and after. -/
structure Writes (text : String) (s s' : Session (Tapped ω)) : Prop where
  frames : s'.wire.frames = s.wire.frames ++ [encodeFrame text]
  attempts : s'.wire.attempts = s.wire.attempts
  isOpen : s'.link.isOpen = true

variable {s s' : Session (Tapped ω)} {error : LinkError} {text : String}

theorem reopen_tap (s : Session (Tapped ω)) :
    s.reopen.1.wire.frames = s.wire.frames ∧ s.reopen.1.wire.attempts = s.wire.attempts + 1 := by
  have hframes : (Transport.connect s.wire).2.frames = s.wire.frames := rfl
  have hattempts : (Transport.connect s.wire).2.attempts = s.wire.attempts + 1 := rfl
  unfold reopen
  split
  case h_1 wire hconnect =>
    rw [hconnect] at hframes hattempts
    exact ⟨hframes, hattempts⟩
  case h_2 failure wire hconnect =>
    rw [hconnect] at hframes hattempts
    exact ⟨hframes, hattempts⟩

theorem send_ok_of_isOpen (hopen : s.link.isOpen = true) (hsend : s.send text = (s', .ok ())) :
    Writes text s s' := by
  rw [send_of_isOpen hopen] at hsend
  unfold writeFrame at hsend
  split at hsend
  case h_1 wire hwrite =>
    cases hsend
    obtain ⟨hframes, hattempts⟩ := Tapped.write_ok hwrite
    exact ⟨hframes, hattempts, hopen⟩
  case h_2 => cases hsend

theorem send_error_of_isOpen (hopen : s.link.isOpen = true)
    (hsend : s.send text = (s', .error error)) : s.Quiet s' ∧ s'.link.isOpen = false := by
  have hclosed := isOpen_of_send_error hsend
  rw [send_of_isOpen hopen] at hsend
  unfold writeFrame at hsend
  split at hsend
  case h_1 => cases hsend
  case h_2 failure wire hwrite =>
    cases hsend
    obtain ⟨hframes, hattempts⟩ := Tapped.write_error hwrite
    exact ⟨.of_closed hframes hattempts hclosed, hclosed⟩

theorem quiet_await (s : Session (Tapped ω)) (limit : Instant) : s.Quiet (s.await limit).1 := by
  fun_induction Session.await s limit with
  | case1 s link found hsift =>
      exact ⟨rfl, rfl, fun hopen => (Link.isOpen_of_sift hsift).symm.trans hopen⟩
  | case2 => exact .of_closed rfl rfl rfl
  | case3 s link hsift bytes wire hreceive _ ih =>
      have hframes : (Transport.receive s.wire limit).2.frames = s.wire.frames := rfl
      have hattempts : (Transport.receive s.wire limit).2.attempts = s.wire.attempts := rfl
      have hsame := Link.isOpen_of_sift hsift
      rw [hreceive] at hframes hattempts
      exact .trans ⟨hframes, hattempts, fun hopen => hsame.symm.trans hopen⟩ ih
  | case4 s link hsift wire hreceive | case5 s link hsift failure wire hreceive
  | case6 s link hsift wire hreceive =>
      have hframes : (Transport.receive s.wire limit).2.frames = s.wire.frames := rfl
      have hattempts : (Transport.receive s.wire limit).2.attempts = s.wire.attempts := rfl
      rw [hreceive] at hframes hattempts
      exact .of_closed hframes hattempts rfl

end Session

end HeaterHost
