import HeaterHost.Proofs.Link.OwnAnswer

/-!
# Sessions that are open

A session comes open when a stream does, and every operation on it that succeeds leaves it open;
one that fails leaves it closed. Whether a session is open therefore tells how its last operation
went.
-/

namespace HeaterHost

open Wire

theorem Link.isOpen_of_sift {l l' : Link} {now : Instant}
    {result : Option (Except TelemetryError Telemetry)} (hsift : l.sift now = (l', result)) :
    l'.isOpen = l.isOpen := by
  fun_induction Link.sift l now with
  | case1 | case3 =>
      cases hsift
      rfl
  | case2 l decoder l' error hnext _ _ ih => exact ih hsift
  | case4 l decoder l' text hnext htelemetry _ _ ih => exact ih hsift

namespace Session

variable {ω : Type} [Transport ω] {s s' : Session ω} {text : String}

theorem isOpen_of_reopen_ok (hreopen : s.reopen = (s', .ok ())) : s'.link.isOpen = true := by
  unfold reopen at hreopen
  split at hreopen <;> cases hreopen
  rfl

theorem isOpen_of_ensureOpen_ok (hensure : s.ensureOpen = (s', .ok ())) :
    s'.link.isOpen = true := by
  unfold ensureOpen at hensure
  split at hensure
  case isTrue hopen =>
    cases hensure
    exact hopen
  case isFalse => exact isOpen_of_reopen_ok hensure

theorem isOpen_of_send_ok (hsend : s.send text = (s', .ok ())) : s'.link.isOpen = true := by
  unfold send at hsend
  split at hsend
  case h_1 => cases hsend
  case h_2 opened hensure =>
    unfold writeFrame at hsend
    have hopen := isOpen_of_ensureOpen_ok hensure
    split at hsend <;> cases hsend
    exact hopen

/-- The attempt to write is all there is to sending on an open session. -/
theorem send_of_isOpen (hopen : s.link.isOpen = true) (text : String) :
    s.send text = s.writeFrame text := by
  rw [send, ensureOpen, if_pos hopen]

/-- What opening a stream and writing a frame keep, sending keeps. -/
theorem send_keeps {P : Session ω → Prop} (hreopen : ∀ s, P s → P s.reopen.1)
    (hwrite : ∀ s, P s → P (s.writeFrame text).1) (hs : P s) : P (s.send text).1 := by
  have hensured : P s.ensureOpen.1 := by
    unfold ensureOpen
    split
    · exact hs
    · exact hreopen s hs
  unfold send
  split
  case h_1 error hensure =>
    rw [hensure] at hensured
    exact hensured
  case h_2 opened hensure =>
    rw [hensure] at hensured
    exact hwrite opened hensured

theorem isOpen_of_await_ok {limit : Instant} {telemetry : Telemetry}
    (hawait : s.await limit = (s', .ok telemetry)) : s'.link.isOpen = s.link.isOpen := by
  fun_induction Session.await s limit with
  | case1 s link found hsift =>
      cases hawait
      exact Link.isOpen_of_sift hsift
  | case3 s link hsift bytes wire hreceive _ ih =>
      have hsame := Link.isOpen_of_sift hsift
      exact (ih hawait).trans hsame
  | _ => cases hawait

theorem isOpen_of_request_ok {telemetry : Telemetry} (hrequest : s.request = (s', .ok telemetry)) :
    s'.link.isOpen = true := by
  unfold request at hrequest
  split at hrequest
  case h_1 => cases hrequest
  case h_2 asked hask =>
    rw [isOpen_of_await_ok hrequest]
    exact isOpen_of_send_ok hask

end Session

end HeaterHost
