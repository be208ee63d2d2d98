import HeaterHost.Sensor.Basic

/-!
# The commands that wait

The commands that a sensor holds are those it has taken off its queue and could not deliver, and
behind them those that came since. They leave at the front when a step delivers them, and nothing
but a push adds one.
-/

namespace HeaterHost.Sensor

open Wire

variable {ω : Type}

def waiting (s : Sensor ω) : List (DeviceCommand Float) :=
  s.pending ++ s.queue

theorem push_waiting (s : Sensor ω) (command : DeviceCommand Float) :
    (s.push command).waiting = if s.stopped then s.waiting else s.waiting ++ [command] := by
  unfold push
  split
  · rfl
  · exact (List.append_assoc ..).symm

theorem mem_waiting_of_push {s : Sensor ω} {pushed command : DeviceCommand Float}
    (hmem : command ∈ (s.push pushed).waiting) : command ∈ s.waiting ∨ command = pushed := by
  rw [push_waiting] at hmem
  split at hmem
  · exact .inl hmem
  · exact (List.mem_append.mp hmem).imp_right List.mem_singleton.mp

theorem mem_waiting_of_foldr_push {s : Sensor ω} {outbox : List (DeviceCommand Float)}
    {command : DeviceCommand Float}
    (hmem : command ∈ (outbox.foldr (fun command sensor => sensor.push command) s).waiting) :
    command ∈ s.waiting ∨ command ∈ outbox := by
  induction outbox with
  | nil => exact .inl hmem
  | cons newest older ih =>
      rcases mem_waiting_of_push hmem with hearlier | rfl
      · exact (ih hearlier).imp_right (List.mem_cons_of_mem newest)
      · exact .inr List.mem_cons_self

theorem connectFailed_waiting (s : Sensor ω) : s.connectFailed.waiting = s.waiting := by
  unfold connectFailed
  dsimp only
  split <;> rfl

theorem takeQueue_waiting (s : Sensor ω) : s.takeQueue.waiting = s.waiting :=
  List.append_nil _

variable [Transport ω]

theorem upload_waiting (s : Sensor ω) : s.upload.1.waiting = s.waiting := by
  unfold upload
  split
  · rfl
  · split <;> rfl

theorem ensureConnected_waiting (s : Sensor ω) : s.ensureConnected.1.waiting = s.waiting := by
  unfold ensureConnected
  split
  · rfl
  · unfold connect
    split
    · exact upload_waiting _
    · exact connectFailed_waiting _

/-- Delivering takes commands off the front. The one that could not be written is still there. -/
theorem deliver_waiting (s : Sensor ω) (commands : List (DeviceCommand Float)) :
    (s.deliver commands).1.waiting <:+ commands ++ s.queue := by
  induction commands generalizing s with
  | nil => exact List.suffix_refl _
  | cons command rest ih =>
      unfold deliver
      split
      · exact (ih _).trans (List.suffix_cons command _)
      · exact List.suffix_refl _

theorem ask_waiting (s : Sensor ω) : s.ask.1.waiting = s.waiting := by
  unfold ask
  split <;> rfl

/-- The first half of a step delivers what waits, as far as it gets. -/
theorem begin_waiting (s : Sensor ω) : s.begin.1.waiting <:+ s.waiting := by
  unfold Sensor.begin
  have hconnected := ensureConnected_waiting s.takeQueue
  rw [takeQueue_waiting] at hconnected
  split
  case h_1 connected heq =>
    rw [heq] at hconnected
    rw [← hconnected]
    exact List.suffix_refl _
  case h_2 connected heq =>
    rw [heq] at hconnected
    have hdelivered := deliver_waiting connected connected.pending
    change _ <:+ connected.waiting at hdelivered
    rw [← hconnected]
    split
    case h_1 delivered hdeliver =>
      rw [hdeliver] at hdelivered
      exact hdelivered
    case h_2 delivered hdeliver =>
      rw [hdeliver] at hdelivered
      rw [ask_waiting]
      exact hdelivered

theorem finish_waiting (s : Sensor ω) (deadline : Instant) :
    (s.finish deadline).1.waiting = s.waiting := by
  unfold finish accept
  split
  · dsimp only
    split <;> rfl
  · rfl

end HeaterHost.Sensor
