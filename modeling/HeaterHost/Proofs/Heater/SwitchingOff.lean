import HeaterHost.Proofs.Config.Accepted
import HeaterHost.Proofs.Heater.GainsInForce
import HeaterHost.Proofs.Heater.PowerLog
import HeaterHost.Proofs.Host.Stations

/-!
# Switching off at a target of zero

Towards a target of zero the control asks for no power, but zero goes through the same gate as any
power that is not forced. So a tick switches the heater off unless it is on by less than the
deadband and the power that it has does not have to be sent again yet. In that case nothing is sent
and the power stays, until the time at which it would be sent again.
-/

namespace HeaterHost

open Autotune Double Wire

variable {α : Type}

namespace BoardHeater

variable [Scalar α]

/-! ### Where a power comes from -/

/-- What becomes of the power. It stays, or is switched off, or is sent in a tick. -/
inductive PowerMove (h k : BoardHeater α) (tickTime? : Option α) : Prop
  | kept (power : k.lastPower = h.lastPower) (refresh : k.refreshTime = h.refreshTime)
  | off (power : k.lastPower = 0.0)
  | sent (time : α) (ticked : tickTime? = some time)
      (refresh : k.refreshTime = time + 0.75 * maxHeatTime)
      (queued : k.outbox.head? = some (.setPower k.lastPower))

variable {h k : BoardHeater α} {tickTime? : Option α} {powers : List α}

theorem Sends.powerMove (hsends : Sends tickTime? h k powers) : h.PowerMove k tickTime? := by
  cases hlast : powers.getLast? with
  | none =>
      obtain ⟨hpower, hrefresh⟩ := hsends.kept (List.getLast?_eq_none_iff.mp hlast)
      exact .kept hpower hrefresh
  | some power =>
      obtain ⟨hpower, rfl | ⟨time, hticked, hrefresh, hnewest⟩⟩ := hsends.last power hlast
      · exact .off hpower
      · exact .sent time hticked hrefresh (hpower ▸ hnewest)

/-- Apart from ticks, an event leaves the power alone or switches it off. -/
theorem perform_powerMove (h : BoardHeater α) (event : HeaterEvent α) :
    h.PowerMove (h.perform event) event.tickTime? :=
  (h.perform_sends event).1.powerMove

/-- The power of a heater was sent in a tick of its run, and its time to be sent again counts from
there. -/
def SentIn (h : BoardHeater α) (start : BoardHeater α) (events : List (HeaterEvent α)) : Prop :=
  ∃ before sample target time after, events = before ++ .tick sample target time :: after ∧
    h.refreshTime = time + 0.75 * maxHeatTime ∧
    ((start.replay before).tick sample target time).outbox.head? = some (.setPower h.lastPower)

theorem replay_sentIn (start : BoardHeater α) (hstart : start.lastPower = 0.0)
    (events : List (HeaterEvent α)) :
    (start.replay events).lastPower = 0.0 ∨ (start.replay events).SentIn start events := by
  induction events using List.reverseRecOn with
  | nil => exact .inl hstart
  | append_singleton events event ih =>
      have hmove := (start.replay events).perform_powerMove event
      rw [replay_append, replay_cons, replay_nil]
      cases hmove with
      | kept hpower hrefresh =>
          -- A power that stays was sent where it had been sent before.
          rcases ih with hoff | ⟨before, sample, target, time, after, rfl, hsent, hqueued⟩
          · exact .inl (hpower.trans hoff)
          · refine .inr ⟨before, sample, target, time, after ++ [event], by simp, ?_, ?_⟩
            · rw [hrefresh, hsent]
            · rw [hpower, hqueued]
      | off hoff => exact .inl hoff
      | sent time hticked hrefresh hqueued =>
          cases event with
          | tick sample target time' =>
              cases hticked
              exact .inr ⟨events, sample, target, time, [], rfl, hrefresh, hqueued⟩
          | _ => cases hticked

/-! ### The gate -/

/-- A heater that is on by less than the deadband, and whose power need not be sent again yet. It
holds a zero back. -/
def HoldsZeroBack (h : BoardHeater α) (time : α) : Prop :=
  (h.lastPower == 0.0) = false ∧ Scalar.abs (0.0 - h.lastPower) < deadband ∧ time < h.refreshTime

instance (h : BoardHeater α) (time : α) : Decidable (h.HoldsZeroBack time) :=
  inferInstanceAs (Decidable (_ ∧ _ ∧ _))

theorem setPower_of_holdsZeroBack {time : α} (hholds : h.HoldsZeroBack time) :
    h.setPower time 0.0 false = h :=
  setPower_of_early hholds.2.2 hholds.2.1

theorem setPower_of_not_holdsZeroBack {time : α} (hzero : ((0.0 : α) == 0.0) = true)
    (hpasses : ¬ h.HoldsZeroBack time) : ((h.setPower time 0.0 false).lastPower == 0.0) = true := by
  unfold setPower
  dsimp only
  split
  case isTrue hheld =>
    simp only [Bool.not_false, Bool.true_and, Bool.and_eq_true, Bool.or_eq_true,
      decide_eq_true_eq] at hheld
    obtain ⟨hearly | hoff, hsmall⟩ := hheld
    · -- A small power that is held back early can only be none.
      rw [← Bool.not_eq_false]
      exact fun hon => hpasses ⟨hon, hsmall, hearly⟩
    · exact hoff
  case isFalse => exact hzero

/-- Towards a target of zero the control asks for nothing. -/
theorem pidPower_of_off {h : BoardHeater Float} (hmax : 0.0 ≤ h.settings.maxPower) (law : Pid Float)
    (sample : Sample Float) {target : Float} (hoff : target ≤ 0.0) :
    h.pidPower law sample target = 0.0 := by
  rw [pidPower, if_pos hoff, Scalar.clamp, if_neg (lt_irrefl _), if_neg (not_lt_of_le hmax)]

/-- A tick that switches off. The heater that the zero is asked of has the power of before. -/
theorem tick_eq_setPower_zero {h : BoardHeater Float} (hmax : 0.0 ≤ h.settings.maxPower)
    (hpid : h.control.isAutotune = false) {sample : Sample Float} {target time : Float}
    (hconsults : h.Consults sample time) (hoff : target ≤ 0.0) :
    ∃ k : BoardHeater Float, h.tick sample target time = k.setPower time 0.0 false ∧
      k.lastPower = h.lastPower ∧ k.refreshTime = h.refreshTime ∧ k.outbox = h.outbox := by
  have hlaw := ActiveControl.eq_pid_of_not_isAutotune hpid
  have hready := readied_of_pid hlaw time
  have hcontrol : (h.readied time).acknowledged.control = .pid h.control.resting := by
    rw [acknowledged_control, hready, activate_control]
    exact hlaw
  have hlimit : 0.0 ≤ (h.readied time).acknowledged.settings.maxPower := by
    rw [acknowledged_settings, readied_settings]
    exact hmax
  obtain ⟨hactive, hrefreshed⟩ := h.activate_power time
  have hpower : (h.readied time).acknowledged.lastPower = h.lastPower := by
    rw [acknowledged_lastPower, hready, hactive]
  have hrefresh : (h.readied time).acknowledged.refreshTime = h.refreshTime := by
    rw [acknowledged_refreshTime, hready, hrefreshed]
  have hqueued : (h.readied time).acknowledged.outbox = h.outbox := by
    rw [acknowledged_outbox, hready, activate_outbox]
  have htick := hconsults.tick_eq target
  rw [consume_of_pid hcontrol, pidPower_of_off hlimit _ _ hoff, noted] at htick
  exact ⟨_, htick, hpower, hrefresh, hqueued⟩

/-- **A target of zero switches off, unless the gate holds the zero back.** For an accepted section
and after any run, let the PID be in control and be given a sample that can be used and is new. If
the target is zero or less, the tick comes to zero and the last power that is queued is zero, unless
the heater is on by less than the deadband and its power need not be sent again yet. In that case
the power stays and nothing is queued, and the power is one that a tick sent not long before. -/
theorem target_zero_switches_off (c : HeaterConfig) (name : String)
    (hvalid : c.validate name = .ok ()) (events : List (HeaterEvent Float)) (sample : Sample Float)
    (target time : Float)
    (hpid : ((create name c.settings).replay events).control.isAutotune = false)
    (hconsults : ((create name c.settings).replay events).Consults sample time)
    (hoff : target ≤ 0.0) :
    let start := create name c.settings
    let h := start.replay events
    let after := h.tick sample target time
    (¬ h.HoldsZeroBack time →
      (after.lastPower == 0.0) = true ∧
        ∀ power, after.lastQueued DeviceCommand.power? = some power → (power == 0.0) = true) ∧
    (h.HoldsZeroBack time →
      after.lastPower = h.lastPower ∧ after.outbox = h.outbox ∧ h.SentIn start events) := by
  intro start h after
  have hzero : ((0.0 : Float) == 0.0) = true := by decide +kernel
  have haccepted : c.Accepted name := HeaterConfig.validate_eq_ok_iff.mp hvalid
  have hmax : 0.0 ≤ h.settings.maxPower := by
    rw [replay_settings]
    exact haccepted.zero_le_maxPower
  obtain ⟨asked, heq, hpower, hrefresh, hqueued⟩ :
      ∃ k : BoardHeater Float, after = k.setPower time 0.0 false ∧ k.lastPower = h.lastPower ∧
        k.refreshTime = h.refreshTime ∧ k.outbox = h.outbox :=
    tick_eq_setPower_zero hmax hpid hconsults hoff
  have hholds : asked.HoldsZeroBack time ↔ h.HoldsZeroBack time := by
    rw [HoldsZeroBack, HoldsZeroBack, hpower, hrefresh]
  have hmirrored : after.Mirrored :=
    ((Mirrored.create name c.settings).replay events).tick sample target time
  rw [heq] at hmirrored ⊢
  constructor
  · intro hpasses
    have hcold := setPower_of_not_holdsZeroBack hzero (mt hholds.mp hpasses)
    refine ⟨hcold, fun power hlast => ?_⟩
    have hheld := hmirrored.power
    rw [hlast, Option.getD_some] at hheld
    rwa [hheld] at hcold
  · intro hback
    rw [setPower_of_holdsZeroBack (hholds.mpr hback)]
    refine ⟨hpower, hqueued, ?_⟩
    rcases replay_sentIn start rfl events with hoff | hsent
    · have hon := hback.1
      rw [hoff, hzero] at hon
      cases hon
    · exact hsent

/-- At full power, and then told to cool down. -/
def cooling : List (HeaterEvent Float) :=
  [.command (.setTemp 200.0), .tick (Sample.reading 0.1 25.0) 200.0 0.1, .command (.setTemp 0.0)]

theorem cooling_heater_switches_off :
    let c := HeaterConfig.onBoard "/dev/ttyACM1" 10.0 450.0
    let h := (create "extruder" c.settings).replay cooling
    c.validate "extruder" = .ok () ∧ h.control.isAutotune = false ∧
      h.Consults (Sample.reading 1.0 30.0) 1.0 ∧ (0.0 : Float) ≤ 0.0 ∧ h.lastPower = 1.0 ∧
      ((h.tick (Sample.reading 1.0 30.0) 0.0 1.0).lastPower == 0.0) = true := by
  intro c h
  have hvalid : c.validate "extruder" = .ok () := Except.eq_ok_of_toBool (by decide +kernel)
  have hpid : h.control.isAutotune = false := by decide +kernel
  have hconsults : h.Consults (Sample.reading 1.0 30.0) 1.0 := by decide +kernel
  have hoff : (0.0 : Float) ≤ 0.0 := by decide +kernel
  have hpasses : ¬ h.HoldsZeroBack 1.0 := by decide +kernel
  have hpower : h.lastPower = 1.0 := by decide +kernel
  have hcold := target_zero_switches_off c "extruder" hvalid cooling (Sample.reading 1.0 30.0) 0.0
    1.0 hpid hconsults hoff
  exact ⟨hvalid, hpid, hconsults, hoff, hpower, (hcold.1 hpasses).1⟩

/-- With a small gain the heater is on by three hundredths near its target, when it is told to cool
down. -/
def simmering : List (HeaterEvent Float) :=
  [.command (.setGains { kp := 2.55, ki := 0.0, kd := 0.0 }), .command (.setTemp 200.0),
    .tick (Sample.reading 1.0 100.0) 200.0 1.0, .tick (Sample.reading 1.1 197.0) 200.0 1.1,
    .command (.setTemp 0.0)]

/-- The next reading leaves it on, and nothing is sent. -/
theorem simmering_heater_stays_on :
    let c := HeaterConfig.onBoard "/dev/ttyACM1" 10.0 450.0
    let h := (create "extruder" c.settings).replay simmering
    let after := h.tick (Sample.reading 1.2 197.5) 0.0 1.2
    (c.validate "extruder").toBool = true ∧ h.control.isAutotune = false ∧
      h.Consults (Sample.reading 1.2 197.5) 1.2 ∧ (after.lastPower == 0.0) = false ∧
      ((after.lastQueued DeviceCommand.power?).map (· == 0.0)) = some false ∧
      after.outbox.length = h.outbox.length := by
  decide +kernel

end BoardHeater

end HeaterHost
