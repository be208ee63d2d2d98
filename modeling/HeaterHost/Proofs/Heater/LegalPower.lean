import HeaterHost.Proofs.Config.Accepted
import HeaterHost.Proofs.Heater.Orders
import HeaterHost.Proofs.Heater.RelayInCharge

/-!
# Powers that are fractions

Every power goes through a clamp, and a clamp keeps a number within its bounds. What it does not keep
out is a NaN. The relay never asks for one; the PID does exactly when its terms are beyond what
doubles can hold and tear each other apart. The deadband then compares with a NaN, and sends it.
-/

namespace HeaterHost

open Autotune Double Wire

/-- The terms of the demand cannot be added up: one of them is a NaN, or they are infinite and
cancel. -/
def Pid.Torn (pid : Pid Float) (time temp target : Float) : Prop :=
  let proportional := pid.kp * (target - temp)
  let integral := pid.ki * pid.integralAfter time temp target
  let slope := pid.kd * pid.slopeAfter time temp
  (proportional.isNaN = true ∨ integral.isNaN = true ∨
    proportional.isInf = true ∧ integral.isInf = true ∧ (proportional == integral) = false) ∨
  slope.isNaN = true ∨
    (proportional + integral).isInf = true ∧ slope.isInf = true ∧
      (proportional + integral == slope) = true

theorem Pid.isNaN_demand_iff {pid : Pid Float} {time temp target : Float} :
    (pid.demand time temp target).isNaN = true ↔ pid.Torn time temp target := by
  unfold demand Torn
  dsimp only
  rw [isNaN_sub, isNaN_add]
  simp only [Bool.or_eq_true, Bool.and_eq_true, Bool.not_eq_true', or_assoc, and_assoc]

def Wire.DeviceCommand.PowerSatisfies {α : Type} (allowed : α → Prop) : DeviceCommand α → Prop
  | setPower power => allowed power
  | _ => True

namespace BoardHeater

variable {h : BoardHeater Float}

/-- A power that the heater has now, or queued at some time. -/
def HasPower (h : BoardHeater Float) (power : Float) : Prop :=
  power = h.lastPower ∨ DeviceCommand.setPower power ∈ h.outbox

/-- In the course of the events a PID was consulted on a sample, to heat towards a target. -/
def Consulted (h : BoardHeater Float) (events : List (HeaterEvent Float)) (law : Pid Float)
    (sample : Sample Float) (target : Float) : Prop :=
  ∃ before time after, events = before ++ .tick sample target time :: after ∧
    (h.replay before).Consults sample time ∧
    ((h.replay before).readied time).control = .pid law ∧ ¬ target ≤ 0.0

theorem Mirrored.lastPower_mem (hmirrored : h.Mirrored) :
    h.lastPower = 0.0 ∨ DeviceCommand.setPower h.lastPower ∈ h.outbox := by
  have hpower := hmirrored.power
  cases hqueued : h.lastQueued DeviceCommand.power? with
  | none =>
      rw [hqueued] at hpower
      exact .inl hpower
  | some power =>
      rw [hqueued] at hpower
      obtain ⟨command, hmem, hcommand⟩ := List.exists_of_findSome?_eq_some hqueued
      cases command with
      | setPower value =>
          cases hcommand
          rw [hpower]
          exact .inr hmem
      | _ => cases hcommand

theorem isNaN_pidPower_iff {law : Pid Float} {sample : Sample Float} {target : Float} :
    (h.pidPower law sample target).isNaN = true ↔
      ¬ target ≤ 0.0 ∧ law.Torn sample.timestamp sample.value target := by
  have hzero : (0.0 : Float).isNaN = false := by decide +kernel
  rw [pidPower, isNaN_clamp hzero]
  by_cases hoff : target ≤ 0.0
  · rw [if_pos hoff, hzero]
    exact iff_of_false Bool.false_ne_true fun htorn => htorn.1 hoff
  · rw [if_neg hoff, Pid.output, isNaN_clamp hzero, Pid.isNaN_demand_iff]
    exact (and_iff_right hoff).symm

/-- A NaN is never held back: the deadband lets only numbers through to its comparison. -/
theorem setPower_of_isNaN {power : Float} (hnan : power.isNaN = true) (time : Float) :
    DeviceCommand.setPower power ∈ (h.setPower time power false).outbox := by
  rcases h.setPower_cases time power false with ⟨-, hsmall, -⟩ | heq
  · refine absurd hsmall (not_lt_of_isNaN (.inl ?_))
    change (power - h.lastPower).abs.isNaN = true
    rw [isNaN_abs, isNaN_sub, hnan]
    rfl
  · rw [heq]
    exact List.mem_cons_self ..

/-- A PID that is consulted while its terms tear each other apart has a NaN sent to the board. -/
theorem Consults.exists_isNaN {sample : Sample Float} {target time : Float} {law : Pid Float}
    (hconsults : h.Consults sample time) (hcontrol : (h.readied time).control = .pid law)
    (hheats : ¬ target ≤ 0.0) (htorn : law.Torn sample.timestamp sample.value target) :
    ∃ power, power.isNaN = true ∧
      DeviceCommand.setPower power ∈ (h.tick sample target time).outbox := by
  refine ⟨(h.readied time).acknowledged.pidPower law sample target,
    isNaN_pidPower_iff.mpr ⟨hheats, htorn⟩, ?_⟩
  have hlaw : (h.readied time).acknowledged.control = .pid law :=
    (acknowledged_control _).trans hcontrol
  rw [hconsults.tick_eq, consume_of_pid hlaw]
  exact setPower_of_isNaN (isNaN_pidPower_iff.mpr ⟨hheats, htorn⟩) time

/-! ### What can be asked for -/

/-- The heater and the relay in charge have this limit. -/
structure Rated (maxPower : Float) (h : BoardHeater Float) : Prop where
  limit : h.settings.maxPower = maxPower
  relay : h.RelayHolds fun relay => relay.limits.maxPower = maxPower

namespace Rated

variable {maxPower : Float}

theorem create (name : String) (settings : HeaterSettings Float) :
    (BoardHeater.create name settings).Rated settings.maxPower :=
  ⟨rfl, nofun⟩

theorem limit_advance (relay : Relay Float) (time temp : Float)
    (hlimit : relay.limits.maxPower = maxPower) :
    (relay.advance time temp).limits.maxPower = maxPower := by
  rw [Relay.advance_limits]
  exact hlimit

theorem readied (hrated : h.Rated maxPower) (time : Float) : (h.readied time).Rated maxPower := by
  refine ⟨?_, hrated.relay.readied limit_advance time⟩
  rw [readied_settings]
  exact hrated.limit

theorem perform (hrated : h.Rated maxPower) (event : HeaterEvent Float) :
    (h.perform event).Rated maxPower := by
  refine ⟨?_, hrated.relay.perform limit_advance ?_⟩
  · rw [perform_settings]
    exact hrated.limit
  · intro _ _ _ _ _
    exact hrated.limit

theorem replay (hrated : h.Rated maxPower) (events : List (HeaterEvent Float)) :
    (h.replay events).Rated maxPower :=
  replay_invariant (fun _ event hk => hk.perform event) hrated events

theorem controlPower_bounds (hrated : h.Rated maxPower) (hmax : 0.0 ≤ maxPower)
    {sample : Sample Float} {target time power : Float}
    (hpower : h.controlPower? sample target time = some power) :
    (0.0 ≤ power ∧ power ≤ maxPower) ∨
      power.isNaN = true ∧ ∃ law, h.control = .pid law ∧ ¬ target ≤ 0.0 ∧
        law.Torn sample.timestamp sample.value target := by
  obtain ⟨hzero, hlimit⟩ := isNaN_of_le hmax
  have hclamp : ∀ x : Float, x.isNaN = false →
      0.0 ≤ Scalar.clamp 0.0 h.settings.maxPower x ∧
        Scalar.clamp 0.0 h.settings.maxPower x ≤ maxPower := by
    intro x hx
    rw [hrated.limit]
    exact clamp_bounds hmax hx
  cases hcontrol : h.control with
  | pid law =>
      simp only [controlPower?, hcontrol, Option.some.injEq] at hpower
      subst hpower
      cases hnan : (h.pidPower law sample target).isNaN with
      | true => exact .inr ⟨rfl, law, rfl, isNaN_pidPower_iff.mp hnan⟩
      | false =>
          rw [pidPower, isNaN_clamp hzero] at hnan
          exact .inl (hclamp _ hnan)
  | autotune relay resume priorTarget =>
      rcases hfeed : relay.feed sample time with ⟨relay', asked | result⟩
      · simp only [controlPower?, hcontrol, hfeed, Option.some.injEq] at hpower
        subst hpower
        obtain ⟨rfl, rfl⟩ := Relay.feed_carryOn hfeed
        refine .inl (hclamp _ ?_)
        have hkept : relay.limits.maxPower = maxPower :=
          hrated.relay relay (by rw [hcontrol]; rfl)
        rw [Relay.power, Relay.advance_limits, hkept]
        split
        · exact hlimit
        · exact hzero
      · simp only [controlPower?, hcontrol, hfeed] at hpower
        cases hpower

theorem orders_bounds (hrated : h.Rated maxPower) (hmax : 0.0 ≤ maxPower)
    {event : HeaterEvent Float} {power : Float}
    (horder : DeviceCommand.setPower power ∈ h.orders event) :
    (0.0 ≤ power ∧ power ≤ maxPower) ∨
      power.isNaN = true ∧ ∃ sample target time law, event = .tick sample target time ∧
        h.Consults sample time ∧ (h.readied time).control = .pid law ∧ ¬ target ≤ 0.0 ∧
        law.Torn sample.timestamp sample.value target := by
  cases event with
  | activate time => cases horder
  | command command =>
      simp only [orders] at horder
      split at horder
      · cases command <;> simp [HeaterCommand.orders] at horder
      · cases horder
  | tick sample target time =>
      by_cases hconsults : h.Consults sample time
      · rw [orders, if_pos hconsults] at horder
        obtain ⟨asked, hasked, heq⟩ := List.mem_map.mp horder
        cases heq
        rcases (hrated.readied time).controlPower_bounds hmax (Option.mem_toList.mp hasked) with
          hlegal | ⟨hnan, law, hcontrol, hheats, htorn⟩
        · exact .inl hlegal
        · exact .inr ⟨hnan, sample, target, time, law, rfl, hconsults, hcontrol, hheats, htorn⟩
      · rw [orders, if_neg hconsults] at horder
        cases horder

end Rated

/-- What holds of zero and of every power that a run asks for holds of every power in it. -/
theorem HasPower.of_orders (allowed : Float → Prop) {name : String}
    {settings : HeaterSettings Float} {events : List (HeaterEvent Float)} (hoff : allowed 0.0)
    (horders : ∀ before event after, events = before ++ event :: after → ∀ power,
      DeviceCommand.setPower power ∈ ((create name settings).replay before).orders event →
      allowed power)
    {power : Float} (hpower : ((create name settings).replay events).HasPower power) :
    allowed power := by
  have hmirrored := (Mirrored.create name settings).replay events
  have hvetted : ((create name settings).replay events).Vetted
      (DeviceCommand.PowerSatisfies allowed) := by
    refine (Vetted.create name settings trivial).replay hoff ?_
    intro command hmem
    obtain ⟨before, event, after, hsplit, hordered⟩ := mem_runOrders hmem
    cases command with
    | setPower power => exact horders before event after hsplit power hordered
    | _ => trivial
  rcases hpower with rfl | hqueued
  · rcases hmirrored.lastPower_mem with hzero | hqueued
    · rw [hzero]
      exact hoff
    · exact hvetted.queued _ hqueued
  · exact hvetted.queued _ hqueued

/-- For an accepted section every power of a heater is a number between zero and the section's
limit, or else it is a NaN. There is no NaN in a run exactly as long as no PID is consulted, to
heat towards a target, on a sample that tears its terms apart. -/
theorem powers_legal_iff_none_torn (c : HeaterConfig) (name : String)
    (hvalid : c.validate name = .ok ()) (events : List (HeaterEvent Float)) :
    let start := create name c.settings
    let h := start.replay events
    c.maxPower ≤ 1.0 ∧
    (∀ power, h.HasPower power → (0.0 ≤ power ∧ power ≤ c.maxPower) ∨ power.isNaN = true) ∧
    ((∀ power, h.HasPower power → 0.0 ≤ power ∧ power ≤ c.maxPower) ↔
      ∀ law sample target, start.Consulted events law sample target →
        ¬ law.Torn sample.timestamp sample.value target) := by
  intro start h
  have haccepted : c.Accepted name := HeaterConfig.validate_eq_ok_iff.mp hvalid
  have hmax : 0.0 ≤ c.maxPower := haccepted.zero_le_maxPower
  have hoff : (0.0 : Float) ≤ 0.0 ∧ 0.0 ≤ c.maxPower := ⟨le_refl (isNaN_of_le hmax).1, hmax⟩
  have hrated : start.Rated c.maxPower := Rated.create name c.settings
  refine ⟨haccepted.maxPower.2, ?_, ?_, ?_⟩
  · intro power hpower
    refine HasPower.of_orders
      (fun power => (0.0 ≤ power ∧ power ≤ c.maxPower) ∨ power.isNaN = true) (.inl hoff) ?_ hpower
    intro before event after _ asked hordered
    exact ((hrated.replay before).orders_bounds hmax hordered).imp_right (·.1)
  · rintro hlegal law sample target ⟨before, time, after, rfl, hconsults, hcontrol, hheats⟩ htorn
    obtain ⟨power, hnan, hqueued⟩ := hconsults.exists_isNaN hcontrol hheats htorn
    have hsent : h.HasPower power := by
      refine .inr ?_
      change _ ∈ (start.replay (before ++ .tick sample target time :: after)).outbox
      rw [replay_append, replay_cons]
      exact replay_mem_outbox hqueued after
    cases hnan.symm.trans (isNaN_of_le (hlegal power hsent).1).2
  · intro hwhole power hpower
    refine HasPower.of_orders (fun power => 0.0 ≤ power ∧ power ≤ c.maxPower) hoff ?_ hpower
    intro before event after hsplit asked hordered
    rcases (hrated.replay before).orders_bounds hmax hordered with
      hlegal | ⟨-, sample, target, time, law, rfl, hconsults, hcontrol, hheats, htorn⟩
    · exact hlegal
    · exact absurd htorn
        (hwhole law sample target ⟨before, time, after, hsplit, hconsults, hcontrol, hheats⟩)

def warming : List (HeaterEvent Float) :=
  [.command (.setTemp 200.0), .tick (Sample.reading 0.1 25.0) 200.0 0.1]

theorem warming_heater_is_not_torn :
    let c := HeaterConfig.onBoard "/dev/ttyACM1" 10.0 450.0
    let start := create "extruder" c.settings
    c.validate "extruder" = .ok () ∧ (start.replay warming).lastPower = 1.0 ∧
    ∀ law sample target, start.Consulted warming law sample target →
      ¬ law.Torn sample.timestamp sample.value target := by
  intro c start
  have hvalid : c.validate "extruder" = .ok () := by
    have hok : (c.validate "extruder").toBool = true := by decide +kernel
    cases hresult : c.validate "extruder" with
    | error error =>
        rw [hresult] at hok
        cases hok
    | ok _ => rfl
  have hpower : (start.replay warming).lastPower = 1.0 := by decide +kernel
  have hqueued : ∀ power ∈ (start.replay warming).outbox.filterMap DeviceCommand.power?,
      0.0 ≤ power ∧ power ≤ c.maxPower := by decide +kernel
  refine ⟨hvalid, hpower, ?_⟩
  refine (powers_legal_iff_none_torn c "extruder" hvalid warming).2.2.mp ?_
  rintro power (rfl | hmem)
  · rw [hpower]
    decide +kernel
  · exact hqueued power (List.mem_filterMap.mpr ⟨_, hmem, rfl⟩)

/-- With gains of this size the proportional term and that of the slope are both infinite. -/
def overdriving : Gains Float :=
  { kp := 1.7e308, ki := 0.0, kd := 1.7e308 }

theorem overdriven_heater_has_no_power :
    let c := { HeaterConfig.onBoard "/dev/ttyACM1" 10.0 450.0 with smoothTime := 0.1 }
    let h := (create "extruder" c.settings).replay
      [.command (.setGains overdriving), .command (.setTemp 450.0),
        .tick (Sample.reading 0.1 100.0) 450.0 0.1]
    (c.validate "extruder").toBool = true ∧
    ([overdriving.kp, overdriving.ki, overdriving.kd].all fun gain =>
      Decimal.isFinite gain && decide (0.0 ≤ gain)) = true ∧
    h.target = 450.0 ∧ h.lastPower.isNaN = true ∧
    (h.lastQueued DeviceCommand.power?).map Float.isNaN = some true := by
  decide +kernel

end BoardHeater

end HeaterHost
