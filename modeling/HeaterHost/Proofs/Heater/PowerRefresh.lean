import HeaterHost.Proofs.Double.Sums
import HeaterHost.Proofs.Exact
import HeaterHost.Proofs.Heater.PowerLog

/-!
# How long the board waits for a power

A board takes a power for five seconds. The heater sends it again after three quarters of that, but
only in a tick on a sample that it has not read before. So it is sent again in the first such tick
that comes three and three quarter seconds later, and how late that is depends on how far the ticks
are apart: there are spacings below five seconds that step over the end of the five.
-/

namespace HeaterHost

open Autotune Double Wire

/-! ### Clocks -/

/-- How the numbers that stand for times are read as seconds. A power that was sent three and three
quarter seconds ago has to be sent again. -/
structure Clock (α : Type) [Scalar α] where
  seconds : α → ℝ
  IsTime : α → Prop
  not_early : ∀ {sent time : α}, IsTime sent → IsTime time →
    seconds sent + 15 / 4 ≤ seconds time → ¬ time < sent + 0.75 * BoardHeater.maxHeatTime

namespace Double

/-- How many of the smallest doubles make one. -/
def unitSteps : Nat :=
  2 ^ 1074

theorem unitSteps_pos : (0 : ℝ) < unitSteps := by
  unfold unitSteps
  positivity

/-- The number that a finite double stands for. -/
noncomputable def toReal (x : Float) : ℝ :=
  height (parts x) / unitSteps

theorem toReal_of_height {x : Float} {num : Int} {den : Nat} (hden : 0 < den)
    (hheight : height (parts x) * den = num * unitSteps) : toReal x = num / den := by
  rw [toReal, div_eq_div_iff unitSteps_pos.ne' (Nat.cast_pos.mpr hden).ne']
  exact_mod_cast hheight

/-- A sum of doubles does not come above a double that the exact sum does not come above. -/
theorem add_le_of_toReal {x y z : Float} (hx : IsFinite x) (hy : IsFinite y) (hz : IsFinite z)
    (hle : toReal x + toReal y ≤ toReal z) : x + y ≤ z := by
  have hsum : (x + y).isNaN = false := by
    rw [isNaN_add, hx.isNaN, hy.isNaN, hx.isInf]
    rfl
  rw [toReal, toReal, toReal, ← add_div, div_le_div_iff_of_pos_right unitSteps_pos] at hle
  rw [le_iff_height hsum hz.isNaN, height_add hx hy, ← capped_nearest_height hz]
  exact capped_mono (nearest_mono (by exact_mod_cast hle))

end Double

/-- A power that was sent as long ago as the refresh time has to be sent again, although the time for
that is rounded. -/
theorem doubles_not_early {sent time : Float} (hsent : IsFinite sent) (htime : IsFinite time)
    (hlater : toReal sent + 15 / 4 ≤ toReal time) :
    ¬ time < sent + 0.75 * BoardHeater.maxHeatTime := by
  have hfinite : IsFinite (0.75 * BoardHeater.maxHeatTime) :=
    ⟨by decide +kernel, by decide +kernel⟩
  have hspan : toReal (0.75 * BoardHeater.maxHeatTime) = (15 : ℤ) / (4 : ℕ) :=
    toReal_of_height (by norm_num) (by decide +kernel)
  refine not_lt_of_le (add_le_of_toReal hsent hfinite htime ?_)
  rw [hspan]
  push_cast
  exact hlater

/-- The clock of the host. -/
noncomputable def Clock.doubles : Clock Float where
  seconds := toReal
  IsTime := IsFinite
  not_early := doubles_not_early

/-- The time after which a power is sent again, in seconds. -/
noncomputable def refreshSpan : ℝ :=
  0.75 * BoardHeater.maxHeatTime

theorem refreshSpan_eq : refreshSpan = 15 / 4 := by
  norm_num [refreshSpan, BoardHeater.maxHeatTime, Scalar.literal_real]

theorem exact_not_early {sent time : ℝ} (hlater : sent + 15 / 4 ≤ time) :
    ¬ time < sent + 0.75 * BoardHeater.maxHeatTime := by
  change ¬ time < sent + refreshSpan
  rw [refreshSpan_eq]
  exact not_lt.mpr hlater

/-- A clock that does not round. -/
noncomputable def Clock.exact : Clock ℝ where
  seconds time := time
  IsTime _ := True
  not_early _ _ := exact_not_early

/-! ### Ticks in between -/

/-- The longest time between two powers if the ticks are between `low` and `high` seconds apart. -/
noncomputable def refreshDelay (low high : ℝ) : ℝ :=
  min (⌈refreshSpan / low⌉₊ * high) (refreshSpan + high)

section ticks

variable {α : Type} [Scalar α] {clock : Clock α} {low high : ℝ}

/-- Since a power was sent there have been `count` ticks, the last of them at `tick`, and none at
which it had to be sent again. -/
structure TicksSince (clock : Clock α) (low high : ℝ) (sent tick : α) (count : ℕ) : Prop where
  early : clock.seconds tick < clock.seconds sent + 15 / 4
  atLeast : count * low ≤ clock.seconds tick - clock.seconds sent
  atMost : clock.seconds tick - clock.seconds sent ≤ count * high

namespace TicksSince

variable {sent tick time : α} {count : ℕ}

theorem start (clock : Clock α) (low high : ℝ) (sent : α) :
    TicksSince clock low high sent sent 0 := by
  constructor
  · linarith
  · simp
  · simp

theorem next (hticks : TicksSince clock low high sent tick count)
    (hearly : clock.seconds time < clock.seconds sent + 15 / 4)
    (hlow : clock.seconds tick + low ≤ clock.seconds time)
    (hhigh : clock.seconds time ≤ clock.seconds tick + high) :
    TicksSince clock low high sent time (count + 1) := by
  have hleast := hticks.atLeast
  have hmost := hticks.atMost
  refine ⟨hearly, ?_, ?_⟩
  · push_cast
    linarith
  · push_cast
    linarith

theorem within_delay (hticks : TicksSince clock low high sent tick count) (hpos : 0 < low)
    (hle : low ≤ high) (hhigh : clock.seconds time ≤ clock.seconds tick + high) :
    clock.seconds time - clock.seconds sent ≤ refreshDelay low high := by
  have hearly := hticks.early
  have hmost := hticks.atMost
  have hspan := refreshSpan_eq
  have hcount : count < ⌈refreshSpan / low⌉₊ := by
    rw [Nat.lt_ceil, lt_div_iff₀ hpos]
    linarith [hticks.atLeast]
  refine le_min ?_ (by linarith)
  calc clock.seconds time - clock.seconds sent ≤ (count + 1 : ℕ) * high := by
        push_cast
        linarith
    _ ≤ ⌈refreshSpan / low⌉₊ * high := by
        have hhigh0 : 0 ≤ high := by linarith
        gcongr
        exact hcount

end TicksSince

end ticks

/-- A power other than zero is followed by the next one within so many seconds. -/
def RefreshedWithin {α : Type} [Scalar α] (clock : Clock α) (bound : ℝ)
    (sent next : SentPower α) : Prop :=
  (sent.power == 0.0) = false → clock.seconds next.time - clock.seconds sent.time ≤ bound

namespace BoardHeater

variable {α : Type} [Scalar α]

/-! ### Steady runs -/

/-- The time of the last tick of a run. -/
def lastTick? (events : List (HeaterEvent α)) : Option α :=
  (events.filterMap HeaterEvent.tickTime?).getLast?

/-- A tick has a sample that can be used and that the heater has not read before. -/
def Supplied (h : BoardHeater α) : HeaterEvent α → Prop
  | .tick sample _ time =>
      (h.readied time).Usable sample time ∧ sample.isConsumed h.lastSample = false
  | _ => True

instance (h : BoardHeater α) (event : HeaterEvent α) : Decidable (h.Supplied event) := by
  unfold Supplied
  split <;> infer_instance

/-- After a tick at `last`, a next tick comes between `low` and `high` seconds later, and nothing
comes after the time for it. -/
structure InStride (clock : Clock α) (low high : ℝ) (last : Option α) (event : HeaterEvent α) :
    Prop where
  isTime : ∀ time ∈ event.time?, clock.IsTime time
  apart : ∀ time ∈ event.tickTime?, ∀ tick ∈ last, clock.seconds tick + low ≤ clock.seconds time
  notLate : ∀ time ∈ event.time?, ∀ tick ∈ last, clock.seconds time ≤ clock.seconds tick + high

/-- A run of ticks on new samples, evenly spaced up to the difference between `low` and `high`, with
any commands in between. -/
inductive Steady (clock : Clock α) (low high : ℝ) (start : BoardHeater α) :
    List (HeaterEvent α) → Prop
  | nil : Steady clock low high start []
  | concat {events : List (HeaterEvent α)} {event : HeaterEvent α}
      (earlier : Steady clock low high start events)
      (stride : InStride clock low high (lastTick? events) event)
      (supplied : (start.replay events).Supplied event) :
      Steady clock low high start (events ++ [event])

/-- The power of a heater is the one it sent last, and there have not been ticks enough to send it
again. -/
structure Awaits (clock : Clock α) (low high : ℝ) (last : Option α) (entry : SentPower α)
    (h : BoardHeater α) : Prop where
  power : h.lastPower = entry.power
  refresh : (entry.power == 0.0) = false →
    h.refreshTime = entry.time + 0.75 * maxHeatTime ∧ clock.IsTime entry.time
  ticks : (entry.power == 0.0) = false →
    ∃ tick ∈ last, ∃ count, TicksSince clock low high entry.time tick count

omit [Scalar α] in
theorem lastTick?_concat (events : List (HeaterEvent α)) (event : HeaterEvent α) :
    lastTick? (events ++ [event]) = event.tickTime?.or (lastTick? events) := by
  rw [lastTick?, List.filterMap_append, List.getLast?_append]
  cases hticked : event.tickTime? with
  | none => simp [hticked, lastTick?]
  | some time => simp [hticked]

variable {clock : Clock α} {low high : ℝ} {h : BoardHeater α} {last : Option α}
  {entry : SentPower α} {event : HeaterEvent α}

theorem Awaits.refreshedWithin (hawaits : Awaits clock low high last entry h) (hpos : 0 < low)
    (hle : low ≤ high) (hstride : InStride clock low high last event) {time : α}
    (htime : time ∈ event.time?) (power : α) :
    RefreshedWithin clock (refreshDelay low high) entry ⟨time, power⟩ := by
  intro hon
  obtain ⟨tick, hlast, count, hticks⟩ := hawaits.ticks hon
  exact hticks.within_delay hpos hle (hstride.notLate time htime tick hlast)

/-- A tick that sends nothing comes before the power has to be sent again. -/
theorem Awaits.early (hawaits : Awaits clock low high last entry h) (hsafe : h.PowerSafe)
    (hzero : ((0.0 : α) == 0.0) = true) (hstride : InStride clock low high last event)
    (hsupplied : h.Supplied event) (hon : (entry.power == 0.0) = false) {time : α}
    (hticked : event.tickTime? = some time) (hsilent : h.sentPowers event = []) :
    clock.seconds time < clock.seconds entry.time + 15 / 4 := by
  obtain ⟨hrefresh, hsent⟩ := hawaits.refresh hon
  have htime := hstride.isTime time (HeaterEvent.time?_of_tickTime? hticked)
  cases event with
  | tick sample target time' =>
      cases hticked
      by_contra hlater
      have hdue : h.Due time := by
        refine ⟨hawaits.power ▸ hon, ?_⟩
        rw [hrefresh]
        exact clock.not_early hsent htime (not_lt.mp hlater)
      have hstate : h.state ≠ .shutdown := by
        intro hparked
        have hcold := hdue.on
        rw [hsafe.parked (.inr hparked), hzero] at hcold
        cases hcold
      obtain ⟨powers, hsends, hsome⟩ :=
        Consults.sends ⟨hstate, hsupplied.1, hsupplied.2⟩ target hdue
      have hsent : h.sentPowers (.tick sample target time) = powers := hsends.sentPowers_eq
      exact hsome (hsent.symm.trans hsilent)
  | _ => cases hticked

theorem Awaits.perform_silent (hawaits : Awaits clock low high last entry h)
    (hsafe : h.PowerSafe) (hzero : ((0.0 : α) == 0.0) = true)
    (hstride : InStride clock low high last event) (hsupplied : h.Supplied event)
    (hsilent : h.sentPowers event = []) :
    Awaits clock low high (event.tickTime?.or last) entry (h.perform event) := by
  obtain ⟨hpower, hrefresh⟩ := (h.perform_sends event).1.kept hsilent
  refine ⟨hpower.trans hawaits.power, ?_, ?_⟩
  · rw [hrefresh]
    exact hawaits.refresh
  · intro hon
    obtain ⟨tick, hlast, count, hticks⟩ := hawaits.ticks hon
    cases hticked : event.tickTime? with
    | none => exact ⟨tick, hlast, count, hticks⟩
    | some time =>
        have hearly := hawaits.early hsafe hzero hstride hsupplied hon hticked hsilent
        exact ⟨time, rfl, count + 1, hticks.next hearly (hstride.apart time hticked tick hlast)
          (hstride.notLate time (HeaterEvent.time?_of_tickTime? hticked) tick hlast)⟩

/-- A power other than zero is sent in a tick, and the ticks are counted from it. -/
theorem awaits_perform (hzero : ((0.0 : α) == 0.0) = true)
    (hstride : InStride clock low high last event) {time power : α} (htime : time ∈ event.time?)
    (hsent : power ∈ (h.sentPowers event).getLast?) :
    Awaits clock low high (event.tickTime?.or last) ⟨time, power⟩ (h.perform event) := by
  obtain ⟨hpower, hlate⟩ := (h.perform_sends event).1.last power hsent
  have hticked : (power == 0.0) = false → event.tickTime? = some time ∧
      (h.perform event).refreshTime = time + 0.75 * maxHeatTime := by
    intro hon
    rcases hlate with rfl | ⟨time', hticked, hrefresh, -⟩
    · cases hon.symm.trans hzero
    · obtain rfl : time' = time :=
        Option.some.inj ((HeaterEvent.time?_of_tickTime? hticked).symm.trans htime)
      exact ⟨hticked, hrefresh⟩
  refine ⟨hpower, fun hon => ⟨(hticked hon).2, hstride.isTime time htime⟩, fun hon => ?_⟩
  rw [(hticked hon).1]
  exact ⟨time, rfl, 0, .start clock low high time⟩

/-- The powers of one event follow each other at once. -/
theorem Awaits.isChain_sentAt (hawaits : Awaits clock low high last entry h) (hpos : 0 < low)
    (hle : low ≤ high) (hstride : InStride clock low high last event) :
    (entry :: h.sentAt event).IsChain (RefreshedWithin clock (refreshDelay low high)) := by
  refine List.Pairwise.isChain (List.pairwise_cons.mpr ⟨fun next hnext => ?_, ?_⟩)
  · exact hawaits.refreshedWithin hpos hle hstride (time_of_mem_sentAt hnext) next.power
  · refine List.pairwise_of_forall_mem_list fun sent hsent next hnext _ => ?_
    have hsame : next.time = sent.time :=
      Option.some.inj ((time_of_mem_sentAt hnext).symm.trans (time_of_mem_sentAt hsent))
    rw [hsame, sub_self]
    have hhigh : 0 ≤ high := hpos.le.trans hle
    have hspan : 0 ≤ refreshSpan := by
      rw [refreshSpan_eq]
      norm_num
    exact le_min (by positivity) (by positivity)

theorem Awaits.perform (hawaits : Awaits clock low high last entry h) (hsafe : h.PowerSafe)
    (hzero : ((0.0 : α) == 0.0) = true) (hstride : InStride clock low high last event)
    (hsupplied : h.Supplied event) {newest : SentPower α}
    (hnewest : newest ∈ (entry :: h.sentAt event).getLast?) :
    Awaits clock low high (event.tickTime?.or last) newest (h.perform event) := by
  rw [List.getLast?_cons, Option.mem_some_iff] at hnewest
  cases hsent : (h.sentAt event).getLast? with
  | none =>
      have hnone := List.getLast?_eq_none_iff.mp hsent
      have hsilent : h.sentPowers event = [] := by rw [← sentAt_powers, hnone, List.map_nil]
      rw [hsent] at hnewest
      subst hnewest
      exact hawaits.perform_silent hsafe hzero hstride hsupplied hsilent
  | some sent =>
      rw [hsent] at hnewest
      subst hnewest
      refine awaits_perform hzero hstride (time_of_mem_sentAt (List.mem_of_getLast? hsent)) ?_
      rw [← sentAt_powers, List.getLast?_map, hsent]
      rfl

/-- A command that does not come with a time fits in anywhere. -/
theorem Steady.command {start : BoardHeater α} {events : List (HeaterEvent α)}
    (hsteady : Steady clock low high start events) (command : HeaterCommand α)
    (huntimed : command.time? = none) :
    Steady clock low high start (events ++ [.command command]) := by
  have hnever : ∀ time, time ∉ (HeaterEvent.command command).time? := by
    rintro time htime
    cases huntimed.symm.trans htime
  exact hsteady.concat ⟨fun _ htime => absurd htime (hnever _), nofun,
    fun _ htime => absurd htime (hnever _)⟩ trivial

theorem Steady.tick {start : BoardHeater α} {events : List (HeaterEvent α)}
    (hsteady : Steady clock low high start events) {sample : Sample α} {target time : α}
    (htime : clock.IsTime time)
    (hapart : ∀ tick ∈ lastTick? events, clock.seconds tick + low ≤ clock.seconds time)
    (hlate : ∀ tick ∈ lastTick? events, clock.seconds time ≤ clock.seconds tick + high)
    (hsupplied : (start.replay events).Supplied (.tick sample target time)) :
    Steady clock low high start (events ++ [.tick sample target time]) := by
  refine hsteady.concat ⟨?_, ?_, ?_⟩ hsupplied
  · rintro _ ⟨⟩
    exact htime
  · rintro _ ⟨⟩
    exact hapart
  · rintro _ ⟨⟩
    exact hlate

/-- What is sent in a steady run is sent again within the delay of its ticks. -/
theorem Steady.refreshed {start : BoardHeater α} (hsafe : start.PowerSafe)
    (hoff : start.lastPower = 0.0) (hzero : ((0.0 : α) == 0.0) = true) (hpos : 0 < low)
    (hle : low ≤ high) {events : List (HeaterEvent α)}
    (hsteady : Steady clock low high start events) :
    (start.powerLog events).IsChain (RefreshedWithin clock (refreshDelay low high)) := by
  -- before the first power the heater is off, as if it had sent a zero
  have hlog : (SentPower.mk 0.0 0.0 :: start.powerLog events).IsChain
        (RefreshedWithin clock (refreshDelay low high)) ∧
      ∀ entry ∈ (SentPower.mk 0.0 0.0 :: start.powerLog events).getLast?,
        Awaits clock low high (lastTick? events) entry (start.replay events) := by
    induction hsteady with
    | nil =>
        refine ⟨List.isChain_singleton _, ?_⟩
        rintro _ ⟨⟩
        have hcold : ¬ ((0.0 : α) == 0.0) = false := by simp [hzero]
        exact ⟨hoff, fun hon => absurd hon hcold, fun hon => absurd hon hcold⟩
    | @concat events event _ hstride hsupplied ih =>
        obtain ⟨hchain, hlast⟩ := ih
        obtain ⟨earlier, entry, hentry⟩ : ∃ earlier entry,
            SentPower.mk 0.0 0.0 :: start.powerLog events = earlier ++ [entry] :=
          ⟨_, _, (List.dropLast_concat_getLast (List.cons_ne_nil _ _)).symm⟩
        rw [hentry] at hchain hlast
        have hawaits := hlast entry List.getLast?_concat
        have hlog : SentPower.mk 0.0 0.0 :: start.powerLog (events ++ [event]) =
            earlier ++ entry :: (start.replay events).sentAt event := by
          rw [powerLog_append, ← List.cons_append, hentry, powerLog, powerLog, List.append_nil,
            List.append_assoc, List.singleton_append]
        rw [hlog, replay_append, lastTick?_concat]
        refine ⟨List.isChain_split.mpr ⟨hchain, hawaits.isChain_sentAt hpos hle hstride⟩, ?_⟩
        intro newest hnewest
        rw [List.getLast?_append_of_ne_nil _ (List.cons_ne_nil _ _)] at hnewest
        exact hawaits.perform (hsafe.replay events) hzero hstride hsupplied hnewest
  exact hlog.1.tail

end BoardHeater

end HeaterHost
