import HeaterHost.Proofs.Heater.Orders

/-!
# When the powers of a run were sent

The outbox keeps the powers of a run in their order, but not their times. The log adds them: each
event queues its powers at its own time. Between two entries of the log the power of a heater stays
as it is, and so does the time from which on it has to be sent again.
-/

namespace HeaterHost

open Autotune Wire

/-- A power that was queued for the board, and when. -/
structure SentPower (α : Type) where
  time : α
  power : α
deriving Repr, DecidableEq

/-- The time of a command that comes with one. -/
def HeaterCommand.time? {α : Type} : HeaterCommand α → Option α
  | setTemp _ => none
  | setGains _ => none
  | startAutotune _ time => some time
  | abortAutotune time => some time
  | shutdown time => some time

def HeaterEvent.tickTime? {α : Type} : HeaterEvent α → Option α
  | tick _ _ time => some time
  | _ => none

def HeaterEvent.time? {α : Type} : HeaterEvent α → Option α
  | activate time => some time
  | command ordered => ordered.time?
  | tick _ _ time => some time

theorem HeaterEvent.time?_of_tickTime? {α : Type} {event : HeaterEvent α} {time : α}
    (hticked : event.tickTime? = some time) : event.time? = some time := by
  cases event with
  | tick => exact hticked
  | _ => cases hticked

namespace BoardHeater

variable {α : Type} [Scalar α]

/-- The powers that were queued, newest first. -/
def queuedPowers (h : BoardHeater α) : List α :=
  h.outbox.filterMap DeviceCommand.power?

/-- The powers that an event queues, in their order. -/
def sentPowers (h : BoardHeater α) (event : HeaterEvent α) : List α :=
  let powers := (h.perform event).queuedPowers
  (powers.take (powers.length - h.queuedPowers.length)).reverse

/-- The powers that an event queues, with its time. -/
def sentAt (h : BoardHeater α) (event : HeaterEvent α) : List (SentPower α) :=
  match event.time? with
  | none => []
  | some time => (h.sentPowers event).map (SentPower.mk time)

/-- What is sent in the course of a run, in its order. -/
def powerLog (h : BoardHeater α) : List (HeaterEvent α) → List (SentPower α)
  | [] => []
  | event :: rest => h.sentAt event ++ (h.perform event).powerLog rest

/-- The power has to be sent again. -/
structure Due (h : BoardHeater α) (time : α) : Prop where
  on : (h.lastPower == 0.0) = false
  late : ¬ time < h.refreshTime

/-- What is queued between `h` and `k`. If it is anything, `k` has the last power of it, and that is
zero or was sent in a tick, from which the time to send it again counts. A tick queues nothing after
such a power. -/
structure Sends (tickTime? : Option α) (h k : BoardHeater α) (powers : List α) : Prop where
  queued : k.queuedPowers = powers.reverse ++ h.queuedPowers
  kept : powers = [] → k.lastPower = h.lastPower ∧ k.refreshTime = h.refreshTime
  last : ∀ power ∈ powers.getLast?, k.lastPower = power ∧
    (power = 0.0 ∨ ∃ time ∈ tickTime?, k.refreshTime = time + 0.75 * maxHeatTime ∧
      k.outbox.head? = some (.setPower power))
  idle : powers = [] → ∀ time ∈ tickTime?, k.outbox = h.outbox

variable {h k l : BoardHeater α} {tickTime? : Option α} {time : α} {powers powers' : List α}

theorem Due.of_kept (hdue : h.Due time) (hpower : k.lastPower = h.lastPower)
    (hrefresh : k.refreshTime = h.refreshTime) : k.Due time :=
  ⟨hpower ▸ hdue.on, hrefresh ▸ hdue.late⟩

namespace Sends

theorem nothing (hpower : k.lastPower = h.lastPower) (hrefresh : k.refreshTime = h.refreshTime)
    (houtbox : k.outbox = h.outbox) : Sends tickTime? h k [] := by
  refine ⟨?_, fun _ => ⟨hpower, hrefresh⟩, nofun, fun _ _ _ => houtbox⟩
  rw [queuedPowers, houtbox]
  rfl

/-- A command may queue something else than a power. -/
theorem other (hpower : k.lastPower = h.lastPower) (hrefresh : k.refreshTime = h.refreshTime)
    (hqueued : k.queuedPowers = h.queuedPowers) : Sends none h k [] :=
  ⟨hqueued, fun _ => ⟨hpower, hrefresh⟩, nofun, nofun⟩

/-- A power that passes the gate in a tick. -/
theorem passed (h : BoardHeater α) (time power : α) :
    Sends (some time) h
      { h with
        refreshTime := time + 0.75 * maxHeatTime
        lastPower := power
        outbox := .setPower power :: h.outbox } [power] := by
  refine ⟨rfl, nofun, ?_, nofun⟩
  rintro _ ⟨⟩
  exact ⟨rfl, .inr ⟨time, rfl, rfl, rfl⟩⟩

theorem zero (hpower : k.lastPower = 0.0) (hqueued : k.queuedPowers = 0.0 :: h.queuedPowers) :
    Sends tickTime? h k [0.0] := by
  refine ⟨hqueued, nofun, ?_, nofun⟩
  rintro _ ⟨⟩
  exact ⟨hpower, .inl rfl⟩

theorem trans (hfirst : Sends tickTime? h k powers) (hnext : Sends tickTime? k l powers') :
    Sends tickTime? h l (powers ++ powers') := by
  rcases List.eq_nil_or_concat powers' with rfl | ⟨earlier, power, rfl⟩
  · obtain ⟨hpower, hrefresh⟩ := hnext.kept rfl
    rw [List.append_nil]
    refine ⟨hnext.queued.trans hfirst.queued, ?_, ?_, ?_⟩
    · intro hnone
      rw [hpower, hrefresh]
      exact hfirst.kept hnone
    · intro power hlast
      obtain ⟨hsent, hzero | ⟨time, hticked, hlate, hnewest⟩⟩ := hfirst.last power hlast
      · exact ⟨hpower.trans hsent, .inl hzero⟩
      · refine ⟨hpower.trans hsent, .inr ⟨time, hticked, hrefresh.trans hlate, ?_⟩⟩
        rw [hnext.idle rfl time hticked, hnewest]
    · intro hnone time hticked
      rw [hnext.idle rfl time hticked, hfirst.idle hnone time hticked]
  · rw [List.concat_eq_append] at hnext ⊢
    have hsome : powers ++ (earlier ++ [power]) ≠ [] := by simp
    refine ⟨?_, fun hnone => absurd hnone hsome, ?_, fun hnone => absurd hnone hsome⟩
    · rw [hnext.queued, hfirst.queued, ← List.append_assoc, ← List.reverse_append]
    · intro last hlast
      rw [← List.append_assoc, List.getLast?_concat] at hlast
      cases hlast
      exact hnext.last power List.getLast?_concat

/-- An event that sends these powers has them in the log. -/
theorem sentPowers_eq {event : HeaterEvent α}
    (hsends : Sends tickTime? h (h.perform event) powers) : h.sentPowers event = powers := by
  rw [sentPowers, hsends.queued, List.length_append, Nat.add_sub_cancel, List.take_left,
    List.reverse_reverse]

end Sends

/-! ### One lemma for each operation -/

omit [Scalar α] in
theorem activate_power (h : BoardHeater α) (time : α) :
    (h.activate time).lastPower = h.lastPower ∧ (h.activate time).refreshTime = h.refreshTime := by
  unfold activate
  split <;> exact ⟨rfl, rfl⟩

omit [Scalar α] in
theorem acknowledged_refreshTime (h : BoardHeater α) :
    h.acknowledged.refreshTime = h.refreshTime := by
  simp only [acknowledged, recover]
  split <;> rfl

theorem setPower_of_due (hdue : h.Due time) (power : α) (force : Bool) :
    h.setPower time power force =
      { h with
        refreshTime := time + 0.75 * maxHeatTime
        lastPower := power
        outbox := .setPower power :: h.outbox } := by
  rw [setPower, hdue.on, decide_eq_false hdue.late, Bool.or_self, Bool.and_false, Bool.false_and]
  rfl

theorem setPower_sends (h : BoardHeater α) (time power : α) (force : Bool) :
    ∃ powers, Sends (some time) h (h.setPower time power force) powers ∧
      (h.Due time → powers ≠ []) := by
  by_cases hdue : h.Due time
  · refine ⟨[power], ?_, fun _ => List.cons_ne_nil _ _⟩
    rw [setPower_of_due hdue]
    exact .passed h time power
  · rcases h.setPower_cases time power force with ⟨-, -, heq⟩ | heq <;> rw [heq]
    · exact ⟨[], .nothing rfl rfl rfl, fun hdue' => absurd hdue' hdue⟩
    · exact ⟨[power], .passed h time power, fun _ => List.cons_ne_nil _ _⟩

theorem released_sends (h : BoardHeater α) (relay : Relay α) (resume : Pid α) (priorTarget : α)
    (result : Except (FailReason α) (Gains α)) (time : α) :
    Sends tickTime? h (h.released relay resume priorTarget result time) [0.0] :=
  .zero rfl rfl

theorem endAutotune_sends (h : BoardHeater α) (result : Except (FailReason α) (Gains α))
    (time : α) : ∃ powers, Sends tickTime? h (h.endAutotune result time) powers := by
  rcases h.endAutotune_cases result time with ⟨_, -, heq⟩ | ⟨_, _, _, -, heq⟩ <;> rw [heq]
  · exact ⟨[], .nothing rfl rfl rfl⟩
  · exact ⟨[0.0], h.released_sends ..⟩

theorem activate_sends (h : BoardHeater α) (time : α) :
    Sends tickTime? h (h.activate time) [] := by
  obtain ⟨hpower, hrefresh⟩ := h.activate_power time
  exact .nothing hpower hrefresh (activate_outbox h time)

theorem acknowledged_sends (h : BoardHeater α) : Sends tickTime? h h.acknowledged [] :=
  .nothing h.acknowledged_lastPower h.acknowledged_refreshTime h.acknowledged_outbox

theorem readied_sends (h : BoardHeater α) (time : α) :
    ∃ powers, Sends tickTime? h (h.readied time) powers := by
  have hactive : Sends tickTime? h (h.activate time) [] := h.activate_sends time
  unfold readied
  rcases (h.activate time).expire_cases time with heq | ⟨_, _, _, _, -, -, heq⟩ <;> rw [heq]
  · exact ⟨_, hactive⟩
  · exact ⟨_, hactive.trans ((h.activate time).released_sends ..)⟩

theorem cutPower_sends (h : BoardHeater α) (fault : Fault α) (time : α) :
    ∃ powers, Sends (some time) h (h.cutPower fault time) powers := by
  rcases h.cutPower_cases fault time with ⟨-, heq⟩ | heq <;> rw [heq]
  · exact (h.setPower_sends time 0.0 false).imp fun _ => And.left
  · exact ⟨[0.0], .zero rfl rfl⟩

theorem consume_sends (h : BoardHeater α) (sample : Sample α) (target time : α) :
    ∃ powers, Sends (some time) h (h.consume sample target time) powers ∧
      (h.Due time → powers ≠ []) := by
  have hcontrolled : ∀ control power,
      ∃ powers, Sends (some time) h
          ({ h.noted sample with control }.setPower time power false) powers ∧
        (h.Due time → powers ≠ []) := by
    intro control power
    obtain ⟨powers, hsends, hpowers⟩ :=
      { h.noted sample with control }.setPower_sends time power false
    exact ⟨powers, ⟨hsends.queued, hsends.kept, hsends.last, hsends.idle⟩,
      fun hdue => hpowers (hdue.of_kept rfl rfl)⟩
  rcases h.consume_cases sample target time with
    ⟨_, -, heq⟩ | ⟨_, _, _, _, _, -, heq⟩ | ⟨_, _, _, _, _, -, heq⟩ <;> rw [heq]
  · exact hcontrolled ..
  · exact hcontrolled ..
  · exact ⟨[0.0], .zero rfl rfl, fun _ => List.cons_ne_nil _ _⟩

theorem regulate_sends (h : BoardHeater α) (sample : Sample α) (target time : α) :
    ∃ powers, Sends (some time) h (h.regulate sample target time) powers := by
  rcases h.regulate_cases sample target time with
    ⟨-, -, heq⟩ | ⟨-, -, heq⟩ | ⟨-, -, heq⟩ | ⟨-, -, heq⟩ | ⟨-, -, heq⟩ <;> rw [heq]
  · exact (h.setPower_sends time 0.0 false).imp fun _ => And.left
  · exact h.cutPower_sends ..
  · obtain ⟨_, hended⟩ := h.endAutotune_sends (.error (.overTemperature sample.value)) time
    obtain ⟨_, hcut⟩ := (h.endAutotune (.error (.overTemperature sample.value)) time).cutPower_sends
      (.overTemperature sample.value h.settings.maxTemp) time
    exact ⟨_, hended.trans hcut⟩
  · exact ⟨[], h.acknowledged_sends⟩
  · obtain ⟨_, hconsumed, -⟩ := h.acknowledged.consume_sends sample target time
    exact ⟨_, h.acknowledged_sends.trans hconsumed⟩

theorem tick_sends (h : BoardHeater α) (sample : Sample α) (target time : α) :
    ∃ powers, Sends (some time) h (h.tick sample target time) powers := by
  by_cases hstate : h.state = .shutdown
  · rw [tick_of_shutdown hstate]
    exact ⟨[], .nothing rfl rfl rfl⟩
  · obtain ⟨_, hready⟩ : ∃ powers, Sends (some time) h (h.readied time) powers :=
      h.readied_sends time
    obtain ⟨_, hregulated⟩ := (h.readied time).regulate_sends sample target time
    rw [tick_of_running hstate]
    exact ⟨_, hready.trans hregulated⟩

/-- A tick that consults the control sends a power if the heater has one that is due. -/
theorem Consults.sends {sample : Sample α} (hconsults : h.Consults sample time) (target : α)
    (hdue : h.Due time) :
    ∃ powers, Sends (some time) h (h.tick sample target time) powers ∧ powers ≠ [] := by
  obtain ⟨early, hready⟩ : ∃ powers, Sends (some time) h (h.readied time) powers :=
    h.readied_sends time
  have hgood := hready.trans (h.readied time).acknowledged_sends
  obtain ⟨late, hconsumed, hlate⟩ := (h.readied time).acknowledged.consume_sends sample target time
  rw [hconsults.tick_eq]
  refine ⟨_, hgood.trans hconsumed, ?_⟩
  intro hnone
  obtain ⟨hearly, rfl⟩ := List.append_eq_nil_iff.mp hnone
  obtain ⟨hpower, hrefresh⟩ := hgood.kept hearly
  exact hlate (hdue.of_kept hpower hrefresh) rfl

theorem obey_sends (h : BoardHeater α) (command : HeaterCommand α) :
    ∃ powers, Sends none h (h.obey command) powers ∧ (command.time? = none → powers = []) := by
  refine obey_invariant
    (P := fun k => ∃ powers, Sends none h k powers ∧ (command.time? = none → powers = []))
    ⟨[], .nothing rfl rfl rfl, fun _ => rfl⟩ fun h' hattempt => ?_
  cases command with
  | setTemp degrees =>
      rw [setTemp_eq_ok hattempt]
      exact ⟨[], .other rfl rfl rfl, fun _ => rfl⟩
  | setGains gains =>
      cases hattempt
      exact ⟨[], .other rfl rfl rfl, fun _ => rfl⟩
  | startAutotune target time =>
      obtain ⟨_, _, -, heq⟩ := startAutotune_eq_ok hattempt
      rw [heq]
      exact ⟨[], .other rfl rfl rfl, fun _ => rfl⟩
  | abortAutotune time =>
      rw [(abortAutotune_eq_ok hattempt).2]
      obtain ⟨powers, hended⟩ := h.endAutotune_sends (.error .aborted) time
      exact ⟨powers, hended, nofun⟩
  | shutdown time =>
      cases hattempt
      by_cases hstate : h.state = .shutdown
      · rw [shutdown_of_shutdown hstate]
        exact ⟨[], .nothing rfl rfl rfl, nofun⟩
      · rw [shutdown_of_running hstate]
        obtain ⟨powers, hended⟩ := h.endAutotune_sends (.error .aborted) time
        exact ⟨_, hended.trans (.zero rfl rfl), nofun⟩

/-- What an event sends, it sends at a time of its own. -/
theorem perform_sends (h : BoardHeater α) (event : HeaterEvent α) :
    Sends event.tickTime? h (h.perform event) (h.sentPowers event) ∧
      (event.time? = none → h.sentPowers event = []) := by
  have hperformed : ∃ powers, Sends event.tickTime? h (h.perform event) powers ∧
      (event.time? = none → powers = []) := by
    cases event with
    | activate time => exact ⟨[], h.activate_sends time, nofun⟩
    | command command => exact h.obey_sends command
    | tick sample target time =>
        obtain ⟨powers, hsends⟩ := h.tick_sends sample target time
        exact ⟨powers, hsends, nofun⟩
  obtain ⟨powers, hsends, htimed⟩ := hperformed
  rw [hsends.sentPowers_eq]
  exact ⟨hsends, htimed⟩

/-- No power that is sent is missing in the log. -/
theorem sentAt_powers (h : BoardHeater α) (event : HeaterEvent α) :
    (h.sentAt event).map SentPower.power = h.sentPowers event := by
  unfold sentAt
  cases htime : event.time? with
  | none => exact ((h.perform_sends event).2 htime).symm
  | some time => simp [Function.comp_def]

theorem sentAt_of_silent {event : HeaterEvent α} (hsilent : h.sentPowers event = []) :
    h.sentAt event = [] := by
  rw [← List.map_eq_nil_iff (f := SentPower.power), sentAt_powers, hsilent]

theorem time_of_mem_sentAt {event : HeaterEvent α} {entry : SentPower α}
    (hmem : entry ∈ h.sentAt event) : event.time? = some entry.time := by
  unfold sentAt at hmem
  cases htime : event.time? with
  | none =>
      rw [htime] at hmem
      cases hmem
  | some time =>
      rw [htime] at hmem
      obtain ⟨power, -, rfl⟩ := List.mem_map.mp hmem
      rfl

theorem powerLog_append (h : BoardHeater α) (before after : List (HeaterEvent α)) :
    h.powerLog (before ++ after) = h.powerLog before ++ (h.replay before).powerLog after := by
  induction before generalizing h with
  | nil => rfl
  | cons event rest ih =>
      rw [List.cons_append, powerLog, powerLog, ih, replay_cons, List.append_assoc]

end BoardHeater

end HeaterHost
