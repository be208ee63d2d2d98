import HeaterHost.Host.Setup

/-!
# Stations as they are set up

A section that is accepted comes to one of two stations, and its path says to which. Its numbers are
those of the section, and nothing has happened to it. A host that is set up has such a station for
every plan.
-/

namespace HeaterHost

namespace Except

variable {ε α β : Type} {x : Except ε α} {b : β}

theorem bind_eq_ok {f : α → Except ε β} (heq : (x >>= f) = .ok b) :
    ∃ a, x = .ok a ∧ f a = .ok b := by
  cases x with
  | error error => cases heq
  | ok a => exact ⟨a, rfl, heq⟩

theorem eq_ok_of_toBool {x : Except ε Unit} (hok : x.toBool = true) : x = .ok () := by
  cases x with
  | error error => cases hok
  | ok _ => rfl

end Except

variable {ω : Type}

theorem HeaterConfig.heater_eq_ok {c : HeaterConfig} {name : String} {heater : Heater Float}
    (hheater : c.heater name = .ok heater) :
    (c.path name = .ok .stock ∧ heater = .stock (StockHeater.create name c.control c.settings)) ∨
      (c.path name = .ok .board ∧ heater = .board (BoardHeater.create name c.settings)) := by
  unfold HeaterConfig.heater at hheater
  obtain ⟨kind, hpath, hheater⟩ := Except.bind_eq_ok hheater
  cases kind with
  | stock =>
      cases hheater
      exact .inl ⟨hpath, rfl⟩
  | board =>
      obtain ⟨board, hboard, hheater⟩ := Except.bind_eq_ok hheater
      cases hheater
      unfold HeaterConfig.boardHeater at hboard
      obtain ⟨_, -, hboard⟩ := Except.bind_eq_ok hboard
      obtain ⟨kind, hkind, hboard⟩ := Except.bind_eq_ok hboard
      rw [hpath] at hkind
      cases hkind
      cases hboard
      exact .inr ⟨hpath, rfl⟩

namespace HeaterPlan

variable {p : HeaterPlan ω} {name : String}

theorem sensor_eq_ok {sensor : Sensor ω} (hsensor : p.sensor name = .ok (some sensor)) :
    ∃ endpoint reportTime wire,
      sensor = Sensor.create name endpoint p.config.gains reportTime p.capacity wire := by
  unfold HeaterPlan.sensor at hsensor
  split at hsensor
  · cases hsensor
  · split at hsensor
    · cases hsensor
    · cases hsensor
      exact ⟨_, _, _, rfl⟩

/-- A section is accepted, and its station is one for the host's own heater or one for a board. -/
theorem checkedStation_cases {station : Station ω} (hstation : p.checkedStation name = .ok station) :
    p.config.validate name = .ok () ∧
    ((p.config.path name = .ok .stock ∧
        station = {
          heater := .stock (StockHeater.create name p.config.control p.config.settings) }) ∨
      (p.config.path name = .ok .board ∧ ∃ sensor, p.sensor name = .ok sensor ∧
        station = { heater := .board (BoardHeater.create name p.config.settings), sensor })) := by
  unfold checkedStation at hstation
  split at hstation
  case h_1 error hinvalid => cases hstation
  case h_2 hvalid =>
    refine ⟨hvalid, ?_⟩
    unfold HeaterPlan.station at hstation
    split at hstation
    case h_1 error hheater => cases hstation
    case h_2 heater hheater =>
      cases hstation
      rcases HeaterConfig.heater_eq_ok hheater with ⟨hpath, heq⟩ | ⟨-, heq⟩ <;> cases heq
      exact .inl ⟨hpath, rfl⟩
    case h_3 heater hheater =>
      obtain ⟨sensor, hsensor, hstation⟩ := Except.bind_eq_ok hstation
      cases hstation
      rcases HeaterConfig.heater_eq_ok hheater with ⟨-, heq⟩ | ⟨hpath, heq⟩ <;> cases heq
      exact .inr ⟨hpath, sensor, hsensor, rfl⟩

end HeaterPlan

namespace Host

theorem stationsOf_find? {plans : List (String × HeaterPlan ω)}
    {stations : List (String × Station ω)} (hstations : stationsOf plans = .ok stations)
    {name : String} {entry : String × HeaterPlan ω}
    (hplan : plans.find? (fun entry => entry.1 == name) = some entry) :
    ∃ station, stations.find? (fun entry => entry.1 == name) = some (entry.1, station) ∧
      entry.2.checkedStation entry.1 = .ok station := by
  induction plans generalizing stations with
  | nil => cases hplan
  | cons first rest ih =>
      unfold stationsOf at hstations
      obtain ⟨station, hchecked, hstations⟩ := Except.bind_eq_ok hstations
      obtain ⟨others, hothers, hstations⟩ := Except.bind_eq_ok hstations
      cases hstations
      rw [List.find?_cons] at hplan ⊢
      cases hname : first.1 == name with
      | true =>
          simp only [hname, Option.some.injEq] at hplan ⊢
          subst hplan
          exact ⟨station, rfl, hchecked⟩
      | false =>
          simp only [hname] at hplan ⊢
          exact ih hothers hplan

/-- Setting up makes a station of every plan. -/
theorem setUp_get? {plans : NameMap (HeaterPlan ω)} {tracker : Gcode.Tracker} {start : Host ω}
    (hsetup : setUp plans tracker = .ok start) {name : String} {plan : HeaterPlan ω}
    (hplan : plans.get? name = some plan) :
    ∃ station, start.stations.get? name = some station ∧ plan.checkedStation name = .ok station := by
  unfold setUp at hsetup
  obtain ⟨stations, hstations, hsetup⟩ := Except.bind_eq_ok hsetup
  cases hsetup
  obtain ⟨entry, hentry, rfl⟩ := Option.map_eq_some_iff.mp hplan
  obtain rfl : entry.1 = name := by simpa using List.find?_some hentry
  obtain ⟨station, hfound, hchecked⟩ := stationsOf_find? hstations hentry
  refine ⟨station, ?_, hchecked⟩
  simp only [NameMap.get?, hfound, Option.map_some]

end Host

end HeaterHost
