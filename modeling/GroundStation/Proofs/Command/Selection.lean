import GroundStation.Proofs.Config.Acceptance

/-!
# Which mission a command runs

A command selects its mission by name, if it gives one, and whatever number it gives; else by
number, counted from one. The missions of an accepted configuration have different names, so the
number of a mission and its name select the same one, and the run goes on in the same way with
either command. What a command says about the last leg holds for that run only: the missions of a
console are the configured ones, whatever happens.

## Main results

* `Dispatcher.findMission_name_iff`, `Dispatcher.findMission_number_iff`: what is found.
* `Dispatcher.selects`: which mission is found, and what becomes of it.
* `Config.findMission_of_check`: the number and the name of a configured mission.
* `Config.missions_selected_alike`: the runs of a console.
-/

namespace GroundStation

/-- A mission with or without a last leg back, if that is said, and else as it is. -/
def Mission.overridden (m : Mission) (returnToStart : Option Bool) : Mission :=
  { m with returnToStart := returnToStart.getD m.returnToStart }

namespace Dispatcher

variable {d : Dispatcher} {number : Option Nat} {name : String} {selector : Option String}
  {m : Mission}

/-! ## What is found -/

/-- A name finds the first mission that has it. -/
theorem findMission_name_iff : d.findMission number (some name) = .ok m ↔
    ∃ i : Nat, d.missions[i]? = some m ∧ m.name = name ∧
      ∀ k < i, ∀ earlier : Mission, d.missions[k]? = some earlier → earlier.name ≠ name := by
  have hfind : d.findMission number (some name) = .ok m ↔
      d.missions.find? (fun m => m.name == name) = some m := by
    rw [findMission]
    cases d.missions.find? fun m => m.name == name <;> simp
  rw [hfind, List.find?_eq_some_iff_getElem, beq_iff_eq]
  constructor
  · rintro ⟨hname, i, hi, rfl, hfirst⟩
    refine ⟨i, List.getElem?_eq_getElem hi, hname, fun k hk earlier hearlier => ?_⟩
    obtain ⟨-, rfl⟩ := List.getElem?_eq_some_iff.mp hearlier
    simpa using hfirst k hk
  · rintro ⟨i, hget, hname, hfirst⟩
    obtain ⟨hi, rfl⟩ := List.getElem?_eq_some_iff.mp hget
    refine ⟨hname, i, hi, rfl, fun k hk => ?_⟩
    simpa using hfirst k hk _ (List.getElem?_eq_getElem (Nat.lt_trans hk hi))

/-- A number finds the mission in its place. -/
theorem findMission_number_iff : d.findMission number none = .ok m ↔
    ∃ i, number.getD 1 = i + 1 ∧ d.missions[i]? = some m := by
  rw [findMission]
  cases number.getD 1 with
  | zero => simp
  | succ i => cases hget : d.missions[i]? <;> simp [hget]

/-- A command for a mission runs the one that is found. -/
theorem resolve_mission (hattached : d.attached = true) (number : Option Nat)
    (selector : Option String) (returnToStart : Option Bool) :
    d.resolve (.mission number selector returnToStart) =
      (d.findMission number selector).map fun m =>
        .navigate (.mission (m.overridden returnToStart)) := by
  simp only [resolve, hattached, not_true, if_false, Command.check, errand]
  cases d.findMission number selector <;> rfl

/-- Two commands that find the same mission turn into the same. -/
theorem resolve_mission_congr {number' : Option Nat} {selector' : Option String}
    (h : d.findMission number selector = d.findMission number' selector')
    (returnToStart : Option Bool) :
    d.resolve (.mission number selector returnToStart) =
      d.resolve (.mission number' selector' returnToStart) := by
  simp only [resolve, Command.check, errand, h]

/-- **Which mission a command selects.** -/
structure Selects (d : Dispatcher) : Prop where
  /-- A name decides alone. It selects the first mission that has it. -/
  name : ∀ number name m, d.findMission number (some name) = .ok m ↔
    ∃ i : Nat, d.missions[i]? = some m ∧ m.name = name ∧
      ∀ k < i, ∀ earlier : Mission, d.missions[k]? = some earlier → earlier.name ≠ name
  name_lacks : ∀ number name, (∀ m ∈ d.missions, m.name ≠ name) →
    d.findMission number (some name) = .error (.unknownMission name)
  /-- Without a name a number decides, which counts from one and is one if it is not given. -/
  number : ∀ number m, d.findMission number none = .ok m ↔
    ∃ i, number.getD 1 = i + 1 ∧ d.missions[i]? = some m
  number_lacks : ∀ number, number.getD 1 = 0 ∨ d.missions.length < number.getD 1 →
    d.findMission number none = .error (.unknownMission (naturalText (number.getD 1)))
  /-- The mission that is selected is run, with the last leg that the command asks for. -/
  runs : d.attached = true → ∀ number name returnToStart,
    d.resolve (.mission number name returnToStart) =
      (d.findMission number name).map fun m =>
        .navigate (.mission (m.overridden returnToStart))

theorem selects (d : Dispatcher) : d.Selects where
  name _ _ _ := findMission_name_iff
  name_lacks number name hlacks := by
    have hnone : d.missions.find? (fun m => m.name == name) = none :=
      List.find?_eq_none.mpr fun m hm => by simpa using hlacks m hm
    rw [findMission, hnone]
  number _ _ := findMission_number_iff
  number_lacks number hlacks := by
    rw [findMission]
    cases hnumber : number.getD 1 with
    | zero => rfl
    | succ i =>
        rw [hnumber] at hlacks
        have hnone : d.missions[i]? = none := List.getElem?_eq_none_iff.mpr (by omega)
        simp only [hnone]
  runs := resolve_mission

end Dispatcher

namespace Config

variable {c : Config} {d : Dispatcher} {console : Console} {i : Nat} {m : MissionConfig}

/-- Configured missions of one name are one mission. -/
theorem Acceptable.eq_of_name (h : c.Acceptable) {j : Nat} {m' : MissionConfig}
    (hm : c.missions[i]? = some m) (hm' : c.missions[j]? = some m') (hname : m'.name = m.name) :
    j = i := by
  have hnames : (c.missions.map (·.name))[j]? = (c.missions.map (·.name))[i]? := by
    rw [List.getElem?_map, List.getElem?_map, hm, hm', Option.map_some, Option.map_some, hname]
  have hj : j < (c.missions.map (·.name)).length := by
    rw [List.length_map]
    exact (List.getElem?_eq_some_iff.mp hm').1
  exact (List.getElem?_inj hj h.names).mp hnames

/-- The missions that are flown are the configured ones, in their places. -/
theorem getElem?_flyable {k : Nat} {mission : Mission} : c.flyable[k]? = some mission ↔
    ∃ configured, c.missions[k]? = some configured ∧ configured.mission = mission := by
  rw [flyable, List.getElem?_map, Option.map_eq_some_iff]

/-- **The number and the name of a configured mission select it.** -/
theorem findMission_of_check (hcheck : c.check = .ok ()) (hd : d.missions = c.flyable)
    (hm : c.missions[i]? = some m) (number : Option Nat) :
    d.findMission (some (i + 1)) none = .ok m.mission ∧
      d.findMission number (some m.name) = .ok m.mission := by
  have hgood := c.check_ok_iff.mp hcheck
  have hplace : d.missions[i]? = some m.mission := hd ▸ getElem?_flyable.mpr ⟨m, hm, rfl⟩
  refine ⟨Dispatcher.findMission_number_iff.mpr ⟨i, rfl, hplace⟩,
    Dispatcher.findMission_name_iff.mpr ⟨i, hplace, rfl, ?_⟩⟩
  intro k hk earlier hearlier hsame
  rw [hd] at hearlier
  obtain ⟨configured, hconfigured, rfl⟩ := getElem?_flyable.mp hearlier
  exact Nat.ne_of_lt hk (hgood.eq_of_name hm hconfigured hsame)

/-- **The missions of a configuration by number and by name**, on a console that has them. -/
structure SelectedAlike (c : Config) (console : Console) : Prop where
  /-- A run goes on in the same way with the number of a mission or its name. -/
  alike : ∀ (i : Nat) (m : MissionConfig), c.missions[i]? = some m →
    ∀ number returnToStart id before later,
    let byNumber := Console.Event.execute id (.mission (some (i + 1)) none returnToStart)
    let byName := Console.Event.execute id (.mission number (some m.name) returnToStart)
    console.acts (before ++ byNumber :: later) = console.acts (before ++ byName :: later) ∧
      console.after (before ++ byNumber :: later) = console.after (before ++ byName :: later)
  /-- Missions with different numbers have different names. -/
  distinct : ∀ (i j : Nat) (m m' : MissionConfig), c.missions[i]? = some m →
    c.missions[j]? = some m' → i ≠ j → m.mission.name ≠ m'.mission.name
  /-- Whatever happens, the missions stay as configured. -/
  kept : ∀ es, (console.after es).dispatcher.missions = c.flyable
  /-- After every run the number of a mission and its name fly it as configured, but for the last
  leg where the command decides about that. -/
  flown : ∀ es, (console.after es).dispatcher.attached = true →
    ∀ (i : Nat) (m : MissionConfig), c.missions[i]? = some m → ∀ number returnToStart,
      let errand := Errand.navigate (.mission
        ⟨m.name, m.points.map PointConfig.waypoint, returnToStart.getD m.returnToStart⟩)
      (console.after es).dispatcher.resolve (.mission (some (i + 1)) none returnToStart) =
          .ok errand ∧
        (console.after es).dispatcher.resolve (.mission number (some m.name) returnToStart) =
          .ok errand

theorem selectedAlike_of_check (hcheck : c.check = .ok ())
    (hmissions : console.dispatcher.missions = c.flyable) : c.SelectedAlike console := by
  have hkept : ∀ es, (console.after es).dispatcher.missions = c.flyable := fun es =>
    (console.missions_after es).trans hmissions
  constructor
  case alike =>
    intro i m hm number returnToStart id before later byNumber byName
    obtain ⟨hnumber, hname⟩ := findMission_of_check hcheck (hkept before) hm number
    have hresolve := Dispatcher.resolve_mission_congr (hnumber.trans hname.symm) returnToStart
    have hevent : (console.after before).happen byNumber =
        (console.after before).happen byName := by
      simp only [byNumber, byName, Console.happen, Console.execute, hresolve]
    simp only [Console.acts_append, Console.after_append, Console.acts, Console.after, hevent,
      and_self]
  case distinct =>
    intro i j m m' hm hm' hne hsame
    have hgood := c.check_ok_iff.mp hcheck
    exact hne (hgood.eq_of_name hm' hm hsame)
  case kept => exact hkept
  case flown =>
    intro es hattached i m hm number returnToStart errand
    obtain ⟨hnumber, hname⟩ := findMission_of_check hcheck (hkept es) hm number
    constructor
    · rw [Dispatcher.resolve_mission hattached, hnumber]
      rfl
    · rw [Dispatcher.resolve_mission hattached, hname]
      rfl

/-- **Numbers and names select missions alike.** For every list of missions it is said which one a
command selects; for the missions of an accepted configuration a number and a name do the same. -/
theorem missions_selected_alike (d : Dispatcher) (hcheck : c.check = .ok ())
    (hmissions : console.dispatcher.missions = c.flyable) :
    d.Selects ∧ c.SelectedAlike console :=
  ⟨d.selects, selectedAlike_of_check hcheck hmissions⟩

/-- The mission of a station that ends at its last point. -/
def patrol : MissionConfig := ⟨"patrol", false, [⟨47.5, 8.5, 10.0, 5.0⟩]⟩

/-- A station with a survey that ends where it began, and the patrol. -/
def patrolStation : Config :=
  ⟨.default, .default, .default, [⟨"survey", true, [⟨47.5, 8.5, 10.0, 0.0⟩]⟩, patrol]⟩

/-- The patrol is flown back to the start, and then by its name, as it is configured. -/
theorem missions_selected_alike_patrol :
    let console := Console.new patrolStation.navigation.settings 4 patrolStation.flyable
    let flown := console.after [.attach, .execute 0 (.mission (some 2) none (some true))]
    patrolStation.check = .ok () ∧ flown.dispatcher.Selects ∧
      flown.dispatcher.resolve (.mission (some 7) (some "patrol") none) =
        .ok (.navigate (.mission patrol.mission)) := by
  intro console flown
  have hcheck : patrolStation.check = .ok () := by decide +kernel
  have hattached : flown.dispatcher.attached = true := by decide +kernel
  have hmissions : console.dispatcher.missions = patrolStation.flyable := rfl
  obtain ⟨hselects, halike⟩ := missions_selected_alike flown.dispatcher hcheck hmissions
  exact ⟨hcheck, hselects, (halike.flown _ hattached 1 patrol rfl (some 7) none).2⟩

end Config

end GroundStation
