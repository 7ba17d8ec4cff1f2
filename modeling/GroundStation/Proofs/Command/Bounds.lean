import GroundStation.Config.Check
import GroundStation.Proofs.Command.Runs

/-!
# What commands can send the vehicle

The numbers of a command are checked when it is given, those of a mission when its configuration
is read, and neither is looked at again on the way to the link. This module follows them there:
whatever is commanded, and whatever the vehicle answers and reports, the calls that are made stay
within the bounds that were checked (`Config.Bounds`).

No comparison with a number that is none succeeds, so a bound that holds also says that the
number is one.

## Main results

* `Config.points_of_check`: the points of an accepted configuration are in range.
* `Config.bounds_of_errand`: what a command turns into stays within bounds.
* `Console.commands_keep_bounds`: so do all calls of every run of commands.
-/

namespace GroundStation

/-! ## What is checked -/

/-- A latitude and a longitude that a vehicle can be sent to. -/
structure OnGlobe (latitude longitude : Float) : Prop where
  south : -90.0 ≤ latitude
  north : latitude ≤ 90.0
  west : -180.0 ≤ longitude
  east : longitude ≤ 180.0

/-- A target that passes its check is on the globe, at a finite altitude. -/
theorem onGlobe_of_checkTarget {latitude longitude : Float} {altitude : Float32}
    (h : checkTarget latitude longitude altitude = .ok ()) :
    OnGlobe latitude longitude ∧ altitude.isFinite = true := by
  unfold checkTarget at h
  split at h
  · cases h
  · rename_i hlatitude
    split at h
    · cases h
    · rename_i hlongitude
      split at h
      · cases h
      · rename_i haltitude
        simp only [withinLimit, Bool.and_eq_true, decide_eq_true_eq, not_not]
          at hlatitude hlongitude
        exact ⟨⟨hlatitude.1, hlatitude.2, hlongitude.1, hlongitude.2⟩, by simpa using haltitude⟩

/-- What the check of a configuration says about one of its points. -/
structure PointConfig.Checked (p : PointConfig) : Prop where
  target : OnGlobe p.latitude p.longitude
  altitude : p.altitude.isFinite = true
  hover : 0.0 ≤ p.hoverSeconds

theorem checked_of_checkPoints {mission : String} {number : Nat} {ps : List PointConfig}
    (h : checkPoints mission number ps = .ok ()) : ∀ p ∈ ps, p.Checked := by
  induction ps generalizing number with
  | nil => exact fun p hp => (List.not_mem_nil hp).elim
  | cons first rest ih =>
      unfold checkPoints at h
      split at h
      · cases h
      · rename_i htarget
        split at h
        · cases h
        · rename_i hhover
          have hfirst := onGlobe_of_checkTarget htarget
          intro p hp
          rcases List.mem_cons.mp hp with rfl | hp
          · exact ⟨hfirst.1, hfirst.2, by simpa using hhover⟩
          · exact ih h p hp

theorem checked_of_checkMissions {names : List String} {number : Nat} {ms : List MissionConfig}
    (h : checkMissions names number ms = .ok ()) : ∀ m ∈ ms, ∀ p ∈ m.points, p.Checked := by
  induction ms generalizing names number with
  | nil => exact fun m hm => (List.not_mem_nil hm).elim
  | cons first rest ih =>
      unfold checkMissions at h
      split at h
      · cases h
      · split at h
        · cases h
        · split at h
          · cases h
          · rename_i hpoints
            intro m hm
            rcases List.mem_cons.mp hm with rfl | hm
            · exact checked_of_checkPoints hpoints
            · exact ih h m hm

/-- Only a command that passes its check turns into anything. -/
theorem Dispatcher.errand_of_resolve {d : Dispatcher} {command : Command} {errand : Errand}
    (h : d.resolve command = .ok errand) :
    command.check = .ok () ∧ d.errand command = .ok errand := by
  unfold resolve at h
  split at h
  · cases h
  · split at h
    · cases h
    · rename_i hcheck
      exact ⟨hcheck, h⟩

namespace Config

variable {c : Config} {d : Dispatcher} {command : Command} {calls : List LinkCall}
  {settings : NavigatorSettings} {number : Option Nat} {name : Option String} {m : Mission}

/-- **The points of an accepted configuration are in range.** -/
theorem points_of_check (h : c.check = .ok ()) : ∀ m ∈ c.missions, ∀ p ∈ m.points, p.Checked := by
  unfold check at h
  split at h
  · cases h
  · exact checked_of_checkMissions h

/-! ## What a command says -/

/-- The configured mission that a command selects. -/
def selected? (c : Config) (number : Option Nat) : Option String → Option MissionConfig
  | some name => c.missions.find? fun m => m.name == name
  | none =>
    match number.getD 1 with
    | 0 => none
    | i + 1 => c.missions[i]?

/-- The points that a command sends the vehicle to, one for each outbound leg. -/
def stops (c : Config) : Command → List PointConfig
  | .location latitude longitude altitude _ hoverSeconds =>
    [⟨latitude, longitude, altitude, hoverSeconds⟩]
  | .mission number name _ => ((c.selected? number name).map (·.points)).getD []
  | .takeoff _ | .land _ | .offboard _ | .shell _ | .cancel => []

/-- Does a command ask for a last leg back to where the vehicle started? -/
def returns (c : Config) : Command → Bool
  | .location _ _ _ returnToStart _ => returnToStart
  | .mission number name returnToStart =>
    returnToStart.getD (((c.selected? number name).map (·.returnToStart)).getD false)
  | .takeoff _ | .land _ | .offboard _ | .shell _ | .cancel => false

/-- **The bounds on the calls of a command.** -/
structure Bounds (c : Config) (command : Command) (calls : List LinkCall) : Prop where
  /-- A leg goes to a point on the globe, which is the one that was commanded or configured for
  it. Only a last leg back may follow the outbound ones. -/
  legs : ∀ k latitude longitude altitude speed,
    calls[k]? = some (.goto latitude longitude altitude speed) →
      (∃ p, (c.stops command)[k]? = some p ∧ latitude = p.latitude ∧ longitude = p.longitude ∧
        OnGlobe latitude longitude) ∨
      (k = (c.stops command).length ∧ c.returns command = true)
  /-- The altitude of a takeoff is the one that was commanded, finite and above ground. -/
  altitude : ∀ altitude, .setTakeoffAltitude altitude ∈ calls →
    command = .takeoff altitude ∧ altitude.isFinite = true ∧ 0.0 < altitude
  /-- A velocity is the one that was commanded, and all of it is finite. -/
  velocity : ∀ v, .velocity v ∈ calls → command = .offboard v ∧ v.forward.isFinite = true ∧
    v.right.isFinite = true ∧ v.down.isFinite = true ∧ v.yawRate.isFinite = true

theorem bounds_nil (c : Config) (command : Command) : c.Bounds command [] where
  legs k latitude longitude altitude speed h := by simp at h
  altitude altitude h := (List.not_mem_nil h).elim
  velocity v h := (List.not_mem_nil h).elim

/-- A mission that a dispatcher finds is the configured one. -/
theorem selected_of_findMission (hd : d.missions = c.flyable)
    (h : d.findMission number name = .ok m) :
    ∃ configured ∈ c.missions, c.selected? number name = some configured ∧
      m = configured.mission := by
  cases name with
  | some name =>
      have hfind : c.flyable.find? (fun m => m.name == name) =
          (c.missions.find? fun m => m.name == name).map MissionConfig.mission :=
        List.find?_map ..
      rw [Dispatcher.findMission, hd, hfind] at h
      cases hconfigured : c.missions.find? (fun m => m.name == name) with
      | none => simp [hconfigured] at h
      | some configured =>
          obtain rfl : configured.mission = m := by simpa [hconfigured] using h
          exact ⟨configured, List.mem_of_find?_eq_some hconfigured, hconfigured, rfl⟩
  | none =>
      rw [Dispatcher.findMission] at h
      cases hnumber : number.getD 1 with
      | zero => simp [hnumber] at h
      | succ i =>
          have hget : d.missions[i]? = (c.missions[i]?).map MissionConfig.mission := by
            rw [hd, flyable, List.getElem?_map]
          cases hconfigured : c.missions[i]? with
          | none => simp [hnumber, hget, hconfigured] at h
          | some configured =>
              obtain rfl : configured.mission = m := by simpa [hnumber, hget, hconfigured] using h
              refine ⟨configured, List.mem_of_getElem? hconfigured, ?_, rfl⟩
              rw [selected?, hnumber]
              exact hconfigured

/-- A command for a mission turns into the flight of the configured one. -/
theorem mission_of_errand {errand : Errand} {returnToStart : Option Bool}
    (hd : d.missions = c.flyable)
    (h : d.errand (.mission number name returnToStart) = .ok errand) :
    ∃ configured ∈ c.missions, c.selected? number name = some configured ∧
      errand = .navigate (.mission { configured.mission with
        returnToStart := returnToStart.getD configured.returnToStart }) := by
  simp only [Dispatcher.errand] at h
  split at h
  · rename_i m hfind
    obtain ⟨configured, hmem, hselected, rfl⟩ := selected_of_findMission hd hfind
    exact ⟨configured, hmem, hselected, (Except.ok.inj h).symm⟩
  · cases h

/-- The calls of a flight are legs. -/
theorem eq_goto_of_mem_gotos {route : Route} {ws : List Waypoint} {linkCall : LinkCall}
    (h : linkCall ∈ route.gotos settings ws) :
    ∃ latitude longitude altitude speed, linkCall = .goto latitude longitude altitude speed := by
  rcases List.mem_append.mp h with hleg | hhome
  · obtain ⟨w, -, rfl⟩ := List.mem_map.mp hleg
    exact ⟨_, _, _, _, rfl⟩
  · obtain ⟨home, -, rfl⟩ := Option.map_eq_some_iff.mp (Option.mem_toList.mp hhome)
    exact ⟨_, _, _, _, rfl⟩

/-- The legs of a flight to points on the globe stay within bounds. -/
theorem bounds_of_gotos {route : Route} {ps : List PointConfig} (hstops : c.stops command = ps)
    (hcalls : calls <+: route.gotos settings (ps.map PointConfig.waypoint))
    (hglobe : ∀ p ∈ ps, OnGlobe p.latitude p.longitude)
    (hhome : route.home.isSome = true → c.returns command = true) : c.Bounds command calls where
  legs k latitude longitude altitude speed hcall := by
    have hk : (route.gotos settings (ps.map PointConfig.waypoint))[k]? =
        some (.goto latitude longitude altitude speed) := by
      obtain ⟨more, hmore⟩ := hcalls
      rw [← hmore, List.getElem?_append_left (List.getElem?_eq_some_iff.mp hcall).1, hcall]
    rw [hstops]
    by_cases hlt : k < ps.length
    · left
      rw [Route.gotos, List.getElem?_append_left (by simpa using hlt), List.map_map,
        List.getElem?_map, List.getElem?_eq_getElem hlt] at hk
      have hleg : route.legCall settings ps[k].waypoint =
        .goto latitude longitude altitude speed := Option.some.inj hk
      obtain ⟨rfl, rfl⟩ : ps[k].latitude = latitude ∧ ps[k].longitude = longitude := by
        simpa [Route.legCall, PointConfig.waypoint, Waypoint.new] using And.intro
          (LinkCall.goto.inj hleg).1 (LinkCall.goto.inj hleg).2.1
      exact ⟨ps[k], List.getElem?_eq_getElem hlt, rfl, rfl, hglobe _ (List.getElem_mem hlt)⟩
    · right
      rw [Route.gotos, List.getElem?_append_right (by simpa using hlt), List.length_map,
        List.length_map] at hk
      cases hroute : route.home with
      | none => simp [hroute] at hk
      | some home =>
          obtain ⟨hend, -⟩ := List.getElem?_eq_some_iff.mp hk
          rw [hroute, Option.map_some, Option.toList_some, List.length_singleton] at hend
          exact ⟨by omega, hhome (by rw [hroute]; rfl)⟩
  altitude altitude hmem := by
    obtain ⟨_, _, _, _, heq⟩ := eq_goto_of_mem_gotos (hcalls.subset hmem)
    cases heq
  velocity v hmem := by
    obtain ⟨_, _, _, _, heq⟩ := eq_goto_of_mem_gotos (hcalls.subset hmem)
    cases heq

/-- Calls that are none of those with numbers stay within bounds. -/
theorem bounds_of_plain (hlegs : ∀ latitude longitude altitude speed,
      .goto latitude longitude altitude speed ∉ calls)
    (haltitude : ∀ altitude, .setTakeoffAltitude altitude ∉ calls)
    (hvelocity : ∀ v, .velocity v ∉ calls) : c.Bounds command calls where
  legs _ latitude longitude altitude speed h :=
    (hlegs latitude longitude altitude speed (List.mem_of_getElem? h)).elim
  altitude altitude h := (haltitude altitude h).elim
  velocity v h := (hvelocity v h).elim

/-- The calls of a takeoff stay within bounds. -/
theorem bounds_of_takeoff {altitude : Float32}
    (hcalls : ∀ linkCall ∈ calls,
      linkCall = .arm ∨ linkCall = .setTakeoffAltitude altitude ∨ linkCall = .takeoff)
    (hcheck : altitude.isFinite = true ∧ 0.0 < altitude) :
    c.Bounds (.takeoff altitude) calls where
  legs _ _ _ _ _ h := by simpa using hcalls _ (List.mem_of_getElem? h)
  altitude preset h := by
    obtain rfl : preset = altitude := by simpa using hcalls _ h
    exact ⟨rfl, hcheck⟩
  velocity _ h := by simpa using hcalls _ h

/-- A velocity of finite parts stays within bounds. -/
theorem bounds_of_velocity {v : BodyVelocity} (hfinite : v.isFinite = true) :
    c.Bounds (.offboard v) [.velocity v] where
  legs _ _ _ _ _ h := by simpa using List.mem_of_getElem? h
  altitude _ h := by simp at h
  velocity w h := by
    obtain rfl : w = v := by simpa using h
    simp only [BodyVelocity.isFinite, Bool.and_eq_true] at hfinite
    exact ⟨rfl, hfinite.1.1.1, hfinite.1.1.2, hfinite.1.2, hfinite.2⟩

/-- **What a command turns into stays within bounds.** -/
theorem bounds_of_errand {errand : Errand} (hc : c.check = .ok ()) (hd : d.missions = c.flyable)
    (h : d.resolve command = .ok errand) (hcalls : errand.Covers settings calls) :
    c.Bounds command calls := by
  obtain ⟨hcheck, herrand⟩ := Dispatcher.errand_of_resolve h
  cases command with
  | takeoff altitude =>
      obtain rfl := Except.ok.inj herrand
      obtain ⟨route, -, hle⟩ := hcalls
      refine bounds_of_takeoff (fun linkCall h => ?_) (by simpa [Command.check] using hcheck)
      simpa [Request.itinerary] using hle.subset h
  | location latitude longitude altitude returnToStart hoverSeconds =>
      obtain rfl := Except.ok.inj herrand
      obtain ⟨route, hhome, hle⟩ := hcalls
      have htarget : checkTarget latitude longitude altitude = .ok () := by
        cases htarget : checkTarget latitude longitude altitude with
        | ok _ => rfl
        | error e => simp [Command.check, htarget, Except.mapError] at hcheck
      refine bounds_of_gotos rfl hle ?_ hhome
      exact List.forall_mem_singleton.mpr (onGlobe_of_checkTarget htarget).1
  | mission number name returnToStart =>
      obtain ⟨configured, hmem, hselected, rfl⟩ := mission_of_errand hd herrand
      obtain ⟨route, hhome, hle⟩ := hcalls
      have hstops : c.stops (.mission number name returnToStart) = configured.points := by
        rw [stops, hselected]
        rfl
      have hreturns : c.returns (.mission number name returnToStart) =
          returnToStart.getD configured.returnToStart := by
        rw [returns, hselected]
        rfl
      refine bounds_of_gotos hstops hle (fun p hp => ?_) (hreturns ▸ hhome)
      exact (points_of_check hc configured hmem p hp).target
  | land disarms =>
      obtain rfl := Except.ok.inj herrand
      obtain ⟨route, -, hle⟩ := hcalls
      have hmem : ∀ linkCall ∈ calls, linkCall = .land ∨ linkCall = .disarm := by
        intro linkCall h
        have hplan := hle.subset h
        cases disarms <;> simp [Request.itinerary] at hplan <;> simp [hplan]
      refine bounds_of_plain ?_ ?_ ?_
      · exact fun _ _ _ _ h => by simpa using hmem _ h
      · exact fun _ h => by simpa using hmem _ h
      · exact fun _ h => by simpa using hmem _ h
  | offboard v =>
      obtain rfl := Except.ok.inj herrand
      obtain rfl : calls = [.velocity v] := hcalls
      exact bounds_of_velocity (by simpa [Command.check] using hcheck)
  | shell text =>
      obtain rfl := Except.ok.inj herrand
      obtain rfl : calls = [.shell text] := hcalls
      exact bounds_of_plain (by simp) (by simp) (by simp)
  | cancel =>
      obtain rfl := Except.ok.inj herrand
      obtain rfl : calls = [] := hcalls
      exact c.bounds_nil _

end Config

namespace Console

/-- **The calls of all commands stay within bounds.** -/
theorem commands_keep_bounds {c : Config} (hcheck : c.check = .ok ())
    (settings : NavigatorSettings) (capacity : Nat) (es : List Event)
    (hnum : (executed es).Nodup) :
    (∀ id linkCall, .calls id linkCall ∈ (new settings capacity c.flyable).acts es →
      id ∈ executed es) ∧
    ∀ id command, .execute id command ∈ es →
      c.Bounds command (callsFor id ((new settings capacity c.flyable).acts es)) := by
  refine ⟨fun id linkCall hcall => ?executed, fun id command hmem => ?bounds⟩
  case executed =>
    refine Classical.byContradiction fun hnone => ?_
    have hcalled : linkCall ∈ callsFor id ((new settings capacity c.flyable).acts es) :=
      List.mem_filterMap.mpr ⟨_, hcall, if_pos rfl⟩
    rw [calls_of_not_executed hnone] at hcalled
    exact List.not_mem_nil hcalled
  case bounds =>
    obtain ⟨before, later, rfl⟩ := List.append_of_mem hmem
    have hcalls := calls_of_executed settings capacity c.flyable hnum
    have hmissions := missions_after (new settings capacity c.flyable) before
    split at hcalls
    · rename_i errand hresolve
      exact c.bounds_of_errand hcheck hmissions hresolve hcalls
    · rw [hcalls]
      exact c.bounds_nil command

/-- A station with one mission, to one point and back. -/
def surveyStation : Config :=
  ⟨.default, .default, .default, [⟨"survey", true, [⟨47.5, 8.5, 10.0, 0.0⟩]⟩]⟩

/-- A latitude that is no number, then the survey, and a velocity on its way back. -/
def surveyRun : List Event :=
  [.attach, .telemetry (.velocity ⟨0.0, 0.0, 0.0⟩) 1,
    .telemetry (.imu ⟨⟨0.0, 0.0, 0.0⟩, ⟨0.0, 0.0, 0.0⟩, ⟨0.0, 0.0, 0.0⟩, 20.0⟩) 2,
    .telemetry (.position ⟨47.0, 8.0, 400.0, 0.0⟩) 3,
    .execute 0 (.location (0.0 / 0.0) 8.0 10.0 false 0.0),
    .execute 1 (.mission none (some "survey") none), .move, .move, .move, .answer 1 (.ok ()), .move,
    .telemetry (.position ⟨47.5, 8.5, 410.0, 10.0⟩) 4, .move, .move,
    .execute 2 (.offboard ⟨1.0, 0.0, 0.0, 0.0⟩)]

/-- The latitude that is no number goes nowhere; the survey goes to its point, and back. -/
theorem commands_keep_bounds_survey :
    (surveyStation.check = .ok () ∧ (executed surveyRun).Nodup) ∧
      surveyStation.Bounds (.location (0.0 / 0.0) 8.0 10.0 false 0.0) [] ∧
      surveyStation.Bounds (.mission none (some "survey") none)
        [.goto 47.5 8.5 410.0 45.0, .goto 47.0 8.0 410.0 45.0] ∧
      surveyStation.Bounds (.offboard ⟨1.0, 0.0, 0.0, 0.0⟩)
        [.velocity ⟨1.0, 0.0, 0.0, 0.0⟩] := by
  have hcheck : surveyStation.check = .ok () := by decide +kernel
  have hnum : (executed surveyRun).Nodup := by decide
  have hbounds :=
    (commands_keep_bounds hcheck surveyStation.navigation.settings 4 surveyRun hnum).2
  have hnan : callsFor 0 ((new surveyStation.navigation.settings 4 surveyStation.flyable).acts
      surveyRun) = [] := by decide +kernel
  have hsurvey : callsFor 1 ((new surveyStation.navigation.settings 4
      surveyStation.flyable).acts surveyRun) =
        [.goto 47.5 8.5 410.0 45.0, .goto 47.0 8.0 410.0 45.0] := by decide +kernel
  have hvelocity : callsFor 2 ((new surveyStation.navigation.settings 4
      surveyStation.flyable).acts surveyRun) = [.velocity ⟨1.0, 0.0, 0.0, 0.0⟩] := by
    decide +kernel
  exact ⟨⟨hcheck, hnum⟩, hnan ▸ hbounds 0 _ (by simp [surveyRun]),
    hsurvey ▸ hbounds 1 _ (by simp [surveyRun]), hvelocity ▸ hbounds 2 _ (by simp [surveyRun])⟩

end Console

end GroundStation
