import GroundStation.Proofs.Command.Bounds
import GroundStation.Proofs.Navigation.Progress
import GroundStation.Proofs.Time.Seconds

/-!
# How commanded operations end

A command to fly somewhere gives the time to hover there in seconds, and so does a configured
point. Negative numbers, and those that are no finite numbers, count as no hover. A finite number
of `2 ^ 64` seconds and more passes all checks and is no duration (`PointConfig.IsOverlong`). The
time limit of the legs passes its check as well when the clock does not come to the deadline.

An operation that a command turned into comes to its end all the same, in the time it is allowed.
It ends with an outcome if all its times fit (`Config.Fits`). Otherwise it breaks off where it needs
a time that does not: when it arrives at a stop with such a hover, or when it sets the time limit.

## Main results

* `PointConfig.hoverDuration?_eq_none_iff`: which configured hovers are no duration.
* `Config.targets_of_resolve`: the stops of the operation that a command turns into.
* `Config.operations_end`: how these operations end, in every run.
-/

namespace GroundStation

/-! ## Lengths of time in a configuration -/

/-- A whole number of seconds as a duration: the longest one stands for all that are longer. -/
theorem Duration.nanoseconds_ofSeconds (n : Nat) :
    (ofSeconds n).nanoseconds = min (n * nanosPerSecond) (durationLimit - 1) := by
  unfold ofSeconds ofNanoseconds ofNanoseconds?
  split
  · rename_i hshort
    exact (Nat.min_eq_left (Nat.le_sub_one_of_lt hshort)).symm
  · rename_i hlong
    exact (Nat.min_eq_right (Nat.le_trans (Nat.sub_le ..) (Nat.not_lt.mp hlong))).symm

theorem Clock.reading_mono (c : Clock) {now later : Instant} (h : now ≤ later) :
    c.reading now ≤ c.reading later :=
  Nat.add_le_add_left (Nat.mul_le_mul_left _ h) _

/-- **When the clock does not come to a deadline**, by the configured seconds. -/
theorem NavigationConfig.deadline?_eq_none_iff (c : NavigationConfig) (clock : Clock)
    (now : Instant) :
    (c.settings clock).deadline? now = none ↔
      clockLimit ≤ clock.reading now + c.arrivalTimeoutSeconds * nanosPerSecond := by
  have hlimit : clockLimit ≤ durationLimit - 1 := by decide
  simp only [NavigatorSettings.deadline?, Clock.deadline?, NavigationConfig.settings,
    ite_eq_right_iff, reduceCtorEq, imp_false, Nat.not_lt, Duration.nanoseconds_ofSeconds]
  omega

namespace PointConfig

variable {p : PointConfig}

/-- A hover of a finite number of seconds that is too long for a duration. -/
def IsOverlong (p : PointConfig) : Prop :=
  p.hoverSeconds.isFinite = true ∧ 18446744073709551616.0 ≤ p.hoverSeconds

instance : Decidable p.IsOverlong :=
  inferInstanceAs (Decidable (p.hoverSeconds.isFinite = true ∧ _ ≤ p.hoverSeconds))

/-- The hover of a waypoint is the one of its point, or none. -/
theorem hoverSeconds_waypoint (p : PointConfig) :
    (p.hoverSeconds.isFinite = true ∧ 0.0 < p.hoverSeconds ∧
      p.waypoint.hoverSeconds = p.hoverSeconds) ∨
    (¬ (p.hoverSeconds.isFinite = true ∧ 0.0 < p.hoverSeconds) ∧
      p.waypoint.hoverSeconds = 0.0) := by
  simp only [waypoint, Waypoint.new, Bool.and_eq_true, decide_eq_true_eq]
  by_cases h : p.hoverSeconds.isFinite = true ∧ 0.0 < p.hoverSeconds
  · exact .inl ⟨h.1, h.2, if_pos h⟩
  · exact .inr ⟨h, if_neg h⟩

/-- **Which configured hovers are no duration.** -/
theorem hoverDuration?_eq_none_iff : p.waypoint.hoverDuration? = none ↔ p.IsOverlong := by
  rw [Waypoint.hoverDuration?]
  rcases p.hoverSeconds_waypoint with ⟨hfinite, hpos, hhover⟩ | ⟨hnone, hhover⟩
  · rw [hhover, Duration.ofSeconds?_eq_none_iff hfinite hpos]
    exact ⟨fun h => ⟨hfinite, h⟩, fun h => h.2⟩
  · have hzero : Duration.ofSeconds? 0.0 ≠ none := by decide +kernel
    rw [hhover]
    exact iff_of_false hzero fun h => hnone ⟨h.1, pos_of_two_pow_le h.2⟩

/-- A vehicle hovers at a stop whose hover is too long. -/
theorem hovers_and_isOverlong :
    p.waypoint.hovers = true ∧ p.waypoint.hoverDuration? = none ↔ p.IsOverlong := by
  rw [hoverDuration?_eq_none_iff, and_iff_right_iff_imp]
  intro h
  rcases p.hoverSeconds_waypoint with ⟨-, hpos, hhover⟩ | ⟨hnone, -⟩
  · rw [Waypoint.hovers, hhover]
    exact decide_eq_true hpos
  · exact absurd ⟨h.1, pos_of_two_pow_le h.2⟩ hnone

end PointConfig

/-- **The stops of the operation that a command turns into** are those of the command. -/
theorem Config.targets_of_resolve {c : Config} {d : Dispatcher} {command : Command} {r : Request}
    (hd : d.missions = c.flyable) (h : d.resolve command = .ok (.navigate r)) :
    (Stage.begun r).targets = (c.stops command).map PointConfig.waypoint := by
  have herrand := (Dispatcher.errand_of_resolve h).2
  cases command with
  | mission number name returnToStart =>
      obtain ⟨configured, -, hselected, hflight⟩ := mission_of_errand hd herrand
      obtain rfl := Errand.navigate.inj hflight
      rw [stops, hselected]
      rfl
  | offboard v => cases Except.ok.inj herrand
  | shell text => cases Except.ok.inj herrand
  | cancel => cases Except.ok.inj herrand
  | _ =>
      obtain rfl := Errand.navigate.inj (Except.ok.inj herrand)
      rfl

/-- All times that a command needs fit: the clock comes to the deadline of a leg that begins at an
instant, and no hover is too long. -/
structure Config.Fits (c : Config) (command : Command) (clock : Clock) (last : Instant) : Prop where
  timeout : clock.reading last + c.navigation.arrivalTimeoutSeconds * nanosPerSecond < clockLimit
  hovers : ∀ p ∈ c.stops command, ¬ p.IsOverlong

namespace Session

/-- **How the operation of a command ends** in a run. -/
structure Concludes (s : Session) (c : Config) (command : Command) (id : Nat) (r : Request)
    (run : List Event) : Prop where
  /-- It ends once at most. -/
  once : (endingsOf id (s.acts run)).length ≤ 1
  /-- It ends in the time that it is allowed, if the navigator is not kept waiting. -/
  in_time : ∀ front back marked, run = front ++ back →
    (s.after front).navigator.active = some ⟨id, marked, .begun r⟩ →
    (s.after front).IsTimely id back → (s.after run).isQuiet = true →
    (s.after front).now + r.allowance s.navigator.settings ≤ (s.after run).now →
    endingsOf id (s.acts run) ≠ []
  /-- It can always come to its end: moves and the passage of time are all it needs. -/
  can_end : ∀ front back marked, run = front ++ back →
    (s.after front).navigator.active = some ⟨id, marked, .begun r⟩ →
    (s.after front).IsTimely id back →
    ∃ more : List Event, (∀ e ∈ more, e = .move ∨ ∃ millis, e = .pass millis) ∧
      ∃ ending, endingsOf id (s.acts (run ++ more)) = [ending]
  /-- It breaks off exactly when it arrives at a stop whose hover is too long, or sets its time
  limit when the clock does not come to the deadline any more. -/
  breaks_off : .overflow ∈ endingsOf id (s.acts run) ↔
    ∃ front back, run = front ++ .move :: back ∧
      ((∃ p ∈ c.stops command, (s.after front).Arrives id p.waypoint ∧ p.IsOverlong) ∨
        (clockLimit ≤ s.navigator.settings.clock.reading (s.after front).now +
            c.navigation.arrivalTimeoutSeconds * nanosPerSecond ∧
          (s.after front).SetsLimit id))
  /-- Where all times fit it ends with an outcome. -/
  outcome : c.Fits command s.navigator.settings.clock (s.after run).now →
    ∀ ending ∈ endingsOf id (s.acts run), ∃ outcome, ending = .outcome outcome

variable {s : Session} {id : Nat} {r : Request} {es : List Event}

/-- A run of moves and of the passage of time requests nothing. -/
theorem requested_eq_nil (h : ∀ e ∈ es, e = .move ∨ ∃ millis, e = .pass millis) :
    requested es = [] := by
  refine List.filterMap_eq_nil_iff.mpr fun e he => ?_
  rcases h e he with rfl | ⟨millis, rfl⟩ <;> rfl

/-- An operation that is about to be planned ends when it has had its time. -/
theorem ended_of_begun {front back : List Event} {marked : Bool}
    (h : (s.after front).navigator.active = some ⟨id, marked, .begun r⟩)
    (htimely : (s.after front).IsTimely id back)
    (hquiet : (s.after (front ++ back)).isQuiet = true)
    (hlate : (s.after front).now + r.allowance s.navigator.settings ≤
      (s.after (front ++ back)).now) :
    endingsOf id (s.acts (front ++ back)) ≠ [] := by
  rw [after_append] at hquiet hlate
  rw [← after_settings s front] at hlate
  rw [acts_append, endingsOf_append]
  exact fun hnil => ends_in_time h htimely hquiet hlate (List.append_eq_nil_iff.mp hnil).2

/-- Moves and the passage of time bring an operation to its end. -/
theorem exists_ended {front back : List Event} {marked : Bool} (hd : s.Distinct (front ++ back))
    (h : (s.after front).navigator.active = some ⟨id, marked, .begun r⟩)
    (htimely : (s.after front).IsTimely id back) :
    ∃ more : List Event, (∀ e ∈ more, e = .move ∨ ∃ millis, e = .pass millis) ∧
      ∃ ending, endingsOf id (s.acts (front ++ back ++ more)) = [ending] := by
  obtain ⟨more, hevents, htimely', hquiet, hlate⟩ := (s.after (front ++ back)).exists_timely id
    ((s.after front).now + r.allowance s.navigator.settings)
  refine ⟨more, hevents, List.length_eq_one_iff.mp (Nat.le_antisymm ?_ ?_)⟩
  · refine endingsOf_length_le_one ?_
    have hnothing := requested_eq_nil hevents
    unfold Distinct requested at hd ⊢
    rw [List.filterMap_append, ← requested, ← requested, hnothing, List.append_nil]
    exact hd
  · rw [after_append] at htimely'
    rw [← after_append] at hquiet hlate
    rw [List.append_assoc] at hquiet hlate ⊢
    exact List.length_pos_iff.mpr
      (ended_of_begun h (isTimely_append htimely htimely') hquiet hlate)

end Session

namespace Config

open Session

variable {c : Config} {d : Dispatcher} {command : Command} {r : Request} {id : Nat}
  {before later : List Session.Event}

/-- **How the operations of commands end**, in whatever run they are requested. The dispatcher may
be any with the missions of the configuration. What it checks, and what was checked when the
configuration was read, makes no difference to the hovers: the waypoints of the operation are those
of the command's points, and their hovers are no duration exactly when they are too long. -/
theorem operations_end (hd : d.missions = c.flyable)
    (hresolve : d.resolve command = .ok (.navigate r)) (clock : Clock) (capacity : Nat)
    (hnum : Session.Numbered (before ++ .request id r :: later)) :
    (Stage.begun r).targets = (c.stops command).map PointConfig.waypoint ∧
    (∀ p ∈ c.stops command, p.waypoint.hoverDuration? = none ↔ p.IsOverlong) ∧
    (new (c.navigation.settings clock) capacity).Concludes c command id r
      (before ++ .request id r :: later) := by
  have htargets := targets_of_resolve hd hresolve
  have hdistinct := distinct_new (c.navigation.settings clock) capacity hnum
  have hbreaks := overflow_iff (c.navigation.settings clock) capacity hnum
  simp only [htargets, NavigationConfig.deadline?_eq_none_iff, List.mem_map,
    exists_exists_and_eq_and, PointConfig.hovers_and_isOverlong] at hbreaks
  refine ⟨htargets, fun p _ => PointConfig.hoverDuration?_eq_none_iff, ?_⟩
  constructor
  case once => exact endingsOf_length_le_one hdistinct
  case in_time =>
    intro front back marked hrun hbegun htimely hquiet hlate
    rw [hrun] at hquiet hlate ⊢
    exact ended_of_begun hbegun htimely hquiet hlate
  case can_end =>
    intro front back marked hrun hbegun htimely
    rw [hrun] at hdistinct ⊢
    exact exists_ended hdistinct hbegun htimely
  case breaks_off => exact hbreaks
  case outcome =>
    intro hfits ending hending
    cases ending with
    | outcome outcome => exact ⟨outcome, rfl⟩
    | overflow =>
        obtain ⟨front, back, hrun, ⟨p, hp, -, hlong⟩ | ⟨hlate, -⟩⟩ := hbreaks.mp hending
        · exact absurd hlong (hfits.hovers p hp)
        · have hlater := ((new (c.navigation.settings clock) capacity).after front).now_after
            (.move :: back)
          rw [← after_append, ← hrun] at hlater
          have hreading := Nat.add_le_add_right (clock.reading_mono hlater)
            (c.navigation.arrivalTimeoutSeconds * nanosPerSecond)
          exact absurd hfits.timeout (Nat.not_lt.mpr (Nat.le_trans hlate hreading))

/-- A command to fly to a point, and to hover there for some seconds. -/
def hoverCommand (hoverSeconds : Float) : Command := .location 47.5 8.5 10.0 false hoverSeconds

/-- What the command turns into. -/
def hoverRequest (hoverSeconds : Float) : Request :=
  .goto (.new 47.5 8.5 10.0 hoverSeconds) false

/-- A station without missions, as it is without a configuration. -/
def bareStation : Config := ⟨.default, .default, .default, []⟩

/-- Its dispatcher, with the vehicle attached. -/
def bareDispatcher : Dispatcher := (Dispatcher.new bareStation.flyable).attach

/-- The first sample, on the ground. -/
def firstFix : List Session.Event :=
  [.telemetry (.velocity ⟨0.0, 0.0, 0.0⟩) 1,
    .telemetry (.imu ⟨⟨0.0, 0.0, 0.0⟩, ⟨0.0, 0.0, 0.0⟩, ⟨0.0, 0.0, 0.0⟩, 20.0⟩) 2,
    .telemetry (.position ⟨47.0, 8.0, 400.0, 0.0⟩) 3]

/-- The vehicle flies to the point, and the station waits for some time. -/
def pointFlown (millis : Nat) : List Session.Event :=
  [.move, .move, .answer (.ok ()), .move, .telemetry (.position ⟨47.5, 8.5, 410.0, 10.0⟩) 4, .move,
    .pass 5000, .move, .pass millis]

/-- A hover of five seconds is over in time, with an outcome. -/
theorem operations_end_hover :
    (bareDispatcher.resolve (hoverCommand 5.0) = .ok (.navigate (hoverRequest 5.0)) ∧
      bareStation.Fits (hoverCommand 5.0) .young 125000) ∧
    ∃ outcome, endingsOf 0 ((new bareStation.navigation.settings 4).acts
      (firstFix ++ .request 0 (hoverRequest 5.0) :: .move :: pointFlown 120000)) =
        [.outcome outcome] := by
  have hresolve : bareDispatcher.resolve (hoverCommand 5.0) =
      .ok (.navigate (hoverRequest 5.0)) := by decide +kernel
  have hnum : Session.Numbered
      (firstFix ++ .request 0 (hoverRequest 5.0) :: .move :: pointFlown 120000) := by decide
  have hfits : bareStation.Fits (hoverCommand 5.0) .young 125000 := ⟨by decide, by decide +kernel⟩
  obtain ⟨-, -, hconcludes⟩ := operations_end (c := bareStation) rfl hresolve .young 4 hnum
  have hended := hconcludes.in_time (firstFix ++ [.request 0 (hoverRequest 5.0), .move])
    (pointFlown 120000) false rfl rfl (by decide +kernel) (by decide +kernel) (by decide +kernel)
  obtain ⟨ending, hending⟩ := List.length_eq_one_iff.mp
    (Nat.le_antisymm hconcludes.once (List.length_pos_iff.mpr hended))
  have hlast : ((new bareStation.navigation.settings 4).after
      (firstFix ++ .request 0 (hoverRequest 5.0) :: .move :: pointFlown 120000)).now = 125000 := by
    decide +kernel
  obtain ⟨outcome, rfl⟩ :=
    hconcludes.outcome (hlast ▸ hfits) ending (hending ▸ List.mem_singleton_self ending)
  exact ⟨⟨hresolve, hfits⟩, outcome, hending⟩

/-- A hover of `10 ^ 300` seconds passes all checks, and the operation breaks off on arrival. -/
theorem operation_breaks_off :
    bareStation.check = .ok () ∧ (hoverCommand 1e300).check = .ok () ∧
      bareDispatcher.resolve (hoverCommand 1e300) = .ok (.navigate (hoverRequest 1e300)) ∧
      endingsOf 0 ((new bareStation.navigation.settings 4).acts
        (firstFix ++ .request 0 (hoverRequest 1e300) :: .move :: pointFlown 120000)) =
          [.overflow] := by
  decide +kernel

end Config

end GroundStation
