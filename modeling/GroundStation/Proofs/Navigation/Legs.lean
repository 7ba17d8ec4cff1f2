import GroundStation.Proofs.Navigation.Arrival

/-!
# What the legs of a flight wait for

An outbound leg that was accepted waits for a sample. The wait goes on, whatever else happens,
as long as the operation is handed no sample near the target and the deadline is not reached,
and it ends at the first move at which one is there (`Session.Waits`). A receiver that falls
behind loses samples; those make no difference, for better or worse. The way home waits for the
answer to its call alone.

Together with the pieces of a leg (`Session.Passes`) this says what every run of a flight to
one waypoint or of a mission waits for.

## Main results

* `Session.waits_of_answered`: the wait of a leg, from its first moment on.
* `Session.Planned.returns`: the way home.
* `Session.legs_wait_for_arrival`: both directions, for every run of a flight.
-/

namespace GroundStation

/-! ## Planning -/

/-- Is it a flight to waypoints that is asked for? -/
def Request.isFlight : Request → Bool
  | .goto .. | .mission _ => true
  | _ => false

/-- The flight that a request asks for, planned from the latest sample. -/
def Request.plan? (telemetry : Aggregator) : Request → Option (Route × List Waypoint)
  | .goto target returnToStart => do
    let sample ← telemetry.latest
    let home := if returnToStart then some sample.position.home else none
    return (⟨target.altitude + sample.position.terrainOffset, home, false⟩, [target])
  | .mission m => do
    let first ← m.waypoints.head?
    let sample ← telemetry.latest
    return (m.routeFrom first sample, m.waypoints)
  | _ => none

namespace Request

variable {telemetry : Aggregator} {r : Request} {route : Route} {ws : List Waypoint}

/-- A planned flight sets out on its first leg. -/
theorem begin_of_plan (settings : NavigatorSettings) (now : Instant)
    (h : r.plan? telemetry = some (route, ws)) :
    ∃ l : Leg, l.Behind route ws [] ∧ r.begin settings now telemetry = l.start settings now := by
  cases r with
  | goto target returnToStart =>
      cases hlatest : telemetry.latest with
      | none => simp [plan?, hlatest] at h
      | some sample =>
          obtain ⟨rfl, rfl⟩ : _ = route ∧ [target] = ws := by simpa [plan?, hlatest] using h
          exact ⟨⟨_, 1, target, []⟩, ⟨rfl, rfl, rfl⟩, by simp [Request.begin, hlatest]⟩
  | mission m =>
      cases hws : m.waypoints with
      | nil => simp [plan?, hws] at h
      | cons first rest =>
          cases hlatest : telemetry.latest with
          | none => simp [plan?, hws, hlatest] at h
          | some sample =>
              obtain ⟨rfl, rfl⟩ : m.routeFrom first sample = route ∧ first :: rest = ws := by
                simpa [plan?, hws, hlatest] using h
              refine ⟨⟨_, 1, first, rest⟩, ⟨rfl, rfl, rfl⟩, ?_⟩
              simp [Request.begin, hws, hlatest, Position.terrainOffset, Position.home]
  | _ => cases h

/-- A flight that cannot be planned fails. -/
theorem begin_unplanned (settings : NavigatorSettings) (now : Instant)
    (hflight : r.isFlight = true) (h : r.plan? telemetry = none) :
    ∃ failure, r.begin settings now telemetry = .fail failure := by
  cases r with
  | goto target returnToStart =>
      cases hlatest : telemetry.latest with
      | none => exact ⟨.notReady, by simp [Request.begin, hlatest]⟩
      | some sample => simp [plan?, hlatest] at h
  | mission m =>
      cases hws : m.waypoints with
      | nil => exact ⟨.emptyMission, by simp [Request.begin, hws]⟩
      | cons first rest =>
          cases hlatest : telemetry.latest with
          | none => exact ⟨.notReady, by simp [Request.begin, hws, hlatest]⟩
          | some sample => simp [plan?, hws, hlatest] at h
  | _ => cases hflight

end Request

namespace Session

/-! ## The wait for the arrival -/

/-- Does whoever subscribed before a run find a sample near a leg's target after it? Of a burst
that overruns the channel there are the latest samples only. -/
def Sights (s : Session) (l : Leg) (es : List Event) : Prop :=
  ∃ x ∈ (s.emissions es).rtake s.telemetry.samples.size,
    x.position.within l.target.latitude l.target.longitude
      s.navigator.settings.arrivalTolerance = true

/-- A run in which an operation is neither cancelled nor given up, and moves only while there is
no sample near the target and the deadline is not reached. -/
structure Lacks (s : Session) (id : Nat) (l : Leg) (deadline : Instant) (es : List Event) :
    Prop where
  uncancelled : .cancel ∉ es
  kept : .abandon id ∉ es
  early : ∀ before later, es = before ++ .move :: later →
    ¬ s.Sights l before ∧ (s.after before).now < deadline

/-- The operation that waits from now on for the arrival at a leg's target. -/
def watcher (s : Session) (id : Nat) (l : Leg) (deadline : Instant) : ActiveOperation :=
  ⟨id, false, .watching (.arrival l s.telemetry.subscribe) deadline⟩

/-- **How a leg waits**, from the first moment of its wait on. -/
structure Waits (s : Session) (id : Nat) (l : Leg) (deadline : Instant) : Prop where
  /-- While there is no sample near the target, the wait goes on. -/
  goes_on : ∀ es, s.Lacks id l deadline es →
    (s.after es).navigator.active = some (s.watcher id l deadline) ∧
      callsOf id (s.acts es) = [] ∧ endingsOf id (s.acts es) = []
  /-- The first move at which there is one is the arrival, even at the deadline. -/
  arrives : ∀ es, s.Lacks id l deadline es → s.Sights l es →
    (s.after es).navigator.step (s.after es).now (s.after es).telemetry =
      some ((s.after es).navigator.carryOut (s.watcher id l deadline)
        (l.arrive s.navigator.settings (s.after es).now))
  /-- Only the deadline ends the wait otherwise. -/
  expires : ∀ es, s.Lacks id l deadline es → ¬ s.Sights l es →
    deadline ≤ (s.after es).now →
    (s.after es).navigator.step (s.after es).now (s.after es).telemetry =
      some ((s.after es).navigator.carryOut (s.watcher id l deadline)
        (.fail (l.failure .timeout)))

variable {s : Session} {es : List Event} {id : Nat} {l : Leg} {deadline : Instant}

/-- The operation sees the target when it is handed a sample near it. -/
theorem seen_iff_sights :
    (Sight.arrival l s.telemetry.subscribe).seen s.navigator.settings (s.after es).telemetry =
      true ↔ s.Sights l es := by
  rw [Sight.seen, available_eq, List.any_eq_true]
  rfl

namespace Lacks

theorem front {later : List Event} (h : s.Lacks id l deadline (es ++ later)) :
    s.Lacks id l deadline es where
  uncancelled hmem := h.uncancelled (List.mem_append_left _ hmem)
  kept hmem := h.kept (List.mem_append_left _ hmem)
  early before after hes := h.early before (after ++ later) (by simp [hes])

/-- An event of such a run that the waiting operation does not react to. -/
theorem react_eq {e : Event} (h : s.Lacks id l deadline (es ++ [e])) :
    (s.watcher id l deadline).react (s.after es).navigator.settings (s.after es).now
      (s.after es).telemetry e = (some (s.watcher id l deadline), []) := by
  cases e with
  | move =>
      obtain ⟨hunseen, hearly⟩ := h.early es [] rfl
      rw [← seen_iff_sights, ← after_settings s es] at hunseen
      have hwaits : Stage.move (s.after es).navigator.settings (s.after es).now
          (s.after es).telemetry false
            (.watching (.arrival l s.telemetry.subscribe) deadline) = none := by
        simp [Stage.move, hunseen, Nat.not_le.mpr hearly]
      simp [watcher, ActiveOperation.react, hwaits]
  | abandon number =>
      have hother : number ≠ id := fun heq => h.kept (by simp [heq])
      simp [watcher, ActiveOperation.react, hother]
  | cancel => exact absurd (by simp) h.uncancelled
  | _ => rfl

/-- **The wait goes on.** -/
theorem goes_on (hbegins : s.navigator.active = some (s.watcher id l deadline))
    (h : s.Lacks id l deadline es) :
    (s.after es).navigator.active = some (s.watcher id l deadline) ∧
      callsOf id (s.acts es) = [] ∧ endingsOf id (s.acts es) = [] := by
  induction es using List.reverseRecOn with
  | nil => exact ⟨hbegins, rfl, rfl⟩
  | append_singleton es e ih =>
      obtain ⟨hactive, hcalls, hendings⟩ := ih h.front
      obtain ⟨hnext, hacts⟩ := step_running hactive e
      rw [h.react_eq] at hnext hacts
      have hnothing : (s.after es).acts [e] = [] := by
        rw [acts_cons, hacts]
        rfl
      rw [after_append, acts_append, hnothing, List.append_nil]
      exact ⟨hnext, hcalls, hendings⟩

end Lacks

/-- **A leg waits for the arrival once its call is answered.** -/
theorem waits_of_answered
    (h : s.navigator.active = some ⟨id, false, .awaiting (.leg l) deadline (some (.ok ()))⟩) :
    (s.step .move).1.Waits id l deadline := by
  have hbegins := watching_of_answered h
  constructor
  case goes_on => exact fun es hlacks => hlacks.goes_on hbegins
  case arrives =>
    intro es hlacks hsights
    rw [← seen_iff_sights] at hsights
    simp [Navigator.step, (hlacks.goes_on hbegins).1, after_settings, watcher, Stage.move,
      hsights, Sight.followUp]
  case expires =>
    intro es hlacks hunseen hlate
    rw [← seen_iff_sights] at hunseen
    simp [Navigator.step, (hlacks.goes_on hbegins).1, after_settings, watcher, Stage.move,
      hunseen, hlate, Sight.failure]

/-! ## The way home -/

/-- **How a flight gets home**: its last call is answered, and the operation takes note of it. -/
def Returns (s : Session) (id : Nat) (route : Route) (home : HomePosition) (n : Nat)
    (es : List Event) : Prop :=
  ∃ asked answered rest deadline cancelled,
    es = (asked ++ .answer (.ok ()) :: answered) ++ .move :: rest ∧
    (s.after asked).navigator.active =
      some ⟨id, cancelled, .awaiting (.home route home) deadline none⟩ ∧
    (s.after (asked ++ .answer (.ok ()) :: answered)).navigator.active =
      some ⟨id, false, .awaiting (.home route home) deadline (some (.ok ()))⟩ ∧
    s.HasCalled id n (asked ++ .answer (.ok ()) :: answered)

/-- The vehicle's consent to the way home is all that the operation waits for there. -/
theorem arrives_home {route : Route} {home : HomePosition}
    (h : s.navigator.active =
      some ⟨id, false, .awaiting (.home route home) deadline (some (.ok ()))⟩) :
    (s.step .move).1.navigator.active = none ∧
      (s.step .move).2 = [.shows (.done .arrived), .ends id (.outcome .arrived)] :=
  step_running h .move

variable {route : Route} {ws : List Waypoint}

/-- **A way home whose course is in the log is passed.** -/
theorem Planned.returns {planning : List Event} {home : HomePosition} {more : List FlightNote}
    (h : s.Planned id route ws planning) (hd : s.Distinct (planning ++ es))
    (hhome : route.home = some home)
    (hlog : (s.after planning).log id es = route.outbound s.navigator.settings ws ++
      .called (route.homeCall s.navigator.settings home) :: .answered (.ok ()) :: more) :
    s.Returns id route home (ws.length + 1) (planning ++ es) := by
  obtain ⟨asked, later, task, deadline, hrun, hdue, hasked, hlogged, hmore⟩ := h.asked hd hlog
  obtain rfl := hdue.home_due hhome
  rw [hrun] at hd ⊢
  obtain ⟨unanswered, answered, rest, cancelled, rfl, hunanswered, hnote, hsilent, -⟩ :=
    completion hd.after hasked hmore
  have hrun' : asked ++ ((unanswered ++ .answer (.ok ()) :: answered) ++ .move :: rest) =
      (asked ++ unanswered ++ .answer (.ok ()) :: answered) ++ .move :: rest := by simp
  rw [hrun'] at hd ⊢
  have hanswered := hnote.of_after.running
  rw [← List.append_assoc] at hanswered
  rw [← after_append] at hunanswered
  refine ⟨asked ++ unanswered, answered, rest, deadline, cancelled, rfl, hunanswered, hanswered,
    .of_log hd.front hanswered rfl ?_⟩
  rw [List.append_assoc, log_append, hlogged, hsilent, List.append_nil, calledIn_append,
    Route.calledIn_outbound, List.length_append, List.length_map]
  rfl

/-! ## Every run of a flight -/

variable {r : Request} {marked : Bool} {before later run : List Event}

/-- Where a flight stands that is planned in the first move of a run. -/
theorem stands_of_planned (hd : s.Distinct (Event.move :: es))
    (h : s.navigator.active = some ⟨id, marked, .begun r⟩)
    (hplan : r.plan? s.telemetry = some (route, ws)) :
    route.Stands s.navigator.settings ws (endingsOf id (s.acts (Event.move :: es)))
      ((s.step .move).1.log id es) := by
  obtain ⟨l, hbehind, hbegin⟩ := Request.begin_of_plan s.navigator.settings s.now hplan
  exact flight_planned hd h (congrArg some hbegin) (Route.leads_start hbehind)

/-- An operation takes note of nothing when it is planned, nor before. -/
theorem log_of_planning (hd : s.Distinct before)
    (h : (s.after before).navigator.active = some ⟨id, marked, .begun r⟩) :
    s.log id (before ++ [.move]) = [] := by
  rw [← List.append_nil before] at hd
  rw [log_append, (log_of_begun hd h rfl).1]
  simp [log, notes, h, ActiveOperation.notes, Stage.note?]

/-- A flight that takes note of something after its planning has been planned in time. -/
theorem planned_of_log (hd : s.Distinct (before ++ .move :: later))
    (h : (s.after before).navigator.active = some ⟨id, marked, .begun r⟩)
    (hplan : r.plan? (s.after before).telemetry = some (route, ws))
    (hlog : (s.after (before ++ [.move])).log id later ≠ []) :
    s.Planned id route ws (before ++ [.move]) := by
  obtain ⟨l, hbehind, hbegin⟩ :=
    Request.begin_of_plan s.navigator.settings (s.after before).now hplan
  have hmove : (Stage.begun r).move (s.after before).navigator.settings (s.after before).now
      (s.after before).telemetry marked =
        some (l.start s.navigator.settings (s.after before).now) := by
    rw [after_settings]
    exact congrArg some hbegin
  have hplanned := active_of_move h hmove
  rw [after_append] at hlog
  constructor
  case quiet => exact log_of_planning hd.front h
  case running =>
    rw [after_append]
    rw [Leg.start, Move.enterTimed] at hplanned
    cases hdeadline : s.navigator.settings.deadline? (s.after before).now with
    | some deadline =>
        rw [hdeadline] at hplanned
        exact ⟨marked, _, hplanned, .due deadline hbehind⟩
    | none =>
        rw [hdeadline] at hplanned
        have hstep := (step_running h .move).1
        rw [hplanned] at hstep
        exact absurd (log_of_absent (absent_of_left hd.after h hstep.symm)) hlog

/-- **What the legs of a flight wait for** in a run. -/
structure LegsWait (s : Session) (id : Nat) (route : Route) (ws : List Waypoint)
    (run : List Event) : Prop where
  /-- Whatever follows an outbound leg, a call or the arrival, follows when the leg is passed. -/
  passed : ∀ done w rest, ws = done ++ w :: rest →
    done.length + 1 < (callsOf id (s.acts run)).length ∨
      .outcome .arrived ∈ endingsOf id (s.acts run) →
    s.Passes id ⟨route, done.length + 1, w, rest⟩ run
  /-- A leg whose call is answered waits for the arrival from the next move on. -/
  waits : ∀ front l deadline, (s.after front).navigator.active =
      some ⟨id, false, .awaiting (.leg l) deadline (some (.ok ()))⟩ →
    (s.after (front ++ [.move])).Waits id l deadline
  /-- A flight with a way home arrives when the call home is answered. -/
  returns : ∀ home, route.home = some home → .outcome .arrived ∈ endingsOf id (s.acts run) →
    s.Returns id route home (ws.length + 1) run
  /-- Nothing else is needed for that, and no sample in particular. -/
  arrives_home : ∀ front home deadline, (s.after front).navigator.active =
      some ⟨id, false, .awaiting (.home route home) deadline (some (.ok ()))⟩ →
    (s.after (front ++ [.move])).navigator.active = none ∧
      ((s.after front).step .move).2 = [.shows (.done .arrived), .ends id (.outcome .arrived)]

/-- A flight that can be planned waits for its arrivals. -/
theorem legsWait_of_plan (hd : s.Distinct (before ++ .move :: later))
    (h : (s.after before).navigator.active = some ⟨id, marked, .begun r⟩)
    (hplan : r.plan? (s.after before).telemetry = some (route, ws)) :
    s.LegsWait id route ws (before ++ .move :: later) := by
  have hstands := stands_of_planned hd.after h hplan
  have hplanned := planned_of_log hd h hplan
  have hend : endingsOf id (s.acts (before ++ .move :: later)) =
      endingsOf id ((s.after before).acts (Event.move :: later)) := by
    rw [acts_append, endingsOf_append, (log_of_begun hd h rfl).2, List.nil_append]
  have hlater : (s.after (before ++ [.move])).log id later =
      ((s.after before).step .move).1.log id later := by
    rw [after_append]
    rfl
  rw [after_settings, ← hend, ← hlater] at hstands
  rw [List.append_cons] at hd hstands ⊢
  constructor
  case passed =>
    intro done w rest hws hfollows
    rw [callsOf_acts, log_append, log_of_planning hd.front.front h, List.nil_append] at hfollows
    obtain ⟨more, hlog⟩ := hstands.leg_flown hws hfollows
    exact (hplanned (by rw [hlog]; simp [Route.legCourse])).passes hd hws hlog
  case waits =>
    intro front l deadline hanswered
    rw [after_append]
    exact waits_of_answered hanswered
  case returns =>
    intro home hhome harrived
    have hlog := hstands.course_of_arrived harrived
    rw [Route.course, Route.homeward, hhome] at hlog
    exact (hplanned (by rw [hlog]; simp)).returns hd hhome hlog
  case arrives_home =>
    intro front home deadline hanswered
    rw [after_append]
    exact arrives_home hanswered

/-- **The legs of every flight wait for the arrival.** The session may have done anything
before, and anything may reach it afterwards.

* A flight that cannot be planned makes no call and does not arrive.
* Any other has its legs, and the way home, as `Session.LegsWait` says. -/
theorem legs_wait_for_arrival (settings : NavigatorSettings) (capacity : Nat) (r : Request)
    (marked : Bool) (hflight : r.isFlight = true) (hnum : Numbered (before ++ later))
    (hrun : run = before ++ .move :: later)
    (hbegun : ((new settings capacity).after before).navigator.active =
      some ⟨id, marked, .begun r⟩) :
    (r.plan? ((new settings capacity).after before).telemetry = none →
      callsOf id ((new settings capacity).acts run) = [] ∧
        .outcome .arrived ∉ endingsOf id ((new settings capacity).acts run)) ∧
    (∀ route ws, r.plan? ((new settings capacity).after before).telemetry = some (route, ws) →
      (new settings capacity).LegsWait id route ws run) := by
  have hnum' : Numbered (before ++ .move :: later) := by
    unfold Numbered requested at hnum ⊢
    rw [List.filterMap_append] at hnum ⊢
    exact hnum
  have hd := distinct_new settings capacity hnum'
  refine ⟨fun hplan => ?_, fun route ws hplan => hrun ▸ legsWait_of_plan hd hbegun hplan⟩
  obtain ⟨failure, hfail⟩ := Request.begin_unplanned _ _ hflight hplan
  obtain ⟨hcalls, hend, -⟩ := acts_from_planning hnum hbegun
  obtain ⟨hnone, hfailed⟩ := acts_of_fails hd.after hbegun (congrArg some hfail)
  rw [hrun, hcalls, hend, hnone, hfailed]
  simp

/-- A stop with a pause of five seconds. -/
def visit : Waypoint := ⟨47.5, 8.5, 10.0, 5.0⟩

/-- The sample on the ground, and a flight to a stop about to be planned. -/
def visitBegun (stop : Waypoint) (returnToStart : Bool) : List Event :=
  [.telemetry (.velocity ⟨0.0, 0.0, 0.0⟩) 1,
    .telemetry (.imu ⟨⟨0.0, 0.0, 0.0⟩, ⟨0.0, 0.0, 0.0⟩, ⟨0.0, 0.0, 0.0⟩, 20.0⟩) 2,
    .telemetry (.position ⟨47.0, 8.0, 400.0, 0.0⟩) 3, .request 0 (.goto stop returnToStart), .move]

/-- The vehicle flies to the stop, where the operation pauses for a while. -/
def visitFlown (pause : Nat) : List Event :=
  [.move, .answer (.ok ()), .move, .telemetry (.position ⟨47.5, 8.5, 410.0, 10.0⟩) 4, .move,
    .pass pause, .move]

/-- The way back after the stop. -/
def visitLeft : List Event := [.move, .answer (.ok ()), .move]

/-- The flight to the stop and back passes the stop and returns. -/
theorem legs_wait_for_arrival_visit :
    (new unhurried 4).Passes 0 ⟨⟨410.0, some ⟨47.0, 8.0⟩, false⟩, 1, visit, []⟩
        (visitBegun visit true ++ .move :: (visitFlown 5000 ++ visitLeft)) ∧
      (new unhurried 4).Returns 0 ⟨410.0, some ⟨47.0, 8.0⟩, false⟩ ⟨47.0, 8.0⟩ 2
        (visitBegun visit true ++ .move :: (visitFlown 5000 ++ visitLeft)) := by
  have hnum : Numbered (visitBegun visit true ++ (visitFlown 5000 ++ visitLeft)) := by decide
  have harrived : .outcome .arrived ∈ endingsOf 0 ((new unhurried 4).acts
      (visitBegun visit true ++ .move :: (visitFlown 5000 ++ visitLeft))) := by decide +kernel
  have hwait := (legs_wait_for_arrival unhurried 4 (.goto visit true) false rfl hnum rfl rfl).2
  have hlegs := hwait ⟨410.0, some ⟨47.0, 8.0⟩, false⟩ [visit] (by decide +kernel)
  exact ⟨hlegs.passed [] visit [] rfl (.inr harrived), hlegs.returns _ rfl harrived⟩

/-- A stop with a pause of a billion seconds, more than thirty-one years. -/
def longVisit : Waypoint := ⟨47.5, 8.5, 10.0, 1000000000.0⟩

/-- The flight to the long stop, with thirty years of pause. -/
def longVisitFlown : List Event :=
  visitBegun longVisit false ++ .move :: visitFlown farFuture

/-- No pause lasts longer than thirty years: the flight to the long stop is over before the
time of its pause has passed since the clock started. -/
theorem long_pause_cut_short :
    longVisit.hoverDuration? = some (.ofSeconds 1000000000) ∧
      endingsOf 0 ((new unhurried 4).acts longVisitFlown) = [.outcome .arrived] ∧
      ((new unhurried 4).after longVisitFlown).now * 1000000 <
        (Duration.ofSeconds 1000000000).nanoseconds := by
  decide +kernel

end Session

end GroundStation
