import GroundStation.Proofs.Navigation.Flight

/-!
# What a mission does

A mission is planned from one sample, the latest when it is planned. The altitude of
all its calls and the position it returns to come from that sample and from its first
waypoint; the telemetry that arrives later only decides when a leg has arrived. So the
calls of a mission are known in advance, and a run makes a beginning of them.

How a mission ends can be read from its log, in both directions (`Route.Flown`). Two
parts of the course tell the failures apart: a log that breaks off on the leg to a
waypoint holds as many calls as the leg counts, and a log that breaks off on the way
home holds all of them (`Route.Breaks`). No log does both, nor does the course itself.

## Main results

* `Route.Stands.flown`: where a numbered flight stands, its calls and its end agree with
  its log.
* `Session.mission_keeps_course`: every run of a mission, from whatever a session has
  done before.
-/

namespace GroundStation

/-! ## Broken logs -/

/-- A deadline that passes, or a refusal. -/
def FlightNote.isMishap : FlightNote → Bool
  | .expired | .answered (.error _) => true
  | _ => false

namespace Route

variable {settings : NavigatorSettings} {route : Route} {ws : List Waypoint}
  {log part : List FlightNote} {cause : NavFailure} {linkCall : LinkCall} {watched : Bool}

theorem Breaks.mishap (h : Breaks linkCall watched cause part) :
    ∃ note ∈ part, note.isMishap = true := by
  cases h with
  | refused e => exact ⟨.answered (.error e), by simp, rfl⟩
  | unanswered => exact ⟨.expired, by simp, rfl⟩
  | missed h => exact ⟨.expired, by simp, rfl⟩

theorem Breaks.calledIn_eq (h : Breaks linkCall watched cause part) :
    calledIn part = [linkCall] := by
  cases h <;> rfl

/-- A broken part tells its cause. -/
theorem Breaks.cause_eq {other : LinkCall} {watched' : Bool} {cause' : NavFailure}
    (h : Breaks linkCall watched cause part) (h' : Breaks other watched' cause' part) :
    cause = cause' := by
  cases h <;> cases h' <;> rfl

/-- A cause is a failure of the link or a time-out, and never another leg. -/
theorem Breaks.cause_cases (h : Breaks linkCall watched cause part) :
    cause = .timeout ∨ ∃ e, cause = .link e := by
  cases h with
  | refused e => exact .inr ⟨e, rfl⟩
  | unanswered => exact .inl rfl
  | missed h => exact .inl rfl

/-- Nothing goes wrong on the course. -/
theorem isMishap_of_mem_course {note : FlightNote} (h : note ∈ route.course settings ws) :
    note.isMishap = false := by
  rcases List.mem_append.mp h with hout | hhome
  · obtain ⟨w, -, hleg⟩ := List.mem_flatMap.mp hout
    unfold legCourse at hleg
    grind [FlightNote.isMishap]
  · unfold homeward at hhome
    grind [FlightNote.isMishap]

/-- A broken log is no beginning of the course. -/
theorem Breaks.not_le_course (h : Breaks linkCall watched cause part)
    (hlog : log ++ part <+: route.course settings ws) : False := by
  obtain ⟨note, hmem, hmishap⟩ := h.mishap
  have hcourse := hlog.subset (List.mem_append_right log hmem)
  rw [isMishap_of_mem_course hcourse] at hmishap
  cases hmishap

/-- A log that breaks off on a leg tells which. -/
theorem broken_leg_unique {done done' rest rest' : List Waypoint} {w w' : Waypoint}
    {part' : List FlightNote} {cause' : NavFailure}
    (hsplit : ws = done ++ w :: rest) (hsplit' : ws = done' ++ w' :: rest')
    (h : Breaks (route.legCall settings w) watched cause part)
    (h' : Breaks (route.legCall settings w') watched cause' part')
    (hlog : route.outbound settings done ++ part = route.outbound settings done' ++ part') :
    done = done' ∧ cause = cause' := by
  have hcalls := congrArg (fun log => (calledIn log).length) hlog
  have hlength : done.length = done'.length := by
    simpa [h.calledIn_eq, h'.calledIn_eq] using hcalls
  have hdone : done = done' := (List.append_inj (hsplit.symm.trans hsplit') hlength).1
  rw [hdone] at hlog
  have hpart := List.append_cancel_left hlog
  rw [← hpart] at h'
  exact ⟨hdone, h.cause_eq h'⟩

/-- A log that breaks off on a leg does not break off on the way home. -/
theorem broken_leg_ne_home {done rest : List Waypoint} {w : Waypoint} {homeCall : LinkCall}
    {watched' : Bool} {part' : List FlightNote} {cause' : NavFailure}
    (hsplit : ws = done ++ w :: rest) (h : Breaks (route.legCall settings w) watched cause part)
    (h' : Breaks homeCall watched' cause' part') :
    route.outbound settings done ++ part ≠ route.outbound settings ws ++ part' := by
  intro hlog
  have hcalls := congrArg (fun log => (calledIn log).length) hlog
  simp [h.calledIn_eq, h'.calledIn_eq, hsplit] at hcalls

/-- The calls up to a leg that breaks off. -/
theorem calledIn_broken_leg {done rest : List Waypoint} {w : Waypoint}
    (hsplit : ws = done ++ w :: rest) (h : Breaks (route.legCall settings w) watched cause part) :
    calledIn (route.outbound settings done ++ part) =
      (ws.take (done.length + 1)).map (route.legCall settings) := by
  rw [calledIn_append, calledIn_outbound, h.calledIn_eq, hsplit, List.take_length_add_append]
  simp

/-- The calls up to a way home that breaks off. -/
theorem calledIn_broken_home {home : HomePosition} (hhome : route.home = some home)
    (h : Breaks (route.homeCall settings home) watched cause part) :
    calledIn (route.outbound settings ws ++ part) = route.gotos settings ws := by
  rw [calledIn_append, calledIn_outbound, h.calledIn_eq, gotos, hhome]
  rfl

/-! ## Reading the end off the log -/

variable {endings : List Ending}

theorem Stands.ends_once (h : route.Stands settings ws endings log) : endings.length ≤ 1 := by
  rcases h with ⟨rfl, -⟩ | ⟨ending, rfl, -⟩
  · exact Nat.zero_le 1
  · exact Nat.le_refl 1

/-- The one ending there may be is the one that the log explains. -/
theorem Stands.over {ending : Ending} (h : route.Stands settings ws endings log)
    (hmem : ending ∈ endings) : Over settings route ws ending log := by
  rcases h with ⟨rfl, -⟩ | ⟨ending', rfl, hover⟩
  · cases hmem
  · exact List.mem_singleton.mp hmem ▸ hover

/-- A flight makes its calls in the order of its course, and no others. -/
theorem Stands.calls_le (h : route.Stands settings ws endings log) :
    calledIn log <+: route.gotos settings ws := by
  have hcourse : ∀ {log}, route.Partial settings ws log →
      calledIn log <+: route.gotos settings ws := by
    intro log hpart
    rw [← calledIn_course]
    exact hpart.le_course.filterMap _
  rcases h with ⟨-, stage, hat⟩ | ⟨ending, -, hover⟩
  · exact hcourse hat.le
  · cases hover with
    | arrived => exact (calledIn_course ws).symm ▸ List.prefix_refl _
    | cancelled hpart => exact hcourse hpart
    | overflow hpart => exact hcourse hpart
    | leg hbehind hpart =>
        rw [calledIn_broken_leg hbehind.split hpart]
        exact ((List.take_prefix _ _).map _).trans (List.prefix_append _ _)
    | home hhome hpart => exact calledIn_broken_home hhome hpart ▸ List.prefix_refl _

/-- Whoever has flown the whole course has arrived. -/
theorem Stands.arrived_of_course (h : route.Stands settings ws endings log)
    (hlog : log = route.course settings ws) : .outcome .arrived ∈ endings := by
  rcases h with ⟨-, stage, hat⟩ | ⟨ending, rfl, hover⟩
  · exact absurd hlog hat.le.ne_course
  · cases hover with
    | arrived => exact List.mem_singleton_self _
    | cancelled hpart => exact absurd hlog hpart.ne_course
    | overflow hpart => exact absurd hlog hpart.ne_course
    | leg hbehind hpart =>
        exact (hpart.not_le_course ⟨[], by rw [List.append_nil, hlog]⟩).elim
    | home hhome hpart =>
        exact (hpart.not_le_course ⟨[], by rw [List.append_nil, hlog]⟩).elim

/-- Whoever has arrived has flown the whole course. -/
theorem Stands.course_of_arrived (h : route.Stands settings ws endings log)
    (hmem : .outcome .arrived ∈ endings) : log = route.course settings ws := by
  generalize hending : Ending.outcome .arrived = ending at hmem
  cases h.over hmem with
  | arrived => rfl
  | _ => simp at hending

/-- A broken log has broken off on a leg or on the way home, for the reason that is the
flight's ending. -/
theorem Stands.of_broken {before : List FlightNote}
    (h : route.Stands settings ws endings log) (hlog : log = before ++ part)
    (hpart : Breaks linkCall watched cause part) :
    (∃ l done part' cause', Leg.Behind route ws done l ∧
      Breaks (route.legCall settings l.target) true cause' part' ∧
      log = route.outbound settings done ++ part' ∧
      endings = [.outcome (.failed (l.failure cause'))]) ∨
    ∃ home part' cause', route.home = some home ∧
      Breaks (route.homeCall settings home) false cause' part' ∧
      log = route.outbound settings ws ++ part' ∧ endings = [.outcome (.failed cause')] := by
  have hnot : ¬ log <+: route.course settings ws := by
    intro hle
    rw [hlog] at hle
    exact hpart.not_le_course hle
  rcases h with ⟨-, stage, hat⟩ | ⟨ending, rfl, hover⟩
  · exact absurd hat.le.le_course hnot
  · cases hover with
    | arrived => exact absurd (List.prefix_refl _) hnot
    | cancelled hle => exact absurd hle.le_course hnot
    | overflow hle => exact absurd hle.le_course hnot
    | leg hbehind hbreak => exact .inl ⟨_, _, _, _, hbehind, hbreak, rfl, rfl⟩
    | home hhome hbreak => exact .inr ⟨_, _, _, hhome, hbreak, rfl, rfl⟩

/-! ## Flights with numbered legs -/

/-- **What a flight with numbered legs makes of its course**: its calls, how often and how
it ends, and its log. -/
structure Flown (settings : NavigatorSettings) (route : Route) (ws : List Waypoint)
    (calls : List LinkCall) (endings : List Ending) (log : List FlightNote) : Prop where
  calls_eq : calls = calledIn log
  calls_le : calls <+: route.gotos settings ws
  ends_once : endings.length ≤ 1
  arrived_iff : .outcome .arrived ∈ endings ↔ log = route.course settings ws
  leg_failed_iff : ∀ k cause, .outcome (.failed (.leg k cause)) ∈ endings ↔
    ∃ done w rest part, ws = done ++ w :: rest ∧ k = done.length + 1 ∧
      Breaks (route.legCall settings w) true cause part ∧
      log = route.outbound settings done ++ part
  leg_failed_calls : ∀ k cause, .outcome (.failed (.leg k cause)) ∈ endings →
    calls = (ws.take k).map (route.legCall settings) ∧ calls.length = k ∧
      (cause = .timeout ∨ ∃ e, cause = .link e)
  home_failed_iff : ∀ cause, cause.legIndex = none →
    (.outcome (.failed cause) ∈ endings ↔ ∃ home part, route.home = some home ∧
      Breaks (route.homeCall settings home) false cause part ∧
      log = route.outbound settings ws ++ part)
  home_failed_calls : ∀ cause, cause.legIndex = none → .outcome (.failed cause) ∈ endings →
    calls = route.gotos settings ws ∧ (cause = .timeout ∨ ∃ e, cause = .link e)

/-- The failure of a leg that is numbered. -/
private theorem failure_of_numbered {l : Leg} {done : List Waypoint} (hnum : route.numbered = true)
    (h : l.Behind route ws done) (cause : NavFailure) :
    l.failure cause = .leg (done.length + 1) cause := by
  rw [Leg.failure, h.route, if_pos hnum, h.index]

theorem Stands.leg_failed (hnum : route.numbered = true)
    (h : route.Stands settings ws endings log) {k : Nat}
    (hmem : .outcome (.failed (.leg k cause)) ∈ endings) :
    ∃ done w rest part, ws = done ++ w :: rest ∧ k = done.length + 1 ∧
      Breaks (route.legCall settings w) true cause part ∧
      log = route.outbound settings done ++ part := by
  generalize hending : Ending.outcome (.failed (.leg k cause)) = ending at hmem
  cases h.over hmem with
  | leg hbehind hpart =>
      rw [failure_of_numbered hnum hbehind] at hending
      obtain ⟨rfl, rfl⟩ : k = _ ∧ cause = _ := by simpa using hending
      exact ⟨_, _, _, _, hbehind.split, rfl, hpart, rfl⟩
  | home hhome hpart =>
      -- a failure on the way home is the cause itself
      obtain rfl : NavFailure.leg k cause = _ := by simpa using hending
      rcases hpart.cause_cases with h | ⟨e, h⟩ <;> cases h
  | _ => simp at hending

theorem Stands.home_failed (hnum : route.numbered = true)
    (h : route.Stands settings ws endings log) (hleg : cause.legIndex = none)
    (hmem : .outcome (.failed cause) ∈ endings) :
    ∃ home part, route.home = some home ∧
      Breaks (route.homeCall settings home) false cause part ∧
      log = route.outbound settings ws ++ part := by
  generalize hending : Ending.outcome (.failed cause) = ending at hmem
  cases h.over hmem with
  | leg hbehind hpart =>
      rw [failure_of_numbered hnum hbehind] at hending
      obtain rfl : cause = _ := by simpa using hending
      cases hleg
  | home hhome hpart =>
      obtain rfl : cause = _ := by simpa using hending
      exact ⟨_, _, hhome, hpart, rfl⟩
  | _ => simp at hending

/-- **Where a flight with numbered legs stands, its calls and its end agree with its
log.** -/
theorem Stands.flown (hnum : route.numbered = true)
    (h : route.Stands settings ws endings log) :
    route.Flown settings ws (calledIn log) endings log where
  calls_eq := rfl
  calls_le := h.calls_le
  ends_once := h.ends_once
  arrived_iff := ⟨h.course_of_arrived, h.arrived_of_course⟩
  leg_failed_iff k cause := by
    refine ⟨h.leg_failed hnum, ?_⟩
    rintro ⟨done, w, rest, part, hsplit, rfl, hpart, hlog⟩
    rcases h.of_broken hlog hpart with
      ⟨l, done', part', cause', hbehind, hpart', hlog', rfl⟩ |
      ⟨home, part', cause', -, hpart', hlog', -⟩
    · obtain ⟨rfl, rfl⟩ :=
        broken_leg_unique hsplit hbehind.split hpart hpart' (hlog.symm.trans hlog')
      rw [failure_of_numbered hnum hbehind]
      exact List.mem_singleton_self _
    · exact absurd (hlog.symm.trans hlog') (broken_leg_ne_home hsplit hpart hpart')
  leg_failed_calls k cause hmem := by
    obtain ⟨done, w, rest, part, hsplit, rfl, hpart, rfl⟩ := h.leg_failed hnum hmem
    rw [calledIn_broken_leg hsplit hpart]
    refine ⟨rfl, ?_, hpart.cause_cases⟩
    simp [hsplit]
  home_failed_iff cause hleg := by
    refine ⟨h.home_failed hnum hleg, ?_⟩
    rintro ⟨home, part, hhome, hpart, hlog⟩
    rcases h.of_broken hlog hpart with
      ⟨l, done', part', cause', hbehind, hpart', hlog', -⟩ |
      ⟨home', part', cause', -, hpart', hlog', rfl⟩
    · exact absurd (hlog'.symm.trans hlog) (broken_leg_ne_home hbehind.split hpart' hpart)
    · obtain rfl : part = part' := List.append_cancel_left (hlog.symm.trans hlog')
      rw [hpart.cause_eq hpart']
      exact List.mem_singleton_self _
  home_failed_calls cause hleg hmem := by
    obtain ⟨home, part, hhome, hpart, rfl⟩ := h.home_failed hnum hleg hmem
    exact ⟨calledIn_broken_home hhome hpart, hpart.cause_cases⟩

end Route

/-- The route of a mission that is planned from a sample: the first waypoint's altitude
above the ground there, and the way home if the mission returns. -/
def Mission.routeFrom (m : Mission) (first : Waypoint) (sample : Sample) : Route where
  altitude := first.altitude +
    (sample.position.absoluteAltitude - sample.position.relativeAltitude)
  home := if m.returnToStart then
      some ⟨sample.position.latitude, sample.position.longitude⟩
    else none
  numbered := true

namespace Session

variable {s : Session} {op : ActiveOperation} {es before later run : List Event} {id : Nat}

/-! ## Runs of a mission -/

/-- An operation whose first move is a failure makes no call. -/
theorem acts_of_fails {failure : NavFailure} (hd : s.Distinct (Event.move :: es))
    (h : s.navigator.active = some op)
    (hm : op.stage.move s.navigator.settings s.now s.telemetry op.cancelled =
      some (.fail failure)) :
    callsOf op.id (s.acts (Event.move :: es)) = [] ∧
      endingsOf op.id (s.acts (Event.move :: es)) = [.outcome (.failed failure)] := by
  have hreact := ActiveOperation.react_move hm
  have hrest := actsOf_of_absent (absent_of_left hd h (congrArg Prod.fst hreact))
  rw [acts_cons, callsOf_append, endingsOf_append, callsOf_eq_nil hrest, endingsOf_eq_nil hrest,
    (step_running h .move).2, hreact, Navigator.callsOf_carryOut, Navigator.endingsOf_carryOut]
  exact ⟨rfl, rfl⟩

/-- What an operation does in a whole run is what it does from its planning on. -/
theorem acts_from_planning {settings : NavigatorSettings} {capacity : Nat} {marked : Bool}
    {r : Request} (hnum : Numbered (before ++ later))
    (h : ((new settings capacity).after before).navigator.active = some ⟨id, marked, .begun r⟩) :
    callsOf id ((new settings capacity).acts (before ++ .move :: later)) =
        callsOf id (((new settings capacity).after before).acts (Event.move :: later)) ∧
      endingsOf id ((new settings capacity).acts (before ++ .move :: later)) =
        endingsOf id (((new settings capacity).after before).acts (Event.move :: later)) ∧
      (new settings capacity).log id (before ++ .move :: later) =
        (((new settings capacity).after before).step .move).1.log id later := by
  obtain ⟨hlog, hend⟩ := log_of_begun (distinct_new settings capacity hnum) h rfl
  have hcalls : callsOf id ((new settings capacity).acts before) = [] := by
    rw [callsOf_acts, hlog, calledIn_nil]
  have hnotes : ((new settings capacity).after before).notes id .move = [] := by
    simp [notes, h, ActiveOperation.notes, Stage.note?]
  rw [acts_append, callsOf_append, endingsOf_append, log_append, hcalls, hend, hlog, log, hnotes]
  exact ⟨rfl, rfl, rfl⟩

/-- A mission that is planned from a sample. -/
theorem mission_planned {m : Mission} {marked : Bool} {first : Waypoint} {rest : List Waypoint}
    {sample : Sample} (hd : s.Distinct (Event.move :: es))
    (h : s.navigator.active = some ⟨id, marked, .begun (.mission m)⟩)
    (hws : m.waypoints = first :: rest) (hlatest : s.telemetry.latest = some sample) :
    (m.routeFrom first sample).Flown s.navigator.settings m.waypoints
      (callsOf id (s.acts (Event.move :: es))) (endingsOf id (s.acts (Event.move :: es)))
      ((s.step .move).1.log id es) := by
  have hbehind : Leg.Behind (m.routeFrom first sample) m.waypoints []
      ⟨m.routeFrom first sample, 1, first, rest⟩ :=
    { route := rfl
      index := rfl
      split := hws }
  have hm : Stage.move s.navigator.settings s.now s.telemetry marked (.begun (.mission m)) =
      some (Leg.start s.navigator.settings s.now ⟨m.routeFrom first sample, 1, first, rest⟩) := by
    simp [Stage.move, Request.begin, hws, hlatest, Mission.routeFrom, Position.terrainOffset,
      Position.home]
  have hnotes : s.notes id .move = [] := by
    simp [notes, h, ActiveOperation.notes, Stage.note?]
  rw [callsOf_acts, log, hnotes, List.nil_append]
  exact (flight_planned hd h hm (Route.leads_start hbehind)).flown rfl

/-- **Every run of a mission keeps to its course.** The session may have done anything
before, and anything may reach it afterwards: answers, telemetry, the passage of time,
cancellations, other requests.

* A mission without waypoints fails for that reason, with a sample or without, and makes
  no call.
* Any other mission that is planned before there is a sample fails for that reason, and
  makes no call.
* Otherwise the sample of its planning settles its route, and all it does is `Route.Flown`
  along that route. -/
theorem mission_keeps_course (settings : NavigatorSettings) (capacity : Nat) (m : Mission)
    (marked : Bool) (hnum : Numbered (before ++ later)) (hrun : run = before ++ .move :: later)
    (hbegun : ((new settings capacity).after before).navigator.active =
      some ⟨id, marked, .begun (.mission m)⟩) :
    (m.waypoints = [] →
      callsOf id ((new settings capacity).acts run) = [] ∧
        endingsOf id ((new settings capacity).acts run) = [.outcome (.failed .emptyMission)]) ∧
    (m.waypoints ≠ [] → ((new settings capacity).after before).telemetry.latest = none →
      callsOf id ((new settings capacity).acts run) = [] ∧
        endingsOf id ((new settings capacity).acts run) = [.outcome (.failed .notReady)]) ∧
    (∀ first rest sample, m.waypoints = first :: rest →
      ((new settings capacity).after before).telemetry.latest = some sample →
      (m.routeFrom first sample).Flown settings m.waypoints
        (callsOf id ((new settings capacity).acts run))
        (endingsOf id ((new settings capacity).acts run))
        ((new settings capacity).log id run)) := by
  have hd : ((new settings capacity).after before).Distinct (.move :: later) :=
    (distinct_new settings capacity hnum).after
  have hsettings : ((new settings capacity).after before).navigator.settings = settings :=
    after_settings _ before
  obtain ⟨hcalls, hend, hlog⟩ := acts_from_planning hnum hbegun
  rw [hrun, hcalls, hend, hlog]
  refine ⟨?empty, ?blind, ?flown⟩
  case empty =>
    intro hempty
    refine acts_of_fails hd hbegun ?_
    simp [Stage.move, Request.begin, hempty]
  case blind =>
    intro hne hlatest
    obtain ⟨first, rest, hws⟩ := List.exists_cons_of_ne_nil hne
    refine acts_of_fails hd hbegun ?_
    simp [Stage.move, Request.begin, hws, hlatest]
  case flown =>
    intro first rest sample hws hlatest
    have hflown := mission_planned hd hbegun hws hlatest
    rwa [hsettings] at hflown

/-- Two stops, the second with a pause, and back. -/
def twoStops : Mission :=
  ⟨"two stops", [⟨47.5, 8.5, 10.0, 0.0⟩, ⟨47.25, 8.75, 20.0, 5.0⟩], true⟩

/-- A fix on the ground, where the mission starts. -/
def startFix : Position := ⟨47.0, 8.0, 400.0, 0.0⟩

/-- The sample on the ground, and the mission about to be planned. -/
def twoStopsBegun : List Event :=
  [.telemetry (.velocity ⟨0.0, 0.0, 0.0⟩) 1,
    .telemetry (.imu ⟨⟨0.0, 0.0, 0.0⟩, ⟨0.0, 0.0, 0.0⟩, ⟨0.0, 0.0, 0.0⟩, 20.0⟩) 2,
    .telemetry (.position startFix) 3, .request 0 (.mission twoStops), .move]

/-- The first stop is reached; the vehicle refuses to go to the second one. -/
def secondStopRefused : List Event :=
  [.move, .answer (.ok ()), .move, .telemetry (.position ⟨47.5, 8.5, 415.0, 12.0⟩) 4, .move,
    .move, .answer (.error (.rejected "goto" 2)), .move]

/-- The calls are at 410 metres above sea level, although the second stop is higher and the
ground was told differently on the way. -/
theorem mission_keeps_course_refused :
    (twoStops.routeFrom ⟨47.5, 8.5, 10.0, 0.0⟩
        ⟨3, startFix, ⟨0.0, 0.0, 0.0⟩,
          ⟨⟨0.0, 0.0, 0.0⟩, ⟨0.0, 0.0, 0.0⟩, ⟨0.0, 0.0, 0.0⟩, 20.0⟩, none⟩).Flown
        ⟨4.0, 0.000003, .ofSeconds 120, .young⟩ twoStops.waypoints
        [.goto 47.5 8.5 410.0 4.0, .goto 47.25 8.75 410.0 4.0]
        [.outcome (.failed (.leg 2 (.link (.rejected "goto" 2))))]
        ((new ⟨4.0, 0.000003, .ofSeconds 120, .young⟩ 4).log 0
          (twoStopsBegun ++ .move :: secondStopRefused)) := by
  have hnum : Numbered (twoStopsBegun ++ secondStopRefused) := by decide
  have hcourse := mission_keeps_course ⟨4.0, 0.000003, .ofSeconds 120, .young⟩ 4 twoStops false
    hnum rfl rfl
  have hflown := hcourse.2.2 _ _ _ rfl rfl
  have hcalls : callsOf 0 ((new ⟨4.0, 0.000003, .ofSeconds 120, .young⟩ 4).acts
      (twoStopsBegun ++ .move :: secondStopRefused)) =
        [.goto 47.5 8.5 410.0 4.0, .goto 47.25 8.75 410.0 4.0] := by decide +kernel
  have hend : endingsOf 0 ((new ⟨4.0, 0.000003, .ofSeconds 120, .young⟩ 4).acts
      (twoStopsBegun ++ .move :: secondStopRefused)) =
        [.outcome (.failed (.leg 2 (.link (.rejected "goto" 2))))] := by decide +kernel
  rw [hcalls, hend] at hflown
  exact hflown

end Session

end GroundStation
