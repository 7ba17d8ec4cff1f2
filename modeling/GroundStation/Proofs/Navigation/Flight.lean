import GroundStation.Proofs.Navigation.Acts

/-!
# The course of a flight

A flight, to one waypoint or along a mission, has a course: for every waypoint in
turn the call, the answer, the arrival and, where it hovers, the end of the hover;
then, if there is a way home, the call home and its answer (`Route.course`). What
an operation takes note of on its way is its log (`Session.log`).

The log is read against the course. As long as a flight goes on, its log is a proper
beginning of the course that tells its stage (`Route.At`). When it is over, the log
tells how it ended (`Route.Over`): the whole course means that it arrived, and a log
that breaks off inside a leg names that leg.

## Main results

* `Route.At.move`: one move takes a flight along its course or ends it as its log says.
* `Session.flight_log`: whatever reaches a session, the calls of a flight are those in
  its log, and its log agrees with its stage or with its end.
* `Session.flight_planned`: the same from the moment a flight is planned.
-/

namespace GroundStation

/-! ## Logs -/

/-- What an operation takes note of on its way: a call it makes, an answer it gets, the
sight of what it looks for, the end of a hover, and a deadline that passes first. -/
inductive FlightNote where
  | called (call : LinkCall)
  | answered (reply : Reply)
  | sighted
  | rested
  | expired

/-- The link call of a note. -/
def FlightNote.call? : FlightNote → Option LinkCall
  | .called linkCall => some linkCall
  | _ => none

/-- The link calls in a log. -/
def calledIn (log : List FlightNote) : List LinkCall := log.filterMap FlightNote.call?

@[simp] theorem calledIn_nil : calledIn [] = [] := rfl

@[simp] theorem calledIn_append (log later : List FlightNote) :
    calledIn (log ++ later) = calledIn log ++ calledIn later := List.filterMap_append ..

/-- What a stage that is not cancelled takes note of now. -/
def Stage.note? (settings : NavigatorSettings) (now : Instant) (telemetry : Aggregator) :
    Stage → Option FlightNote
  | .calling task _ => some (.called (task.call settings))
  | .awaiting _ _ (some reply) => some (.answered reply)
  | .awaiting _ deadline none => if deadline ≤ now then some .expired else none
  | .watching sight deadline =>
    if sight.seen settings telemetry then some .sighted
    else if deadline ≤ now then some .expired else none
  | .hovering _ wake => if wake ≤ now then some .rested else none
  | _ => none

/-- What an operation takes note of at an event. It notices things only when it moves, and
a cancelled one notices nothing. -/
def ActiveOperation.notes (settings : NavigatorSettings) (now : Instant) (telemetry : Aggregator)
    (op : ActiveOperation) : Session.Event → List FlightNote
  | .move => if op.cancelled then [] else (op.stage.note? settings now telemetry).toList
  | _ => []

/-- What one operation of a session takes note of at an event. -/
def Session.notes (s : Session) (id : Nat) (e : Session.Event) : List FlightNote :=
  match s.navigator.active with
  | some op => if op.id = id then op.notes s.navigator.settings s.now s.telemetry e else []
  | none => []

/-- The log of one operation in a run. -/
def Session.log (s : Session) (id : Nat) : List Session.Event → List FlightNote
  | [] => []
  | e :: es => s.notes id e ++ (s.step e).1.log id es

/-! ## Courses -/

namespace Route

/-- The call that sends the vehicle to a waypoint. -/
def legCall (settings : NavigatorSettings) (route : Route) (w : Waypoint) : LinkCall :=
  .goto w.latitude w.longitude route.altitude settings.approachSpeed

/-- The call that sends the vehicle home. -/
def homeCall (settings : NavigatorSettings) (route : Route) (home : HomePosition) : LinkCall :=
  .goto home.latitude home.longitude route.altitude settings.approachSpeed

/-- The calls of a whole flight. -/
def gotos (settings : NavigatorSettings) (route : Route) (ws : List Waypoint) : List LinkCall :=
  ws.map (route.legCall settings) ++ (route.home.map (route.homeCall settings)).toList

/-- The course of one outbound leg. -/
def legCourse (settings : NavigatorSettings) (route : Route) (w : Waypoint) : List FlightNote :=
  [.called (route.legCall settings w), .answered (.ok ()), .sighted] ++
    if w.hovers then [.rested] else []

/-- The course of the outbound legs. -/
def outbound (settings : NavigatorSettings) (route : Route) (ws : List Waypoint) :
    List FlightNote :=
  ws.flatMap (route.legCourse settings)

/-- The course of the way home, which ends with the answer. -/
def homeward (settings : NavigatorSettings) (route : Route) : List FlightNote :=
  match route.home with
  | some home => [.called (route.homeCall settings home), .answered (.ok ())]
  | none => []

/-- The course of a flight. -/
def course (settings : NavigatorSettings) (route : Route) (ws : List Waypoint) :
    List FlightNote :=
  route.outbound settings ws ++ route.homeward settings

variable {settings : NavigatorSettings} {route : Route} {ws done : List Waypoint}

theorem outbound_append (ws later : List Waypoint) :
    route.outbound settings (ws ++ later) =
      route.outbound settings ws ++ route.outbound settings later := List.flatMap_append ..

theorem outbound_cons (w : Waypoint) (ws : List Waypoint) :
    route.outbound settings (w :: ws) =
      route.legCourse settings w ++ route.outbound settings ws := List.flatMap_cons ..

@[simp] theorem calledIn_legCourse (w : Waypoint) :
    calledIn (route.legCourse settings w) = [route.legCall settings w] := by
  unfold legCourse
  split <;> rfl

@[simp] theorem calledIn_outbound (ws : List Waypoint) :
    calledIn (route.outbound settings ws) = ws.map (route.legCall settings) := by
  induction ws with
  | nil => rfl
  | cons w ws ih => simp [outbound_cons, ih]

@[simp] theorem calledIn_homeward :
    calledIn (route.homeward settings) =
      (route.home.map (route.homeCall settings)).toList := by
  unfold homeward
  cases route.home <;> rfl

/-- The calls on the course of a flight. -/
theorem calledIn_course (ws : List Waypoint) :
    calledIn (route.course settings ws) = route.gotos settings ws := by
  simp [course, gotos]

/-- A log that the course goes on from. -/
def Partial (settings : NavigatorSettings) (route : Route) (ws : List Waypoint)
    (log : List FlightNote) : Prop :=
  ∃ note later, route.course settings ws = log ++ note :: later

theorem Partial.ne_course {log : List FlightNote} (h : route.Partial settings ws log) :
    log ≠ route.course settings ws := by
  obtain ⟨note, later, heq⟩ := h
  intro hlog
  rw [← hlog] at heq
  simpa using congrArg List.length heq

theorem Partial.le_course {log : List FlightNote} (h : route.Partial settings ws log) :
    log <+: route.course settings ws := by
  obtain ⟨note, later, heq⟩ := h
  exact ⟨note :: later, heq.symm⟩

end Route

/-- A leg of a flight that has the waypoints before it behind. -/
structure Leg.Behind (route : Route) (ws done : List Waypoint) (l : Leg) : Prop where
  route : l.route = route
  index : l.index = done.length + 1
  split : ws = done ++ l.target :: l.rest

namespace Route

/-- **Where a flight stands**: the stage of its operation, and the log that leads there. -/
inductive At (settings : NavigatorSettings) (route : Route) (ws : List Waypoint) :
    Stage → List FlightNote → Prop
  | due {l : Leg} {done : List Waypoint} (deadline : Instant) (h : l.Behind route ws done) :
    At settings route ws (.calling (.leg l) deadline) (route.outbound settings done)
  | called {l : Leg} {done : List Waypoint} (deadline : Instant) (reply : Option Reply)
    (h : l.Behind route ws done) :
    At settings route ws (.awaiting (.leg l) deadline reply)
      (route.outbound settings done ++ [.called (route.legCall settings l.target)])
  | accepted {l : Leg} {done : List Waypoint} (since : Receiver) (deadline : Instant)
    (h : l.Behind route ws done) :
    At settings route ws (.watching (.arrival l since) deadline)
      (route.outbound settings done ++
        [.called (route.legCall settings l.target), .answered (.ok ())])
  | sighted {l : Leg} {done : List Waypoint} (wake : Instant) (h : l.Behind route ws done)
    (hhover : l.target.hovers = true) :
    At settings route ws (.hovering l wake)
      (route.outbound settings done ++
        [.called (route.legCall settings l.target), .answered (.ok ()), .sighted])
  | homeDue {home : HomePosition} (deadline : Instant) (h : route.home = some home) :
    At settings route ws (.calling (.home route home) deadline) (route.outbound settings ws)
  | homeCalled {home : HomePosition} (deadline : Instant) (reply : Option Reply)
    (h : route.home = some home) :
    At settings route ws (.awaiting (.home route home) deadline reply)
      (route.outbound settings ws ++ [.called (route.homeCall settings home)])

/-- How a flight breaks off after it has made a call: the vehicle refuses the call, or does
not answer in time, or is not where it was sent in time. The last is a matter of the calls
that are watched. -/
inductive Breaks (linkCall : LinkCall) (watched : Bool) : NavFailure → List FlightNote → Prop
  | refused (e : LinkError) :
    Breaks linkCall watched (.link e) [.called linkCall, .answered (.error e)]
  | unanswered : Breaks linkCall watched .timeout [.called linkCall, .expired]
  | missed (h : watched = true) :
    Breaks linkCall watched .timeout [.called linkCall, .answered (.ok ()), .expired]

/-- **How a flight is over**: its ending, and the log that explains it. -/
inductive Over (settings : NavigatorSettings) (route : Route) (ws : List Waypoint) :
    Ending → List FlightNote → Prop
  | arrived : Over settings route ws (.outcome .arrived) (route.course settings ws)
  | cancelled {log : List FlightNote} (h : route.Partial settings ws log) :
    Over settings route ws (.outcome .cancelled) log
  | overflow {log : List FlightNote} (h : route.Partial settings ws log) :
    Over settings route ws .overflow log
  | leg {l : Leg} {done : List Waypoint} {cause : NavFailure} {part : List FlightNote}
    (h : l.Behind route ws done)
    (hpart : Breaks (route.legCall settings l.target) true cause part) :
    Over settings route ws (.outcome (.failed (l.failure cause)))
      (route.outbound settings done ++ part)
  | home {home : HomePosition} {cause : NavFailure} {part : List FlightNote}
    (h : route.home = some home) (hpart : Breaks (route.homeCall settings home) false cause part) :
    Over settings route ws (.outcome (.failed cause)) (route.outbound settings ws ++ part)

/-- A move that leads a flight on, to its next stage or to its end. -/
def Leads (settings : NavigatorSettings) (route : Route) (ws : List Waypoint) (m : Move)
    (log : List FlightNote) : Prop :=
  match m.act with
  | .enter stage | .call _ stage => At settings route ws stage log
  | .finish ending => Over settings route ws ending log

end Route

/-! ## One move -/

namespace Leg.Behind

variable {settings : NavigatorSettings} {route : Route} {ws done : List Waypoint} {l : Leg}

/-- The course from the beginning of a leg on. -/
theorem course_eq (h : l.Behind route ws done) :
    route.course settings ws = route.outbound settings done ++
      (route.legCourse settings l.target ++
        (route.outbound settings l.rest ++ route.homeward settings)) := by
  rw [Route.course, h.split, Route.outbound_append, Route.outbound_cons]
  simp only [List.append_assoc]

/-- The call of a leg is on its course. -/
theorem call_eq (h : l.Behind route ws done) :
    (Task.leg l).call settings = route.legCall settings l.target := by
  rw [Task.call, h.route, Route.legCall]

/-- A part of a leg is a part of the course. -/
theorem partial_of_legCourse (h : l.Behind route ws done) {log later : List FlightNote}
    {note : FlightNote} (hleg : route.legCourse settings l.target = log ++ note :: later) :
    route.Partial settings ws (route.outbound settings done ++ log) := by
  refine ⟨note, later ++ (route.outbound settings l.rest ++ route.homeward settings), ?_⟩
  rw [h.course_eq, hleg]
  simp only [List.append_assoc, List.cons_append]

theorem partial_due (h : l.Behind route ws done) :
    route.Partial settings ws (route.outbound settings done) := by
  have hleg : route.legCourse settings l.target = [] ++
      .called (route.legCall settings l.target) :: (.answered (.ok ()) :: .sighted ::
        if l.target.hovers then [.rested] else []) := rfl
  simpa using h.partial_of_legCourse hleg

theorem partial_called (h : l.Behind route ws done) :
    route.Partial settings ws
      (route.outbound settings done ++ [.called (route.legCall settings l.target)]) := by
  have hleg : route.legCourse settings l.target = [.called (route.legCall settings l.target)] ++
      .answered (.ok ()) :: (.sighted :: if l.target.hovers then [.rested] else []) := rfl
  exact h.partial_of_legCourse hleg

theorem partial_accepted (h : l.Behind route ws done) :
    route.Partial settings ws (route.outbound settings done ++
      [.called (route.legCall settings l.target), .answered (.ok ())]) := by
  have hleg : route.legCourse settings l.target =
      [.called (route.legCall settings l.target), .answered (.ok ())] ++
        .sighted :: (if l.target.hovers then [.rested] else []) := rfl
  exact h.partial_of_legCourse hleg

theorem partial_sighted (h : l.Behind route ws done) (hhover : l.target.hovers = true) :
    route.Partial settings ws (route.outbound settings done ++
      [.called (route.legCall settings l.target), .answered (.ok ()), .sighted]) := by
  have hleg : route.legCourse settings l.target =
      [.called (route.legCall settings l.target), .answered (.ok ()), .sighted] ++
        .rested :: [] := by
    rw [Route.legCourse, if_pos hhover]
  exact h.partial_of_legCourse hleg

/-- The waypoints behind once the leg is flown. -/
theorem outbound_flown (settings : NavigatorSettings) (done : List Waypoint) (l : Leg) :
    route.outbound settings (done ++ [l.target]) =
      route.outbound settings done ++ route.legCourse settings l.target := by
  rw [Route.outbound_append, Route.outbound_cons]
  simp [Route.outbound]

end Leg.Behind

namespace Route

variable {settings : NavigatorSettings} {route : Route} {ws done : List Waypoint}
  {stage : Stage} {log : List FlightNote} {now : Instant} {telemetry : Aggregator}

theorem partial_homeDue {home : HomePosition} (h : route.home = some home) :
    route.Partial settings ws (route.outbound settings ws) := by
  refine ⟨.called (route.homeCall settings home), [.answered (.ok ())], ?_⟩
  rw [course, homeward, h]

theorem partial_homeCalled {home : HomePosition} (h : route.home = some home) :
    route.Partial settings ws
      (route.outbound settings ws ++ [.called (route.homeCall settings home)]) := by
  refine ⟨.answered (.ok ()), [], ?_⟩
  rw [course, homeward, h]
  simp

/-- As long as a flight goes on, there is some of its course to come. -/
theorem At.le (h : At settings route ws stage log) : route.Partial settings ws log := by
  cases h with
  | due deadline h => exact h.partial_due
  | called deadline reply h => exact h.partial_called
  | accepted since deadline h => exact h.partial_accepted
  | sighted wake h hhover => exact h.partial_sighted hhover
  | homeDue deadline h => exact partial_homeDue h
  | homeCalled deadline reply h => exact partial_homeCalled h

/-- Setting out on a leg. -/
theorem leads_start {l : Leg} (h : l.Behind route ws done) :
    route.Leads settings ws (l.start settings now) (route.outbound settings done) := by
  unfold Leg.start Move.enterTimed
  cases settings.deadline? now with
  | some deadline => exact .due deadline h
  | none => exact .overflow h.partial_due

/-- Going on after a leg. -/
theorem leads_next {l : Leg} (h : l.Behind route ws done) :
    route.Leads settings ws (l.next settings now)
      (route.outbound settings done ++ route.legCourse settings l.target) := by
  rw [← Leg.Behind.outbound_flown]
  have hsplit := h.split
  cases hrest : l.rest with
  | cons target rest =>
      have hbehind : Leg.Behind route ws (done ++ [l.target])
          ⟨l.route, l.index + 1, target, rest⟩ :=
        { route := h.route
          index := by simp [h.index]
          split := by simp [hsplit, hrest] }
      simpa only [Leg.next, hrest] using leads_start hbehind
  | nil =>
      have hall : done ++ [l.target] = ws := by rw [hsplit, hrest]
      rw [hall]
      simp only [Leg.next, hrest, h.route]
      cases hhome : route.home with
      | none =>
          have harrived : Over settings route ws _ (route.course settings ws) := .arrived
          rwa [course, homeward, hhome, List.append_nil] at harrived
      | some home =>
          unfold Move.enterTimed
          cases settings.deadline? now with
          | some deadline => exact .homeDue deadline hhome
          | none => exact .overflow (partial_homeDue hhome)

/-- Going on after the arrival at a target. -/
theorem leads_arrive {l : Leg} (h : l.Behind route ws done) :
    route.Leads settings ws (l.arrive settings now) (route.outbound settings done ++
      [.called (route.legCall settings l.target), .answered (.ok ()), .sighted]) := by
  unfold Leg.arrive
  by_cases hhover : l.target.hovers = true
  · rw [if_pos hhover]
    cases l.target.hoverDuration? with
    | some pause => exact .sighted _ h hhover
    | none => exact .overflow (h.partial_sighted hhover)
  · rw [if_neg hhover]
    have hnext : route.Leads settings ws (l.next settings now) _ := leads_next h
    rwa [legCourse, if_neg hhover, List.append_nil] at hnext

/-- Going on after the call of a leg, which waits for the answer. -/
private theorem leads_called {l : Leg} {deadline : Instant} {reply : Option Reply} {m : Move}
    (h : l.Behind route ws done)
    (hm : (Stage.awaiting (.leg l) deadline reply).move settings now telemetry false = some m) :
    route.Leads settings ws m
      (route.outbound settings done ++ [.called (route.legCall settings l.target)] ++
        ((Stage.awaiting (.leg l) deadline reply).note? settings now telemetry).toList) := by
  match reply with
  | some (.ok ()) =>
      obtain rfl := Option.some.inj hm
      rw [List.append_assoc]
      exact At.accepted telemetry.subscribe deadline h
  | some (.error e) =>
      obtain rfl := Option.some.inj hm
      rw [List.append_assoc]
      exact Over.leg h (.refused e)
  | none =>
      by_cases hlate : deadline ≤ now
      · obtain rfl : _ = m := by simpa [Stage.move, hlate] using hm
        rw [Stage.note?, if_pos hlate, List.append_assoc]
        exact Over.leg h .unanswered
      · simp [Stage.move, hlate] at hm

/-- Going on after the acceptance of a leg, which waits for the arrival. -/
private theorem leads_accepted {l : Leg} {since : Receiver} {deadline : Instant} {m : Move}
    (h : l.Behind route ws done)
    (hm : (Stage.watching (.arrival l since) deadline).move settings now telemetry false =
      some m) :
    route.Leads settings ws m
      (route.outbound settings done ++
          [.called (route.legCall settings l.target), .answered (.ok ())] ++
        ((Stage.watching (.arrival l since) deadline).note? settings now telemetry).toList) := by
  by_cases hseen : (Sight.arrival l since).seen settings telemetry = true
  · obtain rfl : _ = m := by simpa [Stage.move, hseen] using hm
    rw [Stage.note?, if_pos hseen, List.append_assoc]
    exact leads_arrive h
  · by_cases hlate : deadline ≤ now
    · obtain rfl : _ = m := by simpa [Stage.move, hseen, hlate] using hm
      rw [Stage.note?, if_neg hseen, if_pos hlate, List.append_assoc]
      exact Over.leg h (.missed rfl)
    · simp [Stage.move, hseen, hlate] at hm

/-- Going on after the call home, which waits for the answer. -/
private theorem leads_homeCalled {home : HomePosition} {deadline : Instant}
    {reply : Option Reply} {m : Move} (h : route.home = some home)
    (hm : (Stage.awaiting (.home route home) deadline reply).move settings now telemetry false =
      some m) :
    route.Leads settings ws m
      (route.outbound settings ws ++ [.called (route.homeCall settings home)] ++
        ((Stage.awaiting (.home route home) deadline reply).note? settings now
          telemetry).toList) := by
  match reply with
  | some (.ok ()) =>
      obtain rfl := Option.some.inj hm
      have harrived : Over settings route ws _ (route.course settings ws) := .arrived
      rw [course, homeward, h] at harrived
      rw [List.append_assoc]
      exact harrived
  | some (.error e) =>
      obtain rfl := Option.some.inj hm
      rw [List.append_assoc]
      exact Over.home h (.refused e)
  | none =>
      by_cases hlate : deadline ≤ now
      · obtain rfl : _ = m := by simpa [Stage.move, hlate] using hm
        rw [Stage.note?, if_pos hlate, List.append_assoc]
        exact Over.home h .unanswered
      · simp [Stage.move, hlate] at hm

/-- **One move of a flight.** It leads on to the next stage or to the end, as what the
operation takes note of says. -/
theorem At.move {cancelled : Bool} {m : Move} (h : At settings route ws stage log)
    (hm : stage.move settings now telemetry cancelled = some m) :
    route.Leads settings ws m (log ++
      if cancelled then [] else (stage.note? settings now telemetry).toList) := by
  by_cases hcancelled : cancelled = true
  · have hfinish : m = .finish .cancelled := by
      cases h <;> simpa [Stage.move, hcancelled] using hm.symm
    rw [hfinish, if_pos hcancelled, List.append_nil]
    exact Over.cancelled h.le
  · rw [Bool.not_eq_true] at hcancelled
    subst hcancelled
    rw [if_neg Bool.false_ne_true]
    cases h with
    | due deadline h =>
        obtain rfl := Option.some.inj hm
        rw [Stage.note?, h.call_eq]
        exact At.called deadline none h
    | called deadline reply h => exact leads_called h hm
    | accepted since deadline h => exact leads_accepted h hm
    | sighted wake h hhover =>
        by_cases hlate : wake ≤ now
        · obtain rfl : _ = m := by simpa [Stage.move, hlate] using hm
          have hnext : route.Leads settings ws (Leg.next settings now _) _ := leads_next h
          rw [legCourse, if_pos hhover] at hnext
          rw [Stage.note?, if_pos hlate, List.append_assoc]
          exact hnext
        · simp [Stage.move, hlate] at hm
    | homeDue deadline h =>
        obtain rfl := Option.some.inj hm
        exact At.homeCalled deadline none h
    | homeCalled deadline reply h => exact leads_homeCalled h hm

end Route

/-! ## The calls of a log -/

/-- A move makes the call that its stage takes note of, and no other. -/
theorem Stage.move_call {settings : NavigatorSettings} {now : Instant} {telemetry : Aggregator}
    {cancelled : Bool} {stage : Stage} {m : Move}
    (hm : stage.move settings now telemetry cancelled = some m) :
    m.act.call?.toList =
      calledIn (if cancelled then [] else (stage.note? settings now telemetry).toList) := by
  cases moves_of_move hm with
  | begins cancelled request =>
      rw [Act.call?_of_isOnward (Request.begin_isOnward _ _ _ _)]
      cases cancelled <;> rfl
  | accepted task deadline =>
      rw [Act.call?_of_isOnward (Task.accepted_isOnward _ _ _)]
      rfl
  | unanswered task deadline hlate =>
      simp [note?, hlate, calledIn, FlightNote.call?, Move.fail, Move.finish, Act.call?]
  | sees sight deadline hseen =>
      rw [Act.call?_of_isOnward (Sight.followUp_isOnward _ _ _ _ _)]
      simp [note?, hseen, calledIn, FlightNote.call?]
  | unseen sight deadline hunseen hlate =>
      simp [note?, hunseen, hlate, calledIn, FlightNote.call?, Move.fail, Move.finish, Act.call?]
  | hovers l wake hlate =>
      rw [Act.call?_of_isOnward (Leg.next_isOnward _ _ _)]
      simp [note?, hlate, calledIn, FlightNote.call?]
  | _ => rfl

/-- A stage that has to wait takes note of nothing. -/
theorem Stage.note_of_waits {settings : NavigatorSettings} {now : Instant}
    {telemetry : Aggregator} {cancelled : Bool} {stage : Stage}
    (hm : stage.move settings now telemetry cancelled = none) :
    (if cancelled then [] else (stage.note? settings now telemetry).toList) = [] := by
  cases cancelled with
  | true => rfl
  | false =>
      cases stage with
      | begun request => rfl
      | calling task deadline => cases hm
      | awaiting task deadline reply =>
          match reply with
          | some (.ok _) => cases hm
          | some (.error e) => cases hm
          | none => grind [Stage.move, Stage.note?]
      | watching sight deadline => grind [Stage.move, Stage.note?]
      | hovering l wake => grind [Stage.move, Stage.note?]

/-- An operation takes note of nothing before it is planned. -/
theorem ActiveOperation.isUnderWay_of_notes {settings : NavigatorSettings} {now : Instant}
    {telemetry : Aggregator} {op : ActiveOperation} {e : Session.Event}
    (h : op.notes settings now telemetry e ≠ []) : op.stage.isUnderWay = true := by
  obtain ⟨id, cancelled, stage⟩ := op
  cases stage with
  | begun request => cases e <;> cases cancelled <;> exact absurd rfl h
  | _ => rfl

/-- The calls of an operation are those it takes note of. -/
theorem ActiveOperation.callsOf_react (settings : NavigatorSettings) (now : Instant)
    (telemetry : Aggregator) (op : ActiveOperation) (e : Session.Event) :
    callsOf op.id (op.react settings now telemetry e).2 =
      calledIn (op.notes settings now telemetry e) := by
  cases e with
  | move =>
      cases hm : op.stage.move settings now telemetry op.cancelled with
      | none => simp [react, notes, hm, Stage.note_of_waits hm]
      | some m => rw [react_move hm, Navigator.callsOf_carryOut, notes, Stage.move_call hm]
  | abandon id =>
      simp only [react, notes]
      split
      · grind [Navigator.dropped, callsOf, NavigatorAct.callOf?, calledIn]
      · rfl
  | _ => rfl

namespace Session

variable {s : Session} {es later : List Event}

theorem callsOf_step (s : Session) (id : Nat) (e : Event) :
    callsOf id (s.step e).2 = calledIn (s.notes id e) := by
  cases h : s.navigator.active with
  | none =>
      rw [callsOf_step_of_idle h, notes, h]
      rfl
  | some op =>
      by_cases hid : op.id = id
      · subst hid
        rw [(step_running h e).2, ActiveOperation.callsOf_react, notes, h]
        simp
      · rw [callsOf_eq_nil (actsOf_step_of_ne h hid e), notes, h]
        simp [hid]

/-- **The calls of an operation are those in its log.** -/
theorem callsOf_acts (s : Session) (id : Nat) (es : List Event) :
    callsOf id (s.acts es) = calledIn (s.log id es) := by
  induction es generalizing s with
  | nil => rfl
  | cons e es ih => rw [acts_cons, callsOf_append, log, calledIn_append, callsOf_step, ih]

theorem log_append (s : Session) (id : Nat) (es later : List Event) :
    s.log id (es ++ later) = s.log id es ++ (s.after es).log id later := by
  induction es generalizing s with
  | nil => rfl
  | cons e es ih => rw [List.cons_append, log, log, ih, List.append_assoc, after_cons]

theorem log_of_absent {id : Nat} (h : s.Absent id es) : s.log id es = [] := by
  induction es generalizing s with
  | nil => rfl
  | cons e es ih =>
      rw [log, ih h.step, List.append_nil]
      unfold notes
      split
      · rename_i op hop
        refine if_neg fun hid => h.1 ?_
        simp [roster, hop, hid]
      · rfl

end Session

/-! ## A flight from stage to stage -/

namespace Route

variable {settings : NavigatorSettings} {route : Route} {ws : List Waypoint}
  {log : List FlightNote} {now : Instant} {telemetry : Aggregator}

theorem At.hear {op : ActiveOperation} (h : At settings route ws op.stage log)
    (e : Session.Event) : At settings route ws (op.hear e).stage log := by
  cases e with
  | answer reply =>
      simp only [ActiveOperation.hear]
      split
      · rename_i task deadline hstage
        rw [hstage] at h
        cases h with
        | called deadline reply h => exact .called _ _ h
        | homeCalled deadline reply h => exact .homeCalled _ _ h
      · exact h
  | _ => exact h

/-- The state of a flight after some of its log, or its end. -/
def Stands (settings : NavigatorSettings) (route : Route) (ws : List Waypoint)
    (endings : List Ending) (log : List FlightNote) : Prop :=
  (endings = [] ∧ ∃ stage, At settings route ws stage log) ∨
    ∃ ending, endings = [ending] ∧ Over settings route ws ending log

/-- What a reaction to an event makes of a flight: it goes on, at a stage that its log leads
to, or it has left the navigator, abandoned on its way or at its end. -/
def GoesOn (settings : NavigatorSettings) (route : Route) (ws : List Waypoint) (id : Nat)
    (reaction : Option ActiveOperation × List NavigatorAct) (log : List FlightNote) : Prop :=
  (∃ next, reaction.1 = some next ∧ endingsOf id reaction.2 = [] ∧
    At settings route ws next.stage log) ∨
  (reaction.1 = none ∧ route.Stands settings ws (endingsOf id reaction.2) log)

/-- A move that leads a flight on makes it go on. -/
theorem Leads.goesOn {op : ActiveOperation} {m : Move} (h : route.Leads settings ws m log)
    (hm : op.stage.move settings now telemetry op.cancelled = some m) :
    route.GoesOn settings ws op.id (op.react settings now telemetry .move) log := by
  rw [GoesOn, ActiveOperation.react_move hm, Navigator.endingsOf_carryOut]
  cases hact : m.act with
  | enter stage =>
      simp only [Leads, hact] at h
      exact .inl ⟨{ op with stage := stage }, rfl, rfl, h⟩
  | call linkCall stage =>
      simp only [Leads, hact] at h
      exact .inl ⟨{ op with stage := stage }, rfl, rfl, h⟩
  | finish ending =>
      simp only [Leads, hact] at h
      exact .inr ⟨rfl, .inr ⟨ending, rfl, h⟩⟩

/-- **What an event does to a flight.** Its log grows by what it takes note of. -/
theorem At.goesOn {op : ActiveOperation} (h : At settings route ws op.stage log)
    (now : Instant) (telemetry : Aggregator) (e : Session.Event) :
    route.GoesOn settings ws op.id (op.react settings now telemetry e)
      (log ++ op.notes settings now telemetry e) := by
  cases e with
  | move =>
      cases hm : op.stage.move settings now telemetry op.cancelled with
      | none =>
          refine .inl ⟨op, by simp [ActiveOperation.react, hm], ?_, ?_⟩
          · simp [ActiveOperation.react, hm]
          · rw [ActiveOperation.notes, Stage.note_of_waits hm, List.append_nil]
            exact h
      | some m => exact (h.move hm).goesOn hm
  | abandon id =>
      by_cases hid : id = op.id
      · refine .inr ⟨by simp [ActiveOperation.react, hid], .inl ⟨?_, op.stage, ?_⟩⟩
        · grind [ActiveOperation.react, Navigator.dropped, endingsOf, NavigatorAct.endingOf?]
        · simpa [ActiveOperation.notes] using h
      · refine .inl ⟨op, by simp [ActiveOperation.react, hid], ?_, ?_⟩
        · simp [ActiveOperation.react, hid]
        · simpa [ActiveOperation.notes] using h
  | _ =>
      refine .inl ⟨op.hear _, rfl, rfl, ?_⟩
      change At settings route ws _ (log ++ [])
      rw [List.append_nil]
      exact h.hear _

end Route

namespace Session

variable {s : Session} {op : ActiveOperation} {es : List Event} {route : Route}
  {ws : List Waypoint} {log : List FlightNote}

/-- A flight that goes on after an event goes on in the run that follows. -/
private theorem stands_of_goesOn {e : Event} (hd : s.Distinct (e :: es))
    (h : s.navigator.active = some op)
    (hgoes : route.GoesOn s.navigator.settings ws op.id
      (op.react s.navigator.settings s.now s.telemetry e) log)
    (hrest : ∀ next, (s.step e).1.navigator.active = some next →
      Route.At s.navigator.settings route ws next.stage log →
      route.Stands s.navigator.settings ws (endingsOf next.id ((s.step e).1.acts es))
        (log ++ (s.step e).1.log next.id es)) :
    route.Stands s.navigator.settings ws (endingsOf op.id (s.acts (e :: es)))
      (log ++ (s.step e).1.log op.id es) := by
  have hstep := step_running h e
  rw [acts_cons, endingsOf_append, hstep.2]
  rcases hgoes with ⟨next, hnext, hend, hat⟩ | ⟨hnone, hstands⟩
  · have hlater := hrest next (hstep.1.trans hnext) hat
    rw [ActiveOperation.react_id hnext] at hlater
    rw [hend]
    exact hlater
  · have habsent := absent_of_left hd h hnone
    rw [endingsOf_eq_nil (actsOf_of_absent habsent), log_of_absent habsent, List.append_nil,
      List.append_nil]
    exact hstands

/-- **A flight, whatever reaches the session.** Its log follows its course as far as it
gets, and tells how it ends. -/
theorem flight_log (hd : s.Distinct es) (h : s.navigator.active = some op)
    (hat : Route.At s.navigator.settings route ws op.stage log) :
    route.Stands s.navigator.settings ws (endingsOf op.id (s.acts es))
      (log ++ s.log op.id es) := by
  induction es generalizing s op log with
  | nil =>
      rw [Session.log, List.append_nil]
      exact .inl ⟨rfl, op.stage, hat⟩
  | cons e es ih =>
      have hnotes : s.notes op.id e = op.notes s.navigator.settings s.now s.telemetry e := by
        simp [notes, h]
      rw [Session.log, hnotes, ← List.append_assoc]
      refine stands_of_goesOn hd h (hat.goesOn s.now s.telemetry e) fun next hnext hat' => ?_
      rw [← step_settings s e] at hat' ⊢
      exact ih hd.step hnext hat'

/-- A flight from its planning on. -/
theorem flight_planned {m : Move} (hd : s.Distinct (Event.move :: es))
    (h : s.navigator.active = some op)
    (hm : op.stage.move s.navigator.settings s.now s.telemetry op.cancelled = some m)
    (hleads : route.Leads s.navigator.settings ws m []) :
    route.Stands s.navigator.settings ws (endingsOf op.id (s.acts (Event.move :: es)))
      ((s.step .move).1.log op.id es) := by
  refine stands_of_goesOn hd h (hleads.goesOn hm) fun next hnext hat => ?_
  rw [← step_settings s .move] at hat ⊢
  exact flight_log hd.step hnext hat

/-- An operation that is still to be planned has an empty log and has not ended. -/
theorem log_of_begun {later : List Event} {r : Request} (hd : s.Distinct (es ++ later))
    (h : (s.after es).navigator.active = some op) (hstage : op.stage = .begun r) :
    s.log op.id es = [] ∧ endingsOf op.id (s.acts es) = [] := by
  constructor
  · induction es generalizing s with
    | nil => rfl
    | cons e es ih =>
        rw [log, ih hd.step h, List.append_nil]
        refine Classical.byContradiction fun hnotes => ?_
        have hreached : s.Reached (·.stage.isUnderWay = true) op.id (e :: es ++ later) := by
          unfold notes at hnotes
          split at hnotes
          · rename_i current hcurrent
            split at hnotes
            · rename_i hid
              exact .inl ⟨current, hcurrent, hid, ActiveOperation.isUnderWay_of_notes hnotes⟩
            · exact absurd rfl hnotes
          · exact absurd rfl hnotes
        have hend := hreached.after ActiveOperation.lasting_isUnderWay hd
        simpa [hstage, Stage.isUnderWay] using hend.of_active h
  · refine Classical.byContradiction fun hended => ?_
    exact (absent_of_ended hd hended).1 (by simp [roster, h])

end Session

end GroundStation
