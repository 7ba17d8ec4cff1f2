import GroundStation.Proofs.Navigation.Acts

/-!
# A flight of one leg, as a mission

A flight to one waypoint and a mission that consists of that waypoint are planned by
two different requests. This module follows the two side by side: `Stage.inMission` is
where the mission stands when the flight stands at a stage, and `Stage.Alone` says how
the flight may stand after so many link calls.

The two differ in what they tell of a failure of the outbound leg, because the vehicle
refuses it or because it is not flown in time: the mission says that it was leg one that
failed (`NavFailure.inMission`).

## Main results

* `Stage.Alone.move`: the mission makes the move that the flight makes, or waits with it.
* `Stage.Alone.outbound_iff`: a flight that fails has made one call just when it is on its
  outbound leg.
* `ActiveOperation.react_inMission`: at every event the mission does what the flight does.
-/

namespace GroundStation

/-! ## What a mission tells of the outbound leg -/

/-- A failure as a mission of one waypoint tells it after so many link calls. Between
its first call and its second the vehicle is on the outbound leg. -/
def NavFailure.inMission (calls : Nat) (cause : NavFailure) : NavFailure :=
  match cause with
  | .link _ | .timeout => if calls = 1 then .leg 1 cause else cause
  | _ => cause

/-- An outcome as a mission of one waypoint tells it. -/
def Outcome.inMission (calls : Nat) : Outcome → Outcome
  | .failed cause => .failed (cause.inMission calls)
  | o => o

/-- An ending as a mission of one waypoint tells it. -/
def Ending.inMission (calls : Nat) : Ending → Ending
  | .outcome o => .outcome (o.inMission calls)
  | .overflow => .overflow

/-- What ends a flight, as a mission of one waypoint does it. -/
def NavigatorAct.inMission (calls : Nat) : NavigatorAct → NavigatorAct
  | .shows (.done outcome) => .shows (.done (outcome.inMission calls))
  | .ends id ending => .ends id (ending.inMission calls)
  | act => act

/-- What is done at one event, as it is when an operation is a mission of one waypoint:
only what is done at its end is different. -/
def toldInMission (id calls : Nat) (acts : List NavigatorAct) : List NavigatorAct :=
  if (endingsOf id acts).isEmpty then acts else acts.map (NavigatorAct.inMission calls)

@[simp] theorem toldInMission_nil (id calls : Nat) : toldInMission id calls [] = [] := rfl

theorem toldInMission_of_endings {id : Nat} {acts : List NavigatorAct} (calls : Nat)
    (h : endingsOf id acts = []) : toldInMission id calls acts = acts := by
  simp [toldInMission, h]

/-! ## The flight and the mission, stage by stage -/

/-- The mission that consists of the waypoint of a flight. -/
def Request.inMission (name : String) : Request → Request
  | .goto target returnToStart => .mission ⟨name, [target], returnToStart⟩
  | request => request

/-- The route of a mission, whose legs are numbered. -/
def Route.inMission (route : Route) : Route := { route with numbered := true }

/-- The leg of a mission. -/
def Leg.inMission (l : Leg) : Leg := { l with route := l.route.inMission }

/-- The task of a mission. -/
def Task.inMission : Task → Task
  | .leg l => .leg l.inMission
  | .home route start => .home route.inMission start
  | task => task

/-- What a mission looks for. -/
def Sight.inMission : Sight → Sight
  | .arrival l since => .arrival l.inMission since
  | sight => sight

/-- Where a mission stands when the flight to its waypoint stands at a stage. -/
def Stage.inMission (name : String) : Stage → Stage
  | .begun request => .begun (request.inMission name)
  | .calling task deadline => .calling task.inMission deadline
  | .awaiting task deadline reply => .awaiting task.inMission deadline reply
  | .watching sight deadline => .watching sight.inMission deadline
  | .hovering l wake => .hovering l.inMission wake

/-- What a mission does when the flight to its waypoint does something. -/
def Act.inMission (name : String) (calls : Nat) : Act → Act
  | .enter stage => .enter (stage.inMission name)
  | .call linkCall stage => .call linkCall (stage.inMission name)
  | .finish ending => .finish (ending.inMission calls)

/-- The move of a mission when the flight to its waypoint makes a move. -/
def Move.inMission (name : String) (calls : Nat) (m : Move) : Move :=
  ⟨m.shows, m.act.inMission name calls⟩

/-- The only leg of a flight to one waypoint. -/
structure Leg.IsAlone (l : Leg) : Prop where
  unnumbered : l.route.numbered = false
  first : l.index = 1
  last : l.rest = []

/-- The stages of a flight to one waypoint, with the link calls made so far. -/
inductive Stage.Alone : Nat → Stage → Prop
  | begun (target : Waypoint) (returnToStart : Bool) :
      Alone 0 (.begun (.goto target returnToStart))
  | setsOut {l : Leg} (h : l.IsAlone) (deadline : Instant) : Alone 0 (.calling (.leg l) deadline)
  | flies {l : Leg} (h : l.IsAlone) (deadline : Instant) (reply : Option Reply) :
      Alone 1 (.awaiting (.leg l) deadline reply)
  | nears {l : Leg} (h : l.IsAlone) (since : Receiver) (deadline : Instant) :
      Alone 1 (.watching (.arrival l since) deadline)
  | hovers {l : Leg} (h : l.IsAlone) (wake : Instant) : Alone 1 (.hovering l wake)
  | turns (route : Route) (home : HomePosition) (deadline : Instant) :
      Alone 1 (.calling (.home route home) deadline)
  | returns (route : Route) (home : HomePosition) (deadline : Instant) (reply : Option Reply) :
      Alone 2 (.awaiting (.home route home) deadline reply)

/-- An act of a flight to one waypoint after so many calls. -/
def Act.Alone (calls : Nat) : Act → Prop
  | .enter stage => stage.Alone calls
  | .call _ stage => stage.Alone (calls + 1)
  | .finish _ => True

/-- A move of a flight to one waypoint. Before its end it shows no outcome. -/
structure Move.Alone (calls : Nat) (m : Move) : Prop where
  shows : ∀ outcome, m.shows ≠ some (.done outcome)
  act : m.act.Alone calls

/-- Two moves, one of a flight to one waypoint and one of its mission, that go together. -/
def Move.Matches (name : String) (calls : Nat) (flight mission : Move) : Prop :=
  mission = flight.inMission name calls ∧ flight.Alone calls

section Moves

variable {settings : NavigatorSettings} {now : Instant} {telemetry : Aggregator} {name : String}
  {calls : Nat}

theorem Move.matches_finish (outcome : Outcome) :
    (Move.finish outcome).Matches name calls (.finish (outcome.inMission calls)) :=
  ⟨rfl, nofun, trivial⟩

theorem Move.matches_enter {stage : Stage} (h : stage.Alone calls) :
    (Move.enter stage).Matches name calls (.enter (stage.inMission name)) :=
  ⟨rfl, nofun, h⟩

theorem Move.matches_enterTimed {shows : NavState} {stage : Instant → Stage}
    (hshows : ∀ o, shows ≠ .done o) (h : ∀ deadline, (stage deadline).Alone calls) :
    (Move.enterTimed settings now (some shows) stage).Matches name calls
      (.enterTimed settings now (some shows) fun deadline => (stage deadline).inMission name) := by
  have hnone : ∀ o, some shows ≠ some (NavState.done o) := fun o hsome =>
    hshows o (Option.some.inj hsome)
  unfold Move.enterTimed
  cases settings.deadline? now with
  | none => exact ⟨rfl, hnone, trivial⟩
  | some deadline => exact ⟨rfl, hnone, h deadline⟩

variable {l : Leg}

/-- The outbound leg is called the same. -/
theorem Leg.IsAlone.start (h : l.IsAlone) :
    (l.start settings now).Matches name 0 (l.inMission.start settings now) := by
  have hshows : ∀ o, NavState.enRoute l.index ≠ .done o := nofun
  exact Move.matches_enterTimed hshows fun deadline => .setsOut h deadline

/-- Nothing but the way home follows the outbound leg. -/
theorem Leg.IsAlone.next (h : l.IsAlone) :
    (l.next settings now).Matches name 1 (l.inMission.next settings now) := by
  unfold Leg.next
  rw [show l.inMission.rest = [] from h.last, h.last]
  cases hhome : l.route.home with
  | none =>
      rw [show l.inMission.route.home = none from hhome]
      exact Move.matches_finish .arrived
  | some home =>
      rw [show l.inMission.route.home = some home from hhome]
      exact Move.matches_enterTimed nofun fun deadline => .turns l.route home deadline

theorem Leg.IsAlone.arrive (h : l.IsAlone) :
    (l.arrive settings now).Matches name 1 (l.inMission.arrive settings now) := by
  unfold Leg.arrive
  by_cases hhovers : l.target.hovers = true
  · rw [if_pos hhovers, if_pos (show l.inMission.target.hovers = true from hhovers)]
    rw [show l.inMission.target = l.target from rfl]
    cases l.target.hoverDuration? with
    | none => exact ⟨rfl, nofun, trivial⟩
    | some pause => exact ⟨rfl, nofun, .hovers h _⟩
  · rw [if_neg hhovers, if_neg (show ¬ l.inMission.target.hovers = true from hhovers)]
    exact h.next

/-- On the outbound leg a failure is told with its number. -/
theorem Leg.IsAlone.failure (h : l.IsAlone) {cause : NavFailure}
    (hcause : cause.inMission 1 = .leg 1 cause) :
    (Move.fail (l.failure cause)).Matches name 1 (.fail (l.inMission.failure cause)) := by
  have hflight : l.failure cause = cause := by simp [Leg.failure, h.unnumbered]
  have hmission : l.inMission.failure cause = cause.inMission 1 := by
    simp [Leg.failure, Leg.inMission, Route.inMission, h.first, hcause]
  rw [hflight, hmission]
  exact Move.matches_finish (.failed cause)

/-- The two requests are planned the same. -/
theorem Request.matches_begin (target : Waypoint) (returnToStart : Bool) :
    ((Request.goto target returnToStart).begin settings now telemetry).Matches name 0
      ((Request.mission ⟨name, [target], returnToStart⟩).begin settings now telemetry) := by
  unfold Request.begin
  cases telemetry.latest with
  | none => exact Move.matches_finish (.failed .notReady)
  | some sample => exact Leg.IsAlone.start ⟨rfl, rfl, rfl⟩

/-- **The mission makes the move of the flight**, and waits when the flight waits. -/
theorem Stage.Alone.move {stage : Stage} (h : stage.Alone calls) (cancelled : Bool) :
    Option.Rel (Move.Matches name calls) (stage.move settings now telemetry cancelled)
      ((stage.inMission name).move settings now telemetry cancelled) := by
  cases cancelled with
  | true =>
      -- a cancellation is told the same at every stage but the planning, which it does not reach
      cases h with
      | begun target returnToStart => exact .some (Request.matches_begin target returnToStart)
      | _ => exact .some (Move.matches_finish .cancelled)
  | false =>
      cases h with
      | begun target returnToStart => exact .some (Request.matches_begin target returnToStart)
      | setsOut hl deadline => exact .some ⟨rfl, nofun, .flies hl deadline none⟩
      | turns route home deadline => exact .some ⟨rfl, nofun, .returns route home deadline none⟩
      | hovers hl wake =>
          simp only [Stage.move, Stage.inMission, Bool.false_eq_true, if_false]
          split
          · exact .some hl.next
          · exact .none
      | @nears l hl since deadline =>
          simp only [Stage.move, Stage.inMission, Sight.inMission, Bool.false_eq_true, if_false]
          rw [show (Sight.arrival l.inMission since).seen settings telemetry =
            (Sight.arrival l since).seen settings telemetry from rfl]
          split
          · exact .some hl.arrive
          · split
            · exact .some (hl.failure rfl)
            · exact .none
      | flies hl deadline reply =>
          cases reply with
          | some answer =>
              cases answer with
              | ok => exact .some (Move.matches_enter (.nears hl telemetry.subscribe deadline))
              | error e => exact .some (hl.failure rfl)
          | none =>
              simp only [Stage.move, Stage.inMission, Task.inMission, Bool.false_eq_true, if_false]
              split
              · exact .some (hl.failure rfl)
              · exact .none
      | returns route home deadline reply =>
          cases reply with
          | some answer =>
              cases answer with
              | ok => exact .some (Move.matches_finish .arrived)
              | error e => exact .some (Move.matches_finish (.failed (.link e)))
          | none =>
              simp only [Stage.move, Stage.inMission, Task.inMission, Bool.false_eq_true, if_false]
              split
              · exact .some (Move.matches_finish (.failed .timeout))
              · exact .none

/-- What the flight to one waypoint moves to. -/
theorem Stage.Alone.alone_of_move {stage : Stage} {cancelled : Bool} {m : Move}
    (h : stage.Alone calls) (hm : stage.move settings now telemetry cancelled = some m) :
    m.Alone calls := by
  have hmoves : Option.Rel (Move.Matches "" calls)
      (stage.move settings now telemetry cancelled)
      ((stage.inMission "").move settings now telemetry cancelled) := h.move cancelled
  rw [hm] at hmoves
  generalize (stage.inMission "").move settings now telemetry cancelled = mission at hmoves
  cases hmoves with
  | some hmatches => exact hmatches.2

/-- A flight that fails has made exactly one call just when it is on its outbound leg:
between the call of that leg and the arrival at its target. -/
theorem Stage.Alone.outbound_iff {stage : Stage} {cancelled : Bool} {m : Move}
    {cause : NavFailure} (h : stage.Alone calls)
    (hm : stage.move settings now telemetry cancelled = some m)
    (hact : m.act = .finish (.outcome (.failed cause))) :
    calls = 1 ↔ (∃ l deadline reply, stage = .awaiting (.leg l) deadline reply) ∨
      ∃ l since deadline, stage = .watching (.arrival l since) deadline := by
  cases h with
  | begun target returnToStart => simp
  | setsOut hl deadline => simp
  | flies hl deadline reply => simp
  | nears hl since deadline => simp
  | returns route home deadline reply => simp
  | turns route home deadline =>
      -- a call that is due does not fail
      cases cancelled <;> cases hm <;> cases hact
  | @hovers l hl wake =>
      -- neither does a pause, nor what follows it
      have hnext : (l.next settings now).act ≠ .finish (.outcome (.failed cause)) := by
        intro hfails
        unfold Leg.next Move.enterTimed at hfails
        rw [hl.last] at hfails
        dsimp only at hfails
        repeat' split at hfails
        all_goals cases hfails
      cases cancelled with
      | true => cases hm; cases hact
      | false =>
          simp only [Stage.move, Bool.false_eq_true, if_false] at hm
          split at hm
          · exact absurd hact (Option.some.inj hm ▸ hnext)
          · cases hm

end Moves

/-- The running operation, when it is a mission instead of a flight. -/
def ActiveOperation.inMission (name : String) (op : ActiveOperation) : ActiveOperation :=
  { op with stage := op.stage.inMission name }

@[simp] theorem ActiveOperation.inMission_id (name : String) (op : ActiveOperation) :
    (op.inMission name).id = op.id := rfl

theorem ActiveOperation.dropped_inMission (name : String) (op : ActiveOperation) :
    Navigator.dropped (op.inMission name) = Navigator.dropped op := by
  have hwaits : (op.stage.inMission name).isAwaiting = op.stage.isAwaiting := by
    cases op.stage with
    | awaiting task deadline reply => cases reply <;> rfl
    | _ => rfl
  simp only [Navigator.dropped, ActiveOperation.inMission, hwaits]

/-- What goes together is carried out the same, but for what is told at the end. -/
theorem Move.Matches.acts {name : String} {calls : Nat} {flight mission : Move}
    (h : flight.Matches name calls mission) (n : Navigator) (op : ActiveOperation) :
    (n.carryOut (op.inMission name) mission).2 =
      toldInMission op.id calls (n.carryOut op flight).2 := by
  obtain ⟨rfl, hshows, -⟩ := h
  have hstates : (flight.shows.toList.map NavigatorAct.shows).map (NavigatorAct.inMission calls) =
      flight.shows.toList.map NavigatorAct.shows := by
    cases hstate : flight.shows with
    | none => rfl
    | some state =>
        cases state with
        | done o => exact absurd hstate (hshows o)
        | _ => rfl
  have hdropped : (Navigator.dropped op).map (NavigatorAct.inMission calls) =
      Navigator.dropped op := by
    unfold Navigator.dropped
    split <;> rfl
  have hends := Navigator.endingsOf_carryOut n op flight
  cases hact : flight.act with
  | enter stage =>
      rw [hact] at hends
      rw [toldInMission_of_endings calls hends]
      simp only [Navigator.carryOut, Move.inMission, hact, Act.inMission]
  | call linkCall stage =>
      rw [hact] at hends
      rw [toldInMission_of_endings calls hends]
      simp only [Navigator.carryOut, Move.inMission, hact, Act.inMission]
      rfl
  | finish ending =>
      rw [hact] at hends
      rw [toldInMission, hends]
      cases ending with
      | overflow =>
          simp only [Navigator.carryOut, Move.inMission, hact, Act.inMission, Ending.inMission,
            ActiveOperation.dropped_inMission, List.map_append, hstates, hdropped]
          rfl
      | outcome o =>
          simp only [Navigator.carryOut, Move.inMission, hact, Act.inMission, Ending.inMission,
            ActiveOperation.dropped_inMission, List.map_append, hstates, hdropped]
          rfl

/-- What is heard between two moves changes neither the flight nor its calls. -/
theorem ActiveOperation.alone_hear {op : ActiveOperation} {calls : Nat}
    (h : op.stage.Alone calls) (e : Session.Event) : (op.hear e).stage.Alone calls := by
  cases e with
  | answer reply =>
      obtain ⟨id, cancelled, stage⟩ := op
      have hkept := h
      cases h with
      | flies hl deadline old => cases old <;> exact .flies hl deadline _
      | returns route home deadline old => cases old <;> exact .returns route home deadline _
      | _ => exact hkept
  | _ => exact h

theorem ActiveOperation.hear_inMission (name : String) (op : ActiveOperation)
    (e : Session.Event) : (op.inMission name).hear e = (op.hear e).inMission name := by
  cases e with
  | answer reply =>
      obtain ⟨id, cancelled, stage⟩ := op
      cases stage with
      | awaiting task deadline old => cases old <;> rfl
      | _ => rfl
  | _ => rfl

section React

variable {settings : NavigatorSettings} {now : Instant} {telemetry : Aggregator}
  {op next : ActiveOperation} {calls : Nat} {e : Session.Event}

/-- **At every event the mission does what the flight does.** -/
theorem ActiveOperation.react_inMission (name : String) (h : op.stage.Alone calls)
    (e : Session.Event) :
    (op.inMission name).react settings now telemetry e =
      ((op.react settings now telemetry e).1.map (·.inMission name),
        toldInMission op.id calls (op.react settings now telemetry e).2) := by
  cases e with
  | move =>
      have hmoves : Option.Rel (Move.Matches name calls)
          (op.stage.move settings now telemetry op.cancelled)
          ((op.inMission name).stage.move settings now telemetry (op.inMission name).cancelled) :=
        h.move op.cancelled
      generalize hflight : op.stage.move settings now telemetry op.cancelled = flight at hmoves
      generalize hmission : (op.inMission name).stage.move settings now telemetry
        (op.inMission name).cancelled = mission at hmoves
      cases hmoves with
      | none => simp [react, hflight, hmission]
      | @some flight mission hm =>
          rw [react_move hflight, react_move hmission, hm.acts]
          obtain ⟨rfl, -⟩ := hm
          cases hact : flight.act <;> simp [Move.inMission, Act.inMission, Act.stage?, hact] <;> rfl
  | abandon owner =>
      have hdropped : toldInMission op.id calls (Navigator.dropped op) =
          Navigator.dropped op :=
        toldInMission_of_endings calls (Navigator.endingsOf_dropped op.id op)
      by_cases howner : owner = op.id
      · simp [react, howner, dropped_inMission, hdropped]
      · simp [react, howner]
  | _ =>
      simp only [react, hear_inMission, Option.map_some]
      rfl

/-- What a flight to one waypoint goes on to. -/
theorem ActiveOperation.alone_react (h : op.stage.Alone calls)
    (hnext : (op.react settings now telemetry e).1 = some next) :
    next.stage.Alone
      (calls + (callsOf op.id (op.react settings now telemetry e).2).length) := by
  cases e with
  | move =>
      cases hflight : op.stage.move settings now telemetry op.cancelled with
      | none =>
          obtain rfl : op = next := by simpa [react, hflight] using hnext
          simpa [react, hflight] using h
      | some flight =>
          have hact := (h.alone_of_move hflight).act
          rw [react_move hflight] at hnext ⊢
          rw [Navigator.callsOf_carryOut]
          cases hflightAct : flight.act with
          | enter stage =>
              rw [hflightAct] at hact hnext
              exact Option.some.inj hnext ▸ hact
          | call linkCall stage =>
              rw [hflightAct] at hact hnext
              exact Option.some.inj hnext ▸ hact
          | finish ending =>
              rw [hflightAct] at hnext
              cases hnext
  | abandon owner =>
      simp only [react] at hnext ⊢
      by_cases howner : owner = op.id
      · rw [if_pos howner] at hnext
        cases hnext
      · rw [if_neg howner] at hnext ⊢
        exact Option.some.inj hnext ▸ h
  | _ => exact Option.some.inj hnext ▸ alone_hear h _

/-- An operation that ends at an event makes no call at it. -/
theorem ActiveOperation.callsOf_of_ends
    (h : endingsOf op.id (op.react settings now telemetry e).2 ≠ []) :
    callsOf op.id (op.react settings now telemetry e).2 = [] := by
  cases e with
  | move =>
      cases hm : op.stage.move settings now telemetry op.cancelled with
      | none => simp [react, hm]
      | some m =>
          rw [react_move hm, Navigator.endingsOf_carryOut] at h
          rw [react_move hm, Navigator.callsOf_carryOut]
          cases hact : m.act <;> simp_all [Act.ending?, Act.call?]
  | abandon owner =>
      simp only [react, Navigator.dropped]
      repeat' split
      all_goals rfl
  | _ => rfl

end React

end GroundStation
