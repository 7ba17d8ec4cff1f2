import GroundStation.Proofs.Navigation.Legs
import GroundStation.Proofs.Navigation.Progress

/-!
# What an observer sees

The states the navigator shows in a run come in blocks, one for each operation that has begun. A
block follows the display of its request (`Request.display`), as far as the operation gets, and
if the operation ends with an outcome that is shown last. Nothing else shows an outcome.

One move takes the states it shows from the front of what is still to be shown
(`Move.Displays`); so what has been shown and what is still to be shown are at any time the display
of the request, cut in two. The blocks themselves are the turns of the operations: a run has only
one list of turns (`Turn.eq_of_acts`).

For a flight the display goes along with what happens on the way: a leg is announced when the legs
before it are flown to their ends, and its call is made under that announcement.

## Main results

* `Stage.displays_of_move`: what a move shows.
* `Session.Displayed.step`, `Session.displayed_after`: the blocks, along every run.
* `Session.at_running`: where a flight stands at any point of any run.
* `Session.states_shown_in_blocks`: all of it, for every run.
-/

namespace GroundStation

/-! ## What is shown on the way -/

/-- The state that an act shows. -/
def NavigatorAct.shown? : NavigatorAct → Option NavState
  | .shows state => some state
  | _ => none

/-- The states shown among some acts, in order. -/
def shownIn (acts : List NavigatorAct) : List NavState := acts.filterMap NavigatorAct.shown?

@[simp] theorem shownIn_nil : shownIn [] = [] := rfl

@[simp] theorem shownIn_append (acts more : List NavigatorAct) :
    shownIn (acts ++ more) = shownIn acts ++ shownIn more := List.filterMap_append ..

/-- The state shown while an operation hovers at a waypoint, if it does. -/
def Waypoint.display (w : Waypoint) : List NavState := if w.hovers then [.hovering] else []

/-- What a flight shows from its leg with some number on, and on the way home if it returns. -/
def flightDisplay (returns : Bool) : Nat → List Waypoint → List NavState
  | _, [] => if returns then [.returningHome] else []
  | k, w :: rest => .enRoute k :: (w.display ++ flightDisplay returns (k + 1) rest)

/-- What an operation shows on its way to the arrival. -/
def Request.display : Request → List NavState
  | .goto target returnToStart => flightDisplay returnToStart 1 [target]
  | .mission m => flightDisplay m.returnToStart 1 m.waypoints
  | .takeoff _ => [.arming, .takingOff]
  | .land _ => [.landing]

/-- What a flight shows after a leg. -/
def Leg.display (l : Leg) : List NavState :=
  flightDisplay l.route.home.isSome (l.index + 1) l.rest

/-- What is shown after a task's call. -/
def Task.display : Task → List NavState
  | .leg l => l.target.display ++ l.display
  | .arm _ | .presetAltitude _ => [.takingOff]
  | _ => []

/-- What is shown after a sight. -/
def Sight.display : Sight → List NavState
  | .arrival l _ => l.target.display ++ l.display
  | _ => []

/-- The state shown while an operation is at a task. -/
def Task.face : Task → NavState
  | .leg l => .enRoute l.index
  | .home _ _ => .returningHome
  | .arm _ | .presetAltitude _ => .arming
  | .takeoff _ => .takingOff
  | .land _ | .disarm => .landing

/-- The state shown while an operation looks for something. -/
def Sight.face : Sight → NavState
  | .arrival l _ => .enRoute l.index
  | .climb _ _ => .takingOff
  | .touchdown _ => .landing

namespace Stage

/-- What an operation at this stage still has to show on its way to the arrival. -/
def display : Stage → List NavState
  | .begun request => request.display
  | .calling task _ | .awaiting task _ _ => task.display
  | .watching sight _ => sight.display
  | .hovering l _ => l.display

/-- The state an operation at this stage has shown last, unless it has just begun. -/
def face? : Stage → Option NavState
  | .begun _ => none
  | .calling task _ | .awaiting task _ _ => some task.face
  | .watching sight _ => some sight.face
  | .hovering _ _ => some .hovering

theorem isSome_face (stage : Stage) : stage.face?.isSome = stage.isUnderWay := by
  cases stage <;> rfl

end Stage

/-- Does an operation end this way because it could not be planned? -/
def Outcome.isRefusal : Outcome → Bool
  | .failed .notReady | .failed .emptyMission => true
  | _ => false

/-- The outcome of an ending. -/
def Ending.outcome? : Ending → Option Outcome
  | .outcome o => some o
  | .overflow => none

/-! ## What a move shows -/

/-- **What a move shows** of what is still to be shown. `face` is the state shown last, and
`refused` tells whether an end with an outcome is a refusal. -/
structure Move.Displays (ahead : List NavState) (face : Option NavState) (refused : Bool)
    (m : Move) : Prop where
  /-- A move that leads on shows the next state, or none. -/
  onward : ∀ next, m.act.stage? = some next →
    ahead = m.shows.toList ++ next.display ∧ next.face? = m.shows.or face
  /-- A move that ends with an outcome shows nothing before. -/
  outcome : ∀ o, m.act.ending? = some (.outcome o) →
    m.shows = none ∧ o.isRefusal = refused ∧ (o = .arrived → ahead = [])
  /-- Whatever is shown was to be shown next. -/
  shown : m.shows.toList <+: ahead

section Moves

variable {settings : NavigatorSettings} {now : Instant} {telemetry : Aggregator}
  {cancelled : Bool} {stage : Stage} {ahead : List NavState} {face : Option NavState}
  {refused : Bool}

/-- An end with an outcome. -/
theorem Move.displays_finish {o : Outcome} (hrefused : o.isRefusal = refused)
    (harrived : o = .arrived → ahead = []) : (finish o).Displays ahead face refused where
  onward := fun next hnext => by cases hnext
  outcome := fun o' ho' => by
    obtain rfl : o = o' := Ending.outcome.inj (Option.some.inj ho')
    exact ⟨rfl, hrefused, harrived⟩
  shown := List.nil_prefix

/-- An end that is no arrival may come at any point of the display. -/
theorem Move.displays_failed {failure : NavFailure}
    (hrefused : (Outcome.failed failure).isRefusal = refused) :
    (finish (.failed failure)).Displays ahead face refused :=
  Move.displays_finish hrefused fun h => by cases h

theorem Move.displays_cancelled : (finish .cancelled).Displays ahead face false :=
  Move.displays_finish rfl fun h => by cases h

/-- An end without one, after the next state was shown or not. -/
theorem Move.displays_overflow {shows : Option NavState} (h : shows.toList <+: ahead) :
    (Move.mk shows (.finish .overflow)).Displays ahead face refused where
  onward := fun next hnext => by cases hnext
  outcome := fun o ho => by cases ho
  shown := h

/-- A stage that is entered. -/
theorem Move.displays_enter {shows : Option NavState} {next : Stage}
    (hahead : ahead = shows.toList ++ next.display) (hface : next.face? = shows.or face) :
    (Move.mk shows (.enter next)).Displays ahead face refused where
  onward := fun next' hnext => by
    obtain rfl := Option.some.inj hnext
    exact ⟨hahead, hface⟩
  outcome := fun o ho => by cases ho
  shown := hahead ▸ List.prefix_append ..

/-- A call that is made. -/
theorem Move.displays_call {linkCall : LinkCall} {next : Stage} (hahead : ahead = next.display)
    (hface : next.face? = face) :
    (Move.mk none (.call linkCall next)).Displays ahead face refused where
  onward := fun next' hnext => by
    obtain rfl := Option.some.inj hnext
    exact ⟨hahead, hface⟩
  outcome := fun o ho => by cases ho
  shown := List.nil_prefix

/-- A stage that is entered with a time limit, under a new state. -/
theorem Move.displays_enterTimed (task : Task) (hahead : ahead = task.face :: task.display) :
    (enterTimed settings now (some task.face) (.calling task)).Displays ahead face refused := by
  unfold enterTimed
  split
  · exact displays_enter hahead rfl
  · exact displays_overflow (hahead ▸ List.prefix_append [task.face] _)

theorem Leg.displays_start (l : Leg) (hahead : ahead = .enRoute l.index :: (Task.leg l).display) :
    (l.start settings now).Displays ahead face refused :=
  Move.displays_enterTimed (.leg l) hahead

theorem Leg.displays_next (l : Leg) : (l.next settings now).Displays l.display face false := by
  unfold Leg.next
  split
  · rename_i target rest hrest
    exact displays_start _ (by rw [display, hrest]; rfl)
  · rename_i hrest
    split
    · rename_i home hhome
      exact Move.displays_enterTimed (.home l.route home) (by rw [display, hrest, hhome]; rfl)
    · rename_i hhome
      exact Move.displays_finish rfl fun _ => by rw [display, hrest, hhome]; rfl

theorem Leg.displays_arrive (l : Leg) :
    (l.arrive settings now).Displays (l.target.display ++ l.display) face false := by
  unfold Leg.arrive Waypoint.display
  split
  · split
    · exact Move.displays_enter rfl rfl
    · exact Move.displays_overflow List.nil_prefix
  · exact l.displays_next

theorem Request.displays_begin (r : Request) :
    (r.begin settings now telemetry).Displays r.display none true := by
  generalize hm : r.begin settings now telemetry = m
  cases begins_of_begin hm with
  | empty mission hws => exact Move.displays_failed rfl
  | unready _ hland hempty hlatest => exact Move.displays_failed rfl
  | goes target returnToStart sample hlatest =>
      exact Leg.displays_start _ (by cases returnToStart <;> rfl)
  | flies mission first rest sample hws hlatest =>
      refine Leg.displays_start _ ?_
      rw [display, hws]
      cases hreturns : mission.returnToStart <;> rfl
  | arms altitude sample deadline hlatest hdeadline => exact Move.displays_enter rfl rfl
  | lands disarm deadline hdeadline => exact Move.displays_enter rfl rfl
  | takeoffOverflows altitude sample hlatest hdeadline =>
      exact Move.displays_overflow List.nil_prefix
  | landingOverflows disarm hdeadline => exact Move.displays_overflow List.nil_prefix

theorem Task.displays_accepted (task : Task) (deadline : Instant) :
    (task.accepted telemetry deadline).Displays task.display (some task.face) false := by
  unfold Task.accepted
  repeat' split
  all_goals first
    | exact Move.displays_finish rfl fun _ => rfl
    | exact Move.displays_enter rfl rfl

theorem Sight.displays_followUp (sight : Sight) (deadline : Instant) :
    (sight.followUp settings now telemetry deadline).Displays sight.display (some sight.face)
      false := by
  unfold Sight.followUp
  repeat' split
  all_goals first
    | exact Leg.displays_arrive _
    | exact Move.displays_finish rfl fun _ => rfl
    | exact Move.displays_enter rfl rfl

/-- A failure on the way is no refusal. -/
theorem Task.isRefusal_failure (task : Task) {cause : NavFailure}
    (h : (Outcome.failed cause).isRefusal = false) :
    (Outcome.failed (task.failure cause)).isRefusal = false := by
  cases task with
  | leg l =>
      simp only [failure, Leg.failure]
      split
      · rfl
      · exact h
  | _ => exact h

theorem Sight.isRefusal_failure (sight : Sight) {cause : NavFailure}
    (h : (Outcome.failed cause).isRefusal = false) :
    (Outcome.failed (sight.failure cause)).isRefusal = false := by
  cases sight with
  | arrival l since => exact (Task.leg l).isRefusal_failure h
  | _ => exact h

/-- **A move shows the next of what is still to be shown.** -/
theorem Stage.displays_of_move {m : Move}
    (hm : stage.move settings now telemetry cancelled = some m) :
    m.Displays stage.display stage.face? !stage.isUnderWay := by
  cases moves_of_move hm with
  | begins _ request => exact request.displays_begin
  | cancels _ hstage => exact hstage ▸ Move.displays_cancelled
  | calls task deadline => exact Move.displays_call rfl rfl
  | accepted task deadline => exact task.displays_accepted deadline
  | refused task deadline e => exact Move.displays_failed (task.isRefusal_failure rfl)
  | unanswered task deadline hlate => exact Move.displays_failed (task.isRefusal_failure rfl)
  | sees sight deadline hseen => exact sight.displays_followUp deadline
  | unseen sight deadline hunseen hlate =>
      exact Move.displays_failed (sight.isRefusal_failure rfl)
  | hovers l wake hlate => exact l.displays_next

end Moves

/-! ## Turns are read off the acts -/

namespace Turn

/-- The acts of turns begin with a beginning, if there are any. -/
private theorem takeWhile_flatMap (turns : List Turn) :
    (turns.flatMap Turn.acts).takeWhile (fun a => a.beginning?.isNone) = [] := by
  cases turns with
  | nil => rfl
  | cons t rest => rfl

private theorem takeWhile_course {t : Turn} (h : t.IsOwn) (turns : List Turn) :
    (t.course ++ turns.flatMap Turn.acts).takeWhile (fun a => a.beginning?.isNone) =
      t.course := by
  rw [List.takeWhile_append_of_pos (fun a ha => by rw [(h a ha).onward]; rfl),
    takeWhile_flatMap, List.append_nil]

/-- **There is one way to read acts as turns.** -/
theorem eq_of_acts {xs ys : List Turn} (hx : ∀ t ∈ xs, t.IsOwn) (hy : ∀ t ∈ ys, t.IsOwn)
    (h : xs.flatMap Turn.acts = ys.flatMap Turn.acts) : xs = ys := by
  induction xs generalizing ys with
  | nil =>
      cases ys with
      | nil => rfl
      | cons y ys => cases h
  | cons x xs ih =>
      cases ys with
      | nil => cases h
      | cons y ys =>
          simp only [List.flatMap_cons, acts, List.cons_append, List.cons.injEq,
            NavigatorAct.begins.injEq] at h
          obtain ⟨hid, hrest⟩ := h
          have hcourse : x.course = y.course := by
            rw [← takeWhile_course (hx x List.mem_cons_self) xs, hrest,
              takeWhile_course (hy y List.mem_cons_self) ys]
          rw [hcourse] at hrest
          have hturns := ih (fun t ht => hx t (List.mem_cons_of_mem x ht))
            (fun t ht => hy t (List.mem_cons_of_mem y ht)) (List.append_cancel_left hrest)
          obtain ⟨xid, xcourse⟩ := x
          obtain ⟨yid, ycourse⟩ := y
          rw [hturns, show xid = yid from hid, show xcourse = ycourse from hcourse]

/-- The states that turns show. -/
theorem shownIn_flatMap (turns : List Turn) :
    shownIn (turns.flatMap Turn.acts) = turns.flatMap fun t => shownIn t.course := by
  rw [shownIn, List.filterMap_flatMap]
  rfl

/-- The end of one operation among those of all turns. -/
theorem endingsOf_flatMap {t : Turn} {turns : List Turn} (hown : ∀ t ∈ turns, t.IsOwn)
    (hids : (turns.map (·.id)).Nodup) (ht : t ∈ turns) :
    endingsOf t.id (turns.flatMap Turn.acts) = endingsOf t.id t.course := by
  refine filterMap_flatMap_acts hids ht fun o ho hne => ?_
  refine List.eq_nil_iff_forall_not_mem.mpr fun ending hending => ?_
  rcases List.mem_cons.mp (mem_endingsOf.mp hending) with hbegins | hcourse
  · cases hbegins
  · exact hne ((hown o ho _ hcourse).own t.id rfl).symm

end Turn

/-! ## Blocks -/

/-- **The block of an operation**: the states shown in its turn. It goes along a part of the
display of its request. -/
structure Turn.Block (r : Request) (t : Turn) (path : List NavState) : Prop where
  /-- The states on the way come in the order of the display. -/
  on_display : path <+: r.display
  /-- None of them is an outcome. -/
  underway : ∀ o, .done o ∉ path
  /-- If the operation ends with an outcome, that one is shown behind them. -/
  ended : ∀ o, .outcome o ∈ endingsOf t.id t.course → shownIn t.course = path ++ [.done o]
  /-- If not, nothing is. -/
  unended : (∀ o, .outcome o ∉ endingsOf t.id t.course) → shownIn t.course = path
  /-- Whoever arrives has shown everything before. -/
  arrived : .outcome .arrived ∈ endingsOf t.id t.course → path = r.display
  /-- Whoever is refused has shown nothing before. -/
  refused : ∀ o, .outcome o ∈ endingsOf t.id t.course → o.isRefusal = true → path = []
  /-- A landing that ends with an outcome has shown that it lands. -/
  landing : ∀ disarm o, r = .land disarm → .outcome o ∈ endingsOf t.id t.course →
    path = [.landing]

/-- **The block of an operation that runs**, at some stage: what has been shown, and what is still
to be shown, are the display. -/
structure Turn.Shows (r : Request) (t : Turn) (stage : Stage) : Prop where
  display : shownIn t.course ++ stage.display = r.display
  unended : endingsOf t.id t.course = []
  face : stage.face? = (shownIn t.course).getLast?
  begun : ∀ other, stage = .begun other → other = r

/-- No display has an outcome in it. -/
theorem flightDisplay_underway (returns : Bool) (k : Nat) (ws : List Waypoint) (o : Outcome) :
    .done o ∉ flightDisplay returns k ws := by
  induction ws generalizing k with
  | nil => cases returns <;> simp [flightDisplay]
  | cons w rest ih =>
      simp only [flightDisplay, Waypoint.display, List.mem_cons, List.mem_append, not_or]
      refine ⟨by simp, ?_, ih (k + 1)⟩
      split <;> simp

theorem Request.display_underway (r : Request) (o : Outcome) : .done o ∉ r.display := by
  cases r with
  | goto target returnToStart => exact flightDisplay_underway _ _ _ o
  | mission m => exact flightDisplay_underway _ _ _ o
  | _ => simp [display]

@[simp] theorem Navigator.shownIn_dropped (op : ActiveOperation) : shownIn (dropped op) = [] :=
  filterMap_dropped rfl

/-- The states that a move shows. -/
theorem Navigator.shownIn_carryOut (n : Navigator) (op : ActiveOperation) (m : Move) :
    shownIn (n.carryOut op m).2 =
      m.shows.toList ++ ((m.act.ending?.bind Ending.outcome?).map NavState.done).toList := by
  have hshown : shownIn (m.shows.toList.map NavigatorAct.shows) = m.shows.toList := by
    cases m.shows <;> rfl
  have hdone : ∀ outcome rest, shownIn (.shows (.done outcome) :: rest) =
      .done outcome :: shownIn rest := fun _ _ => rfl
  have hcalls : ∀ call, shownIn [.calls op.id call] = [] := fun _ => rfl
  have hends : ∀ ending, shownIn [.ends op.id ending] = [] := fun _ => rfl
  unfold carryOut
  split <;> rename_i hact <;>
    simp [hact, hshown, hdone, hcalls, hends, Act.ending?, Ending.outcome?]

namespace Turn.Shows

variable {settings : NavigatorSettings} {now : Instant} {telemetry : Aggregator}
  {r : Request} {t : Turn} {op : ActiveOperation} {m : Move}

/-- **A move that leads on**: the block goes on. -/
theorem further_of_move (h : t.Shows r op.stage) (hid : t.id = op.id)
    (hm : op.stage.move settings now telemetry op.cancelled = some m) {next : Stage}
    (hnext : m.act.stage? = some next) (n : Navigator) :
    (t.further (n.carryOut op m).2).Shows r next := by
  obtain ⟨hahead, hface⟩ := (Stage.displays_of_move hm).onward next hnext
  have hending : m.act.ending? = none := by
    cases hact : m.act <;> simp_all [Act.stage?, Act.ending?]
  have hshown : shownIn (t.further (n.carryOut op m).2).course =
      shownIn t.course ++ m.shows.toList := by
    simp [Turn.further, Navigator.shownIn_carryOut, hending]
  constructor
  case display => rw [hshown, List.append_assoc, ← hahead, h.display]
  case unended =>
    rw [Turn.further, endingsOf_append, h.unended, hid, Navigator.endingsOf_carryOut, hending]
    rfl
  case face =>
    rw [hshown, hface, h.face, List.getLast?_append]
    cases m.shows <;> rfl
  case begun =>
    rintro other rfl
    cases Stage.isUnderWay_of_move hm hnext

/-- **A move that ends the operation**: the block is complete. -/
theorem block_of_move (h : t.Shows r op.stage) (hid : t.id = op.id)
    (hm : op.stage.move settings now telemetry op.cancelled = some m)
    (hend : m.act.stage? = none) (n : Navigator) :
    ∃ path, (t.further (n.carryOut op m).2).Block r path := by
  obtain ⟨hmoves, houtcome, hshown⟩ := Stage.displays_of_move hm
  have hendings : endingsOf (t.further (n.carryOut op m).2).id
      (t.further (n.carryOut op m).2).course = m.act.ending?.toList := by
    simp only [Turn.further, endingsOf_append, h.unended, List.nil_append]
    rw [hid, Navigator.endingsOf_carryOut]
  have hpath : shownIn (t.further (n.carryOut op m).2).course = (shownIn t.course ++
      m.shows.toList) ++ ((m.act.ending?.bind Ending.outcome?).map NavState.done).toList := by
    simp only [Turn.further, shownIn_append, Navigator.shownIn_carryOut, List.append_assoc]
  have hdisplay : shownIn t.course ++ m.shows.toList <+: r.display := by
    rw [← h.display]
    exact (List.prefix_append_right_inj _).mpr hshown
  -- an outcome is shown behind what had been shown before the move
  have hall : ∀ o, .outcome o ∈ m.act.ending?.toList →
      m.act.ending? = some (.outcome o) ∧
        shownIn t.course ++ m.shows.toList = shownIn t.course := by
    intro o ho
    have hend := Option.mem_toList.mp ho
    rw [(houtcome o hend).1]
    exact ⟨hend, List.append_nil _⟩
  -- before the planning nothing is shown, and after it something is
  have hplanned : op.stage.isUnderWay = false ↔ shownIn t.course = [] := by
    rw [← Stage.isSome_face, h.face]
    simp
  refine ⟨shownIn t.course ++ m.shows.toList, ?_⟩
  constructor
  case on_display => exact hdisplay
  case underway => exact fun o ho => r.display_underway o (hdisplay.subset ho)
  case ended =>
    intro o ho
    rw [hendings] at ho
    rw [hpath, (hall o ho).1]
    rfl
  case unended =>
    intro hnone
    rw [hendings] at hnone
    have hoverflow : m.act.ending?.bind Ending.outcome? = none := by
      cases hending : m.act.ending? with
      | none => rfl
      | some ending =>
          cases ending with
          | outcome o => exact absurd (by simp [hending]) (hnone o)
          | overflow => rfl
    rw [hpath, hoverflow]
    exact List.append_nil _
  case arrived =>
    intro ho
    rw [hendings] at ho
    have hahead := (houtcome _ (hall _ ho).1).2.2 rfl
    rw [(hall _ ho).2, ← h.display, hahead, List.append_nil]
  case refused =>
    intro o ho hrefusal
    rw [hendings] at ho
    have hrefused := (houtcome o (hall o ho).1).2.1
    rw [hrefusal] at hrefused
    rw [(hall o ho).2]
    exact hplanned.mp (by simpa using hrefused.symm)
  case landing =>
    rintro disarms o rfl ho
    rw [hendings] at ho
    have hunder : op.stage.isUnderWay ≠ false := by
      intro hbegun
      cases hstage : op.stage with
      | begun other =>
          obtain rfl := h.begun other hstage
          rw [hstage] at hm
          obtain rfl := Option.some.inj hm
          have hover := (hall o ho).1
          simp only [Request.begin] at hover
          split at hover <;> cases hover
      | _ => simp [hstage, Stage.isUnderWay] at hbegun
    rw [(hall o ho).2] at hdisplay ⊢
    obtain ⟨later, hlater⟩ := hdisplay
    cases hshows : shownIn t.course with
    | nil => exact absurd (hplanned.mpr hshows) hunder
    | cons first rest =>
        rw [hshows] at hlater
        simp only [Request.display, List.cons_append, List.cons.injEq, List.append_eq_nil_iff]
          at hlater
        rw [hlater.1, hlater.2.1]

/-- The block of an operation that has not ended. -/
theorem block {stage : Stage} (h : t.Shows r stage) : t.Block r (shownIn t.course) := by
  have hdisplay : shownIn t.course <+: r.display := ⟨stage.display, h.display⟩
  constructor
  case on_display => exact hdisplay
  case underway => exact fun o ho => r.display_underway o (hdisplay.subset ho)
  case unended => exact fun _ => rfl
  all_goals
    rw [h.unended]
    simp

/-- An operation that is given up shows nothing. -/
theorem dropped (h : t.Shows r op.stage) :
    (t.further (Navigator.dropped op)).Shows r op.stage := by
  have hshown : shownIn (t.further (Navigator.dropped op)).course = shownIn t.course := by
    rw [Turn.further, shownIn_append, Navigator.shownIn_dropped, List.append_nil]
  constructor
  case display => rw [hshown, h.display]
  case unended => rw [Turn.further, endingsOf_append, h.unended, Navigator.endingsOf_dropped]; rfl
  case face => rw [hshown, h.face]
  case begun => exact h.begun

/-- What an operation hears changes nothing about its block. -/
theorem hear (h : t.Shows r op.stage) (e : Session.Event) : t.Shows r (op.hear e).stage := by
  cases e with
  | answer reply =>
      simp only [ActiveOperation.hear]
      split
      · rename_i hstage
        rw [hstage] at h
        exact ⟨h.display, h.unended, h.face, fun _ hbegun => by cases hbegun⟩
      · exact h
  | _ => exact h

theorem further_nil {stage : Stage} (h : t.Shows r stage) : (t.further []).Shows r stage := by
  rwa [Turn.further, List.append_nil]

/-- **What an event does to the block of the running operation.** -/
theorem react (h : t.Shows r op.stage) (hid : t.id = op.id) (settings : NavigatorSettings)
    (now : Instant) (telemetry : Aggregator) (e : Session.Event) :
    match (op.react settings now telemetry e).1 with
    | some next => (t.further (op.react settings now telemetry e).2).Shows r next.stage
    | none => ∃ path, (t.further (op.react settings now telemetry e).2).Block r path := by
  cases e with
  | move =>
      cases hm : op.stage.move settings now telemetry op.cancelled with
      | none => simpa [ActiveOperation.react, hm] using h.further_nil
      | some m =>
          rw [ActiveOperation.react_move hm]
          cases hnext : m.act.stage? with
          | some next => exact h.further_of_move hid hm hnext _
          | none => exact h.block_of_move hid hm hnext _
  | abandon id =>
      by_cases hgone : id = op.id
      · simpa [ActiveOperation.react, hgone] using ⟨_, h.dropped.block⟩
      · simpa [ActiveOperation.react, hgone] using h.further_nil
  | _ => exact (h.hear _).further_nil

end Turn.Shows

/-- The state that the navigator holds is the one shown last. -/
theorem Navigator.state_carryOut (n : Navigator) (op : ActiveOperation) (m : Move) :
    (n.carryOut op m).1.state = (shownIn (n.carryOut op m).2).getLast?.getD n.state := by
  rw [shownIn_carryOut]
  unfold carryOut
  split <;> rename_i hact <;> cases hshows : m.shows <;>
    simp [hact, Act.ending?, Ending.outcome?]

namespace Session

variable {s : Session} {past : List Event} {acts : List NavigatorAct} {turns : List Turn}
  {e : Event} {es : List Event}

theorem state_step (s : Session) (e : Event) :
    (s.step e).1.navigator.state =
      (shownIn (s.step e).2).getLast?.getD s.navigator.state := by
  cases e with
  | move =>
      cases hactive : s.navigator.active with
      | none =>
          cases hw : s.navigator.waiting with
          | nil => rw [step_move_idle hactive hw]; rfl
          | cons w rest => rw [step_move_begins hactive hw]; rfl
      | some op =>
          cases hm : op.stage.move s.navigator.settings s.now s.telemetry op.cancelled with
          | none => simp [step, Navigator.step, hactive, hm]
          | some m =>
              simpa [step, Navigator.step, hactive, hm] using s.navigator.state_carryOut op m
  | abandon id =>
      simp only [step, Navigator.abandon]
      repeat' split
      all_goals simp
  | _ => rfl

/-- **The navigator's state is the one shown last** in a run. -/
theorem state_after (s : Session) (es : List Event) :
    (s.after es).navigator.state = (shownIn (s.acts es)).getLast?.getD s.navigator.state := by
  induction es generalizing s with
  | nil => rfl
  | cons e es ih =>
      rw [after_cons, acts_cons, shownIn_append, ih, state_step, List.getLast?_append]
      cases (shownIn ((s.step e).1.acts es)).getLast? <;> rfl

/-- Whoever waits after an event waited before, or is requested by it. -/
theorem mem_waiting_step {w : Nat × Request} (h : w ∈ (s.step e).1.navigator.waiting) :
    w ∈ s.navigator.waiting ∨ e = .request w.1 w.2 := by
  cases e with
  | request id r =>
      rcases List.mem_append.mp h with hold | hnew
      · exact .inl hold
      · exact .inr (by rw [List.mem_singleton.mp hnew])
  | abandon id =>
      left
      simp only [step, Navigator.abandon] at h
      repeat' split at h
      all_goals first | exact h | exact List.mem_of_mem_filter h
  | move =>
      left
      cases hactive : s.navigator.active with
      | none =>
          cases hw : s.navigator.waiting with
          | nil => simp [step_move_idle hactive hw, hw] at h
          | cons first rest =>
              rw [step_move_begins hactive hw] at h
              exact List.mem_cons_of_mem _ h
      | some op => rwa [step_move_waiting hactive] at h
  | _ => exact .inl h

/-- **What has been shown so far**, in blocks. -/
structure Displayed (s : Session) (past : List Event) (acts : List NavigatorAct)
    (turns : List Turn) : Prop where
  acts : acts = turns.flatMap Turn.acts
  own : ∀ t ∈ turns, t.IsOwn
  waiting : ∀ w ∈ s.navigator.waiting, .request w.1 w.2 ∈ past
  running : match s.navigator.active with
    | some op => ∃ earlier last r, turns = earlier ++ [last] ∧ last.id = op.id ∧
        .request last.id r ∈ past ∧ last.Shows r op.stage ∧
        ∀ t ∈ earlier, ∃ r path, .request t.id r ∈ past ∧ t.Block r path
    | none => ∀ t ∈ turns, ∃ r path, .request t.id r ∈ past ∧ t.Block r path

namespace Displayed

theorem new (settings : NavigatorSettings) (capacity : Nat) :
    (Session.new settings capacity).Displayed [] [] [] where
  acts := rfl
  own := by simp
  waiting := by simp [Session.new, Navigator.new]
  running := by simp [Session.new, Navigator.new]

/-- Whoever waits after an event was requested. -/
theorem waiting_step (h : s.Displayed past acts turns) (e : Event) :
    ∀ w ∈ (s.step e).1.navigator.waiting, .request w.1 w.2 ∈ past ++ [e] := by
  intro w hw
  rcases mem_waiting_step hw with hold | rfl
  · exact List.mem_append_left _ (h.waiting w hold)
  · simp

/-- Blocks stay what they are. -/
theorem blocks_kept {ts : List Turn}
    (h : ∀ t ∈ ts, ∃ r path, .request t.id r ∈ past ∧ t.Block r path) (e : Event) :
    ∀ t ∈ ts, ∃ r path, .request t.id r ∈ past ++ [e] ∧ t.Block r path := by
  intro t ht
  obtain ⟨r, path, hr, hblock⟩ := h t ht
  exact ⟨r, path, List.mem_append_left _ hr, hblock⟩

/-- **One step**: a block begins, or the last one goes on or is complete. -/
theorem step (h : s.Displayed past acts turns) (e : Event) :
    ∃ turns', (s.step e).1.Displayed (past ++ [e]) (acts ++ (s.step e).2) turns' := by
  have hrunning := h.running
  cases hactive : s.navigator.active with
  | none =>
      rw [hactive] at hrunning
      rcases s.step_turn e with
        ⟨id, r, rest, rfl, -, hqueue, hbegun, -, hacts⟩ | ⟨op, hop, -⟩ | ⟨hsame, -, hown⟩
      · refine ⟨turns ++ [Turn.mk id []], ?_, ?_, h.waiting_step .move, ?_⟩
        · rw [hacts, h.acts, Turn.flatMap_acts_begun]
        · rw [List.forall_mem_append, List.forall_mem_singleton]
          exact ⟨h.own, Turn.isOwn_begun id⟩
        · rw [hbegun]
          have hthere : (id, r) ∈ s.navigator.waiting := by
            cases hw : s.navigator.waiting with
            | nil => simp [queue, hw] at hqueue
            | cons w waiting =>
                rw [step_move_begins hactive hw, Option.some.injEq] at hbegun
                obtain ⟨rfl, -, hr⟩ := ActiveOperation.mk.inj hbegun
                obtain rfl := Stage.begun.inj hr
                exact List.mem_cons_self
          refine ⟨turns, _, r, rfl, rfl, List.mem_append_left _ (h.waiting _ hthere), ?_,
            blocks_kept hrunning .move⟩
          exact ⟨rfl, rfl, rfl, fun other hother => (Stage.begun.inj hother).symm⟩
      · cases hactive.symm.trans hop
      · obtain ⟨hidle, hnone⟩ := idle_of_stays hactive hsame hown
        rw [hnone, List.append_nil]
        refine ⟨turns, h.acts, h.own, h.waiting_step e, ?_⟩
        rw [hidle]
        exact blocks_kept hrunning e
  | some op =>
      rw [hactive] at hrunning
      obtain ⟨earlier, last, r, rfl, hid, hr, hshows, hearlier⟩ := hrunning
      obtain ⟨hnext, hacts⟩ := step_running hactive e
      have hkept := blocks_kept hearlier e
      have hreact := hshows.react hid s.navigator.settings s.now s.telemetry e
      have hown : ∀ a ∈ (s.step e).2, a.IsOf last.id := by
        rw [hacts, hid]
        exact fun a ha => ActiveOperation.isOf_of_mem_react ha
      obtain ⟨hearlierOwn, hlastOwn⟩ := List.forall_mem_append.mp h.own
      rw [← hacts, ← hnext] at hreact
      refine ⟨earlier ++ [last.further (s.step e).2], ?_, ?_, h.waiting_step e, ?_⟩
      · rw [h.acts, Turn.flatMap_acts_further]
      · rw [List.forall_mem_append, List.forall_mem_singleton]
        exact ⟨hearlierOwn, (List.forall_mem_singleton.mp hlastOwn).further hown⟩
      cases hafter : (s.step e).1.navigator.active with
      | some next =>
          rw [hafter] at hreact hnext
          have hnumber := ActiveOperation.react_id hnext.symm
          exact ⟨earlier, _, r, rfl, hid.trans hnumber.symm, List.mem_append_left _ hr, hreact,
            hkept⟩
      | none =>
          rw [hafter] at hreact
          obtain ⟨path, hblock⟩ := hreact
          rw [List.forall_mem_append, List.forall_mem_singleton]
          exact ⟨hkept, r, path, List.mem_append_left _ hr, hblock⟩

/-- **The blocks, along every run.** -/
theorem run (h : s.Displayed past acts turns) (es : List Event) :
    ∃ turns', (s.after es).Displayed (past ++ es) (acts ++ s.acts es) turns' := by
  induction es generalizing s past acts turns with
  | nil => exact ⟨turns, by simpa using h⟩
  | cons e es ih =>
      obtain ⟨turns', hstep⟩ := h.step e
      obtain ⟨turns'', hrun⟩ := ih hstep
      refine ⟨turns'', ?_⟩
      simpa only [after_cons, acts_cons, List.append_assoc, List.singleton_append] using hrun

/-- Every turn has its block. -/
theorem blocks (h : s.Displayed past acts turns) :
    ∀ t ∈ turns, ∃ r path, .request t.id r ∈ past ∧ t.Block r path := by
  have hrunning := h.running
  cases hactive : s.navigator.active with
  | none =>
      rw [hactive] at hrunning
      exact hrunning
  | some op =>
      rw [hactive] at hrunning
      obtain ⟨earlier, last, r, rfl, -, hr, hshows, hearlier⟩ := hrunning
      rw [List.forall_mem_append, List.forall_mem_singleton]
      exact ⟨hearlier, r, _, hr, hshows.block⟩

end Displayed

end Session

/-! ## Announcements -/

namespace Route

variable {settings : NavigatorSettings} {route : Route} {ws : List Waypoint} {stage : Stage}
  {log : List FlightNote} {now : Instant} {telemetry : Aggregator} {cancelled : Bool} {m : Move}
  {k : Nat}

/-- A leg that is announced after another one is the next one. -/
theorem announced_next {l : Leg} {done : List Waypoint} (h : l.Behind route ws done)
    (hshows : (l.next settings now).shows = some (.enRoute k)) :
    0 < k ∧ k ≤ ws.length ∧ route.outbound settings done ++ route.legCourse settings l.target =
      route.outbound settings (ws.take (k - 1)) := by
  have hsplit := h.split
  rw [← Leg.Behind.outbound_flown]
  unfold Leg.next at hshows
  split at hshows
  · rename_i target rest hrest
    have hk : l.index + 1 = k := by
      unfold Leg.start Move.enterTimed at hshows
      split at hshows <;> simpa using hshows
    rw [h.index] at hk
    have hws : ws = (done ++ [l.target]) ++ target :: rest := by rw [hsplit, hrest]; simp
    have hlength : (done ++ [l.target]).length = k - 1 := by simp; omega
    refine ⟨by omega, ?_, ?_⟩
    · rw [hws]
      simp
      omega
    · rw [hws, ← hlength, List.take_left]
  · split at hshows
    · unfold Move.enterTimed at hshows
      split at hshows <;> cases hshows
    · cases hshows

/-- **A leg is announced when the legs before it are flown**, and nothing has been done for it. -/
theorem At.announced (h : At settings route ws stage log)
    (hm : stage.move settings now telemetry cancelled = some m)
    (hshows : m.shows = some (.enRoute k)) :
    0 < k ∧ k ≤ ws.length ∧
      (log ++ if cancelled then [] else (stage.note? settings now telemetry).toList) =
        route.outbound settings (ws.take (k - 1)) := by
  have huncancelled : cancelled = false := by
    cases hcancelled : cancelled with
    | false => rfl
    | true =>
        rw [hcancelled] at hm
        cases h <;> obtain rfl := Option.some.inj hm <;> cases hshows
  subst huncancelled
  rw [if_neg Bool.false_ne_true]
  cases h with
  | due deadline h =>
      obtain rfl := Option.some.inj hm
      cases hshows
  | called deadline reply h =>
      simp only [Stage.move, Bool.false_eq_true, if_false] at hm
      repeat' split at hm
      all_goals cases hm
      all_goals cases hshows
  | @accepted l done since deadline h =>
      simp only [Stage.move, Bool.false_eq_true, if_false] at hm
      split at hm
      · rename_i hseen
        obtain rfl := Option.some.inj hm
        simp only [Sight.followUp, Leg.arrive] at hshows
        split at hshows
        · split at hshows <;> cases hshows
        · rename_i hhover
          have hnext := announced_next h hshows
          rw [legCourse, if_neg hhover, List.append_nil] at hnext
          rw [Stage.note?, if_pos hseen, List.append_assoc]
          exact hnext
      · split at hm
        · obtain rfl := Option.some.inj hm
          cases hshows
        · cases hm
  | @sighted l done wake h hhover =>
      simp only [Stage.move, Bool.false_eq_true, if_false] at hm
      split at hm
      · rename_i hlate
        obtain rfl := Option.some.inj hm
        have hnext := announced_next h hshows
        rw [legCourse, if_pos hhover] at hnext
        rw [Stage.note?, if_pos hlate, List.append_assoc]
        exact hnext
      · cases hm
  | homeDue deadline h =>
      obtain rfl := Option.some.inj hm
      cases hshows
  | homeCalled deadline reply h =>
      simp only [Stage.move, Bool.false_eq_true, if_false] at hm
      repeat' split at hm
      all_goals cases hm
      all_goals cases hshows

end Route

/-- A flight is planned along the points of its request, and home if that was asked for. -/
theorem Request.targets_of_plan {telemetry : Aggregator} {r : Request} {route : Route}
    {ws : List Waypoint} (h : r.plan? telemetry = some (route, ws)) :
    ws = (Stage.begun r).targets ∧ route.home.isSome = r.returns := by
  cases r with
  | goto target returnToStart =>
      cases hlatest : telemetry.latest with
      | none => simp [plan?, hlatest] at h
      | some sample =>
          obtain ⟨rfl, rfl⟩ : _ = route ∧ [target] = ws := by simpa [plan?, hlatest] using h
          cases returnToStart <;> exact ⟨rfl, rfl⟩
  | mission m =>
      cases hws : m.waypoints with
      | nil => simp [plan?, hws] at h
      | cons first rest =>
          cases hlatest : telemetry.latest with
          | none => simp [plan?, hws, hlatest] at h
          | some sample =>
              obtain ⟨rfl, rfl⟩ : m.routeFrom first sample = route ∧ first :: rest = ws := by
                simpa [plan?, hws, hlatest] using h
              refine ⟨hws.symm, ?_⟩
              cases hreturns : m.returnToStart <;> simp [Mission.routeFrom, hreturns, returns]
  | _ => cases h

/-- A flight stands before its first leg when it has been planned. -/
theorem ActiveOperation.at_planned {settings : NavigatorSettings} {now : Instant}
    {telemetry : Aggregator} {op next : ActiveOperation} {e : Session.Event} {r : Request}
    (hstage : op.stage = .begun r) (hflight : r.isFlight = true)
    (hnext : (op.react settings now telemetry e).1 = some next)
    (hunder : next.stage.isUnderWay = true) :
    op.notes settings now telemetry e = [] ∧ ∃ route : Route, route.home.isSome = r.returns ∧
      route.At settings (Stage.begun r).targets next.stage [] := by
  cases e with
  | move =>
      have hm : op.stage.move settings now telemetry op.cancelled =
          some (r.begin settings now telemetry) := by rw [hstage]; rfl
      refine ⟨by simp [notes, hstage, Stage.note?], ?_⟩
      rw [react_move hm] at hnext
      cases hplan : r.plan? telemetry with
      | none =>
          obtain ⟨failure, hfail⟩ := Request.begin_unplanned settings now hflight hplan
          rw [hfail] at hnext
          cases hnext
      | some plan =>
          obtain ⟨route, ws⟩ := plan
          obtain ⟨hws, hhome⟩ := Request.targets_of_plan hplan
          obtain ⟨l, hbehind, hbegin⟩ := Request.begin_of_plan settings now hplan
          rw [hbegin] at hnext
          refine ⟨route, hhome, hws ▸ ?_⟩
          unfold Leg.start Move.enterTimed at hnext
          split at hnext
          · obtain rfl := Option.some.inj hnext
            exact .due _ hbehind
          · cases hnext
  | abandon owner =>
      simp only [react] at hnext
      split at hnext
      · cases hnext
      · obtain rfl := Option.some.inj hnext
        rw [hstage] at hunder
        cases hunder
  | answer reply =>
      obtain rfl := Option.some.inj hnext
      simp [hear, hstage, Stage.isUnderWay] at hunder
  | _ =>
      obtain rfl := Option.some.inj hnext
      simp [hear, hstage, Stage.isUnderWay] at hunder

namespace Session

variable {settings : NavigatorSettings} {capacity : Nat} {before later front back : List Event}
  {id : Nat} {r : Request} {op : ActiveOperation}

/-- **Where a flight stands at any point of any run**, once it is planned. -/
theorem at_running (hnum : Numbered (before ++ .request id r :: later))
    (hfront : before ++ .request id r :: later = front ++ back) (hflight : r.isFlight = true)
    (hrun : ((new settings capacity).after front).navigator.active = some op) (hid : op.id = id)
    (hunder : op.stage.isUnderWay = true) :
    ∃ route : Route, route.home.isSome = r.returns ∧
      route.At settings (Stage.begun r).targets op.stage
        ((new settings capacity).log id front) := by
  induction front using List.reverseRecOn generalizing op back with
  | nil => cases hrun
  | append_singleton front e ih =>
      rw [List.append_assoc] at hfront
      rw [after_append] at hrun
      rw [log_append]
      have hd := distinct_new settings capacity hnum
      rw [hfront] at hd
      cases hactive : ((new settings capacity).after front).navigator.active with
      | none =>
          rcases ((new settings capacity).after front).step_turn e with
            ⟨other, r', rest, rfl, -, -, hbegun, -⟩ | ⟨op', hop', -⟩ | ⟨hsame, -⟩
          · obtain rfl := Option.some.inj (hbegun.symm.trans hrun)
            cases hunder
          · cases hactive.symm.trans hop'
          · rw [hactive] at hsame
            cases (Option.map_eq_none_iff.mp hsame).symm.trans hrun
      | some op' =>
          have hsettings : ((new settings capacity).after front).navigator.settings = settings :=
            after_settings ..
          have hstep := (step_running hactive e).1
          rw [show (((new settings capacity).after front).step e).1.navigator.active = some op
            from hrun, hsettings] at hstep
          have hid' : op'.id = id := (ActiveOperation.react_id hstep.symm).symm.trans hid
          have hnotes : ((new settings capacity).after front).log id [e] =
              op'.notes settings ((new settings capacity).after front).now
                ((new settings capacity).after front).telemetry e := by
            simp [log, notes, hactive, hid', hsettings]
          rw [hnotes]
          by_cases hunder' : op'.stage.isUnderWay = true
          · obtain ⟨route, hhome, hat⟩ := ih hfront hactive hid' hunder'
            rcases hat.goesOn ((new settings capacity).after front).now
                ((new settings capacity).after front).telemetry e with
              ⟨next, hnext, -, hat'⟩ | ⟨hnone, -⟩
            · obtain rfl := Option.some.inj (hnext.symm.trans hstep.symm)
              exact ⟨route, hhome, hat'⟩
            · cases hnone.symm.trans hstep.symm
          · have hbegun : op'.stage = .begun r := by
              cases hstage : op'.stage with
              | begun other =>
                  rw [lasting_of_requested (ActiveOperation.lasting_request r)
                    (fun _ h => (Stage.begun.inj h).symm) hnum hfront hactive hid' other hstage]
              | _ => simp [hstage, Stage.isUnderWay] at hunder'
            obtain ⟨hnone, hplanned⟩ := ActiveOperation.at_planned hbegun hflight hstep.symm hunder
            rw [hnone, List.append_nil, ← hid', (log_of_begun hd hactive hbegun).1]
            exact hplanned

/-- States are shown and calls are made by the moves of the running operation. -/
theorem exists_move_of_act {s : Session} {e : Event} {a : NavigatorAct} (ha : a ∈ (s.step e).2)
    (hkind : a.shown? ≠ none ∨ a.call? ≠ none) :
    ∃ op m, s.navigator.active = some op ∧ e = .move ∧
      op.stage.move s.navigator.settings s.now s.telemetry op.cancelled = some m ∧
      a ∈ ((Navigator.new s.navigator.settings).carryOut op m).2 := by
  cases hactive : s.navigator.active with
  | none =>
      obtain ⟨id, r, rest, -, rfl, -⟩ := step_idle_acts hactive ha
      simp [NavigatorAct.shown?, NavigatorAct.call?] at hkind
  | some op =>
      rw [(step_running hactive e).2] at ha
      cases e with
      | move =>
          cases hm : op.stage.move s.navigator.settings s.now s.telemetry op.cancelled with
          | none => simp [ActiveOperation.react, hm] at ha
          | some m =>
              rw [ActiveOperation.react_move hm] at ha
              exact ⟨op, m, rfl, rfl, hm, ha⟩
      | abandon id =>
          simp only [ActiveOperation.react] at ha
          split at ha
          · obtain rfl := Navigator.eq_givesUp_of_mem_dropped ha
            simp [NavigatorAct.shown?, NavigatorAct.call?] at hkind
          · cases ha
      | _ => cases ha

/-- The running operation was requested, and its block is the last one. -/
theorem requested_of_running {turns : List Turn}
    (h : ((new settings capacity).after front).Displayed front
      ((new settings capacity).acts front) turns)
    (hrun : ((new settings capacity).after front).navigator.active = some op) :
    ∃ r, .request op.id r ∈ front ∧ (∀ state ∈ op.stage.display, state ∈ r.display) ∧
      (∀ state, op.stage.face? = some state →
        ((new settings capacity).after front).navigator.state = state) ∧
      ∀ other, op.stage = .begun other → other = r := by
  have hrunning := h.running
  rw [hrun] at hrunning
  obtain ⟨earlier, last, r, rfl, hid, hr, hshows, -⟩ := hrunning
  refine ⟨r, hid ▸ hr, fun state hstate => ?_, fun state hface => ?_, hshows.begun⟩
  · rw [← hshows.display]
    exact List.mem_append_right _ hstate
  · rw [hshows.face] at hface
    rw [state_after, h.acts, Turn.shownIn_flatMap, List.flatMap_append, List.getLast?_append]
    simp [hface]

/-- A leg is on no display but that of a flight. -/
theorem isFlight_of_display {k : Nat} (h : .enRoute k ∈ r.display) : r.isFlight = true := by
  cases r with
  | takeoff altitude => simp [Request.display] at h
  | land disarms => simp [Request.display] at h
  | _ => rfl

/-- The first leg on a display has the number one. -/
theorem first_of_display {k : Nat} (h : [.enRoute k] <+: r.display) :
    k = 1 ∧ (Stage.begun r).targets ≠ [] := by
  have hfirst : ∀ returns ws, [.enRoute k] <+: flightDisplay returns 1 ws → k = 1 ∧ ws ≠ [] := by
    intro returns ws h
    cases ws with
    | nil => cases returns <;> simp [flightDisplay] at h
    | cons w rest => simpa [flightDisplay] using h
  cases r with
  | goto target returnToStart => exact hfirst _ _ h
  | mission m => exact hfirst _ _ h
  | takeoff altitude => simp [Request.display] at h
  | land disarms => simp [Request.display] at h

/-- **The states of a run are shown in blocks**, which are those of its turns. -/
structure ShowsInBlocks (s : Session) (es : List Event) (turns : List Turn) : Prop where
  /-- What is done is done in turns, one behind the other, and in a turn everything is done by its
  operation. -/
  in_turns : s.acts es = turns.flatMap Turn.acts
  own : ∀ t ∈ turns, t.IsOwn
  /-- An operation has one turn at most, and one that has ended has one. -/
  once : (turns.map (·.id)).Nodup
  all : ∀ id, endingsOf id (s.acts es) ≠ [] → id ∈ turns.map (·.id)
  /-- So the states shown are the blocks of the turns, and the navigator holds the last one. -/
  shown : shownIn (s.acts es) = turns.flatMap fun t => shownIn t.course
  state : (s.after es).navigator.state = (shownIn (s.acts es)).getLast?.getD .idle
  /-- A block is that of the request of its operation, and of the way in which that ended. -/
  blocks : ∀ t ∈ turns, endingsOf t.id t.course = endingsOf t.id (s.acts es) ∧
    ∃ r path, .request t.id r ∈ es ∧ t.Block r path
  /-- When a leg is announced the legs before it are flown to their ends, and nothing has been
  done for it. -/
  sets_out : ∀ front e back k, es = front ++ e :: back →
    .shows (.enRoute k) ∈ ((s.after front).step e).2 →
    ∃ op r route, (s.after front).navigator.active = some op ∧ .request op.id r ∈ es ∧ 0 < k ∧
      k ≤ (Stage.begun r).targets.length ∧ s.log op.id (front ++ [e]) =
        Route.outbound s.navigator.settings route ((Stage.begun r).targets.take (k - 1))
  /-- When a flight makes a call, the state shown is that of the leg with the number of the call;
  for the call behind the last leg it is that of the way home. -/
  announced : ∀ front e back id call r, es = front ++ e :: back →
    .calls id call ∈ ((s.after front).step e).2 → .request id r ∈ es → r.isFlight = true →
    ((callsOf id (s.acts front)).length < (Stage.begun r).targets.length ∧
        (s.after front).navigator.state = .enRoute ((callsOf id (s.acts front)).length + 1)) ∨
      ((callsOf id (s.acts front)).length = (Stage.begun r).targets.length ∧ r.returns = true ∧
        (s.after front).navigator.state = .returningHome)

/-- When a leg is announced, the legs before it are flown. -/
theorem sets_out_of_shows {es : List Event} {e : Event} {k : Nat} (hnum : Numbered es)
    (hes : es = front ++ e :: back)
    (hshows : .shows (.enRoute k) ∈ (((new settings capacity).after front).step e).2) :
    ∃ op r route, ((new settings capacity).after front).navigator.active = some op ∧
      .request op.id r ∈ es ∧ 0 < k ∧ k ≤ (Stage.begun r).targets.length ∧
      (new settings capacity).log op.id (front ++ [e]) =
        Route.outbound settings route ((Stage.begun r).targets.take (k - 1)) := by
  have hsettings : ((new settings capacity).after front).navigator.settings = settings :=
    after_settings ..
  obtain ⟨turns, hdisplayed⟩ := (Displayed.new settings capacity).run front
  obtain ⟨op, m, hactive, rfl, hm, hmem⟩ :=
    exists_move_of_act hshows (.inl (by simp [NavigatorAct.shown?]))
  obtain ⟨r, hr, hdisplay, -, hbegun⟩ := requested_of_running hdisplayed hactive
  have hr' : .request op.id r ∈ es := hes ▸ List.mem_append_left _ hr
  have hmoves := Stage.displays_of_move hm
  have hk : m.shows = some (.enRoute k) := by
    have hmem' : .enRoute k ∈ shownIn ((Navigator.new
        ((new settings capacity).after front).navigator.settings).carryOut op m).2 :=
      List.mem_filterMap.mpr ⟨_, hmem, rfl⟩
    rw [Navigator.shownIn_carryOut] at hmem'
    rcases List.mem_append.mp hmem' with hshown | hdone
    · exact Option.mem_toList.mp hshown
    · obtain ⟨o, -, ho⟩ := Option.map_eq_some_iff.mp (Option.mem_toList.mp hdone)
      cases ho
  have hshown := hmoves.shown
  rw [hk] at hshown
  have hflight : r.isFlight = true :=
    isFlight_of_display (hdisplay _ (hshown.subset (List.mem_singleton_self _)))
  obtain ⟨before, between, hfront⟩ := List.append_of_mem hr
  have hrun : before ++ .request op.id r :: (between ++ .move :: back) =
      front ++ .move :: back := by
    rw [hfront]
    simp
  rw [hes, ← hrun] at hnum
  by_cases hunder : op.stage.isUnderWay = true
  · obtain ⟨route, -, hat⟩ := at_running hnum hrun hflight hactive rfl hunder
    rw [hsettings] at hm
    obtain ⟨hpos, hle, hlog⟩ := hat.announced hm hk
    refine ⟨op, r, route, hactive, hr', hpos, hle, ?_⟩
    rw [log_append, ← hlog]
    simp [log, notes, hactive, ActiveOperation.notes, hsettings]
  · cases hstage : op.stage with
    | begun other =>
        obtain rfl := hbegun other hstage
        rw [hstage] at hshown
        obtain ⟨rfl, hne⟩ := first_of_display hshown
        refine ⟨op, other, ⟨0, none, false⟩, hactive, hr', Nat.one_pos,
          List.length_pos_iff.mpr hne, ?_⟩
        have hd := distinct_new settings capacity hnum
        rw [hrun] at hd
        obtain ⟨number, marked, stage⟩ := op
        obtain rfl : stage = _ := hstage
        exact log_of_planning hd.front hactive
    | _ => simp [hstage, Stage.isUnderWay] at hunder

/-- A call of a flight is made under its announcement. -/
theorem announced_of_calls {es : List Event} {e : Event} {call : LinkCall} (hnum : Numbered es)
    (hes : es = front ++ e :: back)
    (hcalls : .calls id call ∈ (((new settings capacity).after front).step e).2)
    (hr : .request id r ∈ es) (hflight : r.isFlight = true) :
    ((callsOf id ((new settings capacity).acts front)).length < (Stage.begun r).targets.length ∧
        ((new settings capacity).after front).navigator.state =
          .enRoute ((callsOf id ((new settings capacity).acts front)).length + 1)) ∨
      ((callsOf id ((new settings capacity).acts front)).length =
          (Stage.begun r).targets.length ∧ r.returns = true ∧
        ((new settings capacity).after front).navigator.state = .returningHome) := by
  obtain ⟨turns, hdisplayed⟩ := (Displayed.new settings capacity).run front
  obtain ⟨op, m, hactive, rfl, hm, hmem⟩ :=
    exists_move_of_act hcalls (.inr (by simp [NavigatorAct.call?]))
  obtain ⟨-, -, -, hface, -⟩ := requested_of_running hdisplayed hactive
  obtain rfl : id = op.id := (Navigator.isOf_of_mem_carryOut hmem).own id rfl
  obtain ⟨linkCall, next, hact⟩ :=
    Navigator.call_of_mem_carryOut hmem (by simp [NavigatorAct.call?])
  have hcalling : ∃ task deadline, op.stage = .calling task deadline := by
    refine Classical.byContradiction fun hnot => ?_
    have honward := Stage.move_isOnward hm fun task deadline h => hnot ⟨task, deadline, h⟩
    simp [hact, Act.isOnward] at honward
  obtain ⟨task, deadline, hstage⟩ := hcalling
  obtain ⟨before, later, hsplit⟩ := List.append_of_mem hr
  rw [hes] at hsplit
  rw [hes, hsplit] at hnum
  obtain ⟨route, hhome, hat⟩ :=
    at_running hnum hsplit.symm hflight hactive rfl (by rw [hstage]; rfl)
  rw [hstage] at hat hface
  rw [callsOf_acts]
  generalize (new settings capacity).log op.id front = log at hat ⊢
  cases hat with
  | @due l done _ hbehind =>
      left
      rw [Route.calledIn_outbound, List.length_map, ← hbehind.index]
      exact ⟨by rw [hbehind.split]; simp, hface _ rfl⟩
  | @homeDue home _ h =>
      right
      rw [Route.calledIn_outbound, List.length_map]
      exact ⟨rfl, by rw [← hhome, h]; rfl, hface _ rfl⟩

/-- **Every run shows its states in blocks**: whatever is requested, answered, told, cancelled and
given up at any times. -/
theorem states_shown_in_blocks (settings : NavigatorSettings) (capacity : Nat)
    (es : List Event) (hnum : Numbered es) :
    ∃ turns, (new settings capacity).ShowsInBlocks es turns := by
  obtain ⟨turns, hturns⟩ := (InTurns.new settings capacity).run es
  obtain ⟨turns', hdisplayed⟩ := (Displayed.new settings capacity).run es
  simp only [List.nil_append] at hturns hdisplayed
  obtain rfl := Turn.eq_of_acts hturns.own hdisplayed.own (hturns.acts.symm.trans hdisplayed.acts)
  have hids : (turns.map (·.id)).Nodup :=
    (List.nodup_append.mp (hturns.ordered.nodup hnum)).1
  refine ⟨turns, ?_⟩
  constructor
  case in_turns => exact hturns.acts
  case own => exact hturns.own
  case once => exact hids
  case all =>
    intro id hended
    obtain ⟨ending, hending⟩ := List.exists_mem_of_ne_nil _ hended
    rw [hturns.acts] at hending
    obtain ⟨t, ht, ha⟩ := List.mem_flatMap.mp (mem_endingsOf.mp hending)
    rcases List.mem_cons.mp ha with hbegins | hcourse
    · cases hbegins
    · rw [(hturns.own t ht _ hcourse).own id rfl]
      exact List.mem_map_of_mem ht
  case shown => rw [hturns.acts, Turn.shownIn_flatMap]
  case state => exact state_after _ es
  case blocks =>
    intro t ht
    refine ⟨?_, hdisplayed.blocks t ht⟩
    rw [hturns.acts, Turn.endingsOf_flatMap hturns.own hids ht]
  case sets_out => exact fun front e back k hes hshows => sets_out_of_shows hnum hes hshows
  case announced =>
    exact fun front e back id call r hes hcalls hr hflight =>
      announced_of_calls hnum hes hcalls hr hflight

/-- A takeoff is requested when there is no sample yet, and then a flight to a stop and back. -/
def refusedThenVisit : List Event :=
  [.request 7 (.takeoff 10.0), .move, .move] ++ visitBegun visit true ++
    .move :: (visitFlown 5000 ++ visitLeft)

/-- The takeoff is refused, which is all it shows, and the flight shows its whole display. -/
theorem states_shown_in_blocks_visit :
    (∃ turns, (new unhurried 4).ShowsInBlocks refusedThenVisit turns) ∧
      shownIn ((new unhurried 4).acts refusedThenVisit) =
        [.done (.failed .notReady), .enRoute 1, .hovering, .returningHome, .done .arrived] :=
  ⟨states_shown_in_blocks unhurried 4 refusedThenVisit (by decide), by decide +kernel⟩

end Session

end GroundStation
