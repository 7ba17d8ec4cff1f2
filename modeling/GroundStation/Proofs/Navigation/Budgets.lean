import GroundStation.Proofs.Navigation.Legs
import GroundStation.Proofs.Navigation.Progress

/-!
# How long a step may take

An operation shows a state when it sets out on a leg or on the way home, when it begins to
hover, and when a takeoff or a landing is planned. Time is counted from that moment: the call
and the arrival of a leg share one time limit, the next leg gets a new one, a takeoff or a
landing has one limit for all of its waits, and a hover is no part of any limit.

The moment is looked up in the record of the run (`Session.timeline`), so what is said about
it does not depend on what the navigator itself remembers. The navigator's deadline turns out
to be the limit behind that moment (`Stage.IsDueFrom`), and no move ever puts it off
(`Stage.Continues`).

## Main results

* `Stage.continues_of_move`: a move shows a new state and sets a new limit, or keeps both.
* `Session.Dated.step`, `Session.dated_after`: the limit of the running operation counts from
  the state it showed last, along every run.
* `Session.limits_kept`: what follows for the waits of every operation.
* `Session.hover_cut_short`: a hover of more than thirty years is over too soon.
-/

namespace GroundStation

/-! ## The record of a run -/

/-- What has been done, and when. -/
abbrev Timeline := List (Instant × NavigatorAct)

/-- Does an operation's time count from the moment at which it shows this state? -/
def NavState.isOpening : NavState → Bool
  | .arming | .enRoute _ | .hovering | .returningHome | .landing => true
  | .idle | .takingOff | .done _ => false

/-- The state an act shows, if time counts from it. -/
def NavigatorAct.opening? : NavigatorAct → Option NavState
  | .shows state => if state.isOpening then some state else none
  | _ => none

namespace Timeline

variable {α : Type} {pick : NavigatorAct → Option α}

/-- The last entry of a kind. -/
def latest? (pick : NavigatorAct → Option α) (t : Timeline) : Option (Instant × α) :=
  (t.filterMap fun entry => (pick entry.2).map (entry.1, ·)).getLast?

/-- The entries behind the last beginning of an operation. -/
def sinceBegun (t : Timeline) : Timeline :=
  t.foldl (fun turn entry => if entry.2.beginning?.isSome then [] else turn ++ [entry]) []

/-- The operation that began last, and when. -/
def begun? (t : Timeline) : Option (Instant × Nat) := t.latest? NavigatorAct.beginning?

/-- The state from which the time of that operation counts, and when it was shown. -/
def opened? (t : Timeline) : Option (Instant × NavState) :=
  t.sinceBegun.latest? NavigatorAct.opening?

theorem latest?_append (t more : Timeline) :
    (t ++ more).latest? pick = (more.latest? pick).or (t.latest? pick) := by
  simp [latest?, List.getLast?_append]

/-- The last act of a kind among those of one moment. -/
theorem latest?_map (now : Instant) (acts : List NavigatorAct) :
    latest? pick (acts.map (now, ·)) = (acts.filterMap pick).getLast?.map (now, ·) := by
  rw [latest?, List.filterMap_map, ← List.getLast?_map, List.map_filterMap]
  rfl

theorem sinceBegun_append {t more : Timeline}
    (h : ∀ entry ∈ more, entry.2.beginning? = none) :
    sinceBegun (t ++ more) = t.sinceBegun ++ more := by
  rw [sinceBegun, List.foldl_append, ← sinceBegun]
  induction more generalizing t with
  | nil => simp
  | cons entry more ih =>
      have hentry := h entry List.mem_cons_self
      have hmore := fun later hlater => h later (List.mem_cons_of_mem entry hlater)
      have hone : (t ++ [entry]).sinceBegun = t.sinceBegun ++ [entry] := by
        simp [sinceBegun, List.foldl_append, hentry]
      rw [List.foldl_cons, hentry, Option.isSome_none, if_neg Bool.false_ne_true, ← hone,
        ih hmore, hone, List.append_assoc, List.singleton_append]

/-- Acts in the course of an operation leave it the one that began last. -/
theorem begun?_append (t : Timeline) (now : Instant) {acts : List NavigatorAct}
    (h : ∀ a ∈ acts, a.beginning? = none) :
    begun? (t ++ acts.map (now, ·)) = t.begun? := by
  rw [begun?, latest?_append, latest?_map, List.filterMap_eq_nil_iff.mpr h]
  rfl

/-- Acts in the course of an operation open its time anew, or leave it as it is. -/
theorem opened?_append (t : Timeline) (now : Instant) {acts : List NavigatorAct}
    (h : ∀ a ∈ acts, a.beginning? = none) :
    opened? (t ++ acts.map (now, ·)) =
      ((acts.filterMap NavigatorAct.opening?).getLast?.map (now, ·)).or t.opened? := by
  rw [opened?, sinceBegun_append (by simpa using h), latest?_append, latest?_map]
  rfl

end Timeline

/-- What happens in a run, and when. -/
def Session.timeline (s : Session) : List Event → Timeline
  | [] => []
  | e :: es => (s.step e).2.map (s.now, ·) ++ (s.step e).1.timeline es

/-! ## From when a stage's time counts -/

/-- Does a request fly a mission? -/
def Request.isMission : Request → Bool
  | .mission _ => true
  | _ => false

/-- The state that a task's operation has shown. -/
def Task.opening : Task → NavState
  | .leg l => .enRoute l.index
  | .home _ _ => .returningHome
  | .arm _ | .presetAltitude _ | .takeoff _ => .arming
  | .land _ | .disarm => .landing

/-- The state that has been shown by whoever looks for a sight. -/
def Sight.opening : Sight → NavState
  | .arrival l _ => .enRoute l.index
  | .climb _ _ => .arming
  | .touchdown _ => .landing

/-- A leg on the way of a request. The legs of a mission, and no others, are numbered in
failures. -/
def Leg.Serves (r : Request) (l : Leg) : Prop :=
  r.isFlight = true ∧ l.route.numbered = r.isMission

/-- A task on the way of a request. -/
def Task.Serves (r : Request) : Task → Prop
  | .leg l => l.Serves r
  | .home _ _ => r.isFlight = true
  | _ => r.isFlight = false

/-- A sight on the way of a request. -/
def Sight.Serves (r : Request) : Sight → Prop
  | .arrival l _ => l.Serves r
  | _ => r.isFlight = false

namespace Stage

/-- The state from which the time of a stage counts. -/
def opening? : Stage → Option NavState
  | .begun _ => none
  | .calling task _ | .awaiting task _ _ => some task.opening
  | .watching sight _ => some sight.opening
  | .hovering _ _ => some .hovering

/-- The deadline of a stage, or the end of its pause, is that of a time that counts from the
given moment. -/
def IsDueFrom (settings : NavigatorSettings) (opened : Instant) : Stage → Prop
  | .begun _ => True
  | .calling _ deadline | .awaiting _ deadline _ | .watching _ deadline =>
    deadline = opened + settings.arrivalTimeout.timerMillis
  | .hovering l wake =>
    ∃ pause, l.target.hoverDuration? = some pause ∧ wake = pauseEnd opened pause

/-- A stage on the way of a request. -/
def Serves (r : Request) : Stage → Prop
  | .begun other => other = r
  | .calling task _ | .awaiting task _ _ => task.Serves r
  | .watching sight _ => sight.Serves r
  | .hovering l _ => l.Serves r

/-- **One stage leads to the next under the same time limit**. -/
structure Keeps (settings : NavigatorSettings) (stage next : Stage) : Prop where
  underWay : stage.isUnderWay = true
  opening : next.opening? = stage.opening?
  due : ∀ opened, stage.IsDueFrom settings opened → next.IsDueFrom settings opened
  serves : ∀ r, stage.Serves r → next.Serves r

/-- **Time counts anew** from the state that is shown on the way from one stage to the next.
Only a request that has just begun shows that it arms or that it lands. -/
structure Opens (settings : NavigatorSettings) (now : Instant) (stage next : Stage)
    (state : NavState) : Prop where
  opening : next.opening? = some state
  due : next.IsDueFrom settings now
  planned : state = .arming ∨ state = .landing → stage.isUnderWay = false
  serves : ∀ r, stage.Serves r → next.Serves r

end Stage

/-- The state that a move shows, if time counts from it. -/
def Move.opening? (m : Move) : Option NavState := m.shows.filter NavState.isOpening

/-- **What a move does to the time limit** of an operation that it leads on: it shows a state from
which time counts anew, or keeps the limit. -/
def Stage.Continues (settings : NavigatorSettings) (now : Instant) (stage : Stage) (m : Move) :
    Prop :=
  ∀ next, m.act.stage? = some next →
    (∃ state, m.opening? = some state ∧ stage.Opens settings now next state) ∨
      (m.opening? = none ∧ stage.Keeps settings next)

section Moves

variable {settings : NavigatorSettings} {now : Instant} {telemetry : Aggregator}
  {cancelled : Bool} {stage : Stage}

/-- An end leads no operation on. -/
theorem Stage.continues_finish {shows : Option NavState} {ending : Ending} :
    stage.Continues settings now ⟨shows, .finish ending⟩ := by
  intro next hnext
  cases hnext

/-- A move that shows nothing from which time would count, and stays under the limit. -/
theorem Stage.continues_enter {shows : Option NavState} {next : Stage}
    (hshows : shows.filter NavState.isOpening = none) (h : stage.Keeps settings next) :
    stage.Continues settings now ⟨shows, .enter next⟩ := by
  intro next' hnext
  obtain rfl := Option.some.inj hnext
  exact .inr ⟨hshows, h⟩

/-- A stage that is entered with a new time limit. -/
theorem Move.continues_enterTimed (task : Task) (hopening : task.opening.isOpening = true)
    (hplanned : task.opening = .arming ∨ task.opening = .landing → stage.isUnderWay = false)
    (hserves : ∀ r, stage.Serves r → task.Serves r) :
    stage.Continues settings now
      (enterTimed settings now (some task.opening) (.calling task)) := by
  intro next hnext
  obtain rfl := stage_of_enterTimed hnext
  refine .inl ⟨task.opening, ?_, ⟨rfl, rfl, hplanned, hserves⟩⟩
  unfold enterTimed
  split <;> simp [opening?, Option.filter, hopening]

theorem Leg.continues_start {l : Leg}
    (hserves : ∀ r, stage.Serves r → l.Serves r) :
    stage.Continues settings now (l.start settings now) :=
  Move.continues_enterTimed (.leg l) rfl (by simp [Task.opening]) hserves

theorem Leg.continues_next {l : Leg}
    (hserves : ∀ r, stage.Serves r → l.Serves r) :
    stage.Continues settings now (l.next settings now) := by
  unfold Leg.next
  split
  · exact continues_start hserves
  · split
    · rename_i home hhome
      exact Move.continues_enterTimed (.home l.route home) rfl (by simp [Task.opening])
        fun r hr => (hserves r hr).1
    · exact Stage.continues_finish

theorem Leg.continues_arrive {l : Leg}
    (hserves : ∀ r, stage.Serves r → l.Serves r) :
    stage.Continues settings now (l.arrive settings now) := by
  unfold Leg.arrive
  split
  · split
    · rename_i pause hpause
      intro next hnext
      obtain rfl := Option.some.inj hnext
      exact .inl ⟨.hovering, rfl, ⟨rfl, ⟨pause, hpause, rfl⟩, by simp, hserves⟩⟩
    · exact Stage.continues_finish
  · exact continues_next hserves

theorem Request.continues_begin (r : Request) :
    (Stage.begun r).Continues settings now (r.begin settings now telemetry) := by
  have htimed : ∀ task deadline, settings.deadline? now = some deadline →
      task.opening.isOpening = true → task.Serves r →
      (Stage.begun r).Continues settings now
        ⟨some task.opening, .enter (.calling task deadline)⟩ := by
    intro task deadline hdeadline hopening hserves next hnext
    obtain rfl := eq_of_deadline hdeadline
    obtain rfl := Option.some.inj hnext
    exact .inl ⟨task.opening, by simp [Move.opening?, Option.filter, hopening],
      ⟨rfl, rfl, fun _ => rfl, fun _ hr => hr ▸ hserves⟩⟩
  unfold Request.begin
  repeat' split
  all_goals first
    | exact Stage.continues_finish
    | exact htimed _ _ ‹_› rfl rfl
    | exact Leg.continues_start fun _ hr => hr ▸ ⟨rfl, rfl⟩

theorem Task.continues_accepted (task : Task) (deadline : Instant) (reply : Option Reply) :
    (Stage.awaiting task deadline reply).Continues settings now
      (task.accepted telemetry deadline) := by
  unfold Task.accepted
  repeat' split
  all_goals first
    | exact Stage.continues_finish
    | exact Stage.continues_enter rfl (by exact ⟨rfl, rfl, fun _ => id, fun _ => id⟩)

theorem Sight.continues_followUp (sight : Sight) (deadline : Instant) :
    (Stage.watching sight deadline).Continues settings now
      (sight.followUp settings now telemetry deadline) := by
  unfold Sight.followUp
  repeat' split
  all_goals first
    | exact Leg.continues_arrive fun _ => id
    | exact Stage.continues_finish
    | exact Stage.continues_enter rfl (by exact ⟨rfl, rfl, fun _ => id, fun _ => id⟩)

/-- **A move opens a new time limit or keeps the old one.** -/
theorem Stage.continues_of_move {m : Move}
    (hm : stage.move settings now telemetry cancelled = some m) :
    stage.Continues settings now m := by
  cases moves_of_move hm with
  | begins _ request => exact request.continues_begin
  | calls task deadline =>
      intro next hnext
      obtain rfl := Option.some.inj hnext
      exact .inr ⟨rfl, ⟨rfl, rfl, fun _ => id, fun _ => id⟩⟩
  | accepted task deadline => exact task.continues_accepted deadline _
  | sees sight deadline hseen => exact sight.continues_followUp deadline
  | hovers l wake hlate => exact Leg.continues_next fun _ => id
  | _ => exact continues_finish

end Moves

/-! ## Along a run -/

/-- The state shown by a move, among its acts. -/
theorem Navigator.opening_carryOut (n : Navigator) (op : ActiveOperation) (m : Move) :
    (n.carryOut op m).2.filterMap NavigatorAct.opening? = m.opening?.toList := by
  have hshown : (m.shows.toList.map NavigatorAct.shows).filterMap NavigatorAct.opening? =
      m.opening?.toList := by
    cases hshows : m.shows with
    | none => simp [Move.opening?, hshows]
    | some state =>
        cases hopening : state.isOpening <;>
          simp [Move.opening?, Option.filter, NavigatorAct.opening?, hshows, hopening]
  have hdropped : (dropped op).filterMap NavigatorAct.opening? = [] := filterMap_dropped rfl
  have hdone : ∀ outcome, (NavigatorAct.shows (.done outcome)).opening? = none := fun _ => rfl
  have hcalls : ∀ call, (NavigatorAct.calls op.id call).opening? = none := fun _ => rfl
  have hends : ∀ ending, (NavigatorAct.ends op.id ending).opening? = none := fun _ => rfl
  unfold carryOut
  split <;> simp [hshown, hdropped, hdone, hcalls, hends]

namespace Session

/-- An event that does not keep the navigator waiting: time passes only when there is nothing to
do. -/
def Event.isPrompt (s : Session) : Event → Bool
  | .pass _ => s.isQuiet
  | _ => true

/-- A run of such events. -/
def IsPrompt (s : Session) : List Event → Prop
  | [] => True
  | e :: es => e.isPrompt s = true ∧ (s.step e).1.IsPrompt es

end Session

/-- **From when an operation's time counts**, by the record of a run. Whether time passed between
its beginning and its planning is left to `prompt`. -/
structure ActiveOperation.Dated (prompt : Prop) (settings : NavigatorSettings) (now : Instant)
    (t : Timeline) (op : ActiveOperation) : Prop where
  begun : ∃ began, t.begun? = some (began, op.id) ∧
    (prompt → op.stage.isUnderWay = false → began = now)
  opened : ∀ state, op.stage.opening? = some state →
    ∃ opened ≤ now, t.opened? = some (opened, state) ∧ op.stage.IsDueFrom settings opened ∧
      (prompt → state = .arming ∨ state = .landing → t.begun? = some (opened, op.id))

namespace ActiveOperation

variable {prompt : Prop} {settings : NavigatorSettings} {now : Instant} {telemetry : Aggregator}
  {t : Timeline} {op : ActiveOperation} {e : Session.Event}

theorem opening_hear (settings : NavigatorSettings) (op : ActiveOperation) (e : Session.Event) :
    (op.hear e).stage.opening? = op.stage.opening? ∧
      (op.hear e).stage.isUnderWay = op.stage.isUnderWay ∧
      ∀ opened, (op.hear e).stage.IsDueFrom settings opened ↔
        op.stage.IsDueFrom settings opened := by
  cases e with
  | answer reply =>
      simp only [hear]
      split
      · rename_i hstage
        rw [hstage]
        exact ⟨rfl, rfl, fun _ => Iff.rfl⟩
      · exact ⟨rfl, rfl, fun _ => Iff.rfl⟩
  | _ => exact ⟨rfl, rfl, fun _ => Iff.rfl⟩

/-- Whatever an operation hears, its time counts from when it did. -/
theorem Dated.hear (h : op.Dated prompt settings now t) {later : Instant} (hlater : now ≤ later)
    (hprompt : prompt → op.stage.isUnderWay = false → later = now) (e : Session.Event) :
    (op.hear e).Dated prompt settings later t := by
  obtain ⟨hopening, hunder, hdue⟩ := op.opening_hear settings e
  constructor
  case begun =>
    obtain ⟨began, hbegun, hnow⟩ := h.begun
    rw [hear_id, hunder]
    exact ⟨began, hbegun, fun hp hstage => (hnow hp hstage).trans (hprompt hp hstage).symm⟩
  case opened =>
    intro state hstate
    rw [hopening] at hstate
    obtain ⟨opened, hle, hopened, hfrom, hwhole⟩ := h.opened state hstate
    rw [hear_id]
    exact ⟨opened, Nat.le_trans hle hlater, hopened, (hdue opened).mpr hfrom, hwhole⟩

/-- **A move keeps the record in step with the operation.** -/
theorem Dated.move {m : Move} {next : Stage} (h : op.Dated prompt settings now t)
    (hm : op.stage.move settings now telemetry op.cancelled = some m)
    (hnext : m.act.stage? = some next) (n : Navigator) :
    ({ op with stage := next } : ActiveOperation).Dated prompt settings now
      (t ++ (n.carryOut op m).2.map (now, ·)) := by
  have honward : ∀ a ∈ (n.carryOut op m).2, a.beginning? = none :=
    fun a ha => (Navigator.isOf_of_mem_carryOut ha).onward
  have hbegun := Timeline.begun?_append t now honward
  have hopened := Timeline.opened?_append t now honward
  rw [Navigator.opening_carryOut] at hopened
  obtain ⟨began, hbegan, hnow⟩ := h.begun
  constructor
  case begun =>
    rw [hbegun]
    refine ⟨began, hbegan, fun _ hstage => ?_⟩
    rw [Stage.isUnderWay_of_move hm hnext] at hstage
    cases hstage
  case opened =>
    intro state hstate
    rw [hbegun, hopened]
    rcases Stage.continues_of_move hm next hnext with ⟨shown, hshown, hopens⟩ | ⟨hnone, hkeeps⟩
    · obtain rfl := Option.some.inj (hopens.opening.symm.trans hstate)
      rw [hshown]
      refine ⟨now, Nat.le_refl _, rfl, hopens.due, fun hp hwhole => ?_⟩
      rw [hbegan, hnow hp (hopens.planned hwhole)]
    · rw [hkeeps.opening] at hstate
      obtain ⟨opened, hle, hat, hfrom, hwhole⟩ := h.opened state hstate
      rw [hnone]
      exact ⟨opened, hle, hat, hkeeps.due opened hfrom, hwhole⟩

end ActiveOperation

namespace Session

variable {prompt : Prop} {s : Session} {t : Timeline} {op : ActiveOperation} {e : Event}
  {es : List Event}

/-- The time of the running operation, if there is one, is on record. -/
def Dated (prompt : Prop) (s : Session) (t : Timeline) : Prop :=
  ∀ op, s.navigator.active = some op → op.Dated prompt s.navigator.settings s.now t

/-- **One step keeps the record.** -/
theorem Dated.step (h : s.Dated prompt t) (hprompt : prompt → e.isPrompt s = true) :
    (s.step e).1.Dated prompt (t ++ (s.step e).2.map (s.now, ·)) := by
  intro next hnext
  rw [step_settings]
  cases hactive : s.navigator.active with
  | none =>
      rcases s.step_turn e with
        ⟨id, r, rest, rfl, -, -, hbegun, -, hacts⟩ | ⟨op, hop, -⟩ | ⟨hsame, -, hown⟩
      · obtain rfl := Option.some.inj (hbegun.symm.trans hnext)
        rw [hacts, (step_inside s rfl).1]
        refine ⟨⟨s.now, ?_, fun _ _ => rfl⟩, fun state hstate => by cases hstate⟩
        simp [Timeline.begun?, Timeline.latest?, NavigatorAct.beginning?]
      · cases hactive.symm.trans hop
      · cases (idle_of_stays hactive hsame hown).1.symm.trans hnext
  | some op =>
      have hop := h op hactive
      obtain ⟨hreact, hacts⟩ := step_running hactive e
      rw [hnext] at hreact
      rw [hacts]
      -- what is heard leaves the record as it is
      have hheard : op.react s.navigator.settings s.now s.telemetry e = (some (op.hear e), []) →
          next.Dated prompt s.navigator.settings (s.step e).1.now
            (t ++ (op.react s.navigator.settings s.now s.telemetry e).2.map (s.now, ·)) := by
        intro hhear
        rw [hhear] at hreact ⊢
        obtain rfl := Option.some.inj hreact
        rw [List.map_nil, List.append_nil]
        refine hop.hear (now_step s e) (fun hp hstage => ?_) e
        cases e with
        | pass millis =>
            have hquiet := move_of_isQuiet hactive (hprompt hp)
            cases hbegun : op.stage <;> simp [hbegun, Stage.isUnderWay, Stage.move] at hstage hquiet
        | telemetry update timestamp => rfl
        | _ => exact (step_inside s rfl).1
      cases e with
      | move =>
          cases hm : op.stage.move s.navigator.settings s.now s.telemetry op.cancelled with
          | none => exact hheard (by simp [ActiveOperation.react, hm, ActiveOperation.hear])
          | some m =>
              rw [ActiveOperation.react_move hm] at hreact ⊢
              obtain ⟨stage, hstage, rfl⟩ := Option.map_eq_some_iff.mp hreact.symm
              rw [(step_inside s rfl).1]
              exact hop.move hm hstage _
      | abandon id =>
          by_cases hid : id = op.id
          · simp [ActiveOperation.react, hid] at hreact
          · exact hheard (by simp [ActiveOperation.react, hid, ActiveOperation.hear])
      | _ => exact hheard rfl

/-- **The time of the running operation is on record along every run.** -/
theorem Dated.after (h : s.Dated prompt t) (hprompt : prompt → s.IsPrompt es) :
    (s.after es).Dated prompt (t ++ s.timeline es) := by
  induction es generalizing s t with
  | nil => simpa [timeline] using h
  | cons e es ih =>
      have hstep := h.step fun hp => (hprompt hp).1
      have hrest := ih hstep fun hp => (hprompt hp).2
      rwa [timeline, ← List.append_assoc]

theorem dated_after (settings : NavigatorSettings) (capacity : Nat) (es : List Event) :
    ((new settings capacity).after es).Dated ((new settings capacity).IsPrompt es)
      ((new settings capacity).timeline es) :=
  Dated.after (t := []) (fun _ hop => by cases hop) id

end Session

/-! ## What waits keep to -/

/-- A timer goes off at the first instant at which its time has passed. -/
theorem Duration.timerMillis_le_iff (d : Duration) (elapsed : Nat) :
    d.timerMillis ≤ elapsed ↔ d.nanoseconds ≤ elapsed * 1000000 := by
  unfold timerMillis
  omega

/-- How a request fails if the step whose time counts from a state is not done in time. -/
def Request.lateness (r : Request) : NavState → NavFailure
  | .enRoute k => if r.isMission then .leg k .timeout else .timeout
  | _ => .timeout

theorem Leg.lateness_eq {r : Request} {l : Leg} (h : l.Serves r) :
    l.failure .timeout = r.lateness (.enRoute l.index) := by
  rw [Leg.failure, h.2]
  rfl

theorem Task.lateness_eq {r : Request} {task : Task} (h : task.Serves r) :
    task.failure .timeout = r.lateness task.opening := by
  cases task with
  | leg l => exact Leg.lateness_eq h
  | _ => rfl

theorem Sight.lateness_eq {r : Request} {sight : Sight} (h : sight.Serves r) :
    sight.failure .timeout = r.lateness sight.opening := by
  cases sight with
  | arrival l since => exact Leg.lateness_eq h
  | _ => rfl

namespace Stage

variable {settings : NavigatorSettings} {now opened : Instant} {telemetry : Aggregator}
  {stage : Stage} {state : NavState} {r : Request}

/-- Does an operation wait for something that is not there? -/
def isInVain (settings : NavigatorSettings) (telemetry : Aggregator) : Stage → Bool
  | .awaiting _ _ none => true
  | .watching sight _ => !sight.seen settings telemetry
  | _ => false

/-- The time of a takeoff or a landing that is planned counts from its planning. -/
theorem opening_of_serves (h : stage.Serves r) (hr : r.isFlight = false)
    (hunder : stage.isUnderWay = true) :
    ∃ state, stage.opening? = some state ∧ (state = .arming ∨ state = .landing) := by
  have hleg : ∀ l : Leg, ¬ l.Serves r := fun l hl => by simp [Leg.Serves, hr] at hl
  have htask : ∀ task : Task, task.Serves r →
      ∃ state, some task.opening = some state ∧ (state = .arming ∨ state = .landing) := by
    intro task h
    cases task with
    | leg l => exact absurd h (hleg l)
    | home route home => simp [Task.Serves, hr] at h
    | _ => exact ⟨_, rfl, by simp [Task.opening]⟩
  cases stage with
  | begun request => cases hunder
  | calling task deadline => exact htask task h
  | awaiting task deadline reply => exact htask task h
  | watching sight deadline =>
      cases sight with
      | arrival l since => exact absurd h (hleg l)
      | _ => exact ⟨_, rfl, by simp [Sight.opening]⟩
  | hovering l wake => exact absurd h (hleg l)

/-- The timer of a wait for a call or for a sight is its time limit. -/
theorem timer_of_isDueFrom (h : stage.IsDueFrom settings opened)
    (hopening : stage.opening? = some state) (hstate : state ≠ .hovering) {due : Instant}
    (htimer : stage.timer = some due) : due = opened + settings.arrivalTimeout.timerMillis := by
  cases stage with
  | begun request => cases hopening
  | calling task deadline => cases htimer
  | awaiting task deadline reply => exact Option.some.inj htimer ▸ h
  | watching sight deadline => exact Option.some.inj htimer ▸ h
  | hovering l wake => exact absurd (Option.some.inj hopening).symm hstate

/-- **A wait that is not over when its time is up ends the operation**, with the lack of time as
the cause. -/
theorem move_of_expired (hserves : stage.Serves r) (h : stage.IsDueFrom settings opened)
    (hopening : stage.opening? = some state) (hvain : stage.isInVain settings telemetry = true)
    (hup : opened + settings.arrivalTimeout.timerMillis ≤ now) :
    stage.move settings now telemetry false = some (.fail (r.lateness state)) := by
  cases stage with
  | awaiting task deadline reply =>
      obtain rfl : deadline = _ := h
      obtain rfl := Option.some.inj hopening
      cases reply with
      | none => simp [move, hup, Task.lateness_eq hserves]
      | some reply => cases hvain
  | watching sight deadline =>
      obtain rfl : deadline = _ := h
      obtain rfl := Option.some.inj hopening
      have hunseen : sight.seen settings telemetry = false := by simpa [isInVain] using hvain
      simp [move, hup, hunseen, Sight.lateness_eq hserves]
  | _ => cases hvain

end Stage

/-- The stage of the running operation of a request is on the way of the request. -/
theorem ActiveOperation.lasting_serves (r : Request) : Lasting fun op => op.stage.Serves r :=
  lasting_of_stage (p := fun stage => stage.Serves r)
    (fun hserves hm hnext => by
      rcases Stage.continues_of_move hm _ hnext with ⟨state, -, hopens⟩ | ⟨-, hkeeps⟩
      · exact hopens.serves r hserves
      · exact hkeeps.serves r hserves)
    fun hserves => hserves

namespace Session

variable {s : Session} {op : ActiveOperation} {before later front back : List Event} {id : Nat}
  {r : Request}

/-- **What the waits of the running operation keep to**, by the record of the run. The operation is
that of a request, and time is taken to pass as `prompt` says. -/
structure KeepsLimits (settings : NavigatorSettings) (s : Session) (t : Timeline) (prompt : Prop)
    (r : Request) (op : ActiveOperation) : Prop where
  /-- When there is nothing to do, the time limit of a call or of a sight is not up. It counts from
  the state that was shown for the leg, for the way home, or for the takeoff or the landing. -/
  step_in_time : s.isQuiet = true → ∀ state, op.stage.opening? = some state →
    state ≠ .hovering → ∃ opened ≤ s.now, t.opened? = some (opened, state) ∧
      (s.now - opened) * 1000000 < settings.arrivalTimeout.nanoseconds
  /-- The limit of a takeoff or of a landing is one for all of it: it counts from the beginning, if
  nobody keeps the navigator waiting. -/
  whole : r.isFlight = false → prompt → op.stage.isUnderWay = true →
    ∃ began state, t.begun? = some (began, op.id) ∧ t.opened? = some (began, state)
  /-- So a takeoff or a landing that waits for anything is within it. -/
  whole_in_time : r.isFlight = false → prompt → s.isQuiet = true →
    ∃ began ≤ s.now, t.begun? = some (began, op.id) ∧
      (s.now - began) * 1000000 < settings.arrivalTimeout.nanoseconds
  /-- Whoever still waits when it is up fails for that reason, on an outbound leg of a mission
  with the number of the leg, and gives up the call. -/
  expires : op.cancelled = false → op.stage.isInVain settings s.telemetry = true →
    ∀ opened state, t.opened? = some (opened, state) →
      settings.arrivalTimeout.nanoseconds ≤ (s.now - opened) * 1000000 →
      (s.step .move).2 = Navigator.dropped op ++
        [.shows (.done (.failed (r.lateness state))),
          .ends op.id (.outcome (.failed (r.lateness state)))]
  /-- A hover counts from its own beginning. Before its duration has passed, or thirty years,
  nothing but a cancellation brings it nearer to its end; then the flight goes on. -/
  pauses : ∀ l wake, op.stage = .hovering l wake → op.cancelled = false →
    ∃ opened ≤ s.now, ∃ pause, t.opened? = some (opened, .hovering) ∧
      l.target.hoverDuration? = some pause ∧
      ((s.now - opened) * 1000000 < min pause.nanoseconds (farFuture * 1000000) →
        ∀ e, e ≠ .abandon op.id → (s.step e).2 = [] ∧
          (s.step e).1.navigator.active = some (op.hear e)) ∧
      (min pause.nanoseconds (farFuture * 1000000) ≤ (s.now - opened) * 1000000 →
        op.stage.move settings s.now s.telemetry false = some (l.next settings s.now))

/-- Before its time a hover stays, whatever reaches the session. -/
theorem hover_kept {l : Leg} {wake : Instant} (h : s.navigator.active = some op)
    (hstage : op.stage = .hovering l wake) (huncancelled : op.cancelled = false)
    (hearly : s.now < wake) {e : Event} (he : e ≠ .abandon op.id) :
    (s.step e).2 = [] ∧ (s.step e).1.navigator.active = some (op.hear e) := by
  obtain ⟨hnext, hacts⟩ := step_running h e
  have hreact : op.react s.navigator.settings s.now s.telemetry e = (some (op.hear e), []) := by
    cases e with
    | move =>
        have hm : op.stage.move s.navigator.settings s.now s.telemetry op.cancelled = none := by
          simp [hstage, Stage.move, huncancelled, Nat.not_le.mpr hearly]
        simp [ActiveOperation.react, hm, ActiveOperation.hear]
    | abandon owner =>
        have hother : owner ≠ op.id := fun hid => he (by rw [hid])
        simp [ActiveOperation.react, hother, ActiveOperation.hear]
    | _ => rfl
  rw [hreact] at hnext hacts
  exact ⟨hacts, hnext⟩

/-- An operation whose time is on record keeps to its limits. -/
theorem keepsLimits_of_dated {prompt : Prop} {t : Timeline} {settings : NavigatorSettings}
    (hsettings : s.navigator.settings = settings) (h : s.navigator.active = some op)
    (hdated : op.Dated prompt settings s.now t) (hserves : op.stage.Serves r) :
    s.KeepsLimits settings t prompt r op := by
  -- a quiet session waits for the timer of the running operation
  have hwaits : s.isQuiet = true → ∀ state, op.stage.opening? = some state → state ≠ .hovering →
      ∃ opened ≤ s.now, t.opened? = some (opened, state) ∧
        (s.now - opened) * 1000000 < settings.arrivalTimeout.nanoseconds := by
    intro hquiet state hstate hhover
    obtain ⟨opened, hle, hopened, hfrom, -⟩ := hdated.opened state hstate
    obtain ⟨due, hdue⟩ := Stage.waitsUntil_of_move (move_of_isQuiet h hquiet)
    have hlimit := Stage.timer_of_isDueFrom hfrom hstate hhover hdue.timer
    have hearly : ¬ opened + settings.arrivalTimeout.timerMillis ≤ s.now :=
      Nat.not_le.mpr (hlimit ▸ hdue.early)
    rw [← Nat.le_sub_iff_add_le' hle, Duration.timerMillis_le_iff, Nat.not_le] at hearly
    exact ⟨opened, hle, hopened, hearly⟩
  -- a takeoff or a landing shows nothing later that time counts from
  have hplanned : r.isFlight = false → prompt → op.stage.isUnderWay = true →
      ∃ began state, op.stage.opening? = some state ∧ state ≠ .hovering ∧
        t.begun? = some (began, op.id) ∧ t.opened? = some (began, state) := by
    intro hflight hprompt hunder
    obtain ⟨state, hstate, hkind⟩ := Stage.opening_of_serves hserves hflight hunder
    obtain ⟨began, -, hopened, -, hwhole⟩ := hdated.opened state hstate
    have hhover : state ≠ .hovering := by rcases hkind with rfl | rfl <;> simp
    exact ⟨began, state, hstate, hhover, hwhole hprompt hkind, hopened⟩
  constructor
  case step_in_time => exact hwaits
  case whole =>
    intro hflight hprompt hunder
    obtain ⟨began, state, -, -, hbegun, hopened⟩ := hplanned hflight hprompt hunder
    exact ⟨began, state, hbegun, hopened⟩
  case whole_in_time =>
    intro hflight hprompt hquiet
    have hunder : op.stage.isUnderWay = true := by
      have hmove := move_of_isQuiet h hquiet
      cases hstage : op.stage <;> simp_all [Stage.isUnderWay, Stage.move]
    obtain ⟨began, state, hstate, hhover, hbegun, hopened⟩ := hplanned hflight hprompt hunder
    obtain ⟨opened, hle, hopened', hearly⟩ := hwaits hquiet state hstate hhover
    obtain ⟨rfl, -⟩ := Prod.mk.inj (Option.some.inj (hopened.symm.trans hopened'))
    exact ⟨began, hle, hbegun, hearly⟩
  case expires =>
    intro huncancelled hvain opened state hopened hup
    have hopening : ∃ state, op.stage.opening? = some state := by
      cases hstage : op.stage <;> simp_all [Stage.isInVain, Stage.opening?]
    obtain ⟨state', hstate⟩ := hopening
    obtain ⟨opened', hle, hopened', hfrom, -⟩ := hdated.opened state' hstate
    obtain ⟨rfl, rfl⟩ := Prod.mk.inj (Option.some.inj (hopened.symm.trans hopened'))
    rw [← Duration.timerMillis_le_iff, Nat.le_sub_iff_add_le' hle] at hup
    have hmove := Stage.move_of_expired hserves hfrom hstate hvain hup
    rw [← huncancelled, ← hsettings] at hmove
    rw [(step_running h .move).2, ActiveOperation.react_move hmove]
    rfl
  case pauses =>
    intro l wake hstage huncancelled
    obtain ⟨opened, hle, hopened, hfrom, -⟩ := hdated.opened .hovering (by rw [hstage]; rfl)
    rw [hstage] at hfrom
    obtain ⟨pause, hpause, hwake⟩ := hfrom
    have hlength : min pause.nanoseconds (farFuture * 1000000) ≤ (s.now - opened) * 1000000 ↔
        wake ≤ s.now := by
      have htimer := pause.timerMillis_le_iff (s.now - opened)
      rw [hwake, pauseEnd, ← Nat.le_sub_iff_add_le' hle]
      omega
    refine ⟨opened, hle, pause, hopened, hpause, fun hearly e he => ?_, fun hup => ?_⟩
    · rw [← Nat.not_le, hlength, Nat.not_le] at hearly
      exact hover_kept h hstage huncancelled hearly he
    · simp [hstage, Stage.move, hlength.mp hup]

/-- **Every operation keeps to its limits**: whatever is requested, answered, told, cancelled and
given up at any times, and wherever the run has come. -/
theorem limits_kept (settings : NavigatorSettings) (capacity : Nat)
    (hnum : Numbered (before ++ .request id r :: later))
    (hfront : before ++ .request id r :: later = front ++ back)
    (hrun : ((new settings capacity).after front).navigator.active = some op)
    (hid : op.id = id) :
    ((new settings capacity).after front).KeepsLimits settings
      ((new settings capacity).timeline front) ((new settings capacity).IsPrompt front) r op := by
  have hdated := dated_after settings capacity front op hrun
  have hsettings : ((new settings capacity).after front).navigator.settings = settings :=
    after_settings ..
  rw [hsettings] at hdated
  exact keepsLimits_of_dated hsettings hrun hdated
    (lasting_of_requested (ActiveOperation.lasting_serves r) rfl hnum hfront hrun hid)

/-- The sample on the ground from which a mission is planned. -/
def groundSample : List Event :=
  [.telemetry (.velocity ⟨0.0, 0.0, 0.0⟩) 1,
    .telemetry (.imu ⟨⟨0.0, 0.0, 0.0⟩, ⟨0.0, 0.0, 0.0⟩, ⟨0.0, 0.0, 0.0⟩, 20.0⟩) 2,
    .telemetry (.position ⟨47.0, 8.0, 400.0, 0.0⟩) 3]

/-- A mission to two points, with a hover at the first one. -/
def twoPoints (pause : Float) : Mission :=
  ⟨"two points", [⟨47.5, 8.5, 10.0, pause⟩, ⟨47.6, 8.6, 10.0, 0.0⟩], false⟩

/-- The mission is requested on the ground. -/
def twoPointsRequested (pause : Float) : List Event :=
  groundSample ++ [.request 0 (.mission (twoPoints pause))]

/-- The vehicle flies to the first point, where the operation waits for a while. -/
def firstPointFlown (millis : Nat) : List Event :=
  [.move, .move, .move, .answer (.ok ()), .move,
    .telemetry (.position ⟨47.5, 8.5, 410.0, 10.0⟩) 4, .move, .pass millis]

/-- The call of the second leg is not answered for two minutes. -/
def secondCallUnanswered : List Event := [.move, .move, .pass 120000]

/-- Neither the first leg nor the hover takes anything from the time of the second leg, which fails
two minutes after it was set out on. -/
theorem limits_kept_secondLeg :
    ((new unhurried 4).after (twoPointsRequested 5.0 ++ firstPointFlown 5000 ++
        secondCallUnanswered)).now = 125000 ∧
      endingsOf 0 (((new unhurried 4).after (twoPointsRequested 5.0 ++ firstPointFlown 5000 ++
        secondCallUnanswered)).step .move).2 = [.outcome (.failed (.leg 2 .timeout))] := by
  have hwaits : ((new unhurried 4).after (twoPointsRequested 5.0 ++ firstPointFlown 5000 ++
      secondCallUnanswered)).navigator.active.map
        (fun op => (op.id, op.cancelled, op.stage.isAwaiting)) = some (0, false, true) := by
    decide +kernel
  obtain ⟨op, hop, hstage⟩ := Option.map_eq_some_iff.mp hwaits
  obtain ⟨hid, hcancelled, hawaiting⟩ : op.id = 0 ∧ op.cancelled = false ∧
      op.stage.isAwaiting = true := by simpa using hstage
  have hvain : ∀ telemetry, op.stage.isInVain unhurried telemetry = true := by
    intro telemetry
    unfold Stage.isAwaiting at hawaiting
    split at hawaiting
    · rename_i hcalled
      rw [hcalled]
      rfl
    · cases hawaiting
  have hrun : groundSample ++ .request 0 (.mission (twoPoints 5.0)) ::
      (firstPointFlown 5000 ++ secondCallUnanswered) =
        twoPointsRequested 5.0 ++ firstPointFlown 5000 ++ secondCallUnanswered ++ [] := by
    simp [twoPointsRequested]
  have hkeeps := limits_kept unhurried 4 (by decide) hrun hop hid
  have hacts := hkeeps.expires hcancelled (hvain _) 5000 (.enRoute 2) (by decide +kernel)
    (by decide +kernel)
  refine ⟨by decide +kernel, ?_⟩
  rw [hacts, ← hid]
  simp [Navigator.dropped, hawaiting, endingsOf, NavigatorAct.endingOf?, Request.lateness,
    Request.isMission]

/-- A hover of a billion seconds, more than thirty-one years, is over after thirty: no
cancellation and no time limit ends it, but the longest pause there is. -/
theorem hover_cut_short :
    Duration.ofSeconds? 1000000000.0 = some (.ofSeconds 1000000000) ∧
      Timeline.opened? ((new unhurried 4).timeline
        (twoPointsRequested 1000000000.0 ++ firstPointFlown farFuture)) = some (0, .hovering) ∧
      ((new unhurried 4).after (twoPointsRequested 1000000000.0 ++
        firstPointFlown farFuture)).navigator.active.map (·.cancelled) = some false ∧
      (((new unhurried 4).after (twoPointsRequested 1000000000.0 ++
        firstPointFlown farFuture)).now - 0) * 1000000 <
          (Duration.ofSeconds 1000000000).nanoseconds ∧
      (((new unhurried 4).after (twoPointsRequested 1000000000.0 ++
        firstPointFlown farFuture)).step .move).1.navigator.state = .enRoute 2 := by
  decide +kernel

end Session

end GroundStation
