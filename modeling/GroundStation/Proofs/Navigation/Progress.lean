import GroundStation.Proofs.Navigation.Arrival
import GroundStation.Proofs.Navigation.Itinerary
import GroundStation.Proofs.Navigation.Turns

/-!
# Every operation comes to its end

An operation waits for answers, for samples and for the end of a hover, and every one of these
waits has a time limit. So the time an operation takes has one as well, which is settled by what
was requested (`Request.allowance`): the time limit of each leg, and the pause at its stop.

A move brings an operation forward in several respects at once (`Stage.Advances`): there are fewer
stops ahead of it and fewer moves, and it does not put off the instant at which it will have ended
at the latest. The statements about runs follow from this one.

Time passes in its own right in a session. What is said about the time an operation takes holds of
runs in which the navigator is not kept waiting: time passes only when there is nothing to do, and
not beyond the next timer (`Session.IsTimely`). There is always such a run, and it needs neither an
answer nor a sample (`Session.exists_timely`).

An operation can also end because a length of time it needs is none. That happens when it arrives at
a stop whose hover is none, or when it sets a time limit and the clock does not come to the
deadline, and nowhere else (`Session.overflow_iff`).

## Main results

* `Stage.advances_of_move`: what a move brings.
* `Session.lasting_of_requested`: what lasts holds of a request at any point of its run.
* `Session.endingsOf_length_le_one`, `Session.overflow_iff`: how an operation ends.
* `Session.ends_in_time`: that it ends.
* `Session.exists_timely`: time can always go on.
-/

namespace GroundStation

/-! ## The time an operation is allowed -/

/-- The milliseconds that an operation hovers at a waypoint, if it does. -/
def Waypoint.pause (w : Waypoint) : Nat :=
  match w.hoverDuration? with
  | some pause => min pause.timerMillis farFuture
  | none => 0

/-- The milliseconds that legs to waypoints may take, with a leg back behind them if the flight
returns. -/
def NavigatorSettings.allowance (settings : NavigatorSettings) (returns : Bool) :
    List Waypoint → Nat
  | [] => if returns then settings.arrivalTimeout.timerMillis else 0
  | w :: rest => settings.arrivalTimeout.timerMillis + w.pause + settings.allowance returns rest

/-- The milliseconds that an operation may take. -/
def Request.allowance (settings : NavigatorSettings) : Request → Nat
  | .goto target returnToStart => settings.allowance returnToStart [target]
  | .mission m => settings.allowance m.returnToStart m.waypoints
  | .takeoff _ | .land _ => settings.arrivalTimeout.timerMillis

/-- The milliseconds that may follow a leg. -/
def Leg.allowance (settings : NavigatorSettings) (l : Leg) : Nat :=
  settings.allowance l.route.home.isSome l.rest

/-- The milliseconds that may follow the time limit of a task's call. -/
def Task.allowance (settings : NavigatorSettings) : Task → Nat
  | .leg l => l.target.pause + l.allowance settings
  | _ => 0

/-- The milliseconds that may follow the time limit of a sight. -/
def Sight.allowance (settings : NavigatorSettings) : Sight → Nat
  | .arrival l _ => l.target.pause + l.allowance settings
  | _ => 0

namespace Stage

/-- The instant at which an operation that is at this stage now has ended at the latest. -/
def latestEnd (settings : NavigatorSettings) (now : Instant) : Stage → Instant
  | .begun request => now + request.allowance settings
  | .calling task deadline | .awaiting task deadline _ => deadline + task.allowance settings
  | .watching sight deadline => deadline + sight.allowance settings
  | .hovering l wake => wake + l.allowance settings

/-- A call that nothing follows ends with its time limit. -/
theorem latestEnd_calling {settings : NavigatorSettings} {now deadline : Instant} {task : Task}
    (h : task.allowance settings = 0) :
    (calling task deadline).latestEnd settings now = deadline := by
  rw [latestEnd, h, Nat.add_zero]

/-- An operation is on time if it is at this stage before the stage is over. -/
def IsOnTime (now : Instant) : Stage → Prop
  | .begun _ => True
  | .calling _ deadline | .awaiting _ deadline _ | .watching _ deadline => now ≤ deadline
  | .hovering _ wake => now ≤ wake

/-- The stops that an operation may still arrive at. -/
def targets : Stage → List Waypoint
  | .begun (.goto target _) => [target]
  | .begun (.mission m) => m.waypoints
  | .calling (.leg l) _ | .awaiting (.leg l) _ _ | .watching (.arrival l _) _ =>
    l.target :: l.rest
  | .hovering l _ => l.rest
  | _ => []

/-- **What a move brings** that leads from one stage to the next. -/
structure Advances (settings : NavigatorSettings) (now : Instant) (stage next : Stage) :
    Prop where
  /-- No stop is added. -/
  targets : next.targets ⊆ stage.targets
  /-- Fewer moves are left. -/
  fewer : next.movesLeft < stage.movesLeft
  /-- An operation on time stays so. -/
  onTime : stage.IsOnTime now → next.IsOnTime now
  /-- An operation on time does not put off its end. -/
  sooner : stage.IsOnTime now → next.latestEnd settings now ≤ stage.latestEnd settings now

theorem Advances.trans {settings : NavigatorSettings} {now : Instant} {stage middle next : Stage}
    (h : stage.Advances settings now middle) (h' : middle.Advances settings now next) :
    stage.Advances settings now next where
  targets := fun _ hw => h.targets (h'.targets hw)
  fewer := Nat.lt_trans h'.fewer h.fewer
  onTime := fun hon => h'.onTime (h.onTime hon)
  sooner := fun hon => Nat.le_trans (h'.sooner (h.onTime hon)) (h.sooner hon)

end Stage

section Moves

variable {settings : NavigatorSettings} {now : Instant} {telemetry : Aggregator}
  {cancelled : Bool} {next : Stage}

/-- A deadline to which the clock comes. -/
theorem eq_of_deadline {deadline : Instant} (h : settings.deadline? now = some deadline) :
    deadline = now + settings.arrivalTimeout.timerMillis := by
  unfold NavigatorSettings.deadline? Clock.deadline? at h
  split at h
  · exact (Option.some.inj h).symm
  · cases h

/-- A stage that is entered with a time limit has that of the settings. -/
theorem Move.stage_of_enterTimed {shows : Option NavState} {stage : Instant → Stage}
    (h : (enterTimed settings now shows stage).act.stage? = some next) :
    next = stage (now + settings.arrivalTimeout.timerMillis) := by
  unfold enterTimed at h
  split at h
  · rename_i deadline hdeadline
    rw [← eq_of_deadline hdeadline]
    exact (Option.some.inj h).symm
  · cases h

/-- Setting out on the first leg. -/
theorem Leg.advances_start {l : Leg} {r : Request}
    (htargets : (Stage.begun r).targets = l.target :: l.rest)
    (hfewer : 5 * l.rest.length + 8 < (Stage.begun r).movesLeft)
    (hallowance : r.allowance settings =
      settings.allowance l.route.home.isSome (l.target :: l.rest))
    (h : (l.start settings now).act.stage? = some next) :
    (Stage.begun r).Advances settings now next := by
  obtain rfl := Move.stage_of_enterTimed h
  constructor
  case targets => exact htargets ▸ List.Subset.refl _
  case fewer => exact hfewer
  case onTime => exact fun _ => Nat.le_add_right ..
  case sooner =>
    intro _
    simp only [Stage.latestEnd, Task.allowance, Leg.allowance, hallowance,
      NavigatorSettings.allowance, Nat.add_assoc, Nat.le_refl]

/-- What follows a leg brings as much as if a hover were over. -/
theorem Leg.advances_next {l : Leg} (h : (l.next settings now).act.stage? = some next) :
    (Stage.hovering l now).Advances settings now next := by
  unfold Leg.next at h
  cases hrest : l.rest with
  | cons target rest =>
      rw [hrest] at h
      obtain rfl := Move.stage_of_enterTimed h
      constructor
      case targets => simp [Stage.targets, hrest]
      case fewer =>
        simp only [Stage.movesLeft, hrest, List.length_cons]
        omega
      case onTime => exact fun _ => Nat.le_add_right ..
      case sooner =>
        intro _
        simp only [Stage.latestEnd, Task.allowance, Leg.allowance, hrest,
          NavigatorSettings.allowance, Nat.add_assoc, Nat.le_refl]
  | nil =>
      rw [hrest] at h
      cases hhome : l.route.home with
      | none =>
          rw [hhome] at h
          cases h
      | some home =>
          rw [hhome] at h
          obtain rfl := Move.stage_of_enterTimed h
          constructor
          case targets => exact List.nil_subset _
          case fewer => simp [Stage.movesLeft, hrest]
          case onTime => exact fun _ => Nat.le_add_right ..
          case sooner =>
            intro _
            have hallowance : l.allowance settings = settings.arrivalTimeout.timerMillis := by
              simp [Leg.allowance, hrest, hhome, NavigatorSettings.allowance]
            rw [Stage.latestEnd_calling rfl, Stage.latestEnd, hallowance]

/-- An arrival leads to the hover, or further. -/
theorem Leg.advances_arrive {l : Leg} {since : Receiver} {deadline : Instant}
    (h : (l.arrive settings now).act.stage? = some next) :
    (Stage.watching (.arrival l since) deadline).Advances settings now next := by
  have hhover : ∀ wake, now ≤ wake → wake ≤ now + l.target.pause →
      (Stage.watching (.arrival l since) deadline).Advances settings now (.hovering l wake) := by
    intro wake hwake hpause
    constructor
    case targets => exact List.subset_cons_self ..
    case fewer => simp [Stage.movesLeft]
    case onTime => exact fun _ => hwake
    case sooner =>
      intro hon
      calc wake + l.allowance settings
        _ ≤ now + l.target.pause + l.allowance settings := Nat.add_le_add_right hpause _
        _ ≤ deadline + l.target.pause + l.allowance settings :=
          Nat.add_le_add_right (Nat.add_le_add_right hon _) _
        _ = deadline + (l.target.pause + l.allowance settings) := Nat.add_assoc ..
  unfold Leg.arrive at h
  split at h
  · split at h
    · rename_i pause hpause
      obtain rfl := Option.some.inj h
      refine hhover _ (Nat.le_add_right ..) ?_
      rw [pauseEnd, Waypoint.pause, hpause]
    · cases h
  · exact (hhover now (Nat.le_refl _) (Nat.le_add_right ..)).trans (Leg.advances_next h)

theorem Request.advances_begin {r : Request}
    (h : (r.begin settings now telemetry).act.stage? = some next) :
    (Stage.begun r).Advances settings now next := by
  -- a request without legs has one time limit for all of it
  have htimed : ∀ task deadline, settings.deadline? now = some deadline →
      (Stage.calling task deadline).targets = [] →
      (Stage.calling task deadline).movesLeft < (Stage.begun r).movesLeft →
      task.allowance settings = 0 → r.allowance settings = settings.arrivalTimeout.timerMillis →
      (Stage.begun r).Advances settings now (.calling task deadline) := by
    intro task deadline hdeadline htargets hfewer htask hallowance
    obtain rfl := eq_of_deadline hdeadline
    constructor
    case targets => exact htargets ▸ List.nil_subset _
    case fewer => exact hfewer
    case onTime => exact fun _ => Nat.le_add_right ..
    case sooner =>
      intro _
      rw [Stage.latestEnd_calling htask, Stage.latestEnd, hallowance]
  generalize hm : r.begin settings now telemetry = m at h
  cases Request.begins_of_begin hm with
  | goes target returnToStart sample hlatest =>
      refine Leg.advances_start rfl (by simp [Stage.movesLeft]) ?_ h
      cases returnToStart <;> rfl
  | flies mission first rest sample hws hlatest =>
      refine Leg.advances_start (by rw [Stage.targets, hws]) ?_ ?_ h
      · simp only [Stage.movesLeft, hws, List.length_cons]
        omega
      · cases hreturns : mission.returnToStart <;> simp [Request.allowance, hws, hreturns]
  | arms altitude sample deadline hlatest hdeadline =>
      obtain rfl := Option.some.inj h
      exact htimed _ _ hdeadline rfl (by simp [Stage.movesLeft]) rfl rfl
  | lands disarm deadline hdeadline =>
      obtain rfl := Option.some.inj h
      exact htimed _ _ hdeadline rfl (by simp [Stage.movesLeft]) rfl rfl
  | _ => cases h

/-- A stage that keeps the time limit and looks for nothing near a stop. -/
theorem Task.advances_accepted {task : Task} {deadline : Instant} {reply : Option Reply}
    (h : (task.accepted telemetry deadline).act.stage? = some next) :
    (Stage.awaiting task deadline reply).Advances settings now next := by
  cases task with
  | leg l =>
      obtain rfl := Option.some.inj h
      exact ⟨List.Subset.refl _, by simp [Stage.movesLeft], id, fun _ => Nat.le_refl _⟩
  | arm altitude =>
      obtain rfl := Option.some.inj h
      exact ⟨List.Subset.refl _, by simp [Stage.movesLeft], id, fun _ => Nat.le_refl _⟩
  | presetAltitude altitude =>
      obtain rfl := Option.some.inj h
      exact ⟨List.Subset.refl _, by simp [Stage.movesLeft], id, fun _ => Nat.le_refl _⟩
  | land disarms =>
      obtain rfl := Option.some.inj h
      exact ⟨List.Subset.refl _, by simp [Stage.movesLeft], id, fun _ => Nat.le_refl _⟩
  | takeoff altitude =>
      have hclimb : next = .watching (.climb altitude telemetry.subscribe) deadline := by
        simp only [accepted] at h
        split at h
        · split at h
          · cases h
          · exact (Option.some.inj h).symm
        · exact (Option.some.inj h).symm
      obtain rfl := hclimb
      exact ⟨List.Subset.refl _, by simp [Stage.movesLeft], id, fun _ => Nat.le_refl _⟩
  | home route home => cases h
  | disarm => cases h

theorem Sight.advances_followUp {sight : Sight} {deadline : Instant}
    (h : (sight.followUp settings now telemetry deadline).act.stage? = some next) :
    (Stage.watching sight deadline).Advances settings now next := by
  cases sight with
  | arrival l since => exact Leg.advances_arrive h
  | climb altitude since => cases h
  | touchdown disarms =>
      simp only [followUp] at h
      split at h
      · obtain rfl := Option.some.inj h
        exact ⟨List.Subset.refl _, by simp [Stage.movesLeft], id, fun _ => Nat.le_refl _⟩
      · cases h

/-- **Every move brings an operation forward.** -/
theorem Stage.advances_of_move {stage : Stage} {m : Move}
    (hm : stage.move settings now telemetry cancelled = some m)
    (hnext : m.act.stage? = some next) : stage.Advances settings now next := by
  cases moves_of_move hm with
  | begins _ request => exact Request.advances_begin hnext
  | calls task deadline =>
      obtain rfl := Option.some.inj hnext
      refine ⟨?_, ?_, id, fun _ => Nat.le_refl _⟩
      · cases task <;> exact List.Subset.refl _
      · cases task <;> simp [movesLeft]
  | accepted task deadline => exact Task.advances_accepted hnext
  | sees sight deadline hseen => exact Sight.advances_followUp hnext
  | hovers l wake hlate =>
      have hnext' := Leg.advances_next hnext
      refine ⟨hnext'.targets, hnext'.fewer, fun _ => hnext'.onTime (Nat.le_refl _), fun hon => ?_⟩
      exact Nat.le_trans (hnext'.sooner (Nat.le_refl _)) (Nat.add_le_add_right hon _)
  | _ => cases hnext

end Moves

/-! ## The stops of a request -/

/-- No stop is added as long as an operation runs. -/
theorem ActiveOperation.lasting_targets (ws : List Waypoint) :
    Lasting fun op => op.stage.targets ⊆ ws :=
  lasting_of_stage (p := fun stage => stage.targets ⊆ ws)
    (fun hws hm hnext _ hw => hws ((Stage.advances_of_move hm hnext).targets hw))
    fun {task _ _} hws => by cases task <;> exact hws

/-- An operation that is still to be planned is that of its request. -/
theorem ActiveOperation.lasting_request (r : Request) :
    Lasting fun op => ∀ other, op.stage = .begun other → other = r :=
  lasting_of_stage (p := fun stage => ∀ other, stage = .begun other → other = r)
    (fun _ hm hnext other hother => by
      have hunder := Stage.isUnderWay_of_move hm hnext
      rw [hother] at hunder
      cases hunder)
    fun _ _ hother => by cases hother

namespace Session

variable {s : Session} {op : ActiveOperation} {es before later front back : List Event}
  {id : Nat} {r : Request} {p : ActiveOperation → Prop}

/-- What lasts, and holds when a request begins, holds as long as it runs. -/
theorem lasting_of_waiting (hp : ActiveOperation.Lasting p) (hr : p ⟨id, false, .begun r⟩)
    (hd : s.Distinct es) (h : (id, r) ∈ s.navigator.waiting)
    (hrun : (s.after es).navigator.active = some op) (hid : op.id = id) : p op := by
  induction es generalizing s with
  | nil => exact absurd hid (hd.running_ne h hrun)
  | cons e es ih =>
      rw [← List.append_nil es] at hd
      rcases waiting_step e h with hwaiting | hbegun | rfl
      · rw [List.append_nil] at hd
        exact ih hd.step hwaiting hrun
      · have hreached : (s.step e).1.Reached p id (es ++ []) := .inl ⟨_, hbegun, rfl, hr⟩
        have hend := hreached.after hp hd.step
        rw [← hid] at hend
        exact hend.of_active hrun
      · have habsent := (absent_of_abandoned hd h).after
        exact absurd (by simp [roster, ← after_cons, hrun, hid]) habsent.1

/-- **What lasts, and holds when a request begins, holds of it at any point of a run.** -/
theorem lasting_of_requested {settings : NavigatorSettings} {capacity : Nat}
    (hp : ActiveOperation.Lasting p) (hr : p ⟨id, false, .begun r⟩)
    (hnum : Numbered (before ++ .request id r :: later))
    (hfront : before ++ .request id r :: later = front ++ back)
    (hrun : ((new settings capacity).after front).navigator.active = some op)
    (hid : op.id = id) : p op := by
  have hd := distinct_new settings capacity hnum
  have hrunning : id ∈ ((new settings capacity).after front).roster := by
    simp [roster, hrun, hid]
  have habsent := absent_of_numbered settings capacity hnum
  rcases List.append_eq_append_iff.mp hfront with ⟨between, rfl, hrest⟩ | ⟨between, rfl, -⟩
  · cases between with
    | nil =>
        rw [List.append_nil] at hrunning
        rw [← List.append_nil before] at habsent
        exact absurd hrunning habsent.after.1
    | cons e between =>
        obtain ⟨rfl, hlater⟩ := List.cons.inj hrest
        rw [after_append] at hrun
        rw [hfront] at hd
        have hwaiting : (id, r) ∈ (((new settings capacity).after before).step
            (.request id r)).1.navigator.waiting :=
          List.mem_append_right _ (List.mem_singleton_self _)
        exact lasting_of_waiting hp hr hd.front.after.step hwaiting hrun hid
  · exact absurd hrunning habsent.after.1

end Session

/-! ## How an operation ends -/

section Endings

variable {settings : NavigatorSettings} {now : Instant} {telemetry : Aggregator}
  {cancelled : Bool}

/-- Is everything there that the planning of a request needs? -/
def Request.isReady (telemetry : Aggregator) : Request → Bool
  | .goto .. | .takeoff _ => telemetry.latest.isSome
  | .mission m => !m.waypoints.isEmpty && telemetry.latest.isSome
  | .land _ => true

/-- Does something follow a leg, another one or the way home? -/
def Leg.leadsOn (l : Leg) : Bool := !l.rest.isEmpty || l.route.home.isSome

/-- **Where a time limit is set**: where a request is planned, and where a stop is left for what
follows, at once or after the hover. -/
inductive Stage.SetsLimit (settings : NavigatorSettings) (now : Instant)
    (telemetry : Aggregator) : Bool → Stage → Prop
  | plans (cancelled : Bool) (r : Request) (hready : r.isReady telemetry = true) :
    SetsLimit settings now telemetry cancelled (.begun r)
  | passes (l : Leg) (since : Receiver) (deadline : Instant)
    (hseen : (Sight.arrival l since).seen settings telemetry = true)
    (hhover : l.target.hovers = false) (hon : l.leadsOn = true) :
    SetsLimit settings now telemetry false (.watching (.arrival l since) deadline)
  | resumes (l : Leg) (wake : Instant) (hlate : wake ≤ now) (hon : l.leadsOn = true) :
    SetsLimit settings now telemetry false (.hovering l wake)

/-- A time limit cannot be set exactly if the clock does not come to its deadline. -/
theorem Move.ending_enterTimed {shows : Option NavState} {stage : Instant → Stage} :
    (enterTimed settings now shows stage).act.ending? = some .overflow ↔
      settings.deadline? now = none := by
  unfold enterTimed
  cases settings.deadline? now <;> simp [Act.ending?]

theorem Leg.ending_next (l : Leg) :
    (l.next settings now).act.ending? = some .overflow ↔
      settings.deadline? now = none ∧ l.leadsOn = true := by
  unfold next leadsOn
  cases l.rest with
  | cons target rest => simp [start, Move.ending_enterTimed]
  | nil =>
      cases l.route.home with
      | some home => simp [Move.ending_enterTimed]
      | none => simp [Move.finish, Act.ending?]

theorem Request.ending_begin (r : Request) :
    (r.begin settings now telemetry).act.ending? = some .overflow ↔
      settings.deadline? now = none ∧ r.isReady telemetry = true := by
  have hrefused : ∀ failure, r.isReady telemetry ≠ true →
      ((Move.fail failure).act.ending? = some .overflow ↔
        settings.deadline? now = none ∧ r.isReady telemetry = true) := fun _ hunready =>
    iff_of_false (by simp [Move.fail, Move.finish, Act.ending?]) fun h => hunready h.2
  generalize hm : r.begin settings now telemetry = m
  cases begins_of_begin hm with
  | empty mission hws => exact hrefused _ (by simp [isReady, hws])
  | unready _ hland hempty hlatest =>
      refine hrefused _ ?_
      cases r with
      | land disarm => exact absurd rfl (hland disarm)
      | _ => simp [isReady, hlatest]
  | goes target returnToStart sample hlatest =>
      simp [Leg.start, Move.ending_enterTimed, isReady, hlatest]
  | flies mission first rest sample hws hlatest =>
      simp [Leg.start, Move.ending_enterTimed, isReady, hws, hlatest]
  | arms altitude sample deadline hlatest hdeadline => simp [Act.ending?, hdeadline]
  | lands disarm deadline hdeadline => simp [Act.ending?, hdeadline]
  | takeoffOverflows altitude sample hlatest hdeadline =>
      simp [Act.ending?, isReady, hlatest, hdeadline]
  | landingOverflows disarm hdeadline => simp [Act.ending?, isReady, hdeadline]

theorem Task.ending_accepted (deadline : Instant) (task : Task) :
    (task.accepted telemetry deadline).act.ending? ≠ some .overflow := by
  unfold Task.accepted
  repeat' split
  all_goals simp [Move.enter, Move.finish, Act.ending?]

/-- **Where an operation breaks off**: where it arrives at a stop whose hover is none, and where it
sets a time limit and the clock does not come to the deadline. -/
inductive Stage.BreaksOff (settings : NavigatorSettings) (now : Instant)
    (telemetry : Aggregator) (cancelled : Bool) (stage : Stage) : Prop
  | arrives (l : Leg) (since : Receiver) (deadline : Instant)
    (hstage : stage = .watching (.arrival l since) deadline) (hgoes : cancelled = false)
    (hseen : (Sight.arrival l since).seen settings telemetry = true)
    (hhover : l.target.hovers = true) (hnone : l.target.hoverDuration? = none)
  | unlimited (hnone : settings.deadline? now = none)
    (hsets : stage.SetsLimit settings now telemetry cancelled)

theorem Stage.overflow_iff {stage : Stage} :
    (stage.move settings now telemetry cancelled).bind (·.act.ending?) = some .overflow ↔
      stage.BreaksOff settings now telemetry cancelled := by
  constructor
  · intro hover
    obtain ⟨m, hm, hend⟩ := Option.bind_eq_some_iff.mp hover
    cases moves_of_move hm with
    | begins _ request =>
        obtain ⟨hnone, hready⟩ := request.ending_begin.mp hend
        exact .unlimited hnone (.plans _ request hready)
    | accepted task deadline => exact absurd hend (Task.ending_accepted deadline task)
    | sees sight deadline hseen =>
        cases sight with
        | arrival l since =>
            simp only [Sight.followUp, Leg.arrive] at hend
            split at hend
            · rename_i hhover
              split at hend
              · cases hend
              · exact .arrives l since deadline rfl rfl hseen hhover ‹_›
            · rename_i hhover
              obtain ⟨hnone, hon⟩ := l.ending_next.mp hend
              exact .unlimited hnone
                (.passes l since deadline hseen (Bool.eq_false_iff.mpr hhover) hon)
        | climb altitude since => cases hend
        | touchdown disarms =>
            simp only [Sight.followUp] at hend
            split at hend <;> cases hend
    | hovers l wake hlate =>
        obtain ⟨hnone, hon⟩ := l.ending_next.mp hend
        exact .unlimited hnone (.resumes l wake hlate hon)
    | _ => cases hend
  · rintro (⟨l, since, deadline, rfl, rfl, hseen, hhover, hnone⟩ | ⟨hnone, hsets⟩)
    · simp [move, hseen, Sight.followUp, Leg.arrive, hhover, hnone, Act.ending?]
    · cases hsets with
      | plans _ r hready => exact r.ending_begin.mpr ⟨hnone, hready⟩
      | passes l since deadline hseen hhover hon =>
          simpa [move, hseen, Sight.followUp, Leg.arrive, hhover] using
            l.ending_next.mpr ⟨hnone, hon⟩
      | resumes l wake hlate hon =>
          simpa [move, hlate] using l.ending_next.mpr ⟨hnone, hon⟩

end Endings

namespace Session

variable {s : Session} {op : ActiveOperation} {e : Event} {es before later : List Event} {id : Nat}
  {ending : Ending}

/-- How an operation ends with the next move, if it does. -/
def ending? (s : Session) (id : Nat) : Option Ending := do
  let op ← s.navigator.active
  if op.id = id then
    let m ← op.stage.move s.navigator.settings s.now s.telemetry op.cancelled
    m.act.ending?
  else none

/-- Operations end by their moves. -/
theorem endingsOf_step (s : Session) (id : Nat) (e : Event) :
    endingsOf id (s.step e).2 = match e with
      | .move => (s.ending? id).toList
      | _ => [] := by
  cases h : s.navigator.active with
  | none =>
      rw [endingsOf_step_of_idle h]
      cases e <;> simp [ending?, h]
  | some op =>
      by_cases hid : op.id = id
      · subst hid
        rw [(step_running h e).2]
        cases e with
        | move =>
            cases hm : op.stage.move s.navigator.settings s.now s.telemetry op.cancelled with
            | none => simp [ActiveOperation.react, ending?, h, hm]
            | some m =>
                rw [ActiveOperation.react_move hm, Navigator.endingsOf_carryOut]
                simp [ending?, h, hm]
        | abandon owner =>
            grind [ActiveOperation.react, Navigator.dropped, endingsOf, NavigatorAct.endingOf?]
        | _ => rfl
      · rw [endingsOf_eq_nil (actsOf_step_of_ne h hid e)]
        cases e <;> simp [ending?, h, hid]

/-- **An operation ends once at most.** -/
theorem endingsOf_length_le_one (hd : s.Distinct es) :
    (endingsOf id (s.acts es)).length ≤ 1 := by
  induction es generalizing s with
  | nil => simp
  | cons e es ih =>
      rw [acts_cons, endingsOf_append]
      by_cases hend : endingsOf id (s.step e).2 = []
      · rw [hend, List.nil_append]
        exact ih hd.step
      · rw [endingsOf_eq_nil (actsOf_of_absent (absent_of_ends hd hend)), List.append_nil,
          endingsOf_step]
        cases e with
        | move => exact Option.length_toList_le
        | _ => exact Nat.zero_le _

/-- An ending in a run comes with a move of it. -/
theorem mem_endingsOf_acts :
    ending ∈ endingsOf id (s.acts es) ↔
      ∃ front back, es = front ++ .move :: back ∧ (s.after front).ending? id = some ending := by
  induction es generalizing s with
  | nil => simp
  | cons e es ih =>
      rw [acts_cons, endingsOf_append, List.mem_append, endingsOf_step, ih]
      constructor
      · rintro (hfirst | ⟨front, back, rfl, hlater⟩)
        · cases e with
          | move => exact ⟨[], es, rfl, Option.mem_toList.mp hfirst⟩
          | _ => exact absurd hfirst List.not_mem_nil
        · exact ⟨e :: front, back, rfl, hlater⟩
      · rintro ⟨front, back, hes, hend⟩
        cases front with
        | nil =>
            obtain ⟨rfl, rfl⟩ := List.cons.inj hes
            exact .inl (Option.mem_toList.mpr hend)
        | cons first front =>
            obtain ⟨rfl, rfl⟩ := List.cons.inj hes
            exact .inr ⟨front, back, rfl, hend⟩

/-- An operation arrives at a stop with the next move: it waits for that, it is not cancelled,
and it sees the vehicle near the stop. -/
def Arrives (s : Session) (id : Nat) (w : Waypoint) : Prop :=
  ∃ l since deadline,
    s.navigator.active = some ⟨id, false, .watching (.arrival l since) deadline⟩ ∧ l.target = w ∧
    (Sight.arrival l since).seen s.navigator.settings s.telemetry = true

/-- An operation sets a time limit with the next move. -/
def SetsLimit (s : Session) (id : Nat) : Prop :=
  ∃ cancelled stage, s.navigator.active = some ⟨id, cancelled, stage⟩ ∧
    stage.SetsLimit s.navigator.settings s.now s.telemetry cancelled

/-- An operation that ends with the next move. -/
theorem ending?_eq_some_iff :
    s.ending? id = some ending ↔
      ∃ cancelled stage, s.navigator.active = some ⟨id, cancelled, stage⟩ ∧
        (stage.move s.navigator.settings s.now s.telemetry cancelled).bind (·.act.ending?) =
          some ending := by
  simp only [ending?, Option.bind_eq_bind, Option.bind_eq_some_iff]
  constructor
  · rintro ⟨⟨number, cancelled, stage⟩, hop, hend⟩
    split at hend
    · rename_i hid
      obtain rfl : number = id := hid
      exact ⟨cancelled, stage, hop, Option.bind_eq_some_iff.mp hend⟩
    · cases hend
  · rintro ⟨cancelled, stage, hop, hend⟩
    exact ⟨_, hop, (if_pos rfl).trans (Option.bind_eq_some_iff.mpr hend)⟩

/-- **When an operation ends because a length of time is none**: when it arrives at a stop whose
hover is none, or when it sets a time limit and the clock does not come to the deadline. -/
theorem overflow_iff (settings : NavigatorSettings) (capacity : Nat) {r : Request}
    (hnum : Numbered (before ++ .request id r :: later)) :
    .overflow ∈ endingsOf id ((new settings capacity).acts (before ++ .request id r :: later)) ↔
      ∃ front back, before ++ .request id r :: later = front ++ .move :: back ∧
        ((∃ w ∈ (Stage.begun r).targets, ((new settings capacity).after front).Arrives id w ∧
            w.hovers = true ∧ w.hoverDuration? = none) ∨
          (settings.deadline? ((new settings capacity).after front).now = none ∧
            ((new settings capacity).after front).SetsLimit id)) := by
  rw [mem_endingsOf_acts]
  refine exists_congr fun front => exists_congr fun back => and_congr_right fun hrun => ?_
  have hsettings : ((new settings capacity).after front).navigator.settings = settings :=
    after_settings ..
  rw [ending?_eq_some_iff]
  simp only [Stage.overflow_iff]
  constructor
  · rintro ⟨cancelled, stage, hop, ⟨l, since, deadline, rfl, rfl, hseen, hhover, hnone⟩ |
      ⟨hnone, hsets⟩⟩
    · have hstops := lasting_of_requested (ActiveOperation.lasting_targets _)
        (List.Subset.refl (Stage.begun r).targets) hnum hrun hop rfl
      exact .inl ⟨l.target, hstops List.mem_cons_self, ⟨l, since, deadline, hop, rfl, hseen⟩,
        hhover, hnone⟩
    · rw [hsettings] at hnone
      exact .inr ⟨hnone, cancelled, stage, hop, hsets⟩
  · rintro (⟨w, -, ⟨l, since, deadline, hop, rfl, hseen⟩, hhover, hnone⟩ |
      ⟨hnone, cancelled, stage, hop, hsets⟩)
    · exact ⟨false, _, hop, .arrives l since deadline rfl rfl hseen hhover hnone⟩
    · exact ⟨cancelled, stage, hop, .unlimited (hsettings.symm ▸ hnone) hsets⟩

end Session

/-! ## Operations in time -/

/-- **What a stage waits for that cannot move now**: an instant that is still to come. -/
structure Stage.WaitsUntil (settings : NavigatorSettings) (now : Instant)
    (telemetry : Aggregator) (cancelled : Bool) (stage : Stage) (due : Instant) : Prop where
  timer : stage.timer = some due
  early : now < due
  /-- Until then the operation is on time. -/
  onTime : ∀ later ≤ due, stage.IsOnTime later
  /-- The end of the operation stays where it is, and is not before then. -/
  kept : ∀ later, stage.latestEnd settings later = stage.latestEnd settings now
  late : due ≤ stage.latestEnd settings now
  /-- Then it moves. -/
  moves : (stage.move settings due telemetry cancelled).isSome = true

theorem Stage.waitsUntil_of_move {settings : NavigatorSettings} {now : Instant}
    {telemetry : Aggregator} {cancelled : Bool} {stage : Stage}
    (hm : stage.move settings now telemetry cancelled = none) :
    ∃ due, stage.WaitsUntil settings now telemetry cancelled due := by
  cases stage with
  | begun request => cases hm
  | calling task deadline => cases cancelled <;> cases hm
  | awaiting task deadline reply =>
      simp only [move] at hm
      repeat' split at hm
      all_goals cases hm
      rename_i hcancelled _ hearly
      exact ⟨deadline, rfl, Nat.lt_of_not_le hearly, fun _ h => h, fun _ => rfl,
        Nat.le_add_right .., by simp [move, hcancelled]⟩
  | watching sight deadline =>
      simp only [move] at hm
      repeat' split at hm
      all_goals cases hm
      rename_i hcancelled hunseen hearly
      exact ⟨deadline, rfl, Nat.lt_of_not_le hearly, fun _ h => h, fun _ => rfl,
        Nat.le_add_right .., by simp [move, hcancelled, hunseen]⟩
  | hovering l wake =>
      simp only [move] at hm
      repeat' split at hm
      all_goals cases hm
      rename_i hcancelled hearly
      exact ⟨wake, rfl, Nat.lt_of_not_le hearly, fun _ h => h, fun _ => rfl,
        Nat.le_add_right .., by simp [move, hcancelled]⟩

/-- Some move is left at every stage. -/
theorem Stage.movesLeft_pos (stage : Stage) : 0 < stage.movesLeft := by
  unfold movesLeft
  split <;> omega

/-- What an operation hears changes nothing about its time. -/
theorem ActiveOperation.hear_keeps (settings : NavigatorSettings) (now : Instant)
    (op : ActiveOperation) (e : Session.Event) :
    ((op.hear e).stage.IsOnTime now ↔ op.stage.IsOnTime now) ∧
      (op.hear e).stage.latestEnd settings now = op.stage.latestEnd settings now := by
  cases e with
  | answer reply =>
      simp only [hear]
      split
      · rename_i hstage
        rw [hstage]
        exact ⟨Iff.rfl, rfl⟩
      · exact ⟨Iff.rfl, rfl⟩
  | _ => exact ⟨Iff.rfl, rfl⟩

namespace Session

variable {s : Session} {op : ActiveOperation} {e : Event} {es : List Event} {id : Nat}

/-- The clock never goes back. -/
theorem now_step (s : Session) (e : Event) : s.now ≤ (s.step e).1.now := by
  by_cases h : e.isOutside = true
  · cases e with
    | pass millis => exact Nat.le_add_right ..
    | telemetry update timestamp => exact Nat.le_refl _
    | _ => cases h
  · exact Nat.le_of_eq (step_inside s (Bool.eq_false_iff.mpr h)).1.symm

theorem now_after (s : Session) (es : List Event) : s.now ≤ (s.after es).now := by
  induction es generalizing s with
  | nil => exact Nat.le_refl _
  | cons e es ih => exact Nat.le_trans (s.now_step e) (ih _)

/-- An event that does not give up an operation, nor keeps the navigator waiting: time passes
only when there is nothing to do, and not beyond the next timer. -/
def Event.isTimely (s : Session) (id : Nat) : Event → Bool
  | .pass millis => s.isQuiet && s.navigator.timer.all fun due => s.now + millis ≤ due
  | .abandon owner => owner ≠ id
  | _ => true

/-- A run of such events. -/
def IsTimely (s : Session) (id : Nat) : List Event → Prop
  | [] => True
  | e :: es => e.isTimely s id = true ∧ (s.step e).1.IsTimely id es

instance decidableIsTimely (s : Session) (id : Nat) : (es : List Event) →
    Decidable (s.IsTimely id es)
  | [] => isTrue trivial
  | e :: es =>
    have := decidableIsTimely (s.step e).1 id es
    inferInstanceAs (Decidable (_ ∧ (s.step e).1.IsTimely id es))

theorem isTimely_append {later : List Event} (h : s.IsTimely id es)
    (hlater : (s.after es).IsTimely id later) : s.IsTimely id (es ++ later) := by
  induction es generalizing s with
  | nil => exact hlater
  | cons e es ih => exact ⟨h.1, ih h.2 hlater⟩

/-- The operation of a quiet session cannot move. -/
theorem move_of_isQuiet (h : s.navigator.active = some op) (hquiet : s.isQuiet = true) :
    op.stage.move s.navigator.settings s.now s.telemetry op.cancelled = none := by
  simpa [isQuiet, Navigator.step, h] using hquiet

/-- **One step, as the time of the running operation sees it.** The operation ends, or it is on
time afterwards and does not put off its end. -/
theorem onTime_step (h : s.navigator.active = some op) (hon : op.stage.IsOnTime s.now)
    (he : e.isTimely s op.id = true) :
    endingsOf op.id (s.step e).2 ≠ [] ∨
      ∃ next, (s.step e).1.navigator.active = some next ∧ next.id = op.id ∧
        next.stage.IsOnTime (s.step e).1.now ∧
        next.stage.latestEnd s.navigator.settings (s.step e).1.now ≤
          op.stage.latestEnd s.navigator.settings s.now := by
  have hstep := step_running h e
  -- whoever hears of something at an instant is as much on time as before
  have hheard : op.react s.navigator.settings s.now s.telemetry e = (some (op.hear e), []) →
      (s.step e).1.now = s.now → ∃ next, (s.step e).1.navigator.active = some next ∧
        next.id = op.id ∧ next.stage.IsOnTime (s.step e).1.now ∧
        next.stage.latestEnd s.navigator.settings (s.step e).1.now ≤
          op.stage.latestEnd s.navigator.settings s.now := by
    intro hreact hnow
    obtain ⟨htime, hend⟩ := op.hear_keeps s.navigator.settings s.now e
    rw [hreact] at hstep
    rw [hnow]
    exact ⟨_, hstep.1, op.hear_id e, htime.mpr hon, Nat.le_of_eq hend⟩
  cases e with
  | move =>
      have hnow := (step_inside s (e := .move) rfl).1
      cases hm : op.stage.move s.navigator.settings s.now s.telemetry op.cancelled with
      | none => exact .inr (hheard (by simp [ActiveOperation.react, hm, ActiveOperation.hear]) hnow)
      | some m =>
          rw [ActiveOperation.react_move hm] at hstep
          cases hnext : m.act.stage? with
          | some stage =>
              obtain ⟨-, -, htime, hend⟩ := Stage.advances_of_move hm hnext
              rw [hnext] at hstep
              rw [hnow]
              exact .inr ⟨_, hstep.1, rfl, htime hon, hend hon⟩
          | none =>
              left
              rw [hstep.2, Navigator.endingsOf_carryOut]
              cases hact : m.act <;> simp_all [Act.stage?, Act.ending?]
  | abandon owner =>
      have hother : owner ≠ op.id := by simpa [Event.isTimely] using he
      exact .inr (hheard (by simp [ActiveOperation.react, hother, ActiveOperation.hear]) rfl)
  | pass millis =>
      simp only [Event.isTimely, Bool.and_eq_true] at he
      obtain ⟨due, hwaits⟩ := Stage.waitsUntil_of_move (move_of_isQuiet h he.1)
      have hdue : s.now + millis ≤ due := by
        simpa [Navigator.timer, h, hwaits.timer] using he.2
      exact .inr ⟨op, hstep.1, rfl, hwaits.onTime _ hdue, Nat.le_of_eq (hwaits.kept _)⟩
  | _ => exact .inr (hheard rfl rfl)

/-- An operation on time has ended when its latest end is reached. -/
theorem ends_of_onTime (h : s.navigator.active = some op) (hon : op.stage.IsOnTime s.now)
    (htimely : s.IsTimely op.id es) (hquiet : (s.after es).isQuiet = true)
    (hlate : op.stage.latestEnd s.navigator.settings s.now ≤ (s.after es).now) :
    endingsOf op.id (s.acts es) ≠ [] := by
  induction es generalizing s op with
  | nil =>
      obtain ⟨due, hwaits⟩ := Stage.waitsUntil_of_move (move_of_isQuiet h hquiet)
      exact absurd (Nat.le_trans hwaits.late hlate) (Nat.not_le.mpr hwaits.early)
  | cons e es ih =>
      rw [acts_cons, endingsOf_append]
      rcases onTime_step h hon htimely.1 with hend | ⟨next, hnext, hid, hon', hsooner⟩
      · exact fun hnil => hend (List.append_eq_nil_iff.mp hnil).1
      · have hlate' := Nat.le_trans hsooner hlate
        rw [← step_settings s e] at hlate'
        rw [← hid] at htimely ⊢
        have hrest := ih hnext hon' htimely.2 hquiet hlate'
        exact fun hnil => hrest (List.append_eq_nil_iff.mp hnil).2

/-- **An operation ends in time**, whatever reaches the session meanwhile. -/
theorem ends_in_time {marked : Bool} {r : Request}
    (h : s.navigator.active = some ⟨id, marked, .begun r⟩) (htimely : s.IsTimely id es)
    (hquiet : (s.after es).isQuiet = true)
    (hlate : s.now + r.allowance s.navigator.settings ≤ (s.after es).now) :
    endingsOf id (s.acts es) ≠ [] :=
  ends_of_onTime h trivial htimely hquiet hlate

/-! ## Time goes on -/

/-- A move leaves fewer steps to the navigator. -/
theorem stepsLeft_step (h : s.isQuiet = false) :
    (s.step .move).1.navigator.stepsLeft < s.navigator.stepsLeft := by
  cases hactive : s.navigator.active with
  | none =>
      cases hw : s.navigator.waiting with
      | nil => simp [isQuiet, Navigator.step, hactive, hw] at h
      | cons w rest =>
          rw [step_move_begins hactive hw]
          simp only [Navigator.stepsLeft, hactive, hw, Option.map_some, Option.map_none,
            Option.getD_some, Option.getD_none, List.foldr_cons]
          omega
  | some op =>
      cases hm : op.stage.move s.navigator.settings s.now s.telemetry op.cancelled with
      | none => simp [isQuiet, Navigator.step, hactive, hm] at h
      | some m =>
          have hstep : (s.step .move).1.navigator = (s.navigator.carryOut op m).1 := by
            simp [step, Navigator.step, hactive, hm]
          rw [hstep]
          simp only [Navigator.stepsLeft, Navigator.carryOut_active, Navigator.carryOut_waiting,
            hactive, Option.map_some, Option.getD_some, Option.map_map, Nat.add_lt_add_iff_right]
          cases hnext : m.act.stage? with
          | some next => exact (Stage.advances_of_move hm hnext).fewer
          | none => exact op.stage.movesLeft_pos

/-- **Time can always go on**, without anybody doing anything: there is a timely run of moves and
of the passage of time that gets to any instant, after which there is nothing to do. -/
theorem exists_timely (s : Session) (id : Nat) (instant : Instant) :
    ∃ es : List Event, (∀ e ∈ es, e = .move ∨ ∃ millis, e = .pass millis) ∧ s.IsTimely id es ∧
      (s.after es).isQuiet = true ∧ instant ≤ (s.after es).now := by
  induction hsteps : s.navigator.stepsLeft using Nat.strongRecOn generalizing s with
  | ind n ih =>
      -- a move leads to a session with fewer steps left
      have hmoves : ∀ t : Session, t.isQuiet = false → t.navigator.stepsLeft = n →
          ∃ es : List Event, (∀ e ∈ es, e = .move ∨ ∃ millis, e = .pass millis) ∧
            t.IsTimely id es ∧ (t.after es).isQuiet = true ∧ instant ≤ (t.after es).now := by
        intro t hbusy hn
        obtain ⟨es, hevents, htimely, hend⟩ := ih _ (hn ▸ stepsLeft_step hbusy) _ rfl
        refine ⟨.move :: es, ?_, ⟨rfl, htimely⟩, hend⟩
        exact List.forall_mem_cons.mpr ⟨.inl rfl, hevents⟩
      cases hquiet : s.isQuiet with
      | false => exact hmoves s hquiet hsteps
      | true =>
          by_cases hlate : instant ≤ s.now
          · exact ⟨[], by simp, trivial, hquiet, hlate⟩
          cases hactive : s.navigator.active with
          | none =>
              have htimer : s.navigator.timer = none := by simp [Navigator.timer, hactive]
              refine ⟨[.pass (instant - s.now)], by simp, ⟨?_, trivial⟩, ?_, ?_⟩
              · simp [Event.isTimely, hquiet, htimer]
              · simpa [isQuiet, Navigator.step, after_cons, step, hactive] using hquiet
              · exact Nat.le_of_eq (Nat.add_sub_cancel' (Nat.le_of_not_le hlate)).symm
          | some op =>
              obtain ⟨due, hwaits⟩ := Stage.waitsUntil_of_move (move_of_isQuiet hactive hquiet)
              have htimer : s.navigator.timer = some due := by
                simp [Navigator.timer, hactive, hwaits.timer]
              have hdue : s.now + (due - s.now) = due :=
                Nat.add_sub_cancel' (Nat.le_of_lt hwaits.early)
              obtain ⟨es, hevents, htimely, hend⟩ :=
                hmoves (s.step (.pass (due - s.now))).1
                  (by simpa [isQuiet, Navigator.step, step, hactive, hdue] using hwaits.moves)
                  hsteps
              refine ⟨.pass (due - s.now) :: es, ?_, ⟨?_, htimely⟩, hend⟩
              · exact List.forall_mem_cons.mpr ⟨.inr ⟨_, rfl⟩, hevents⟩
              · simp [Event.isTimely, hquiet, htimer, hdue]

end Session

end GroundStation
