import GroundStation.Proofs.Navigation.Flight

/-!
# The itinerary of a request

The calls of an operation are settled when it is asked for. A flight goes to its waypoints in
their order and then back if it returns, a takeoff arms, presets the altitude and climbs, a
landing lands and may disarm (`Request.itinerary`). An operation that is refused, cancelled or
given up on its way has made the first of these calls only; none makes another.

This is read off the stages: from each of them there is a list of calls ahead, and one move
makes the first of them, or none, or ends the operation (`Stage.covers_move`).

## Main results

* `Session.covers_acts`: what a running operation still calls is ahead of its stage.
* `Session.calls_of_requested`: in every run a request makes the first calls of its itinerary.
-/

namespace GroundStation

/-! ## What is ahead -/

/-- The calls that may follow the acceptance of a task's call. -/
def Task.ahead (settings : NavigatorSettings) : Task → List LinkCall
  | .leg l => l.route.gotos settings l.rest
  | .arm altitude => [.setTakeoffAltitude altitude, .takeoff]
  | .presetAltitude _ => [.takeoff]
  | .land disarms => if disarms then [.disarm] else []
  | .home _ _ | .takeoff _ | .disarm => []

/-- The calls that may follow the sight of something. -/
def Sight.ahead (settings : NavigatorSettings) : Sight → List LinkCall
  | .arrival l _ => l.route.gotos settings l.rest
  | .climb _ _ => []
  | .touchdown disarms => if disarms then [.disarm] else []

namespace Request

/-- Does a request end where the vehicle started? -/
def returns : Request → Bool
  | .goto _ returnToStart => returnToStart
  | .mission m => m.returnToStart
  | .takeoff _ | .land _ => false

/-- All calls that a request can make, in order. A flight is planned along a route. -/
def itinerary (settings : NavigatorSettings) (route : Route) : Request → List LinkCall
  | .goto target _ => route.gotos settings [target]
  | .mission m => route.gotos settings m.waypoints
  | .takeoff altitude => [.arm, .setTakeoffAltitude altitude, .takeoff]
  | .land disarms => .land :: if disarms then [.disarm] else []

/-- A request makes the first calls of its itinerary, along a route that leads home only if
that was asked for. -/
def Covers (settings : NavigatorSettings) (r : Request) (calls : List LinkCall) : Prop :=
  ∃ route : Route, (route.home.isSome = true → r.returns = true) ∧
    calls <+: r.itinerary settings route

end Request

/-- Calls that are ahead of a stage. -/
def Stage.Covers (settings : NavigatorSettings) : Stage → List LinkCall → Prop
  | .begun r, calls => r.Covers settings calls
  | .calling task _, calls => calls <+: task.call settings :: task.ahead settings
  | .awaiting task _ _, calls => calls <+: task.ahead settings
  | .watching sight _, calls => calls <+: sight.ahead settings
  | .hovering l _, calls => calls <+: l.route.gotos settings l.rest

/-- Calls that are ahead of an act. -/
def Act.Covers (settings : NavigatorSettings) : Act → List LinkCall → Prop
  | .enter stage, calls | .call _ stage, calls => stage.Covers settings calls
  | .finish _, calls => calls = []

section Ahead

variable {settings : NavigatorSettings} {now : Instant} {telemetry : Aggregator}
  {cancelled : Bool} {calls : List LinkCall}

theorem Request.covers_nil (r : Request) : r.Covers settings [] :=
  ⟨⟨0.0, none, false⟩, by simp, List.nil_prefix⟩

theorem Stage.covers_nil (stage : Stage) : stage.Covers settings [] := by
  cases stage with
  | begun r => exact r.covers_nil
  | _ => exact List.nil_prefix

/-- Where a time limit can be set, what is ahead is ahead of the stage that it is set for. -/
theorem Move.covers_enterTimed {shows : Option NavState} {stage : Instant → Stage}
    (h : (enterTimed settings now shows stage).act.Covers settings calls) :
    calls = [] ∨ ∃ deadline, (stage deadline).Covers settings calls := by
  unfold enterTimed at h
  cases hdeadline : settings.deadline? now with
  | some deadline =>
      rw [hdeadline] at h
      exact .inr ⟨deadline, h⟩
  | none =>
      rw [hdeadline] at h
      exact .inl h

theorem Leg.covers_start {l : Leg} (h : (l.start settings now).act.Covers settings calls) :
    calls <+: l.route.gotos settings (l.target :: l.rest) := by
  rcases Move.covers_enterTimed h with rfl | ⟨deadline, hstage⟩
  · exact List.nil_prefix
  · exact hstage

theorem Leg.covers_next {l : Leg} (h : (l.next settings now).act.Covers settings calls) :
    calls <+: l.route.gotos settings l.rest := by
  unfold next at h
  cases hrest : l.rest with
  | cons target rest =>
      rw [hrest] at h
      exact covers_start h
  | nil =>
      rw [hrest] at h
      cases hhome : l.route.home with
      | none =>
          rw [hhome] at h
          obtain rfl : calls = [] := h
          exact List.nil_prefix
      | some home =>
          rw [hhome] at h
          rcases Move.covers_enterTimed h with rfl | ⟨deadline, hstage⟩
          · exact List.nil_prefix
          · rw [Route.gotos, hhome]
            exact hstage

theorem Leg.covers_arrive {l : Leg} (h : (l.arrive settings now).act.Covers settings calls) :
    calls <+: l.route.gotos settings l.rest := by
  unfold arrive at h
  by_cases hhover : l.target.hovers = true
  · rw [if_pos hhover] at h
    cases hpause : l.target.hoverDuration? with
    | some pause =>
        rw [hpause] at h
        exact h
    | none =>
        rw [hpause] at h
        obtain rfl : calls = [] := h
        exact List.nil_prefix
  · rw [if_neg hhover] at h
    exact covers_next h

/-- A request is planned within its itinerary. -/
theorem Request.covers_begin {r : Request}
    (h : (r.begin settings now telemetry).act.Covers settings calls) : r.Covers settings calls := by
  generalize hm : r.begin settings now telemetry = m at h
  cases begins_of_begin hm with
  | goes target returnToStart sample hlatest =>
      refine ⟨_, ?_, Leg.covers_start h⟩
      cases returnToStart <;> simp [returns]
  | flies mission first rest sample hws hlatest =>
      refine ⟨_, ?_, by rw [itinerary, hws]; exact Leg.covers_start h⟩
      cases hreturns : mission.returnToStart <;> simp [returns, hreturns]
  | arms altitude sample deadline hlatest hdeadline => exact ⟨⟨0.0, none, false⟩, by simp, h⟩
  | lands disarm deadline hdeadline => exact ⟨⟨0.0, none, false⟩, by simp, h⟩
  | _ =>
      -- nothing is called at an end
      obtain rfl : calls = [] := h
      exact Request.covers_nil _

theorem Task.covers_accepted {task : Task} {deadline : Instant}
    (h : (task.accepted telemetry deadline).act.Covers settings calls) :
    calls <+: task.ahead settings := by
  cases task with
  | takeoff altitude =>
      simp only [accepted] at h
      split at h
      · split at h
        · obtain rfl : calls = [] := h
          exact List.nil_prefix
        · exact h
      · exact h
  | home route home =>
      obtain rfl : calls = [] := h
      exact List.nil_prefix
  | disarm =>
      obtain rfl : calls = [] := h
      exact List.nil_prefix
  | _ => exact h

theorem Sight.covers_followUp {sight : Sight} {deadline : Instant}
    (h : (sight.followUp settings now telemetry deadline).act.Covers settings calls) :
    calls <+: sight.ahead settings := by
  cases sight with
  | arrival l since => exact Leg.covers_arrive h
  | climb altitude since =>
      obtain rfl : calls = [] := h
      exact List.nil_prefix
  | touchdown disarms =>
      simp only [followUp] at h
      by_cases hdisarms : disarms = true ∧ telemetry.status.armed = true
      · rw [if_pos hdisarms] at h
        rw [ahead, if_pos hdisarms.1]
        exact h
      · rw [if_neg hdisarms] at h
        obtain rfl : calls = [] := h
        exact List.nil_prefix

/-- **One move keeps to what is ahead.** The call that it makes, if it makes one, comes first,
and what is ahead afterwards comes behind it. -/
theorem Stage.covers_move {stage : Stage} {m : Move}
    (hm : stage.move settings now telemetry cancelled = some m)
    (h : m.act.Covers settings calls) :
    stage.Covers settings (m.act.call?.toList ++ calls) := by
  have hends : ∀ {ending : Ending}, m = ⟨none, .finish ending⟩ →
      stage.Covers settings (m.act.call?.toList ++ calls) := by
    rintro ending rfl
    obtain rfl : calls = [] := h
    exact stage.covers_nil
  cases moves_of_move hm with
  | begins _ request =>
      rw [Act.call?_of_isOnward (Request.begin_isOnward _ _ _ _)]
      exact Request.covers_begin h
  | calls task deadline => exact (List.prefix_cons_inj _).mpr h
  | accepted task deadline =>
      rw [Act.call?_of_isOnward (Task.accepted_isOnward _ _ _)]
      exact Task.covers_accepted h
  | sees sight deadline hseen =>
      rw [Act.call?_of_isOnward (Sight.followUp_isOnward _ _ _ _ _)]
      exact Sight.covers_followUp h
  | hovers l wake hlate =>
      rw [Act.call?_of_isOnward (Leg.next_isOnward _ _ _)]
      exact Leg.covers_next h
  | _ => exact hends rfl

/-- Hearing something changes nothing about what is ahead. -/
theorem ActiveOperation.covers_hear {op : ActiveOperation} {e : Session.Event}
    (h : (op.hear e).stage.Covers settings calls) : op.stage.Covers settings calls := by
  cases e with
  | answer reply =>
      simp only [hear] at h
      split at h
      · rename_i hstage
        rw [hstage]
        exact h
      · exact h
  | _ => exact h

end Ahead

namespace Session

variable {s : Session} {op : ActiveOperation} {es before later : List Event} {id : Nat}
  {r : Request}

/-! ## What a run makes of it -/

/-- **What a running operation still calls is ahead of its stage**, in this order and nothing
besides. -/
theorem covers_acts (hd : s.Distinct es) (h : s.navigator.active = some op) :
    op.stage.Covers s.navigator.settings (callsOf op.id (s.acts es)) := by
  induction es generalizing s op with
  | nil => exact op.stage.covers_nil
  | cons e es ih =>
      have hstep := step_running h e
      have hrest : ∀ next, (op.react s.navigator.settings s.now s.telemetry e).1 = some next →
          next.stage.Covers s.navigator.settings (callsOf op.id ((s.step e).1.acts es)) := by
        intro next hnext
        have hcovers := ih hd.step (hstep.1.trans hnext)
        rwa [ActiveOperation.react_id hnext, step_settings] at hcovers
      have hgone : (op.react s.navigator.settings s.now s.telemetry e).1 = none →
          callsOf op.id ((s.step e).1.acts es) = [] := fun hnone =>
        callsOf_eq_nil (actsOf_of_absent (absent_of_left hd h hnone))
      rw [acts_cons, callsOf_append, hstep.2]
      cases e with
      | move =>
          cases hm : op.stage.move s.navigator.settings s.now s.telemetry op.cancelled with
          | none =>
              have hstays : op.react s.navigator.settings s.now s.telemetry .move =
                  (some op, []) := by
                simp [ActiveOperation.react, hm]
              rw [hstays] at hrest ⊢
              exact hrest op rfl
          | some m =>
              rw [ActiveOperation.react_move hm] at hrest hgone ⊢
              rw [Navigator.callsOf_carryOut]
              refine Stage.covers_move hm ?_
              cases hact : m.act with
              | enter stage => exact hrest _ (by rw [hact]; rfl)
              | call linkCall stage => exact hrest _ (by rw [hact]; rfl)
              | finish ending => exact hgone (by rw [hact]; rfl)
      | abandon owner =>
          rw [ActiveOperation.callsOf_react]
          by_cases hid : owner = op.id
          · have hnone := hgone (by simp [ActiveOperation.react, hid])
            rw [hnone]
            exact op.stage.covers_nil
          · exact hrest op (by simp [ActiveOperation.react, hid])
      | _ => exact ActiveOperation.covers_hear (hrest _ rfl)

/-- A request that waits goes on waiting at an event, or is the operation that begins, or is
abandoned. -/
theorem waiting_step (e : Event) (h : (id, r) ∈ s.navigator.waiting) :
    (id, r) ∈ (s.step e).1.navigator.waiting ∨
      (s.step e).1.navigator.active = some ⟨id, false, .begun r⟩ ∨ e = .abandon id := by
  cases e with
  | request owner other => exact .inl (List.mem_append_left _ h)
  | abandon owner =>
      by_cases hid : owner = id
      · exact .inr (.inr (congrArg _ hid))
      · left
        have hkept : (id, r) ∈ s.navigator.waiting.filter fun w => w.1 ≠ owner :=
          List.mem_filter.mpr ⟨h, by simpa using Ne.symm hid⟩
        simp only [step, Navigator.abandon]
        split
        · split
          · exact h
          · exact hkept
        · exact hkept
  | move =>
      cases hactive : s.navigator.active with
      | some op => exact .inl (step_move_waiting hactive ▸ h)
      | none =>
          cases hw : s.navigator.waiting with
          | nil => simp [hw] at h
          | cons w rest =>
              rw [step_move_begins hactive hw]
              rw [hw] at h
              rcases List.mem_cons.mp h with rfl | hrest
              · exact .inr (.inl rfl)
              · exact .inl hrest
  | _ => exact .inl h

/-- A request that waits is not the operation that runs. -/
theorem Distinct.running_ne (hd : s.Distinct es) (h : (id, r) ∈ s.navigator.waiting)
    (hactive : s.navigator.active = some op) : op.id ≠ id := by
  have hmem : id ∈ s.navigator.waiting.map (·.1) := List.mem_map_of_mem h
  have hnodup := (List.nodup_append.mp hd).1
  rw [roster, hactive] at hnodup
  rintro rfl
  exact (List.nodup_cons.mp hnodup).1 hmem

/-- A request that waits makes no call. -/
theorem callsOf_of_waiting (hd : s.Distinct es) (h : (id, r) ∈ s.navigator.waiting) (e : Event) :
    callsOf id (s.step e).2 = [] := by
  rw [callsOf_step, notes]
  split
  · rename_i op hactive
    rw [if_neg (hd.running_ne h hactive), calledIn_nil]
  · rfl

/-- A request that is abandoned while it waits is absent. -/
theorem absent_of_abandoned (hd : s.Distinct (.abandon id :: es))
    (h : (id, r) ∈ s.navigator.waiting) : (s.step (.abandon id)).1.Absent id es := by
  have hroster : id ∈ s.roster := List.mem_append_right _ (List.mem_map_of_mem h)
  refine ⟨fun hmem => ?_, fun hmem => ?_⟩
  · cases hactive : s.navigator.active with
    | none => simp [step, Navigator.abandon, hactive, roster] at hmem
    | some op =>
        have hne := hd.running_ne h hactive
        simp [step, Navigator.abandon, hactive, roster, hne, Ne.symm hne] at hmem
  · exact (List.nodup_append.mp hd).2.2 id hroster id hmem rfl

/-- A request that waits makes the first calls of its itinerary once it has begun. -/
theorem covers_waiting (hd : s.Distinct es) (h : (id, r) ∈ s.navigator.waiting) :
    r.Covers s.navigator.settings (callsOf id (s.acts es)) := by
  induction es generalizing s with
  | nil => exact r.covers_nil
  | cons e es ih =>
      rw [acts_cons, callsOf_append, callsOf_of_waiting hd h e, List.nil_append,
        ← step_settings s e]
      rcases waiting_step e h with hwaiting | hbegun | rfl
      · exact ih hd.step hwaiting
      · exact covers_acts hd.step hbegun
      · rw [callsOf_eq_nil (actsOf_of_absent (absent_of_abandoned hd h))]
        exact r.covers_nil

/-- An operation is absent before it is requested. -/
theorem absent_of_numbered (settings : NavigatorSettings) (capacity : Nat)
    (hnum : Numbered (before ++ .request id r :: later)) :
    (new settings capacity).Absent id before := by
  refine ⟨by simp [roster, new, Navigator.new], fun hmem => ?_⟩
  rw [Numbered, requested, List.filterMap_append] at hnum
  exact (List.nodup_append.mp hnum).2.2 id hmem id (by simp [Event.number?]) rfl

/-- **A request makes the first calls of its itinerary**, in whatever run it was made. -/
theorem calls_of_requested {settings : NavigatorSettings} {capacity : Nat}
    (hnum : Numbered (before ++ .request id r :: later)) :
    r.Covers settings
      (callsOf id ((new settings capacity).acts (before ++ .request id r :: later))) := by
  have hd := distinct_new settings capacity hnum
  have habsent := absent_of_numbered settings capacity hnum
  have hwaiting : (id, r) ∈ (((new settings capacity).after before).step
      (.request id r)).1.navigator.waiting := List.mem_append_right _ (List.mem_singleton_self _)
  have hcovers := covers_waiting hd.after.step hwaiting
  rw [step_settings, after_settings] at hcovers
  rw [acts_append, callsOf_append, callsOf_eq_nil (actsOf_of_absent habsent), List.nil_append]
  exact hcovers

end Session

end GroundStation
