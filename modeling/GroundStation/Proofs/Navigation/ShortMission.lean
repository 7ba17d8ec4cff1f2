import GroundStation.Proofs.Navigation.Cancellation
import GroundStation.Proofs.Navigation.Itinerary
import GroundStation.Proofs.Navigation.OneLeg

/-!
# A mission of one waypoint

Seen from outside, a flight to one waypoint and the mission of that waypoint are the same
flight: in every environment they make the same link calls at the same times, show the
same states, and end at the same time. They differ in one word, the number of the leg
when the outbound leg fails.

The two sessions are followed side by side. `Session.Twins` says that they differ in
nothing but the one operation, which is a flight in the one and a mission in the other.

## Main results

* `Session.Twins.step`, `Session.Twins.transcript`: the two sessions do the same, at one
  event and along every run.
* `Session.short_mission_flies_like_goto`: the runs of the two requests, entry by entry.
-/

namespace GroundStation

namespace Session

/-! ## The flight and the mission, session by session -/

variable {s t : Session} {id calls : Nat} {name : String} {e : Event} {es : List Event}

/-- What is done at each event of a run, and when. -/
def transcript (s : Session) : List Event → List (Instant × List NavigatorAct)
  | [] => []
  | e :: rest => (s.now, (s.step e).2) :: (s.step e).1.transcript rest

/-- A request that waits, when the one with the number is a mission instead of a flight. -/
def waitsInMission (id : Nat) (name : String) (w : Nat × Request) : Nat × Request :=
  (w.1, if w.1 = id then w.2.inMission name else w.2)

/-- The operation that runs, when the one with the number is a mission instead of a flight. -/
def runsInMission (id : Nat) (name : String) (op : ActiveOperation) : ActiveOperation :=
  { op with stage := if op.id = id then op.stage.inMission name else op.stage }

theorem runsInMission_self {op : ActiveOperation} (h : op.id = id) :
    runsInMission id name op = op.inMission name := by
  simp [runsInMission, h, ActiveOperation.inMission]

theorem runsInMission_of_ne {op : ActiveOperation} (h : op.id ≠ id) :
    runsInMission id name op = op := by
  simp [runsInMission, h]

/-- Two sessions that differ in one operation, which is a flight to one waypoint in the
one and the mission of that waypoint in the other, and in the state shown last. -/
structure Twins (id : Nat) (name : String) (s t : Session) : Prop where
  now : t.now = s.now
  telemetry : t.telemetry = s.telemetry
  settings : t.navigator.settings = s.navigator.settings
  waiting : t.navigator.waiting = s.navigator.waiting.map (waitsInMission id name)
  active : t.navigator.active = s.navigator.active.map (runsInMission id name)

/-- What an event does to the clock and the telemetry is not the navigator's affair. -/
theorem step_surroundings (hnow : t.now = s.now) (htelemetry : t.telemetry = s.telemetry)
    (e : Event) : (t.step e).1.now = (s.step e).1.now ∧
      (t.step e).1.telemetry = (s.step e).1.telemetry := by
  obtain ⟨hleft, hleft'⟩ := after_outside hnow htelemetry [e]
  obtain ⟨hright, hright'⟩ := after_outside (s := s) (t := s) rfl rfl [e]
  exact ⟨hleft.trans hright.symm, hleft'.trans hright'.symm⟩

namespace Twins

/-- What waits stays the same but for the one request. -/
theorem waiting_step (h : Twins id name s t) (he : e.number? ≠ some id) :
    (t.step e).1.navigator.waiting =
      (s.step e).1.navigator.waiting.map (waitsInMission id name) := by
  cases e with
  | request owner r =>
      have howner : owner ≠ id := fun heq => he (congrArg some heq)
      simp [step, Navigator.request, h.waiting, waitsInMission, howner]
  | abandon owner =>
      have hfilter : t.navigator.waiting.filter (fun w => w.1 ≠ owner) =
          (s.navigator.waiting.filter fun w => w.1 ≠ owner).map (waitsInMission id name) := by
        rw [h.waiting, List.filter_map]
        rfl
      cases hactive : s.navigator.active with
      | none => simpa [step, Navigator.abandon, h.active, hactive] using hfilter
      | some op =>
          have howner : (runsInMission id name op).id = op.id := rfl
          by_cases heq : op.id = owner
          · simp [step, Navigator.abandon, h.active, hactive, howner, heq, h.waiting]
          · simpa [step, Navigator.abandon, h.active, hactive, howner, heq] using hfilter
  | move =>
      cases hactive : s.navigator.active with
      | none =>
          have hidle : t.navigator.active = none := by rw [h.active, hactive, Option.map_none]
          cases hw : s.navigator.waiting with
          | nil =>
              have hw' : t.navigator.waiting = [] := by rw [h.waiting, hw, List.map_nil]
              rw [step_move_idle hactive hw, step_move_idle hidle hw', h.waiting]
          | cons w rest =>
              have hw' := h.waiting
              rw [hw, List.map_cons] at hw'
              rw [step_move_begins hactive hw, step_move_begins hidle hw']
      | some op =>
          have hruns : t.navigator.active = some (runsInMission id name op) := by
            rw [h.active, hactive, Option.map_some]
          rw [step_move_waiting hactive, step_move_waiting hruns, h.waiting]
  | _ => exact h.waiting

/-- **One event.** Both sessions do the same, but for what is told at the end, and go on
differing in nothing but the operation. -/
theorem step (h : Twins id name s t) (he : e.number? ≠ some id)
    (hop : ∀ op, s.navigator.active = some op → op.id = id → op.stage.Alone calls) :
    (t.step e).2 = toldInMission id calls (s.step e).2 ∧
      Twins id name (s.step e).1 (t.step e).1 := by
  obtain ⟨hnow, htelemetry⟩ := step_surroundings h.now h.telemetry e
  suffices hdone : (t.step e).2 = toldInMission id calls (s.step e).2 ∧
      (t.step e).1.navigator.active = (s.step e).1.navigator.active.map (runsInMission id name) by
    refine ⟨hdone.1, hnow, htelemetry, ?_, h.waiting_step he, hdone.2⟩
    rw [step_settings, step_settings, h.settings]
  cases hactive : s.navigator.active with
  | none =>
      have hidle : t.navigator.active = none := by rw [h.active, hactive, Option.map_none]
      by_cases hmove : e = .move
      · subst hmove
        cases hw : s.navigator.waiting with
        | nil =>
            have hw' : t.navigator.waiting = [] := by rw [h.waiting, hw, List.map_nil]
            rw [step_move_idle hactive hw, step_move_idle hidle hw', hactive, hidle]
            exact ⟨rfl, rfl⟩
        | cons w rest =>
            have hw' := h.waiting
            rw [hw, List.map_cons] at hw'
            rw [step_move_begins hactive hw, step_move_begins hidle hw']
            refine ⟨rfl, congrArg some ?_⟩
            by_cases hid : w.1 = id <;> simp [runsInMission, hid, Stage.inMission]
      · rw [(step_of_idle hactive hmove).1, (step_of_idle hactive hmove).2,
          (step_of_idle hidle hmove).1, (step_of_idle hidle hmove).2]
        exact ⟨rfl, rfl⟩
  | some op =>
      have hruns : t.navigator.active = some (runsInMission id name op) := by
        rw [h.active, hactive, Option.map_some]
      obtain ⟨hnext, hacts⟩ := step_running hactive e
      obtain ⟨hnext', hacts'⟩ := step_running hruns e
      rw [hnext, hacts, hnext', hacts', h.settings, h.now, h.telemetry]
      by_cases hid : op.id = id
      · rw [runsInMission_self hid,
          ActiveOperation.react_inMission name (hop op hactive hid) e, hid]
        refine ⟨rfl, Option.map_congr fun next hreact => ?_⟩
        exact (runsInMission_self ((ActiveOperation.react_id hreact).trans hid)).symm
      · have hothers :
            endingsOf id (op.react s.navigator.settings s.now s.telemetry e).2 = [] := by
          rw [← hacts]
          exact endingsOf_eq_nil (actsOf_step_of_ne hactive hid e)
        rw [runsInMission_of_ne hid, toldInMission_of_endings calls hothers]
        refine ⟨rfl, ?_⟩
        cases hreact : (op.react s.navigator.settings s.now s.telemetry e).1 with
        | none => rfl
        | some next =>
            have hnext : next.id ≠ id := ActiveOperation.react_id hreact ▸ hid
            rw [Option.map_some, runsInMission_of_ne hnext]

end Twins

/-- How the operation with a number stands at a session before a run: it waits, it runs
and has made so many link calls, or it is absent. -/
inductive FliesAlone (id : Nat) (s : Session) (es : List Event) : Nat → Prop
  | waits (target : Waypoint) (returnToStart : Bool)
      (h : (id, .goto target returnToStart) ∈ s.navigator.waiting) : FliesAlone id s es 0
  | runs {op : ActiveOperation} {calls : Nat} (h : s.navigator.active = some op)
      (hid : op.id = id) (hstage : op.stage.Alone calls) : FliesAlone id s es calls
  | absent {calls : Nat} (h : s.Absent id es) : FliesAlone id s es calls

namespace FliesAlone

theorem of_active {op : ActiveOperation} (h : FliesAlone id s es calls) (hd : s.Distinct es)
    (hactive : s.navigator.active = some op) (hid : op.id = id) : op.stage.Alone calls := by
  cases h with
  | waits target returnToStart hwaiting => exact absurd hid (hd.running_ne hwaiting hactive)
  | runs hruns _ hstage => exact Option.some.inj (hruns.symm.trans hactive) ▸ hstage
  | absent habsent => exact absurd (by simp [roster, hactive, hid]) habsent.1

theorem step (h : FliesAlone id s (e :: es) calls) (hd : s.Distinct (e :: es)) :
    FliesAlone id (s.step e).1 es (calls + (callsOf id (s.step e).2).length) := by
  cases h with
  | waits target returnToStart hwaiting =>
      rw [callsOf_of_waiting hd hwaiting e, List.length_nil]
      rcases waiting_step e hwaiting with hwaits | hbegun | rfl
      · exact .waits target returnToStart hwaits
      · exact .runs hbegun rfl (.begun target returnToStart)
      · exact .absent (absent_of_abandoned hd hwaiting)
  | @runs op _ hactive hid hstage =>
      subst hid
      obtain ⟨hnext, hacts⟩ := step_running hactive e
      cases hreact : (op.react s.navigator.settings s.now s.telemetry e).1 with
      | none => exact .absent (absent_of_left hd hactive hreact)
      | some next =>
          rw [hacts]
          exact .runs (hnext.trans hreact) (ActiveOperation.react_id hreact)
            (ActiveOperation.alone_react hstage hreact)
  | absent habsent => exact .absent habsent.step

end FliesAlone

/-- An operation that ends at an event makes no call at it. -/
theorem callsOf_of_ends (h : endingsOf id (s.step e).2 ≠ []) : callsOf id (s.step e).2 = [] := by
  cases hactive : s.navigator.active with
  | none => exact callsOf_step_of_idle hactive id e
  | some op =>
      by_cases hid : op.id = id
      · subst hid
        rw [(step_running hactive e).2] at h ⊢
        exact ActiveOperation.callsOf_of_ends h
      · exact absurd (endingsOf_eq_nil (actsOf_step_of_ne hactive hid e)) h

/-- **Every run.** -/
theorem Twins.transcript (h : Twins id name s t) (hd : s.Distinct es)
    (hid : id ∉ requested es) (hflies : FliesAlone id s es calls) :
    t.transcript es = (s.transcript es).map fun entry =>
      (entry.1, toldInMission id (calls + (callsOf id (s.acts es)).length) entry.2) := by
  induction es generalizing s t calls with
  | nil => rfl
  | cons e es ih =>
      rw [requested_cons, List.mem_append, not_or] at hid
      have he : e.number? ≠ some id := fun heq => hid.1 (by simp [heq])
      obtain ⟨hacts, hnext⟩ := h.step he fun op hop hopid => hflies.of_active hd hop hopid
      have hrest := ih hnext hd.step hid.2 (hflies.step hd)
      rw [Session.transcript, Session.transcript, List.map_cons, hrest, hacts, h.now, acts_cons,
        callsOf_append, List.length_append, Nat.add_assoc]
      by_cases hends : endingsOf id (s.step e).2 = []
      · rw [toldInMission_of_endings _ hends, toldInMission_of_endings _ hends]
      · have hafter := callsOf_eq_nil (actsOf_of_absent (absent_of_ends hd hends))
        rw [callsOf_of_ends hends, hafter]
        rfl

/-- Two requests that differ make two sessions that differ in them. -/
theorem Twins.of_request (h : id ∉ s.roster) (name : String) (target : Waypoint)
    (returnToStart : Bool) :
    Twins id name (s.step (.request id (.goto target returnToStart))).1
      (s.step (.request id (.mission ⟨name, [target], returnToStart⟩))).1 := by
  rw [roster, List.mem_append, not_or] at h
  have hothers : s.navigator.waiting.map (waitsInMission id name) = s.navigator.waiting := by
    refine (List.map_congr_left fun w hw => ?_).trans (List.map_id' _)
    have hne : w.1 ≠ id := fun heq => h.2 (heq ▸ List.mem_map_of_mem hw)
    simp [waitsInMission, hne]
  have hactive : s.navigator.active.map (runsInMission id name) = s.navigator.active := by
    cases hop : s.navigator.active with
    | none => rfl
    | some op =>
        have hne : op.id ≠ id := fun heq => h.1 (by simp [hop, heq])
        rw [Option.map_some, runsInMission_of_ne hne]
  refine ⟨rfl, rfl, rfl, ?_, hactive.symm⟩
  simp [Session.step, Navigator.request, hothers, waitsInMission, Request.inMission]

theorem transcript_append (s : Session) (es later : List Event) :
    s.transcript (es ++ later) = s.transcript es ++ (s.after es).transcript later := by
  induction es generalizing s with
  | nil => rfl
  | cons e es ih =>
      rw [List.cons_append, transcript, transcript, ih, after_cons, List.cons_append]

/-- Before its request an operation does nothing. -/
theorem transcript_of_absent (h : s.Absent id es) :
    (s.transcript es).map (fun entry => (entry.1, toldInMission id calls entry.2)) =
      s.transcript es := by
  induction es generalizing s with
  | nil => rfl
  | cons e es ih =>
      have hends := endingsOf_eq_nil (actsOf_step_of_not_mem e h.1)
      rw [transcript, List.map_cons, ih h.step, toldInMission_of_endings calls hends]

/-- **A mission of one waypoint is the flight to it.** Let an operation be requested as a
flight in one run and as a mission in another, and let everything else that reaches the two
sessions be the same. Then event by event, and at the same instants, they do the same: the
same link calls, the same states, the same end. The only difference is the failure of the
outbound leg, `Failed(cause)` of the flight, which is that of leg one in the mission. -/
theorem short_mission_flies_like_goto (settings : NavigatorSettings) (capacity : Nat)
    (before later : List Event) (id : Nat) (name : String) (target : Waypoint)
    (returnToStart : Bool)
    (hnum : Numbered (before ++ .request id (.goto target returnToStart) :: later)) :
    (new settings capacity).transcript
        (before ++ .request id (.mission ⟨name, [target], returnToStart⟩) :: later) =
      ((new settings capacity).transcript
        (before ++ .request id (.goto target returnToStart) :: later)).map fun entry =>
          (entry.1, toldInMission id (callsOf id ((new settings capacity).acts
            (before ++ .request id (.goto target returnToStart) :: later))).length entry.2) := by
  have hd := distinct_new settings capacity hnum
  have habsent := absent_of_numbered settings capacity hnum
  have hroster : id ∉ ((new settings capacity).after before).roster := by
    rw [← List.append_nil before] at habsent
    exact habsent.after.1
  have hid : id ∉ requested later := by
    rw [Numbered, requested, List.filterMap_append] at hnum
    exact (List.nodup_cons.mp (List.nodup_append.mp hnum).2.1).1
  have hflies : FliesAlone id (((new settings capacity).after before).step
      (.request id (.goto target returnToStart))).1 later 0 :=
    .waits target returnToStart (List.mem_append_right _ (List.mem_singleton_self _))
  have hlater := (Twins.of_request hroster name target returnToStart).transcript
    hd.after.step hid hflies
  rw [acts_append, callsOf_append, callsOf_eq_nil (actsOf_of_absent habsent), List.nil_append,
    acts_cons, callsOf_append, transcript_append, transcript_append, List.map_append,
    transcript_of_absent habsent, transcript, transcript, hlater, Nat.zero_add]
  rfl

/-- A sample on the ground. -/
def sampledOnGround : List Event :=
  [.telemetry (.velocity ⟨0.0, 0.0, 0.0⟩) 1,
    .telemetry (.imu ⟨⟨0.0, 0.0, 0.0⟩, ⟨0.0, 0.0, 0.0⟩, ⟨0.0, 0.0, 0.0⟩, 20.0⟩) 2,
    .telemetry (.position ⟨47.0, 8.0, 400.0, 0.0⟩) 3]

/-- A target ten metres above the ground. -/
def nearTarget : Waypoint := ⟨47.5, 8.5, 10.0, 0.0⟩

/-- The vehicle accepts the flight to the target and does not get there in two minutes. -/
def neverThere : List Event :=
  [.move, .move, .move, .answer (.ok ()), .move, .pass 120000, .move]

/-- The flight to the target fails, and the mission fails in leg one. -/
theorem short_mission_late :
    (new unhurried 4).transcript
        (sampledOnGround ++ .request 0 (.mission ⟨"near", [nearTarget], true⟩) :: neverThere) =
      ((new unhurried 4).transcript
        (sampledOnGround ++ .request 0 (.goto nearTarget true) :: neverThere)).map
          (fun entry => (entry.1, toldInMission 0 1 entry.2)) ∧
      endingsOf 0 ((new unhurried 4).acts
        (sampledOnGround ++ .request 0 (.goto nearTarget true) :: neverThere)) =
          [.outcome (.failed .timeout)] ∧
      endingsOf 0 ((new unhurried 4).acts
        (sampledOnGround ++ .request 0 (.mission ⟨"near", [nearTarget], true⟩) :: neverThere)) =
          [.outcome (.failed (.leg 1 .timeout))] := by
  have hsame := short_mission_flies_like_goto unhurried 4 sampledOnGround neverThere 0 "near"
    nearTarget true (by decide)
  have hcalls : (callsOf 0 ((new unhurried 4).acts
      (sampledOnGround ++ .request 0 (.goto nearTarget true) :: neverThere))).length = 1 := by
    decide +kernel
  rw [hcalls] at hsame
  exact ⟨hsame, by decide +kernel, by decide +kernel⟩

end Session

end GroundStation
