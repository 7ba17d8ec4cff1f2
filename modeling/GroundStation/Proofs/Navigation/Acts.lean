import GroundStation.Navigation.Session

/-!
# The acts of one operation

A session runs any number of operations, and its acts are those of all of them in
one list. This module separates them: `actsOf`, `callsOf` and `endingsOf` pick the
acts of the operation with a given number, and the lemmas say which event of a
session can contribute to them.

Requests are numbered by whoever makes them. The numbering is sound when no two
requests of a run share a number (`Session.Numbered`), which makes the roster of a
session, its running operation and those that wait, free of repetitions from the
first event to the last (`Session.Distinct`).

## Main results

* `Session.Distinct.step`, `Session.Distinct.after`: the roster and the numbers still
  to be requested stay distinct along every run.
* `Request.begins_of_begin`, `Stage.moves_of_move`: the ways in which an operation begins, and
  moves on from a stage.
* `Session.step_running`: one step, as the running operation sees it.
* `Session.absent_of_left`, `Session.absent_of_ended`: an operation that has left the
  navigator, or has ended, is absent for good.
* `Session.actsOf_of_absent`: an operation that neither runs nor waits, and is not
  requested, does nothing.
* `Session.Reached`: the sessions of all runs.
-/

namespace GroundStation

/-! ## Picking acts -/

/-- The operation an act belongs to. A state is shown to every observer. -/
def NavigatorAct.operation? : NavigatorAct → Option Nat
  | .begins id | .calls id _ | .givesUp id | .ends id _ => some id
  | .shows _ => none

/-- The acts of one operation, in order. -/
def actsOf (id : Nat) (acts : List NavigatorAct) : List NavigatorAct :=
  acts.filter fun a => a.operation? = some id

/-- The link call of an act, if the act is a call of the operation. -/
def NavigatorAct.callOf? (id : Nat) : NavigatorAct → Option LinkCall
  | .calls owner call => if owner = id then some call else none
  | _ => none

/-- The ending of an act, if the act is the end of the operation. -/
def NavigatorAct.endingOf? (id : Nat) : NavigatorAct → Option Ending
  | .ends owner ending => if owner = id then some ending else none
  | _ => none

/-- The link calls of one operation, in order. -/
def callsOf (id : Nat) (acts : List NavigatorAct) : List LinkCall :=
  acts.filterMap (·.callOf? id)

/-- How one operation ended, once for each time it did. -/
def endingsOf (id : Nat) (acts : List NavigatorAct) : List Ending :=
  acts.filterMap (·.endingOf? id)

@[simp] theorem actsOf_nil (id : Nat) : actsOf id [] = [] := rfl

@[simp] theorem callsOf_nil (id : Nat) : callsOf id [] = [] := rfl

@[simp] theorem endingsOf_nil (id : Nat) : endingsOf id [] = [] := rfl

@[simp] theorem actsOf_append (id : Nat) (xs ys : List NavigatorAct) :
    actsOf id (xs ++ ys) = actsOf id xs ++ actsOf id ys := List.filter_append ..

@[simp] theorem callsOf_append (id : Nat) (xs ys : List NavigatorAct) :
    callsOf id (xs ++ ys) = callsOf id xs ++ callsOf id ys := List.filterMap_append ..

@[simp] theorem endingsOf_append (id : Nat) (xs ys : List NavigatorAct) :
    endingsOf id (xs ++ ys) = endingsOf id xs ++ endingsOf id ys := List.filterMap_append ..

/-- The calls of an operation, as acts. -/
theorem mem_callsOf {id : Nat} {acts : List NavigatorAct} {call : LinkCall} :
    call ∈ callsOf id acts ↔ .calls id call ∈ acts := by
  rw [callsOf, List.mem_filterMap]
  constructor
  · rintro ⟨a, ha, hcall⟩
    cases a <;> simp_all [NavigatorAct.callOf?]
  · intro hmem
    exact ⟨_, hmem, by simp [NavigatorAct.callOf?]⟩

/-- The endings of an operation, as acts. -/
theorem mem_endingsOf {id : Nat} {acts : List NavigatorAct} {ending : Ending} :
    ending ∈ endingsOf id acts ↔ .ends id ending ∈ acts := by
  rw [endingsOf, List.mem_filterMap]
  constructor
  · rintro ⟨a, ha, hending⟩
    cases a <;> simp_all [NavigatorAct.endingOf?]
  · intro hmem
    exact ⟨_, hmem, by simp [NavigatorAct.endingOf?]⟩

/-- The calls of an operation are among its acts. -/
theorem callsOf_actsOf (id : Nat) (acts : List NavigatorAct) :
    callsOf id (actsOf id acts) = callsOf id acts := by
  induction acts with
  | nil => rfl
  | cons a rest ih =>
      simp only [callsOf, actsOf] at ih ⊢
      cases a <;> grind [NavigatorAct.operation?, NavigatorAct.callOf?]

/-- The end of an operation is among its acts. -/
theorem endingsOf_actsOf (id : Nat) (acts : List NavigatorAct) :
    endingsOf id (actsOf id acts) = endingsOf id acts := by
  induction acts with
  | nil => rfl
  | cons a rest ih =>
      simp only [endingsOf, actsOf] at ih ⊢
      cases a <;> grind [NavigatorAct.operation?, NavigatorAct.endingOf?]

/-- The same acts hold the same calls. -/
theorem callsOf_congr {id : Nat} {xs ys : List NavigatorAct} (h : actsOf id xs = actsOf id ys) :
    callsOf id xs = callsOf id ys := by
  rw [← callsOf_actsOf id xs, h, callsOf_actsOf]

/-- The same acts hold the same end. -/
theorem endingsOf_congr {id : Nat} {xs ys : List NavigatorAct}
    (h : actsOf id xs = actsOf id ys) : endingsOf id xs = endingsOf id ys := by
  rw [← endingsOf_actsOf id xs, h, endingsOf_actsOf]

/-- Without acts there are no calls. -/
theorem callsOf_eq_nil {id : Nat} {acts : List NavigatorAct} (h : actsOf id acts = []) :
    callsOf id acts = [] := callsOf_congr (h.trans (actsOf_nil id).symm)

/-- Without acts there is no end. -/
theorem endingsOf_eq_nil {id : Nat} {acts : List NavigatorAct} (h : actsOf id acts = []) :
    endingsOf id acts = [] := endingsOf_congr (h.trans (actsOf_nil id).symm)

namespace Session

/-! ## Runs -/

/-- The session after a run. -/
def after (s : Session) (es : List Event) : Session := (s.run es).1

/-- What the navigator does in a run. -/
def acts (s : Session) (es : List Event) : List NavigatorAct := (s.run es).2

@[simp] theorem after_nil (s : Session) : s.after [] = s := rfl

@[simp] theorem acts_nil (s : Session) : s.acts [] = [] := rfl

theorem after_cons (s : Session) (e : Event) (es : List Event) :
    s.after (e :: es) = (s.step e).1.after es := rfl

theorem acts_cons (s : Session) (e : Event) (es : List Event) :
    s.acts (e :: es) = (s.step e).2 ++ (s.step e).1.acts es := rfl

theorem acts_append (s : Session) (es later : List Event) :
    s.acts (es ++ later) = s.acts es ++ (s.after es).acts later := by
  induction es generalizing s with
  | nil => rfl
  | cons e es ih => rw [List.cons_append, acts_cons, acts_cons, after_cons, ih, List.append_assoc]

/-! ## Numbers -/

/-- The number an event requests an operation under. -/
def Event.number? : Event → Option Nat
  | .request id _ => some id
  | _ => none

/-- The numbers requested in a run, in order. -/
def requested (es : List Event) : List Nat := es.filterMap Event.number?

/-- No two requests of a run share a number. -/
def Numbered (es : List Event) : Prop := (requested es).Nodup

instance (es : List Event) : Decidable (Numbered es) :=
  inferInstanceAs (Decidable (requested es).Nodup)

@[simp] theorem requested_nil : requested [] = [] := rfl

/-- The number of the running operation and those of the operations that wait. -/
def roster (s : Session) : List Nat :=
  (s.navigator.active.map (·.id)).toList ++ s.navigator.waiting.map (·.1)

/-- The operations of a session, and those requested later, have different numbers. -/
def Distinct (s : Session) (es : List Event) : Prop := (s.roster ++ requested es).Nodup

theorem distinct_new {es : List Event} (settings : NavigatorSettings) (capacity : Nat)
    (h : Numbered es) : (new settings capacity).Distinct es := by
  simpa [Distinct, roster, new, Navigator.new, Numbered] using h

end Session

/-! ## What a move does -/

namespace Act

/-- The stage an act leads to. -/
def stage? : Act → Option Stage
  | .enter stage | .call _ stage => some stage
  | .finish _ => none

/-- The link call an act makes. -/
def call? : Act → Option LinkCall
  | .call linkCall _ => some linkCall
  | _ => none

/-- The ending an act brings. -/
def ending? : Act → Option Ending
  | .finish ending => some ending
  | _ => none

end Act

/-- Is an operation at this stage past its planning? -/
def Stage.isUnderWay : Stage → Bool
  | .begun _ => false
  | _ => true

/-- **How an operation begins**: it is refused for want of a waypoint or a sample, it sets out on
the first leg of its flight, or it is to make its first call under one time limit for all calls. -/
inductive Request.Begins (settings : NavigatorSettings) (now : Instant) (telemetry : Aggregator) :
    Request → Move → Prop
  | empty (m : Mission) (hws : m.waypoints = []) :
    Begins settings now telemetry (.mission m) (.fail .emptyMission)
  | unready (r : Request) (hland : ∀ disarm, r ≠ .land disarm)
    (hempty : ∀ m, r = .mission m → m.waypoints ≠ []) (hlatest : telemetry.latest = none) :
    Begins settings now telemetry r (.fail .notReady)
  | goes (target : Waypoint) (returnToStart : Bool) (sample : Sample)
    (hlatest : telemetry.latest = some sample) :
    Begins settings now telemetry (.goto target returnToStart)
      (Leg.start settings now ⟨⟨target.altitude + sample.position.terrainOffset,
        if returnToStart then some sample.position.home else none, false⟩, 1, target, []⟩)
  | flies (m : Mission) (first : Waypoint) (rest : List Waypoint) (sample : Sample)
    (hws : m.waypoints = first :: rest) (hlatest : telemetry.latest = some sample) :
    Begins settings now telemetry (.mission m)
      (Leg.start settings now ⟨⟨first.altitude + sample.position.terrainOffset,
        if m.returnToStart then some sample.position.home else none, true⟩, 1, first, rest⟩)
  | arms (altitude : Float32) (sample : Sample) (deadline : Instant)
    (hlatest : telemetry.latest = some sample)
    (hdeadline : settings.deadline? now = some deadline) :
    Begins settings now telemetry (.takeoff altitude)
      ⟨some .arming, .enter (.calling (.arm altitude) deadline)⟩
  | lands (disarm : Bool) (deadline : Instant)
    (hdeadline : settings.deadline? now = some deadline) :
    Begins settings now telemetry (.land disarm)
      ⟨some .landing, .enter (.calling (.land disarm) deadline)⟩
  | takeoffOverflows (altitude : Float32) (sample : Sample)
    (hlatest : telemetry.latest = some sample)
    (hdeadline : settings.deadline? now = none) :
    Begins settings now telemetry (.takeoff altitude) ⟨none, .finish .overflow⟩
  | landingOverflows (disarm : Bool) (hdeadline : settings.deadline? now = none) :
    Begins settings now telemetry (.land disarm) ⟨none, .finish .overflow⟩

/-- **An operation begins in no other way.** -/
theorem Request.begins_of_begin {settings : NavigatorSettings} {now : Instant}
    {telemetry : Aggregator} {r : Request} {m : Move}
    (hm : r.begin settings now telemetry = m) : r.Begins settings now telemetry m := by
  subst hm
  cases r with
  | goto target returnToStart =>
      dsimp only [Request.begin]
      split
      · exact .unready _ (by simp) (by simp) ‹_›
      · exact .goes target returnToStart _ ‹_›
  | mission m =>
      dsimp only [Request.begin]
      split
      · exact .empty m ‹_›
      · rename_i first rest hws
        split
        · exact .unready _ (by simp) (by simp [hws]) ‹_›
        · exact .flies m first rest _ hws ‹_›
  | takeoff altitude =>
      dsimp only [Request.begin]
      split
      · exact .unready _ (by simp) (by simp) ‹_›
      · split
        · exact .arms altitude _ _ ‹_› ‹_›
        · exact .takeoffOverflows altitude _ ‹_› ‹_›
  | land disarm =>
      dsimp only [Request.begin]
      split
      · exact .lands disarm _ ‹_›
      · exact .landingOverflows disarm ‹_›

/-- **How an operation moves on** from a stage. Past the planning the mark of a cancellation comes
before whatever else can lead it on. -/
inductive Stage.Moves (settings : NavigatorSettings) (now : Instant) (telemetry : Aggregator) :
    Bool → Stage → Move → Prop
  | begins (cancelled : Bool) (r : Request) :
    Moves settings now telemetry cancelled (.begun r) (r.begin settings now telemetry)
  | cancels (stage : Stage) (hstage : stage.isUnderWay = true) :
    Moves settings now telemetry true stage (.finish .cancelled)
  | calls (task : Task) (deadline : Instant) :
    Moves settings now telemetry false (.calling task deadline)
      ⟨none, .call (task.call settings) (.awaiting task deadline none)⟩
  | accepted (task : Task) (deadline : Instant) :
    Moves settings now telemetry false (.awaiting task deadline (some (.ok ())))
      (task.accepted telemetry deadline)
  | refused (task : Task) (deadline : Instant) (e : LinkError) :
    Moves settings now telemetry false (.awaiting task deadline (some (.error e)))
      (.fail (task.failure (.link e)))
  | unanswered (task : Task) (deadline : Instant) (hlate : deadline ≤ now) :
    Moves settings now telemetry false (.awaiting task deadline none)
      (.fail (task.failure .timeout))
  | sees (sight : Sight) (deadline : Instant) (hseen : sight.seen settings telemetry = true) :
    Moves settings now telemetry false (.watching sight deadline)
      (sight.followUp settings now telemetry deadline)
  | unseen (sight : Sight) (deadline : Instant) (hunseen : sight.seen settings telemetry = false)
    (hlate : deadline ≤ now) :
    Moves settings now telemetry false (.watching sight deadline)
      (.fail (sight.failure .timeout))
  | hovers (l : Leg) (wake : Instant) (hlate : wake ≤ now) :
    Moves settings now telemetry false (.hovering l wake) (l.next settings now)

/-- **An operation moves in no other way.** -/
theorem Stage.moves_of_move {settings : NavigatorSettings} {now : Instant}
    {telemetry : Aggregator} {cancelled : Bool} {stage : Stage} {m : Move}
    (hm : stage.move settings now telemetry cancelled = some m) :
    stage.Moves settings now telemetry cancelled m := by
  cases cancelled with
  | true =>
      cases stage <;> obtain rfl := Option.some.inj hm
      case begun request => exact .begins true request
      all_goals exact .cancels _ rfl
  | false =>
      cases stage with
      | begun request => exact Option.some.inj hm ▸ .begins false request
      | calling task deadline => exact Option.some.inj hm ▸ .calls task deadline
      | awaiting task deadline reply =>
          simp only [move, Bool.false_eq_true, if_false] at hm
          repeat' split at hm
          all_goals cases hm
          · exact .accepted task deadline
          · exact .refused task deadline _
          · exact .unanswered task deadline ‹_›
      | watching sight deadline =>
          simp only [move, Bool.false_eq_true, if_false] at hm
          repeat' split at hm
          all_goals cases hm
          · exact .sees sight deadline ‹_›
          · rename_i hunseen hlate
            exact .unseen sight deadline (Bool.eq_false_iff.mpr hunseen) hlate
      | hovering l wake =>
          simp only [move, Bool.false_eq_true, if_false] at hm
          split at hm
          all_goals cases hm
          exact .hovers l wake ‹_›

/-- An act that makes no call, and leads on to a stage past the planning if it leads to one. -/
def Act.isOnward : Act → Bool
  | .enter stage => stage.isUnderWay
  | .call _ _ => false
  | .finish _ => true

theorem Act.call?_of_isOnward {a : Act} (h : a.isOnward = true) : a.call? = none := by
  cases a with
  | call linkCall stage => simp [isOnward] at h
  | _ => rfl

theorem Move.enterTimed_isOnward {settings : NavigatorSettings} {now : Instant}
    {shows : Option NavState} {stage : Instant → Stage}
    (h : ∀ deadline, (stage deadline).isUnderWay = true) :
    (Move.enterTimed settings now shows stage).act.isOnward = true := by
  unfold Move.enterTimed
  split
  · exact h _
  · rfl

theorem Leg.next_isOnward (settings : NavigatorSettings) (now : Instant) (l : Leg) :
    (l.next settings now).act.isOnward = true := by
  unfold Leg.next
  repeat' split
  · exact Move.enterTimed_isOnward fun _ => rfl
  · exact Move.enterTimed_isOnward fun _ => rfl
  · rfl

theorem Request.begin_isOnward (settings : NavigatorSettings) (now : Instant)
    (telemetry : Aggregator) (r : Request) :
    (r.begin settings now telemetry).act.isOnward = true := by
  unfold Request.begin
  repeat' split
  all_goals first | rfl | exact Move.enterTimed_isOnward fun _ => rfl

theorem Task.accepted_isOnward (telemetry : Aggregator) (deadline : Instant) (task : Task) :
    (task.accepted telemetry deadline).act.isOnward = true := by
  unfold Task.accepted
  repeat' split
  all_goals rfl

theorem Sight.followUp_isOnward (settings : NavigatorSettings) (now : Instant)
    (telemetry : Aggregator) (deadline : Instant) (sight : Sight) :
    (sight.followUp settings now telemetry deadline).act.isOnward = true := by
  unfold Sight.followUp Leg.arrive
  repeat' split
  all_goals first | rfl | exact Leg.next_isOnward _ _ _

/-- A stage at which no call is due moves without one. -/
theorem Stage.move_isOnward {settings : NavigatorSettings} {now : Instant}
    {telemetry : Aggregator} {cancelled : Bool} {stage : Stage} {m : Move}
    (hm : stage.move settings now telemetry cancelled = some m)
    (hcalling : ∀ task deadline, stage ≠ .calling task deadline) : m.act.isOnward = true := by
  cases moves_of_move hm with
  | begins _ request => exact Request.begin_isOnward _ _ _ _
  | calls task deadline => exact absurd rfl (hcalling task deadline)
  | accepted task deadline => exact Task.accepted_isOnward _ _ _
  | sees sight deadline hseen => exact Sight.followUp_isOnward _ _ _ _ _
  | hovers l wake hlate => exact Leg.next_isOnward _ _ _
  | _ => rfl

/-- No move leads back to the planning. -/
theorem Stage.isUnderWay_of_move {settings : NavigatorSettings} {now : Instant}
    {telemetry : Aggregator} {cancelled : Bool} {stage next : Stage} {m : Move}
    (hm : stage.move settings now telemetry cancelled = some m)
    (hnext : m.act.stage? = some next) : next.isUnderWay = true := by
  by_cases hcalling : ∃ task deadline, stage = .calling task deadline
  · obtain ⟨task, deadline, rfl⟩ := hcalling
    cases cancelled <;> obtain rfl := Option.some.inj hm
    · exact Option.some.inj hnext ▸ rfl
    · cases hnext
  · have honward := Stage.move_isOnward hm fun task deadline h => hcalling ⟨task, deadline, h⟩
    cases hact : m.act with
    | enter stage' =>
        rw [hact] at honward hnext
        exact Option.some.inj hnext ▸ honward
    | call linkCall stage' => simp [hact, Act.isOnward] at honward
    | finish ending => simp [hact, Act.stage?] at hnext

namespace Navigator

theorem carryOut_settings (n : Navigator) (op : ActiveOperation) (m : Move) :
    (n.carryOut op m).1.settings = n.settings := by
  rcases m with ⟨shows, _ | _ | _ | _⟩ <;> rfl

theorem carryOut_waiting (n : Navigator) (op : ActiveOperation) (m : Move) :
    (n.carryOut op m).1.waiting = n.waiting := by
  rcases m with ⟨shows, _ | _ | _ | _⟩ <;> rfl

theorem carryOut_active (n : Navigator) (op : ActiveOperation) (m : Move) :
    (n.carryOut op m).1.active = m.act.stage?.map fun stage => { op with stage := stage } := by
  rcases m with ⟨shows, _ | _ | _ | _⟩ <;> rfl

/-- What a move does depends on the operation alone. -/
theorem carryOut_acts (n other : Navigator) (op : ActiveOperation) (m : Move) :
    (n.carryOut op m).2 = (other.carryOut op m).2 := by
  rcases m with ⟨shows, _ | _ | _ | _⟩ <;> rfl

/-- Whoever is dropped gives up its call at most. -/
theorem eq_givesUp_of_mem_dropped {op : ActiveOperation} {a : NavigatorAct}
    (h : a ∈ dropped op) : a = .givesUp op.id := by
  unfold dropped at h
  split at h
  · exact List.mem_singleton.mp h
  · exact absurd h List.not_mem_nil

/-- What is not seen of a call that is given up is not seen of an operation that is dropped. -/
theorem filterMap_dropped {β : Type} {see : NavigatorAct → Option β} {op : ActiveOperation}
    (hsee : see (.givesUp op.id) = none) : (dropped op).filterMap see = [] :=
  List.filterMap_eq_nil_iff.mpr fun _ ha => eq_givesUp_of_mem_dropped ha ▸ hsee

@[simp] theorem callsOf_dropped (id : Nat) (op : ActiveOperation) :
    callsOf id (dropped op) = [] := filterMap_dropped rfl

@[simp] theorem endingsOf_dropped (id : Nat) (op : ActiveOperation) :
    endingsOf id (dropped op) = [] := filterMap_dropped rfl

theorem operation_of_mem_carryOut {n : Navigator} {op : ActiveOperation} {m : Move}
    {a : NavigatorAct} {id : Nat} (ha : a ∈ (n.carryOut op m).2)
    (hid : a.operation? = some id) : id = op.id := by
  rcases m with ⟨shows, _ | _ | _ | _⟩ <;> cases shows <;>
    grind [carryOut, dropped, NavigatorAct.operation?]

theorem callsOf_carryOut (n : Navigator) (op : ActiveOperation) (m : Move) :
    callsOf op.id (n.carryOut op m).2 = m.act.call?.toList := by
  rcases m with ⟨shows, _ | _ | _ | _⟩ <;> cases shows <;>
    grind [carryOut, callsOf, NavigatorAct.callOf?, dropped, Act.call?]

theorem endingsOf_carryOut (n : Navigator) (op : ActiveOperation) (m : Move) :
    endingsOf op.id (n.carryOut op m).2 = m.act.ending?.toList := by
  rcases m with ⟨shows, _ | _ | _ | _⟩ <;> cases shows <;>
    grind [carryOut, endingsOf, NavigatorAct.endingOf?, dropped, Act.ending?]

end Navigator

/-- What an event other than a move does to the running operation. -/
def ActiveOperation.hear (op : ActiveOperation) : Session.Event → ActiveOperation
  | .answer reply =>
    match op.stage with
    | .awaiting task deadline none => { op with stage := .awaiting task deadline (some reply) }
    | _ => op
  | .cancel => { op with cancelled := true }
  | _ => op

@[simp] theorem ActiveOperation.hear_id (op : ActiveOperation) (e : Session.Event) :
    (op.hear e).id = op.id := by
  cases e <;> grind [ActiveOperation.hear]

/-- What an event does to the running operation, and what is done for it then. -/
def ActiveOperation.react (settings : NavigatorSettings) (now : Instant) (telemetry : Aggregator)
    (op : ActiveOperation) : Session.Event → Option ActiveOperation × List NavigatorAct
  | .move =>
    match op.stage.move settings now telemetry op.cancelled with
    | some m =>
      let done := (Navigator.new settings).carryOut op m
      (done.1.active, done.2)
    | none => (some op, [])
  | .abandon id => if id = op.id then (none, Navigator.dropped op) else (some op, [])
  | e => (some (op.hear e), [])

theorem ActiveOperation.react_move {settings : NavigatorSettings} {now : Instant}
    {telemetry : Aggregator} {op : ActiveOperation} {m : Move}
    (hm : op.stage.move settings now telemetry op.cancelled = some m) :
    op.react settings now telemetry .move =
      (m.act.stage?.map fun stage => { op with stage := stage },
        ((Navigator.new settings).carryOut op m).2) := by
  simp [react, hm, Navigator.carryOut_active]

/-- An operation keeps its number. -/
theorem ActiveOperation.react_id {settings : NavigatorSettings} {now : Instant}
    {telemetry : Aggregator} {op next : ActiveOperation} {e : Session.Event}
    (h : (op.react settings now telemetry e).1 = some next) : next.id = op.id := by
  cases e with
  | move =>
      cases hm : op.stage.move settings now telemetry op.cancelled with
      | none => simp_all [react]
      | some m =>
          rw [react_move hm] at h
          cases hstage : m.act.stage? <;> simp_all
          exact h ▸ rfl
  | abandon id =>
      simp only [react] at h
      split at h <;> simp_all
  | _ => exact Option.some.inj h ▸ op.hear_id _

/-- Whatever an operation reacts with is an act of its own. -/
theorem ActiveOperation.operation_of_mem_react {settings : NavigatorSettings} {now : Instant}
    {telemetry : Aggregator} {op : ActiveOperation} {e : Session.Event} {a : NavigatorAct}
    {id : Nat} (ha : a ∈ (op.react settings now telemetry e).2)
    (hid : a.operation? = some id) : id = op.id := by
  cases e with
  | move =>
      cases hm : op.stage.move settings now telemetry op.cancelled with
      | none => simp [react, hm] at ha
      | some m =>
          rw [react_move hm] at ha
          exact Navigator.operation_of_mem_carryOut ha hid
  | abandon owner => grind [react, Navigator.dropped, NavigatorAct.operation?]
  | _ => simp [react] at ha

/-- An operation that has ended has left the navigator. -/
theorem ActiveOperation.react_of_ended {settings : NavigatorSettings} {now : Instant}
    {telemetry : Aggregator} {op : ActiveOperation} {e : Session.Event}
    (h : endingsOf op.id (op.react settings now telemetry e).2 ≠ []) :
    (op.react settings now telemetry e).1 = none := by
  cases e with
  | move =>
      cases hm : op.stage.move settings now telemetry op.cancelled with
      | none => simp [react, hm] at h
      | some m =>
          rw [react_move hm] at h ⊢
          rw [Navigator.endingsOf_carryOut] at h
          cases hact : m.act <;> simp_all [Act.ending?, Act.stage?]
  | abandon owner =>
      by_cases hid : owner = op.id
      · simp [react, hid]
      · simp [react, hid] at h
  | _ => simp [react] at h

/-- What stays true of an operation as long as it runs. -/
def ActiveOperation.Lasting (p : ActiveOperation → Prop) : Prop :=
  ∀ {settings now telemetry op e next}, p op →
    (op.react settings now telemetry e).1 = some next → p next

/-- What moves and answers leave true of a stage lasts. -/
theorem ActiveOperation.lasting_of_stage {p : Stage → Prop}
    (hmove : ∀ {settings now telemetry cancelled stage m next}, p stage →
      Stage.move settings now telemetry cancelled stage = some m → m.act.stage? = some next →
      p next)
    (hanswer : ∀ {task deadline reply}, p (.awaiting task deadline none) →
      p (.awaiting task deadline (some reply))) : Lasting fun op => p op.stage := by
  intro settings now telemetry op e next hop hnext
  cases e with
  | move =>
      cases hm : op.stage.move settings now telemetry op.cancelled with
      | none =>
          obtain rfl : op = next := by simpa [react, hm] using hnext
          exact hop
      | some m =>
          rw [react_move hm, Option.map_eq_some_iff] at hnext
          obtain ⟨stage, hstage, rfl⟩ := hnext
          exact hmove hop hm hstage
  | answer reply =>
      rw [← Option.some.inj hnext]
      simp only [hear]
      split
      · rename_i hstage
        rw [hstage] at hop
        exact hanswer hop
      · exact hop
  | abandon id =>
      simp only [react] at hnext
      split at hnext
      · cases hnext
      · exact Option.some.inj hnext ▸ hop
  | _ => exact Option.some.inj hnext ▸ hop

/-- A planned operation is not planned again. -/
theorem ActiveOperation.lasting_isUnderWay :
    Lasting fun op => op.stage.isUnderWay = true :=
  lasting_of_stage (fun _ hm hnext => Stage.isUnderWay_of_move hm hnext) fun _ => rfl

namespace Session

/-! ## What a step does -/

variable {s : Session} {op : ActiveOperation}

/-- **One step, as the running operation sees it.** -/
theorem step_running (h : s.navigator.active = some op) (e : Event) :
    (s.step e).1.navigator.active = (op.react s.navigator.settings s.now s.telemetry e).1 ∧
      (s.step e).2 = (op.react s.navigator.settings s.now s.telemetry e).2 := by
  cases e with
  | move =>
      cases hm : op.stage.move s.navigator.settings s.now s.telemetry op.cancelled with
      | none => simp [step, Navigator.step, ActiveOperation.react, h, hm]
      | some m =>
          rw [ActiveOperation.react_move hm]
          simp [step, Navigator.step, h, hm, Navigator.carryOut_active,
            Navigator.carryOut_acts s.navigator (Navigator.new s.navigator.settings)]
  | abandon id =>
      by_cases hid : op.id = id
      · simp [step, Navigator.abandon, ActiveOperation.react, h, hid]
      · simp [step, Navigator.abandon, ActiveOperation.react, h, hid, Ne.symm hid]
  | answer reply => exact ⟨congrArg (Option.map _) h, rfl⟩
  | _ =>
      simp [step, Navigator.request, Navigator.cancel, h, ActiveOperation.react,
        ActiveOperation.hear]

/-- A move of the running operation leaves those that wait alone. -/
theorem step_move_waiting (h : s.navigator.active = some op) :
    (s.step .move).1.navigator.waiting = s.navigator.waiting := by
  cases hm : op.stage.move s.navigator.settings s.now s.telemetry op.cancelled with
  | none => simp [step, Navigator.step, h, hm]
  | some m => simp [step, Navigator.step, h, hm, Navigator.carryOut_waiting]

/-- The end of the running operation lets nobody out of the queue. -/
theorem step_waiting_of_none (h : s.navigator.active = some op) {e : Event}
    (hnone : (s.step e).1.navigator.active = none) :
    (s.step e).1.navigator.waiting = s.navigator.waiting := by
  cases e with
  | move => exact step_move_waiting h
  | abandon id =>
      by_cases hid : op.id = id
      · simp [step, Navigator.abandon, h, hid]
      · simp [step, Navigator.abandon, h, hid] at hnone
  | request id r => simp [step, Navigator.request, h] at hnone
  | _ => rfl

theorem step_move_begins {id : Nat} {r : Request} {rest : List (Nat × Request)}
    (h : s.navigator.active = none) (hw : s.navigator.waiting = (id, r) :: rest) :
    s.step .move = ({ s with navigator := { s.navigator with
      waiting := rest, active := some ⟨id, false, .begun r⟩ } }, [.begins id]) := by
  simp [step, Navigator.step, h, hw]

theorem step_move_idle (h : s.navigator.active = none) (hw : s.navigator.waiting = []) :
    s.step .move = (s, []) := by
  simp [step, Navigator.step, h, hw]

/-- With no operation running, nothing but a move begins one. -/
theorem step_of_idle (h : s.navigator.active = none) {e : Event} (he : e ≠ .move) :
    (s.step e).1.navigator.active = none ∧ (s.step e).2 = [] := by
  cases e with
  | move => exact absurd rfl he
  | abandon id => simp [step, Navigator.abandon, h]
  | _ => simp [step, Navigator.request, Navigator.answer, Navigator.cancel, h]

theorem step_settings (s : Session) (e : Event) :
    (s.step e).1.navigator.settings = s.navigator.settings := by
  cases e with
  | abandon id =>
      simp only [step, Navigator.abandon]
      repeat' split
      all_goals rfl
  | move =>
      cases h : s.navigator.active with
      | none =>
          cases hw : s.navigator.waiting with
          | nil => rw [step_move_idle h hw]
          | cons w rest => rw [step_move_begins h hw]
      | some op =>
          cases hm : op.stage.move s.navigator.settings s.now s.telemetry op.cancelled with
          | none => simp [step, Navigator.step, h, hm]
          | some m => simp [step, Navigator.step, h, hm, Navigator.carryOut_settings]
  | _ => rfl

theorem after_settings (s : Session) (es : List Event) :
    (s.after es).navigator.settings = s.navigator.settings := by
  induction es generalizing s with
  | nil => rfl
  | cons e es ih => rw [after_cons, ih, step_settings]

/-! ## The roster -/

private theorem roster_eq (s : Session) (op : ActiveOperation) (h : s.navigator.active = some op) :
    s.roster = op.id :: s.navigator.waiting.map (·.1) := by
  simp [roster, h]

private theorem roster_idle (s : Session) (h : s.navigator.active = none) :
    s.roster = s.navigator.waiting.map (·.1) := by
  simp [roster, h]

/-- A step brings no operation into the roster but the one it requests, and repeats
none. -/
theorem roster_step (s : Session) (e : Event) :
    ((s.step e).1.roster).Sublist (s.roster ++ e.number?.toList) := by
  cases e with
  | request id r =>
      simp [step, roster, Navigator.request, Event.number?]
  | answer reply =>
      have hid : (s.step (.answer reply)).1.navigator.active.map (·.id) =
          s.navigator.active.map (·.id) := by
        change (s.navigator.active.map fun op => op.hear (.answer reply)).map (·.id) = _
        simp [Function.comp_def]
      rw [roster, hid]
      exact List.sublist_append_left _ _
  | telemetry update timestamp => simp [step, roster, Event.number?]
  | pass millis => simp [step, roster, Event.number?]
  | cancel =>
      simp [step, roster, Navigator.cancel, Event.number?, Function.comp_def]
  | abandon id =>
      have hfilter := (List.filter_sublist (p := fun w : Nat × Request => w.1 ≠ id)
        (l := s.navigator.waiting)).map (·.1)
      cases h : s.navigator.active with
      | none =>
          simpa [step, Navigator.abandon, h, roster, Event.number?] using hfilter
      | some op =>
          by_cases hid : op.id = id
          · simp [step, Navigator.abandon, h, hid, roster, Event.number?]
          · simpa [step, Navigator.abandon, h, hid, roster, Event.number?] using hfilter
  | move =>
      cases h : s.navigator.active with
      | none =>
          cases hw : s.navigator.waiting with
          | nil => simp [step_move_idle h hw, Event.number?]
          | cons w rest =>
              rw [step_move_begins h hw]
              simp [roster, h, hw, Event.number?]
      | some op =>
          cases hm : op.stage.move s.navigator.settings s.now s.telemetry op.cancelled with
          | none => simp [step, Navigator.step, h, hm, Event.number?]
          | some m =>
              rw [roster_eq s op h]
              simp only [step, Navigator.step, h, hm, Option.map_some, roster,
                Navigator.carryOut_active, Navigator.carryOut_waiting]
              cases m.act.stage? <;> simp [Event.number?]

/-- With no operation running, a step does nothing but begin the next one. -/
theorem step_idle_acts (h : s.navigator.active = none) {e : Event} {a : NavigatorAct}
    (ha : a ∈ (s.step e).2) :
    ∃ id r rest, s.navigator.waiting = (id, r) :: rest ∧ a = .begins id ∧
      (s.step e).1.navigator.active = some ⟨id, false, .begun r⟩ := by
  cases e with
  | move =>
      cases hw : s.navigator.waiting with
      | nil => simp [step_move_idle h hw] at ha
      | cons w rest =>
          obtain ⟨id, r⟩ := w
          rw [step_move_begins h hw] at ha ⊢
          exact ⟨id, r, rest, rfl, by simpa using ha, rfl⟩
  | abandon owner => simp [step, Navigator.abandon, h] at ha
  | _ => simp [step] at ha

/-- With no operation running, no call is made. -/
theorem callsOf_step_of_idle (h : s.navigator.active = none) (id : Nat) (e : Event) :
    callsOf id (s.step e).2 = [] := by
  refine List.eq_nil_iff_forall_not_mem.mpr fun call hcall => ?_
  obtain ⟨first, r, rest, -, hbegins, -⟩ := step_idle_acts h (mem_callsOf.mp hcall)
  cases hbegins

/-- With no operation running, none ends. -/
theorem endingsOf_step_of_idle (h : s.navigator.active = none) (id : Nat) (e : Event) :
    endingsOf id (s.step e).2 = [] := by
  refine List.eq_nil_iff_forall_not_mem.mpr fun ending hending => ?_
  obtain ⟨first, r, rest, -, hbegins, -⟩ := step_idle_acts h (mem_endingsOf.mp hending)
  cases hbegins

/-- Only operations of the roster act. -/
theorem mem_roster_of_mem_acts {s : Session} {e : Event} {a : NavigatorAct} {id : Nat}
    (ha : a ∈ (s.step e).2) (hid : a.operation? = some id) : id ∈ s.roster := by
  cases h : s.navigator.active with
  | none =>
      obtain ⟨first, r, rest, hw, rfl, -⟩ := step_idle_acts h ha
      have : first = id := by simpa [NavigatorAct.operation?] using hid
      simp [roster_idle s h, hw, this]
  | some op =>
      rw [(step_running h e).2] at ha
      rw [ActiveOperation.operation_of_mem_react ha hid, roster_eq s op h]
      exact List.mem_cons_self

theorem requested_cons (e : Event) (es : List Event) :
    requested (e :: es) = e.number?.toList ++ requested es := by
  cases h : e.number? <;> simp [requested, h]

namespace Distinct

theorem step {e : Event} {es : List Event} (h : s.Distinct (e :: es)) :
    (s.step e).1.Distinct es := by
  unfold Distinct at h ⊢
  rw [requested_cons, ← List.append_assoc] at h
  exact h.sublist ((roster_step s e).append_right _)

theorem after {es later : List Event} (h : s.Distinct (es ++ later)) :
    (s.after es).Distinct later := by
  induction es generalizing s with
  | nil => exact h
  | cons e es ih => exact ih h.step

end Distinct

/-- An operation that neither runs nor waits and that no event of a run requests. -/
def Absent (s : Session) (id : Nat) (es : List Event) : Prop :=
  id ∉ s.roster ∧ id ∉ requested es

theorem Absent.step {id : Nat} {e : Event} {es : List Event} (h : s.Absent id (e :: es)) :
    (s.step e).1.Absent id es := by
  have hnumber := h.2
  rw [requested_cons, List.mem_append, not_or] at hnumber
  refine ⟨fun hmem => ?_, hnumber.2⟩
  rcases List.mem_append.mp ((roster_step s e).subset hmem) with hroster | hrequest
  · exact h.1 hroster
  · exact hnumber.1 hrequest

theorem Absent.after {id : Nat} {es later : List Event} (h : s.Absent id (es ++ later)) :
    (s.after es).Absent id later := by
  induction es generalizing s with
  | nil => exact h
  | cons e es ih => exact ih h.step

theorem actsOf_step_of_not_mem {id : Nat} (e : Event) (h : id ∉ s.roster) :
    actsOf id (s.step e).2 = [] := by
  unfold actsOf
  rw [List.filter_eq_nil_iff]
  intro a ha hid
  exact h (mem_roster_of_mem_acts ha (by simpa using hid))

/-- The acts of a step are those of the operation that runs. -/
theorem actsOf_step_of_ne {id : Nat} (h : s.navigator.active = some op) (hid : op.id ≠ id)
    (e : Event) : actsOf id (s.step e).2 = [] := by
  refine List.filter_eq_nil_iff.mpr fun a ha howner => hid ?_
  rw [(step_running h e).2] at ha
  exact (ActiveOperation.operation_of_mem_react ha (by simpa using howner)).symm

/-- **What is not there does nothing.** -/
theorem actsOf_of_absent {id : Nat} {es : List Event} (h : s.Absent id es) :
    actsOf id (s.acts es) = [] := by
  induction es generalizing s with
  | nil => rfl
  | cons e es ih =>
      rw [acts_cons, actsOf_append, actsOf_step_of_not_mem e h.1, ih h.step]
      rfl

/-- When the running operation has left the navigator, it is absent for good. -/
theorem absent_of_left {e : Event} {es : List Event} (hd : s.Distinct (e :: es))
    (h : s.navigator.active = some op)
    (hnone : (op.react s.navigator.settings s.now s.telemetry e).1 = none) :
    (s.step e).1.Absent op.id es := by
  rw [← (step_running h e).1] at hnone
  unfold Distinct at hd
  rw [roster_eq s op h, requested_cons] at hd
  have hnot := (List.nodup_cons.mp hd).1
  refine ⟨fun hmem => hnot ?_, fun hmem => hnot ?_⟩
  · rw [roster_idle _ hnone, step_waiting_of_none h hnone] at hmem
    exact List.mem_append_left _ hmem
  · exact List.mem_append_right _ (List.mem_append_right _ hmem)

/-- The end of an operation in a step makes it absent. -/
theorem absent_of_ends {id : Nat} {e : Event} {es : List Event} (hd : s.Distinct (e :: es))
    (h : endingsOf id (s.step e).2 ≠ []) : (s.step e).1.Absent id es := by
  have hacts : actsOf id (s.step e).2 ≠ [] := fun hnil => h (endingsOf_eq_nil hnil)
  obtain ⟨a, hmem⟩ := List.exists_mem_of_ne_nil _ hacts
  obtain ⟨ha, hid⟩ := List.mem_filter.mp hmem
  simp only [decide_eq_true_eq] at hid
  cases hactive : s.navigator.active with
  | some op =>
      rw [(step_running hactive e).2] at ha h
      obtain rfl := ActiveOperation.operation_of_mem_react ha hid
      exact absent_of_left hd hactive (ActiveOperation.react_of_ended h)
  | none => exact absurd (endingsOf_step_of_idle hactive id e) h

/-- An operation that has ended is absent for good. -/
theorem absent_of_ended {id : Nat} {es later : List Event} (hd : s.Distinct (es ++ later))
    (h : endingsOf id (s.acts es) ≠ []) : (s.after es).Absent id later := by
  induction es generalizing s with
  | nil => exact absurd rfl h
  | cons e es ih =>
      by_cases hrest : endingsOf id ((s.step e).1.acts es) = []
      · rw [acts_cons, endingsOf_append, hrest, List.append_nil] at h
        exact (absent_of_ends hd h).after
      · exact ih hd.step hrest

/-- An operation that runs and has come as far as `p` tells, or is absent for good. -/
def Reached (p : ActiveOperation → Prop) (s : Session) (id : Nat) (es : List Event) : Prop :=
  (∃ op, s.navigator.active = some op ∧ op.id = id ∧ p op) ∨ s.Absent id es

namespace Reached

variable {p : ActiveOperation → Prop} {id : Nat} {es later : List Event}

theorem step {e : Event} (hp : ActiveOperation.Lasting p) (hd : s.Distinct (e :: es))
    (h : s.Reached p id (e :: es)) : (s.step e).1.Reached p id es := by
  rcases h with ⟨op, hop, rfl, hpop⟩ | habsent
  · cases hnext : (op.react s.navigator.settings s.now s.telemetry e).1 with
    | none => exact .inr (absent_of_left hd hop hnext)
    | some next =>
        refine .inl ⟨next, ?_, ActiveOperation.react_id hnext, hp hpop hnext⟩
        rw [(step_running hop e).1, hnext]
  · exact .inr habsent.step

theorem after (hp : ActiveOperation.Lasting p) (hd : s.Distinct (es ++ later))
    (h : s.Reached p id (es ++ later)) : (s.after es).Reached p id later := by
  induction es generalizing s with
  | nil => exact h
  | cons e es ih => exact ih hd.step (h.step hp hd)

/-- What is absent does not run. -/
theorem of_active (h : s.Reached p op.id es) (hop : s.navigator.active = some op) : p op := by
  rcases h with ⟨op', hop', -, hp⟩ | habsent
  · rw [hop, Option.some.injEq] at hop'
    exact hop' ▸ hp
  · exact absurd (by simp [roster, hop]) habsent.1

end Reached

end Session

end GroundStation
