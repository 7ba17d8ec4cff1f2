import GroundStation.Command.Console
import GroundStation.Proofs.Navigation.Itinerary
import GroundStation.Proofs.Navigation.Waiting

/-!
# Commands in time

Hosts give commands to a console while telemetry, answers and time go on. Each command has a
number; what reaches the console in a run, and what it does then, is a list (`Console.acts`).

A console adds nothing of its own to what the navigator does. Its session is the session of a
run too, of the events that the console passes on (`Console.passedOn`), and the calls that it
makes for a command are those of the navigator, or the one call that the command turned into.

## Main results

* `Console.session_after`: the session of a console is that of the events passed on.
* `Console.calls_of_not_executed`: no calls for a number under which no command was given.
* `Console.calls_of_executed`: the calls of a command, by what it turned into.
-/

namespace GroundStation

/-- The link call of an act, if it is made for the request with a number. -/
def ConsoleAct.callFor? (id : Nat) : ConsoleAct → Option LinkCall
  | .calls owner call => if owner = id then some call else none
  | .givesUp _ | .reports _ _ => none

/-- The link calls made for one request, in order. -/
def callsFor (id : Nat) (acts : List ConsoleAct) : List LinkCall :=
  acts.filterMap (·.callFor? id)

@[simp] theorem callsFor_nil (id : Nat) : callsFor id [] = [] := rfl

@[simp] theorem callsFor_append (id : Nat) (xs ys : List ConsoleAct) :
    callsFor id (xs ++ ys) = callsFor id xs ++ callsFor id ys := List.filterMap_append ..

namespace Console

/-- What happens to a console to which hosts give commands: a command, the answer to a call,
the end of a host's patience, the attachment of the vehicle, telemetry, the passage of time, a
cancellation, and one step of the navigator. -/
inductive Event where
  | execute (id : Nat) (command : Command)
  | answer (id : Nat) (reply : Reply)
  | abandon (id : Nat)
  | attach
  | telemetry (update : Update) (timestamp : Nat)
  | pass (millis : Nat)
  | cancel
  | move

/-- One event, and what the console does at it. -/
def happen (c : Console) : Event → Console × List ConsoleAct
  | .execute id command => c.execute id command
  | .answer id reply => ((c.answer id reply).1, (c.answer id reply).2.toList.map (.reports id))
  | .abandon id => c.abandon id
  | .attach => c.attach
  | .telemetry update timestamp => c.step (.telemetry update timestamp)
  | .pass millis => c.step (.pass millis)
  | .cancel => c.step .cancel
  | .move => c.step .move

/-- The console after a run. -/
def after (c : Console) : List Event → Console
  | [] => c
  | e :: es => (c.happen e).1.after es

/-- What the console does in a run. -/
def acts (c : Console) : List Event → List ConsoleAct
  | [] => []
  | e :: es => (c.happen e).2 ++ (c.happen e).1.acts es

/-- The numbers under which commands are given in a run. -/
def Event.number? : Event → Option Nat
  | .execute id _ => some id
  | _ => none

/-- The numbers under which commands are given in a run, in order. -/
def executed (es : List Event) : List Nat := es.filterMap Event.number?

/-- Does a request wait for the navigator? -/
def Pending.isFlown : Pending → Bool
  | .attachment | .command | .operation => true
  | .commandCall | .call => false

/-- What the session gets of an event. -/
def passes (c : Console) : Event → List Session.Event
  | .execute id command =>
    match c.dispatcher.resolve command with
    | .ok (.navigate request) => [.request id request]
    | .ok .cancel => [.cancel]
    | .ok (.call _) | .error _ => []
  | .answer id reply =>
    if (c.pending? id).any Pending.isFlown then [.answer reply] else []
  | .abandon id => if (c.pending? id).any Pending.isFlown then [.abandon id] else []
  | .attach => []
  | .telemetry update timestamp => [.telemetry update timestamp]
  | .pass millis => [.pass millis]
  | .cancel => [.cancel]
  | .move => [.move]

/-- What the session gets of a run. -/
def passedOn (c : Console) : List Event → List Session.Event
  | [] => []
  | e :: es => c.passes e ++ (c.happen e).1.passedOn es

/-- The call that a command turns into, if it is given under a number. -/
def direct (c : Console) (id : Nat) : Event → List LinkCall
  | .execute owner command =>
    match c.dispatcher.resolve command with
    | .ok (.call call) => if owner = id then [call] else []
    | _ => []
  | _ => []

/-- The calls that commands given under a number turn into at once. -/
def directly (c : Console) (id : Nat) : List Event → List LinkCall
  | [] => []
  | e :: es => c.direct id e ++ (c.happen e).1.directly id es

variable {c : Console} {es before later : List Event} {id : Nat} {command : Command}

/-! ## One event -/

/-- Relaying leaves the session and the dispatcher alone. -/
theorem relay_keeps (c : Console) (act : NavigatorAct) :
    (c.relay act).1.session = c.session ∧ (c.relay act).1.dispatcher = c.dispatcher := by
  unfold relay
  repeat' split
  all_goals exact ⟨rfl, rfl⟩

theorem relayAll_keeps (c : Console) (acts : List NavigatorAct) :
    (c.relayAll acts).1.session = c.session ∧ (c.relayAll acts).1.dispatcher = c.dispatcher := by
  induction acts generalizing c with
  | nil => exact ⟨rfl, rfl⟩
  | cons act acts ih =>
      have hfirst := c.relay_keeps act
      have hrest := ih (c.relay act).1
      exact ⟨hrest.1.trans hfirst.1, hrest.2.trans hfirst.2⟩

/-- Calls are relayed as they are. -/
theorem callsFor_relay (c : Console) (id : Nat) (act : NavigatorAct) :
    callsFor id (c.relay act).2 = callsOf id [act] := by
  cases act with
  | ends owner ending =>
      simp only [relay]
      split <;> rfl
  | calls owner call =>
      by_cases hid : owner = id <;>
        simp [relay, callsFor, callsOf, ConsoleAct.callFor?, NavigatorAct.callOf?, hid]
  | _ => rfl

theorem callsFor_relayAll (c : Console) (id : Nat) (acts : List NavigatorAct) :
    callsFor id (c.relayAll acts).2 = callsOf id acts := by
  induction acts generalizing c with
  | nil => rfl
  | cons act acts ih =>
      change callsFor id ((c.relay act).2 ++ ((c.relay act).1.relayAll acts).2) =
        callsOf id ([act] ++ acts)
      rw [callsFor_append, callsOf_append, callsFor_relay, ih]

theorem step_keeps (c : Console) (e : Session.Event) :
    (c.step e).1.session = (c.session.step e).1 ∧ (c.step e).1.dispatcher = c.dispatcher :=
  relayAll_keeps { c with session := (c.session.step e).1 } (c.session.step e).2

theorem callsFor_step (c : Console) (id : Nat) (e : Session.Event) :
    callsFor id (c.step e).2 = callsOf id (c.session.acts [e]) := by
  have hacts : c.session.acts [e] = (c.session.step e).2 := List.append_nil _
  rw [hacts]
  exact callsFor_relayAll _ id _

/-- **One event, as the session and the calls for one number see it.** -/
theorem happen_passes (c : Console) (id : Nat) (e : Event) :
    (c.happen e).1.session = c.session.after (c.passes e) ∧
      (c.happen e).1.dispatcher.missions = c.dispatcher.missions ∧
      callsFor id (c.happen e).2 = c.direct id e ++ callsOf id (c.session.acts (c.passes e)) := by
  cases e with
  | execute owner command =>
      simp only [happen, execute, passes, direct]
      cases hresolve : c.dispatcher.resolve command with
      | error e => exact ⟨rfl, rfl, rfl⟩
      | ok errand =>
          cases errand with
          | navigate request => exact ⟨rfl, rfl, rfl⟩
          | call linkCall =>
              refine ⟨rfl, rfl, ?_⟩
              by_cases hid : owner = id <;> simp [callsFor, ConsoleAct.callFor?, hid]
          | cancel => exact ⟨rfl, rfl, rfl⟩
  | answer owner reply =>
      simp only [happen, answer, passes, direct]
      cases hpending : c.pending? owner with
      | none => exact ⟨rfl, rfl, rfl⟩
      | some p => cases p <;> exact ⟨rfl, rfl, rfl⟩
  | abandon owner =>
      simp only [happen, abandon, passes, direct]
      have hkeeps := (c.forget owner).step_keeps (.abandon owner)
      have hcalls := callsFor_step (c.forget owner) id (.abandon owner)
      cases hpending : c.pending? owner with
      | none => exact ⟨rfl, rfl, rfl⟩
      | some p =>
          cases p with
          | commandCall => exact ⟨rfl, rfl, rfl⟩
          | call => exact ⟨rfl, rfl, rfl⟩
          | _ => exact ⟨hkeeps.1, congrArg _ hkeeps.2, hcalls⟩
  | attach =>
      refine ⟨rfl, rfl, List.filterMap_eq_nil_iff.mpr fun act hact => ?_⟩
      obtain ⟨p, -, rfl⟩ := List.mem_map.mp hact
      rfl
  | telemetry update timestamp =>
      have hkeeps := c.step_keeps (.telemetry update timestamp)
      exact ⟨hkeeps.1, congrArg _ hkeeps.2, callsFor_step c id _⟩
  | pass millis =>
      have hkeeps := c.step_keeps (.pass millis)
      exact ⟨hkeeps.1, congrArg _ hkeeps.2, callsFor_step c id _⟩
  | cancel =>
      have hkeeps := c.step_keeps .cancel
      exact ⟨hkeeps.1, congrArg _ hkeeps.2, callsFor_step c id _⟩
  | move =>
      have hkeeps := c.step_keeps .move
      exact ⟨hkeeps.1, congrArg _ hkeeps.2, callsFor_step c id _⟩

/-! ## A run -/

theorem after_append (c : Console) (es later : List Event) :
    c.after (es ++ later) = (c.after es).after later := by
  induction es generalizing c with
  | nil => rfl
  | cons e es ih => exact ih (c.happen e).1

theorem acts_append (c : Console) (es later : List Event) :
    c.acts (es ++ later) = c.acts es ++ (c.after es).acts later := by
  induction es generalizing c with
  | nil => rfl
  | cons e es ih =>
      rw [List.cons_append, acts, ih, acts, List.append_assoc]
      rfl

theorem passedOn_append (c : Console) (es later : List Event) :
    c.passedOn (es ++ later) = c.passedOn es ++ (c.after es).passedOn later := by
  induction es generalizing c with
  | nil => rfl
  | cons e es ih =>
      rw [List.cons_append, passedOn, ih, passedOn, List.append_assoc]
      rfl

theorem directly_append (c : Console) (id : Nat) (es later : List Event) :
    c.directly id (es ++ later) = c.directly id es ++ (c.after es).directly id later := by
  induction es generalizing c with
  | nil => rfl
  | cons e es ih =>
      rw [List.cons_append, directly, ih, directly, List.append_assoc]
      rfl

theorem executed_append (es later : List Event) :
    executed (es ++ later) = executed es ++ executed later := List.filterMap_append ..

theorem executed_cons (e : Event) (es : List Event) :
    executed (e :: es) = e.number?.toList ++ executed es := by
  cases h : e.number? <;> simp [executed, h]

/-- **The session of a console is that of the events passed on.** -/
theorem session_after (c : Console) (es : List Event) :
    (c.after es).session = c.session.after (c.passedOn es) := by
  induction es generalizing c with
  | nil => rfl
  | cons e es ih =>
      rw [passedOn, Session.after_append, ← (c.happen_passes 0 e).1]
      exact ih (c.happen e).1

/-- A console keeps its missions. -/
theorem missions_after (c : Console) (es : List Event) :
    (c.after es).dispatcher.missions = c.dispatcher.missions := by
  induction es generalizing c with
  | nil => rfl
  | cons e es ih => exact (ih (c.happen e).1).trans (c.happen_passes 0 e).2.1

/-- Operations are requested under the numbers of commands. -/
theorem requested_passedOn (c : Console) (es : List Event) :
    (Session.requested (c.passedOn es)).Sublist (executed es) := by
  induction es generalizing c with
  | nil => exact List.Sublist.refl _
  | cons e es ih =>
      have hfirst : (Session.requested (c.passes e)).Sublist e.number?.toList := by
        cases e with
        | execute owner command =>
            simp only [passes]
            split
            · exact List.Sublist.refl _
            · exact List.nil_sublist _
            · exact List.nil_sublist _
            · exact List.nil_sublist _
        | answer owner reply =>
            simp only [passes]
            split <;> exact List.nil_sublist _
        | abandon owner =>
            simp only [passes]
            split <;> exact List.nil_sublist _
        | _ => exact List.nil_sublist _
      rw [passedOn, executed_cons, Session.requested, List.filterMap_append]
      exact hfirst.append (ih (c.happen e).1)

/-- The calls for one number are the direct ones and those of the session. -/
theorem callsFor_cons_acts (c : Console) (id : Nat) (e : Event) (es : List Event) :
    callsFor id (c.acts (e :: es)) =
      c.direct id e ++ callsOf id (c.session.acts (c.passes e)) ++
        callsFor id ((c.happen e).1.acts es) := by
  rw [acts, callsFor_append, (c.happen_passes id e).2.2]

theorem callsOf_cons_passedOn (c : Console) (id : Nat) (e : Event) (es : List Event) :
    callsOf id (c.session.acts (c.passedOn (e :: es))) =
      callsOf id (c.session.acts (c.passes e)) ++
        callsOf id ((c.happen e).1.session.acts ((c.happen e).1.passedOn es)) := by
  rw [passedOn, Session.acts_append, callsOf_append, (c.happen_passes id e).1]

/-- Without direct calls there are those of the session. -/
theorem callsFor_of_flown (h : c.directly id es = []) :
    callsFor id (c.acts es) = callsOf id (c.session.acts (c.passedOn es)) := by
  induction es generalizing c with
  | nil => rfl
  | cons e es ih =>
      obtain ⟨hfirst, hrest⟩ := List.append_eq_nil_iff.mp h
      rw [callsFor_cons_acts, callsOf_cons_passedOn, hfirst, ih hrest, List.nil_append]

/-- Without calls of the session there are the direct ones. -/
theorem callsFor_of_grounded (h : callsOf id (c.session.acts (c.passedOn es)) = []) :
    callsFor id (c.acts es) = c.directly id es := by
  induction es generalizing c with
  | nil => rfl
  | cons e es ih =>
      rw [callsOf_cons_passedOn] at h
      obtain ⟨hfirst, hrest⟩ := List.append_eq_nil_iff.mp h
      rw [callsFor_cons_acts, hfirst, ih hrest, List.append_nil, directly]

/-- Nobody calls directly under a number under which no command is given. -/
theorem directly_of_not_executed (h : id ∉ executed es) : c.directly id es = [] := by
  induction es generalizing c with
  | nil => rfl
  | cons e es ih =>
      rw [executed_cons, List.mem_append, not_or] at h
      rw [directly, ih h.2, List.append_nil]
      cases e with
      | execute owner command =>
          have hne : owner ≠ id := by
            rintro rfl
            exact h.1 (by simp [Event.number?])
          simp only [direct, if_neg hne]
          split <;> rfl
      | _ => rfl

/-- A number that is given once is given neither before nor after. -/
theorem not_executed_of_nodup
    (hnum : (executed (before ++ .execute id command :: later)).Nodup) :
    id ∉ executed before ∧ id ∉ executed later := by
  rw [executed_append, executed_cons] at hnum
  constructor
  · exact fun hmem => (List.nodup_append.mp hnum).2.2 id hmem id (by simp [Event.number?]) rfl
  · exact (List.nodup_cons.mp (List.nodup_append.mp hnum).2.1).1

/-- The calls that a command turns into at once. -/
theorem directly_of_executed (hnum : (executed (before ++ .execute id command :: later)).Nodup) :
    c.directly id (before ++ .execute id command :: later) =
      (c.after before).direct id (.execute id command) := by
  obtain ⟨hbefore, hlater⟩ := not_executed_of_nodup hnum
  rw [directly_append, directly, directly_of_not_executed hbefore,
    directly_of_not_executed hlater, List.nil_append, List.append_nil]

end Console

/-- What calls a command may make, by what it turned into. -/
def Errand.Covers (settings : NavigatorSettings) : Errand → List LinkCall → Prop
  | .navigate request, calls => request.Covers settings calls
  | .call linkCall, calls => calls = [linkCall]
  | .cancel, calls => calls = []

namespace Console

variable {settings : NavigatorSettings} {capacity : Nat} {missions : List Mission} {c : Console}
  {es before later : List Event} {id : Nat} {command : Command}

/-- What is not requested of the navigator makes no calls there. -/
theorem callsOf_of_not_requested (h : id ∉ Session.requested (c.passedOn es))
    (hc : c = new settings capacity missions) :
    callsOf id (c.session.acts (c.passedOn es)) = [] := by
  refine callsOf_eq_nil (Session.actsOf_of_absent ⟨?_, h⟩)
  simp [hc, Session.roster, new, Session.new, Navigator.new]

/-- No calls are made under a number under which no command was given. -/
theorem calls_of_not_executed (h : id ∉ executed es) :
    callsFor id ((new settings capacity missions).acts es) = [] := by
  rw [callsFor_of_flown (directly_of_not_executed h)]
  exact callsOf_of_not_requested (fun hmem => h ((requested_passedOn _ es).subset hmem)) rfl

/-- A command that requests nothing of the navigator has no operation there. -/
theorem not_requested_of_executed
    (hnum : (executed (before ++ .execute id command :: later)).Nodup)
    (h : Session.requested ((c.after before).passes (.execute id command)) = []) :
    id ∉ Session.requested (c.passedOn (before ++ .execute id command :: later)) := by
  obtain ⟨hbefore, hlater⟩ := not_executed_of_nodup hnum
  rw [passedOn_append, passedOn, Session.requested, List.filterMap_append, List.filterMap_append,
    ← Session.requested, ← Session.requested, ← Session.requested, h, List.nil_append,
    List.mem_append, not_or]
  exact ⟨fun hmem => hbefore ((requested_passedOn c before).subset hmem),
    fun hmem => hlater ((requested_passedOn _ later).subset hmem)⟩

/-- **The calls of a command**, by what it turned into. A command that is refused makes none. -/
theorem calls_of_executed (settings : NavigatorSettings) (capacity : Nat) (missions : List Mission)
    (hnum : (executed (before ++ .execute id command :: later)).Nodup) :
    match ((new settings capacity missions).after before).dispatcher.resolve command with
    | .ok errand => errand.Covers settings
        (callsFor id ((new settings capacity missions).acts
          (before ++ .execute id command :: later)))
    | .error _ => callsFor id ((new settings capacity missions).acts
        (before ++ .execute id command :: later)) = [] := by
  have hdirectly := directly_of_executed (c := new settings capacity missions) hnum
  have hnone := not_requested_of_executed (c := new settings capacity missions) hnum
  -- without an operation the direct call is all there is
  have hgrounded := fun h =>
    (callsFor_of_grounded (callsOf_of_not_requested (hnone h) rfl)).trans hdirectly
  simp only [direct, passes] at hdirectly hgrounded
  cases hresolve : ((new settings capacity missions).after before).dispatcher.resolve command with
  | error e =>
      rw [hresolve] at hgrounded
      exact hgrounded rfl
  | ok errand =>
      rw [hresolve] at hgrounded hdirectly
      cases errand with
      | call linkCall => exact (hgrounded rfl).trans (if_pos trivial)
      | cancel => exact hgrounded rfl
      | navigate request =>
          have hpassed : (new settings capacity missions).passedOn
              (before ++ .execute id command :: later) =
                (new settings capacity missions).passedOn before ++ .request id request ::
                  (((new settings capacity missions).after before).happen
                    (.execute id command)).1.passedOn later := by
            rw [passedOn_append, passedOn, passes, hresolve]
            rfl
          have hnumbered := (requested_passedOn (new settings capacity missions) _).nodup hnum
          rw [hpassed] at hnumbered
          change request.Covers settings _
          rw [callsFor_of_flown hdirectly, hpassed]
          exact Session.calls_of_requested hnumbered

end Console

end GroundStation
