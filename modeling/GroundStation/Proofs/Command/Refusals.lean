import GroundStation.Proofs.Command.Bounds

/-!
# Commands that are refused

A command is refused when no vehicle is attached, when its numbers cannot be put on the wire
(`Command.IsUnfit`), or when it is for a mission that is not there (`Dispatcher.Lacks`), and these
are looked at in this order (`Dispatcher.refuses`). Nothing else is ever reported as a refusal:
neither an operation that fails nor a call that the vehicle rejects.

A refusal is reported at the event that brings the command and leaves the console as it is, with
the session in it: whatever runs or waits there, and whether it was told to cancel. So a run with
the command in it is the run without it, and one report more.

## Main results

* `Command.isUnfit_iff`, `Dispatcher.lacks_iff`: when the checks fail.
* `Console.mem_refusals`: where a refusal comes from.
* `Console.refusals_leave_no_trace`: all of it, in every run from any state of a console.
-/

namespace GroundStation

/-! ## What is refused -/

/-- A target on the globe, at a finite altitude, and no other passes its check. -/
theorem checkTarget_iff {latitude longitude : Float} {altitude : Float32} :
    checkTarget latitude longitude altitude = .ok () ↔
      OnGlobe latitude longitude ∧ altitude.isFinite = true := by
  refine ⟨onGlobe_of_checkTarget, fun ⟨⟨south, north, west, east⟩, hfinite⟩ => ?_⟩
  simp [checkTarget, withinLimit, south, north, west, east, hfinite]

/-- The numbers of a command cannot be put on the wire: a takeoff to an altitude that is not finite
and above ground, a target that is not on the globe or not at a finite altitude, or a velocity
with a component that is not finite. -/
def Command.IsUnfit : Command → Prop
  | .takeoff altitude => ¬ (altitude.isFinite = true ∧ 0.0 < altitude)
  | .location latitude longitude altitude _ _ =>
    ¬ (OnGlobe latitude longitude ∧ altitude.isFinite = true)
  | .offboard v => ¬ (v.forward.isFinite = true ∧ v.right.isFinite = true ∧
      v.down.isFinite = true ∧ v.yawRate.isFinite = true)
  | _ => False

/-- No mission is the one that a command selects: none has the name that it gives, or, if it gives
none, the number that it gives, which counts from one and is one if it gives none either. -/
def Dispatcher.Lacks (d : Dispatcher) : Command → Prop
  | .mission _ (some name) _ => ∀ m ∈ d.missions, m.name ≠ name
  | .mission number none _ => number.getD 1 = 0 ∨ d.missions.length < number.getD 1
  | _ => False

/-- **The numbers of a command pass their check unless they are unfit.** -/
theorem Command.isUnfit_iff (command : Command) :
    command.IsUnfit ↔ ∃ fault, command.check = .error fault := by
  cases command with
  | takeoff altitude =>
      by_cases h : altitude.isFinite = true ∧ 0.0 < altitude <;> simp [IsUnfit, check, h]
  | location latitude longitude altitude returnToStart hoverSeconds =>
      simp only [IsUnfit, check, ← checkTarget_iff]
      cases hcheck : checkTarget latitude longitude altitude <;> simp [Except.mapError]
  | offboard v =>
      by_cases h : v.isFinite = true
      · have hall := h
        simp only [BodyVelocity.isFinite, Bool.and_eq_true] at hall
        simp [IsUnfit, check, h, hall]
      · have hall := h
        simp only [BodyVelocity.isFinite, Bool.and_eq_true, and_assoc] at hall
        simp only [IsUnfit, check, h, hall, not_false_eq_true]
        simp
  | _ => simp [IsUnfit, check]

namespace Dispatcher

variable {d : Dispatcher} {command : Command} {e : DispatchError}

/-- An error for a mission that is not there. -/
theorem findMission_lacks (d : Dispatcher) (number : Option Nat) (name : Option String)
    (returnToStart : Option Bool) :
    d.Lacks (.mission number name returnToStart) ↔
      ∃ selector, d.findMission number name = .error (.unknownMission selector) := by
  cases name with
  | some name =>
      simp only [Lacks, findMission]
      cases hfind : d.missions.find? fun m => m.name == name with
      | none => simpa using hfind
      | some m =>
          have hname := List.find?_some hfind
          have hmem := List.mem_of_find?_eq_some hfind
          simp only [beq_iff_eq] at hname
          simpa using ⟨m, hmem, hname⟩
  | none =>
      simp only [Lacks, findMission]
      cases hnumber : number.getD 1 with
      | zero => simp
      | succ i =>
          cases hget : d.missions[i]? with
          | none =>
              have hlength := List.getElem?_eq_none_iff.mp hget
              simp [hget, Nat.lt_succ_of_le hlength]
          | some m =>
              have hlength := (List.getElem?_eq_some_iff.mp hget).1
              simp [hget, Nat.not_lt.mpr (Nat.succ_le_of_lt hlength)]

/-- **A command with valid numbers is refused for a mission that is not there**, and for nothing
else. -/
theorem lacks_iff (d : Dispatcher) (command : Command) :
    d.Lacks command ↔ ∃ selector, d.errand command = .error (.unknownMission selector) := by
  cases command with
  | mission number name returnToStart =>
      rw [findMission_lacks]
      simp only [errand]
      cases d.findMission number name <;> simp
  | _ => simp [Lacks, errand]

theorem errand_error (h : d.errand command = .error e) :
    ∃ selector, e = .unknownMission selector := by
  cases command with
  | mission number name returnToStart =>
      simp only [errand] at h
      cases hfind : d.findMission number name with
      | ok m => simp [hfind] at h
      | error e' =>
          rw [hfind] at h
          obtain rfl := Except.error.inj h
          unfold findMission at hfind
          repeat' split at hfind
          all_goals cases hfind
          all_goals exact ⟨_, rfl⟩
  | _ => cases h

/-- **What a command is refused for**: the first of three things. -/
structure Refuses (d : Dispatcher) (command : Command) : Prop where
  not_initialized : d.resolve command = .error .notInitialized ↔ d.attached = false
  invalid_target : d.attached = true →
    ((∃ reason, d.resolve command = .error (.invalidTarget reason)) ↔ command.IsUnfit)
  unknown_mission : d.attached = true → ¬ command.IsUnfit →
    ((∃ selector, d.resolve command = .error (.unknownMission selector)) ↔ d.Lacks command)
  /-- There is nothing else. -/
  only : (∃ e, d.resolve command = .error e) ↔
    d.attached = false ∨ command.IsUnfit ∨ d.Lacks command

theorem refuses (d : Dispatcher) (command : Command) : d.Refuses command := by
  cases hattached : d.attached with
  | false =>
      have hresolve : d.resolve command = .error .notInitialized := by simp [resolve, hattached]
      constructor <;> simp [hresolve, hattached]
  | true =>
      cases hcheck : command.check with
      | error fault =>
          have hunfit := command.isUnfit_iff.mpr ⟨fault, hcheck⟩
          have hresolve : d.resolve command = .error (.invalidTarget fault.message) := by
            simp [resolve, hattached, hcheck]
          constructor <;> simp [hresolve, hattached, hunfit]
      | ok _ =>
          have hfit : ¬ command.IsUnfit := by simp [command.isUnfit_iff, hcheck]
          have hresolve : d.resolve command = d.errand command := by
            simp [resolve, hattached, hcheck]
          have hlacks := d.lacks_iff command
          -- the errand has one kind of error
          have hother : ∀ e, d.errand command = .error e →
              ∃ selector, e = .unknownMission selector := fun _ => errand_error
          constructor
          case not_initialized =>
            rw [hresolve, hattached]
            refine iff_of_false (fun h => ?_) Bool.noConfusion
            obtain ⟨_, he⟩ := hother _ h
            cases he
          case invalid_target =>
            refine fun _ => iff_of_false (fun ⟨reason, h⟩ => ?_) hfit
            obtain ⟨_, he⟩ := hother _ (hresolve ▸ h)
            cases he
          case unknown_mission =>
            rw [hresolve]
            exact fun _ _ => hlacks.symm
          case only =>
            rw [hresolve, hattached, hlacks]
            constructor
            · rintro ⟨e, he⟩
              obtain ⟨selector, rfl⟩ := hother e he
              exact .inr (.inr ⟨selector, he⟩)
            · rintro (hdetached | hunfit | ⟨selector, he⟩)
              · cases hdetached
              · exact absurd hunfit hfit
              · exact ⟨_, he⟩

end Dispatcher

/-! ## What is reported as a refusal -/

/-- Is an error that a command ends with a refusal? The others are about what it did. -/
def DispatchError.isRefusal : DispatchError → Bool
  | .notInitialized | .unknownMission _ | .invalidTarget _ => true
  | .rejected _ | .link _ => false

/-- The outcome of an operation is no refusal. -/
theorem Outcome.not_isRefusal_of_settle {o : Outcome} {e : DispatchError}
    (h : o.settle = .error e) : e.isRefusal = false := by
  cases o with
  | failed failure =>
      obtain rfl := Except.error.inj h
      rfl
  | _ => cases h

/-- The reply to a call is no refusal. -/
theorem not_isRefusal_of_settleReply {reply : Reply} {e : DispatchError}
    (h : settleReply reply = .error e) : e.isRefusal = false := by
  cases reply with
  | error failure =>
      obtain rfl := Except.error.inj h
      rfl
  | ok _ => cases h

namespace Console

variable {c : Console} {es before later : List Event} {id : Nat} {command : Command}
  {e : DispatchError}

/-- A refusal of the command with a number. -/
abbrev refusal (id : Nat) (e : DispatchError) : ConsoleAct := .reports id (.command (.error e))

theorem not_mem_relay (he : e.isRefusal = true) (act : NavigatorAct) :
    refusal id e ∉ (c.relay act).2 := by
  intro hmem
  cases act with
  | ends owner ending =>
      simp only [relay] at hmem
      split at hmem
      · rename_i p _
        obtain ⟨-, hreport⟩ := ConsoleAct.reports.inj (List.mem_singleton.mp hmem)
        cases ending with
        | overflow => cases p <;> cases hreport
        | outcome o =>
            cases p with
            | command =>
                have hsettle := (Report.command.inj hreport).symm
                exact Bool.noConfusion (he.symm.trans (Outcome.not_isRefusal_of_settle hsettle))
            | _ => cases hreport
      · exact List.not_mem_nil hmem
  | _ => simp [relay] at hmem

theorem not_mem_relayAll (he : e.isRefusal = true) (acts : List NavigatorAct) :
    refusal id e ∉ (c.relayAll acts).2 := by
  induction acts generalizing c with
  | nil => exact List.not_mem_nil
  | cons act acts ih => exact fun hmem => (List.mem_append.mp hmem).elim (not_mem_relay he act) ih

/-- **Only a command is refused**, and at once. -/
theorem refused_of_mem_happen (he : e.isRefusal = true) {event : Event}
    (h : refusal id e ∈ (c.happen event).2) :
    ∃ command, event = .execute id command ∧ c.dispatcher.resolve command = .error e := by
  cases event with
  | execute owner command =>
      simp only [happen, execute] at h
      split at h
      · rename_i e' hresolve
        obtain ⟨rfl, hreport⟩ := ConsoleAct.reports.inj (List.mem_singleton.mp h)
        obtain rfl := Except.error.inj (Report.command.inj hreport)
        exact ⟨command, rfl, hresolve⟩
      all_goals simp at h
  | answer owner reply =>
      obtain ⟨report, hreport, hact⟩ := List.mem_map.mp h
      obtain ⟨-, rfl⟩ := ConsoleAct.reports.inj hact
      simp only [answer] at hreport
      split at hreport
      · have hsettle := (Report.command.inj (List.mem_singleton.mp hreport)).symm
        exact Bool.noConfusion (he.symm.trans (not_isRefusal_of_settleReply hsettle))
      all_goals simp at hreport
  | abandon owner =>
      simp only [happen, abandon] at h
      split at h
      · simp at h
      · simp at h
      · exact (not_mem_relayAll he _ h).elim
      · exact (List.not_mem_nil h).elim
  | attach =>
      obtain ⟨p, -, hact⟩ := List.mem_map.mp h
      cases hact
  | telemetry update timestamp => exact (not_mem_relayAll he _ h).elim
  | pass millis => exact (not_mem_relayAll he _ h).elim
  | cancel => exact (not_mem_relayAll he _ h).elim
  | move => exact (not_mem_relayAll he _ h).elim

/-- A command that cannot be resolved leaves the console as it is. -/
theorem happen_of_refused (h : c.dispatcher.resolve command = .error e) :
    c.happen (.execute id command) = (c, [refusal id e]) := by
  rw [happen, execute, h]

/-- **Where the refusals of a run come from**: the commands that cannot be resolved. -/
theorem mem_refusals (he : e.isRefusal = true) :
    refusal id e ∈ c.acts es ↔ ∃ front command back, es = front ++ .execute id command :: back ∧
      (c.after front).dispatcher.resolve command = .error e := by
  constructor
  · intro h
    induction es generalizing c with
    | nil => exact (List.not_mem_nil h).elim
    | cons event es ih =>
        rcases List.mem_append.mp h with hfirst | hrest
        · obtain ⟨command, rfl, hresolve⟩ := refused_of_mem_happen he hfirst
          exact ⟨[], command, es, rfl, hresolve⟩
        · obtain ⟨front, command, back, rfl, hresolve⟩ := ih hrest
          exact ⟨event :: front, command, back, rfl, hresolve⟩
  · rintro ⟨front, command, back, rfl, hresolve⟩
    rw [acts_append, acts, happen_of_refused hresolve]
    exact List.mem_append_right _ (List.mem_append_left _ (List.mem_singleton.mpr rfl))

/-- A number belongs to one command. -/
theorem split_unique (hnum : (executed (before ++ .execute id command :: later)).Nodup)
    {front back : List Event} {other : Command}
    (h : before ++ .execute id command :: later = front ++ .execute id other :: back) :
    front = before ∧ other = command := by
  obtain ⟨hbefore, hlater⟩ := not_executed_of_nodup hnum
  rcases List.append_eq_append_iff.mp h with ⟨rest, rfl, hrest⟩ | ⟨rest, rfl, hrest⟩
  · cases rest with
    | nil =>
        obtain ⟨-, rfl⟩ := Event.execute.inj (List.cons.inj hrest).1
        exact ⟨List.append_nil _, rfl⟩
    | cons event rest =>
        obtain ⟨-, rfl⟩ := List.cons.inj hrest
        exact absurd (by simp [executed_append, executed_cons, Event.number?]) hlater
  · cases rest with
    | nil =>
        obtain ⟨-, rfl⟩ := Event.execute.inj (List.cons.inj hrest).1
        exact ⟨(List.append_nil _).symm, rfl⟩
    | cons event rest =>
        obtain ⟨rfl, -⟩ := List.cons.inj hrest
        exact absurd (by simp [executed_append, executed_cons, Event.number?]) hbefore

/-- The refusal of a command is reported in a run if it cannot be resolved where it is given. -/
theorem mem_refusals_of_executed (he : e.isRefusal = true)
    (hnum : (executed (before ++ .execute id command :: later)).Nodup) :
    refusal id e ∈ c.acts (before ++ .execute id command :: later) ↔
      (c.after before).dispatcher.resolve command = .error e := by
  rw [mem_refusals he]
  constructor
  · rintro ⟨front, other, back, hsplit, hresolve⟩
    obtain ⟨rfl, rfl⟩ := split_unique hnum hsplit
    exact hresolve
  · exact fun hresolve => ⟨before, command, later, rfl, hresolve⟩

/-- **When a command is refused** in a run, and what is left of it then. -/
structure Screens (c : Console) (before : List Event) (id : Nat) (command : Command)
    (later : List Event) : Prop where
  not_initialized : refusal id .notInitialized ∈ c.acts (before ++ .execute id command :: later) ↔
    (c.after before).dispatcher.attached = false
  invalid_target : (c.after before).dispatcher.attached = true →
    ((∃ reason, refusal id (.invalidTarget reason) ∈
        c.acts (before ++ .execute id command :: later)) ↔
      command.IsUnfit)
  unknown_mission : (c.after before).dispatcher.attached = true → ¬ command.IsUnfit →
    ((∃ selector, refusal id (.unknownMission selector) ∈
        c.acts (before ++ .execute id command :: later)) ↔
      (c.after before).dispatcher.Lacks command)
  /-- There is one reason only. -/
  one : ∀ e e', e.isRefusal = true → e'.isRefusal = true →
    refusal id e ∈ c.acts (before ++ .execute id command :: later) →
      refusal id e' ∈ c.acts (before ++ .execute id command :: later) → e = e'
  /-- A refusal comes at once, whatever is going on, and the console stays as it is: the session,
  with the state it shows, its queue and its token, and all that waits for an answer. -/
  at_once : ∀ e, e.isRefusal = true →
    refusal id e ∈ c.acts (before ++ .execute id command :: later) →
      (c.after before).happen (.execute id command) = (c.after before, [refusal id e])
  /-- All else in the run is as it is without the command: the calls that are made, and how the
  other requests end. -/
  no_trace : ∀ e, e.isRefusal = true →
    refusal id e ∈ c.acts (before ++ .execute id command :: later) →
      c.after (before ++ .execute id command :: later) = c.after (before ++ later) ∧
      ∃ rest, c.acts (before ++ .execute id command :: later) =
          c.acts before ++ refusal id e :: rest ∧
        c.acts (before ++ later) = c.acts before ++ rest

/-- **A refused command leaves no trace**, in a run from any state of a console. -/
theorem refusals_leave_no_trace (c : Console)
    (hnum : (executed (before ++ .execute id command :: later)).Nodup) :
    c.Screens before id command later := by
  have hrefuses := (c.after before).dispatcher.refuses command
  have hreported := fun e he => mem_refusals_of_executed (c := c) (e := e) he hnum
  constructor
  case not_initialized => rw [hreported _ rfl, hrefuses.not_initialized]
  case invalid_target =>
    intro hattached
    rw [← hrefuses.invalid_target hattached]
    exact exists_congr fun reason => hreported (.invalidTarget reason) rfl
  case unknown_mission =>
    intro hattached hfit
    rw [← hrefuses.unknown_mission hattached hfit]
    exact exists_congr fun selector => hreported (.unknownMission selector) rfl
  case one =>
    intro e e' he he' hmem hmem'
    have hsame := ((hreported e he).mp hmem).symm.trans ((hreported e' he').mp hmem')
    exact Except.error.inj hsame
  case at_once => exact fun e he hmem => happen_of_refused ((hreported e he).mp hmem)
  case no_trace =>
    intro e he hmem
    have hstays : (c.after before).happen (.execute id command) =
        (c.after before, [refusal id e]) := happen_of_refused ((hreported e he).mp hmem)
    refine ⟨?_, (c.after before).acts later, ?_, c.acts_append before later⟩
    · rw [after_append, after, hstays, after_append]
    · rw [acts_append, acts, hstays]
      rfl

/-- A console without missions. -/
def plainConsole : Console := new NavigationConfig.default.settings 4 []

/-- A host flies to a point, and the vehicle has not answered yet. -/
def busyRun : List Event :=
  [.attach, .telemetry (.velocity ⟨0.0, 0.0, 0.0⟩) 1,
    .telemetry (.imu ⟨⟨0.0, 0.0, 0.0⟩, ⟨0.0, 0.0, 0.0⟩, ⟨0.0, 0.0, 0.0⟩, 20.0⟩) 2,
    .telemetry (.position ⟨47.0, 8.0, 400.0, 0.0⟩) 3,
    .execute 0 (.location 47.5 8.5 10.0 false 0.0), .move, .move, .move]

/-- The vehicle answers then. -/
def busyAnswered : List Event := [.answer 0 (.ok ()), .move]

/-- A takeoff to the ground is refused while the flight goes on. -/
theorem refusals_leave_no_trace_busy :
    (executed (busyRun ++ .execute 1 (.takeoff 0.0) :: busyAnswered)).Nodup ∧
      callsFor 0 (plainConsole.acts busyRun) = [.goto 47.5 8.5 410.0 45.0] ∧
      (∃ reason, refusal 1 (.invalidTarget reason) ∈
        plainConsole.acts (busyRun ++ .execute 1 (.takeoff 0.0) :: busyAnswered)) ∧
      plainConsole.Screens busyRun 1 (.takeoff 0.0) busyAnswered := by
  have hnum : (executed (busyRun ++ .execute 1 (.takeoff 0.0) :: busyAnswered)).Nodup := by decide
  have hcalls : callsFor 0 (plainConsole.acts busyRun) = [.goto 47.5 8.5 410.0 45.0] := by
    decide +kernel
  have hscreens := refusals_leave_no_trace plainConsole hnum
  have hunfit : (Command.takeoff 0.0).IsUnfit := fun h => absurd h.2 (by decide +kernel)
  exact ⟨hnum, hcalls, (hscreens.invalid_target (by decide +kernel)).mpr hunfit, hscreens⟩

end Console

end GroundStation
