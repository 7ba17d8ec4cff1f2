import GroundStation.Config.Check
import GroundStation.Proofs.Link.Calls
import GroundStation.Proofs.Link.Ownership

/-!
# A vehicle that answers every transmission

Suppose the vehicle accepts every transmission of a request at once, and no other
acknowledgement of the command comes in (`VehicleLink.Obliging`). A request that starts
without a mark takes the first answer. One that starts with a mark passes the first answer
over and lives on the answer to a retransmission, which is due 250 milliseconds after the
first transmission. If the time that a command has is no longer than that, the pause ends at
the deadline, and the request ends without an answer although the vehicle has accepted it. It
leaves an entry behind, so that the next request starts with a mark again.

The course of such a request is the same in every run, whatever else happens in between: it is
at one of seven points (`VehicleLink.Course`), and every event and every passage of time leaves
it where it is or leads on to the next point.

## Main results

* `VehicleLink.course_of_obliging`: where a request stands in a run.
* `VehicleLink.Course.ends_after`: from every point there is a way to the end.
* `VehicleLink.obliged_request_ends`: how the request ends, and when.
-/

namespace GroundStation

open Mavlink

/-! ## Lengths of time -/

namespace Duration

/-- A timer for whole milliseconds waits for just as many, unless they are too many for a
duration. -/
theorem timerMillis_ofMillis (n : Nat) :
    (ofMillis n).timerMillis = min n (18446744073709551616 * 1000) := by
  have hlimit : durationLimit = 18446744073709551616 * 1000000000 := by decide
  unfold ofMillis ofNanoseconds ofNanoseconds?
  by_cases h : n * 1000000 < durationLimit
  · rw [dif_pos h, Option.getD_some, timerMillis]
    dsimp only
    omega
  · have hlongest : longest.nanoseconds = 18446744073709551616 * 1000000000 - 1 := by decide
    rw [dif_neg h, Option.getD_none, timerMillis, hlongest]
    rw [hlimit] at h
    omega

end Duration

namespace CommandRequest

variable {r : CommandRequest} {now : Instant}

/-- The pause before the first retransmission. -/
def firstPause : Nat := 250

/-- The first pause is cut short by the deadline only. -/
theorem sent_wake (hpace : r.pace = freshPace) :
    (r.sent now).wake = now + min firstPause (r.deadline - now) := by
  have hpause : freshPace.next.1.timerMillis = firstPause := by decide +kernel
  change now + min r.pace.next.1.timerMillis (r.deadline - now) = _
  rw [hpace, hpause]

/-- How a request ends that a vehicle accepts at every transmission: a request that starts with
a mark needs the time for a retransmission. -/
def outcome (r : CommandRequest) (began : Instant) (marked : Bool) : Reply :=
  if marked ∧ r.deadline - began ≤ firstPause then .error (.timeout r.name) else .ok ()

/-- A request that was told something, or nothing. -/
def heard (r : CommandRequest) (verdict : Option Verdict) : CommandRequest :=
  { r with verdict := verdict }

theorem heard_none (h : r.verdict = none) : r.heard none = r := by
  rw [heard, ← h]

/-- A request that was told something does not end for want of time. -/
theorem reply_ne_timeout (r : CommandRequest) (v : Verdict) (name : String) :
    r.reply v ≠ .error (.timeout name) := by
  unfold reply
  split
  · nofun
  · split <;> nofun

end CommandRequest

namespace CallStage

/-- A stage whose request was told something, or nothing. -/
def heard (verdict : Option Verdict) : CallStage → CallStage
  | .transmitting r => .transmitting (r.heard verdict)
  | .awaiting r => .awaiting (r.heard verdict)
  | stage => stage

theorem untold_request? {r : CommandRequest} (stage : CallStage) (hr : stage.request? = some r) :
    stage.untold.request? = some (r.heard none) := by
  cases stage with
  | transmitting q => exact congrArg some (congrArg (·.heard none) (Option.some.inj hr))
  | awaiting q => exact congrArg some (congrArg (·.heard none) (Option.some.inj hr))
  | _ => cases hr

/-- A stage is known by what is left without what was told, and by that. -/
theorem heard_untold {r : CommandRequest} (stage : CallStage) (hr : stage.request? = some r) :
    stage.untold.heard r.verdict = stage := by
  cases stage with
  | transmitting q => exact congrArg transmitting (congrArg q.heard (Option.some.inj hr ▸ rfl))
  | awaiting q => exact congrArg awaiting (congrArg q.heard (Option.some.inj hr ▸ rfl))
  | _ => cases hr

end CallStage

/-- Is the request of a call to be sent now? -/
def CallStage.isDue : CallStage → Bool
  | .transmitting _ => true
  | _ => false

@[simp] theorem CallStage.isDue_untold (stage : CallStage) : stage.untold.isDue = stage.isDue := by
  cases stage <;> rfl

namespace VehicleLink

/-! ## The vehicle and the clock -/

/-- Is the request of a call to be sent now? -/
def sendsNext (l : VehicleLink) (id : Nat) : Bool :=
  (l.calls.find? fun c => c.id = id).any (·.stage.isDue)

/-- Can a call move at an instant? -/
def isReady (l : VehicleLink) (id : Nat) (now : Instant) : Bool :=
  (l.calls.find? fun c => c.id = id).any (·.stage.isReady now)

/-- **The vehicle accepts every transmission of a request at once**, in a run in which the call
is not given up, its request is not superseded, and no other acknowledgement of the command
comes in. The last two arguments are the instant that is reached and whether a transmission is
yet to be answered. The clock does not pass an instant at which the call can move, nor does it
move on before the answer is there. -/
inductive Obliging (start : VehicleLink) (began : Instant) (id : Nat) (command : CommandId) :
    List (Instant × Event) → Instant → Bool → Prop
  | begins : Obliging start began id command [] began false
  | passes {es : List (Instant × Event)} {now later : Instant}
    (h : Obliging start began id command es now false) (hlater : now ≤ later)
    (hidle : ∀ t, now ≤ t → t < later → (start.run es).1.isReady id t = false) :
    Obliging start began id command es later false
  | sends {es : List (Instant × Event)} {now : Instant}
    (h : Obliging start began id command es now false)
    (hdue : (start.run es).1.sendsNext id = true)
    (hsent : ∀ m, ((start.run es).1.send m).reply = .ok ()) :
    Obliging start began id command (es ++ [(now, .move id)]) now true
  | answers {es : List (Instant × Event)} {now : Instant} {e : Event}
    (h : Obliging start began id command es now true)
    (hanswer : (start.run es).1.notes command now e = [.answered CommandResult.accepted]) :
    Obliging start began id command (es ++ [(now, e)]) now false
  | other {es : List (Instant × Event)} {now : Instant} {unanswered : Bool} {e : Event}
    (h : Obliging start began id command es now unanswered)
    (hopen : (start.run es).1.isOpen id = true)
    (hnote : (start.run es).1.notes command now e = []) (hgiven : e ≠ .abandon id)
    (hmove : e = .move id → unanswered = false ∧ (start.run es).1.sendsNext id = false) :
    Obliging start began id command (es ++ [(now, e)]) now unanswered

/-! ## Runs -/

variable {l start : VehicleLink} {c : OpenCall} {r q : CommandRequest} {id : Nat}
  {began now : Instant} {e : Event} {es : List (Instant × Event)} {command : CommandId}
  {answered : Nat} {stage : CallStage} {reply : Reply}

theorem run_concat (l : VehicleLink) (es : List (Instant × Event)) (now : Instant) (e : Event) :
    (l.run (es ++ [(now, e)])).1 = ((l.run es).1.step now e).1 ∧
      (l.run (es ++ [(now, e)])).2 = (l.run es).2 ++ ((l.run es).1.step now e).2 := by
  induction es generalizing l with
  | nil => exact ⟨rfl, List.append_nil _⟩
  | cons first rest ih =>
      obtain ⟨hlink, hacts⟩ := ih (l.step first.1 first.2).1
      refine ⟨hlink, ?_⟩
      change (l.step first.1 first.2).2 ++ ((l.step first.1 first.2).1.run (rest ++ [(now, e)])).2 =
        (l.step first.1 first.2).2 ++ ((l.step first.1 first.2).1.run rest).2 ++ _
      rw [hacts, List.append_assoc]
      rfl

theorem history_concat (l : VehicleLink) (command : CommandId) (es : List (Instant × Event))
    (now : Instant) (e : Event) :
    l.history command (es ++ [(now, e)]) =
      l.history command es ++ (l.run es).1.notes command now e := by
  rw [history_append]
  exact congrArg _ (List.append_nil _)

/-- A call that goes on does so at an event that does not end it. -/
theorem not_ends_concat (h : ∀ reply, .ends id reply ∉ (start.run es).2)
    (hnew : ∀ reply, .ends id reply ∉ ((start.run es).1.step now e).2) :
    ∀ reply, .ends id reply ∉ (start.run (es ++ [(now, e)])).2 := by
  intro reply
  rw [(start.run_concat es now e).2, List.mem_append, not_or]
  exact ⟨h reply, hnew reply⟩

/-- **Where the call of a request stands** in a run: at a stage, whatever it was told, after so
many answers. It has not ended. -/
structure Stands (start : VehicleLink) (id : Nat) (command : CommandId)
    (es : List (Instant × Event)) (stage : CallStage) (answered : Nat) : Prop where
  call : ∃ o ∈ (start.run es).1.roll, o.id = id ∧ o.stage = stage
  history : start.history command es = .replicate answered (.answered CommandResult.accepted)
  goesOn : ∀ reply, .ends id reply ∉ (start.run es).2

theorem Stands.isOpen (h : Stands start id command es stage answered) :
    (start.run es).1.isOpen id = true := by
  obtain ⟨o, ho, hid, -⟩ := h.call
  exact isOpen_iff.mpr ⟨o, ho, hid⟩

/-- Only the move of an open call ends it. -/
theorem Handling.not_ends {acts : List LinkAct} {l' : VehicleLink}
    (h : l.Handling now e l' acts) (hopen : l.isOpen id = true) (hmove : e ≠ .move id)
    (reply : Reply) : .ends id reply ∉ acts := by
  intro hmem
  rw [← mem_callEnds] at hmem
  cases h with
  | rests h hends => simp [hends] at hmem
  | answers k call reply' he hk hroll hslot hends =>
      rw [hends, List.mem_singleton, Prod.mk.injEq] at hmem
      rw [hmem.1, hk] at hopen
      cases hopen
  | opens k call stage he hk hroll hslot hends hstage => simp [hends] at hmem
  | moves o stage ho he hroll hslot hends hstage => simp [hends] at hmem
  | ends o reply' ho he hroll hslot hends =>
      rw [hends, List.mem_singleton, Prod.mk.injEq] at hmem
      exact hmove (hmem.1 ▸ he)
  | drops o ho he hroll hslot hends => simp [hends] at hmem

/-- An event that is no move of a call and does not give it up leaves it on the roll as it is. -/
theorem exists_roll_other (h : ∃ o ∈ (start.run es).1.roll, o.id = id ∧ o.stage = stage)
    (now : Instant) (hmove : e ≠ .move id) (hgiven : e ≠ .abandon id) :
    ∃ o ∈ (start.run (es ++ [(now, e)])).1.roll, o.id = id ∧ o.stage = stage := by
  obtain ⟨o, ho, rfl, hstage⟩ := h
  rw [(start.run_concat es now e).1]
  exact ⟨o, ((start.run es).1.step_handling now e).mem_roll ho hmove hgiven, rfl, hstage⟩

/-- An event that is no move of the call and does not give it up leaves it where it stands. -/
theorem Stands.other (h : Stands start id command es stage answered) (more : Nat)
    (hnote : (start.run es).1.notes command now e =
      .replicate more (.answered CommandResult.accepted))
    (hmove : e ≠ .move id) (hgiven : e ≠ .abandon id) :
    Stands start id command (es ++ [(now, e)]) stage (answered + more) where
  call := exists_roll_other h.call now hmove hgiven
  history := by rw [history_concat, h.history, hnote, List.replicate_append_replicate]
  goesOn := not_ends_concat h.goesOn
    (((start.run es).1.step_handling now e).not_ends h.isOpen hmove)

/-! ## A request that has started -/

/-- A request that an event has started. -/
structure Started (l : VehicleLink) (began : Instant) (e : Event) (id : Nat)
    (r : CommandRequest) : Prop where
  orderly : l.Orderly
  mem : r ∈ (l.step began e).1.requests
  fresh : l.acks.nextTicket ≤ r.ticket
  call : ∃ o ∈ (l.step began e).1.roll, o.id = id ∧ o.stage = .transmitting r
  pace : r.pace = CommandRequest.freshPace
  deadline : r.deadline = began + l.commandTimeout.timerMillis

/-- A request that an event has started is yet to be sent, and is as it was made. -/
theorem started_eq (ho : l.Orderly) (hc : c ∈ (l.step began e).1.calls)
    (hr : c.stage.request? = some r) (hnew : l.acks.nextTicket ≤ r.ticket) :
    c.untold.stage = .transmitting r ∧
      r = .start r.name r.order r.target l.acks.nextTicket began l.commandTimeout := by
  have hmem : r ∈ (l.step began e).1.requests := List.mem_filterMap.mpr ⟨c, hc, hr⟩
  have hnow : r ∈ ((l.step began e).1.run []).1.requests := hmem
  have hverdict : r.verdict = none := congrArg Claim.verdict (verdict_run ho hmem hnew hnow rfl)
  have huntold : c.untold.stage.request? = some r := by
    rw [← CommandRequest.heard_none hverdict]
    exact c.stage.untold_request? hr
  exact started_stage ho (mem_roll hc) huntold hnew

theorem started_of_call (ho : l.Orderly) (hc : c ∈ (l.step began e).1.calls)
    (hr : c.stage.request? = some r) (hnew : l.acks.nextTicket ≤ r.ticket) :
    Started l began e c.id r := by
  have hmem : r ∈ (l.step began e).1.requests := List.mem_filterMap.mpr ⟨c, hc, hr⟩
  obtain ⟨hstage, hstart⟩ := started_eq ho hc hr hnew
  refine ⟨ho, hmem, hnew, ⟨c.untold, mem_roll hc, rfl, hstage⟩, ?_, ?_⟩
  · rw [hstart]
    rfl
  · rw [hstart]
    rfl

/-- Does the table hold an entry for the command of a request when it starts? -/
def marked (l : VehicleLink) (r : CommandRequest) : Bool :=
  (l.acks.find? r.order.commandId).isSome

/-- What a request has been told after so many answers. -/
def toldAfter (l : VehicleLink) (r : CommandRequest) (answered : Nat) : Option Verdict :=
  verdictAfter (marksOf (l.marked r))
    (.replicate answered (.answered CommandResult.accepted))

/-- The call of the request itself, with what it was told. -/
theorem Started.exists_call_of_roll (hs : Started l began e id r)
    (hcall : ∃ o ∈ ((l.step began e).1.run es).1.roll, o.id = id ∧ o.stage = stage)
    (hq : stage.request? = some q) (hticket : q.ticket = r.ticket) :
    ∃ o ∈ ((l.step began e).1.run es).1.calls, o.id = id ∧
      o.stage = stage.heard (verdictAfter (marksOf (l.marked r))
        ((l.step began e).1.history r.order.commandId es)) ∧
      q.verdict = none ∧ q.order.commandId = r.order.commandId := by
  obtain ⟨o', ho', hid, hstage⟩ := hcall
  obtain ⟨o, ho, rfl⟩ := exists_of_mem_roll ho'
  have hstage' : o.stage.untold = stage := hstage
  obtain ⟨q', hq'⟩ : ∃ q', o.stage.request? = some q' := by
    rw [← hstage'] at hq
    cases ho : o.stage <;> simp_all [CallStage.untold, CallStage.request?]
  have heq : q'.heard none = q := by
    have huntold := o.stage.untold_request? hq'
    rw [hstage', hq] at huntold
    exact (Option.some.inj huntold).symm
  have hmem : q' ∈ ((l.step began e).1.run es).1.requests :=
    List.mem_filterMap.mpr ⟨o, ho, hq'⟩
  have hsame : q'.ticket = r.ticket := by
    rw [← hticket, ← heq]
    rfl
  have hclaim := verdict_run hs.orderly hs.mem hs.fresh hmem hsame
  have hverdict : q'.verdict = verdictAfter (marksOf (l.marked r))
      ((l.step began e).1.history r.order.commandId es) := congrArg Claim.verdict hclaim
  have hcommand : q'.order.commandId = r.order.commandId := congrArg Claim.command hclaim
  refine ⟨o, ho, hid, ?_, by rw [← heq]; rfl, by rw [← heq]; exact hcommand⟩
  rw [← hstage', ← hverdict]
  exact (o.stage.heard_untold hq').symm

theorem Started.exists_call (hs : Started l began e id r)
    (h : Stands (l.step began e).1 id r.order.commandId es stage answered)
    (hq : stage.request? = some q) (hticket : q.ticket = r.ticket) :
    ∃ o ∈ ((l.step began e).1.run es).1.calls,
      o.id = id ∧ o.stage = stage.heard (l.toldAfter r answered) ∧ q.verdict = none ∧
        q.order.commandId = r.order.commandId := by
  rw [toldAfter, ← h.history]
  exact hs.exists_call_of_roll h.call hq hticket

/-! ## Moves of the request -/

/-- Without a new ticket no request has started. -/
theorem not_starts (ho : l.Orderly)
    (hticket : (l.step now e).1.acks.nextTicket = l.acks.nextTicket) :
    l.starts command now e = false := by
  rw [starts, List.any_eq_false]
  intro q hq hstarts
  have hold : q.claim.ticket < (l.step now e).1.acks.nextTicket :=
    (ho.step now e).sound.claim_fresh (claim_mem hq)
  rw [hticket] at hold
  have hnew : l.acks.nextTicket ≤ q.ticket := by simp_all
  exact absurd hold (Nat.not_lt_of_le hnew)

theorem notes_move (ho : l.Orderly)
    (hticket : (l.step now (.move id)).1.acks.nextTicket = l.acks.nextTicket) :
    l.notes command now (.move id) = [] := by
  rw [notes, not_starts ho hticket]
  rfl

/-- A move that makes no new ticket is not noticed by the requests of a command. -/
theorem history_concat_move (ho : (start.run es).1.Orderly)
    (hticket : ((start.run es).1.step now (.move id)).1.acks.nextTicket =
      (start.run es).1.acks.nextTicket) :
    start.history command (es ++ [(now, Event.move id)]) = start.history command es := by
  rw [history_concat, notes_move ho hticket, List.append_nil]

/-- A move that brings a call to a new stage does so on the roll. -/
theorem exists_roll_restaged {link : VehicleLink} {acts : List LinkAct} {next : CallStage}
    (h : ∃ o ∈ (start.run es).1.roll, o.id = id ∧ o.stage = stage)
    (hrests : (start.run es).1.Rests link)
    (hstep : (start.run es).1.step now (.move id) = (link.restage id next, acts)) :
    ∃ o ∈ (start.run (es ++ [(now, Event.move id)])).1.roll, o.id = id ∧ o.stage = next.untold := by
  obtain ⟨o, hmem, hid, -⟩ := h
  rw [(start.run_concat es now (.move id)).1, hstep, roll_restage, hrests.roll]
  exact ⟨_, List.mem_map_of_mem hmem, by rw [if_pos hid]; exact hid, by rw [if_pos hid]⟩

/-- A move that brings the call to a new stage. -/
theorem Stands.restaged {link : VehicleLink} {acts : List LinkAct} {next : CallStage}
    (h : Stands start id command es stage answered) (ho : (start.run es).1.Orderly)
    (hrests : (start.run es).1.Rests link) (hacks : link.acks = (start.run es).1.acks)
    (hstep : (start.run es).1.step now (.move id) = (link.restage id next, acts))
    (hends : callEnds acts = []) :
    Stands start id command (es ++ [(now, Event.move id)]) next.untold answered where
  call := exists_roll_restaged h.call hrests hstep
  history := by
    rw [history_concat_move ho, h.history]
    rw [hstep]
    exact congrArg AckTable.nextTicket hacks
  goesOn := not_ends_concat h.goesOn fun reply => by
    rw [hstep, ← mem_callEnds, hends]
    exact List.not_mem_nil

/-- A move that does nothing. -/
theorem Stands.still (h : Stands start id command es stage answered)
    (ho : (start.run es).1.Orderly)
    (hstep : (start.run es).1.step now (.move id) = ((start.run es).1, [])) :
    Stands start id command (es ++ [(now, Event.move id)]) stage answered where
  call := by
    rw [(start.run_concat es now (.move id)).1, hstep]
    exact h.call
  history := by
    rw [history_concat_move ho, h.history]
    rw [hstep]
  goesOn := not_ends_concat h.goesOn fun reply => by
    rw [hstep]
    exact List.not_mem_nil

/-- **The call of a request has ended**, and how. If its time was up, its entry is still there. -/
structure Ended (start : VehicleLink) (id : Nat) (command : CommandId)
    (es : List (Instant × Event)) (reply : Reply) : Prop where
  closed : (start.run es).1.isOpen id = false
  ends : .ends id reply ∈ (start.run es).2
  once : ∀ other, .ends id other ∈ (start.run es).2 → other = reply
  leaves : ∀ name, reply = .error (.timeout name) → (start.run es).1.acks.find? command ≠ none

/-- The end of a request that was told nothing leaves an entry for its command. -/
theorem finish_leaves (ho : l.Orderly) (hc : c ∈ l.calls) (hstage : c.stage = .awaiting q)
    (hverdict : q.verdict = none) (reply : Reply) :
    (l.finish c reply).1.acks.find? q.order.commandId ≠ none := by
  have hr : c.stage.request? = some q := by rw [hstage]; rfl
  obtain ⟨entry, hentry, -, -⟩ :=
    ho.sound.untold_waits (claim_mem (List.mem_filterMap.mpr ⟨c, hc, hr⟩)) hverdict
  have hacks : (l.finish c reply).1.acks = l.acks.finish q.order.commandId q.ticket := by
    simp [finish, dropped, hstage, CallStage.ticket?]
  have hentry' : l.acks.find? q.order.commandId = some entry := hentry
  rw [hacks, AckTable.find?_finish, if_pos rfl, hentry', Option.map_some]
  exact Option.some_ne_none _

/-- A call that has ended is not open. -/
theorem isOpen_finished {link : VehicleLink} (hrests : (start.run es).1.Rests link)
    (hid : c.id = id) (hstep : (start.run es).1.step now (.move id) = link.finish c reply) :
    (start.run (es ++ [(now, Event.move id)])).1.isOpen id = false := by
  have hroll : (link.finish c reply).1.roll =
      (start.run es).1.roll.filter fun o => o.id ≠ c.id := hrests.roll ▸ roll_closed _ _
  rw [← Bool.not_eq_true, (start.run_concat es now (.move id)).1, hstep, isOpen_iff, hroll]
  rintro ⟨o, hmem, heq⟩
  have hne : o.id ≠ c.id := by simpa using (List.mem_filter.mp hmem).2
  exact hne (heq.trans hid.symm)

/-- A move that ends the call. -/
theorem Stands.finished (h : Stands start id command es stage answered)
    (hid : c.id = id)
    (hstep : (start.run es).1.step now (.move id) = (start.run es).1.finish c reply)
    (hleaves : ∀ name, reply = .error (.timeout name) →
      ((start.run es).1.finish c reply).1.acks.find? command ≠ none) :
    Ended start id command (es ++ [(now, Event.move id)]) reply := by
  obtain ⟨hlink, hacts⟩ := start.run_concat es now (.move id)
  have hend : ((start.run es).1.finish c reply).2 = [.ends id reply] := by
    rw [← hid]
    rfl
  rw [hstep] at hlink hacts
  rw [hend] at hacts
  refine ⟨isOpen_finished (Rests.refl _) hid hstep, ?ends, ?once, hlink ▸ hleaves⟩
  case ends =>
    rw [hacts]
    exact List.mem_append_right _ (List.mem_singleton_self _)
  case once =>
    intro other hmem
    rw [hacts] at hmem
    rcases List.mem_append.mp hmem with hold | hnew
    · exact absurd hold (h.goesOn other)
    · have hother := List.mem_singleton.mp hnew
      injection hother

theorem Started.run_orderly (hs : Started l began e id r) (es : List (Instant × Event)) :
    ((l.step began e).1.run es).1.Orderly := (hs.orderly.step began e).run es

/-- The move of a request that is to be sent. -/
theorem Started.step_due (hs : Started l began e id r)
    (hcall : ∃ o ∈ ((l.step began e).1.run es).1.roll, o.id = id ∧ o.stage = .transmitting q)
    (hticket : q.ticket = r.ticket)
    (hsent : ∀ m, (((l.step began e).1.run es).1.send m).reply = .ok ()) (now : Instant) :
    ∃ next, next.untold = .awaiting (q.sent now) ∧
      ((l.step began e).1.run es).1.step now (.move id) =
        ((((l.step began e).1.run es).1.send q.message).link.restage id next,
          (((l.step began e).1.run es).1.send q.message).acts) := by
  obtain ⟨o, hmem, rfl, hstage, hverdict, -⟩ := hs.exists_call_of_roll hcall rfl hticket
  have hstep : ((l.step began e).1.run es).1.step now (.move o.id) = _ :=
    move_of_transmitting (hs.run_orderly es) hmem hstage now
  unfold after at hstep
  rw [hsent] at hstep
  refine ⟨_, ?_, hstep.trans (congrArg (Prod.mk _) (List.append_nil _))⟩
  exact congrArg (fun q : CommandRequest => CallStage.awaiting (q.sent now))
    (CommandRequest.heard_none hverdict)

/-- A request that is sent waits for its answer. -/
theorem Started.sent (hs : Started l began e id r)
    (h : Stands (l.step began e).1 id r.order.commandId es (.transmitting q) answered)
    (hticket : q.ticket = r.ticket)
    (hsent : ∀ m, (((l.step began e).1.run es).1.send m).reply = .ok ()) (now : Instant) :
    Stands (l.step began e).1 id r.order.commandId (es ++ [(now, Event.move id)])
      (.awaiting (q.sent now)) answered := by
  obtain ⟨next, hnext, hstep⟩ := hs.step_due h.call hticket hsent now
  rw [← hnext]
  exact h.restaged (hs.run_orderly es) (send_rests _ _).1 (send_sameDesk _ _).acks hstep
    (send_rests _ _).2

/-- The move of a request that waits. -/
theorem step_awaiting (ho : l.Orderly) (hc : c ∈ l.calls) (hstage : c.stage = .awaiting q)
    (now : Instant) :
    l.step now (.move c.id) = match q.verdict with
      | some verdict => l.finish c (q.reply verdict)
      | none =>
        if now < q.wake then (l, [])
        else if q.deadline ≤ now then l.finish c (.error (.timeout q.name))
        else (l.restage c.id (.transmitting q.again), []) := by
  have hmove : l.step now (.move c.id) = l.moveCall now c := by
    change l.move now c.id = _
    rw [move, find?_id ho hc]
  obtain ⟨id, aim, stage⟩ := c
  obtain rfl : stage = .awaiting q := hstage
  exact hmove

/-- The move of a request that waits and was told something. -/
theorem Started.step_told (hs : Started l began e id r)
    (hcall : ∃ o ∈ ((l.step began e).1.run es).1.roll, o.id = id ∧ o.stage = .awaiting q)
    (hticket : q.ticket = r.ticket) {v : Verdict}
    (htold : verdictAfter (marksOf (l.marked r))
      ((l.step began e).1.history r.order.commandId es) = some v) (now : Instant) :
    ∃ o, o.id = id ∧ ((l.step began e).1.run es).1.step now (.move id) =
      ((l.step began e).1.run es).1.finish o (q.reply v) := by
  obtain ⟨o, hmem, rfl, hstage, -, -⟩ := hs.exists_call_of_roll hcall rfl hticket
  rw [htold] at hstage
  exact ⟨o, rfl, step_awaiting (hs.run_orderly es) hmem hstage now⟩

/-- The move of a request that waits and was told nothing. -/
theorem Started.step_untold (hs : Started l began e id r)
    (hcall : ∃ o ∈ ((l.step began e).1.run es).1.roll, o.id = id ∧ o.stage = .awaiting q)
    (hticket : q.ticket = r.ticket)
    (htold : verdictAfter (marksOf (l.marked r))
      ((l.step began e).1.history r.order.commandId es) = none) (now : Instant) :
    ∃ o ∈ ((l.step began e).1.run es).1.calls, o.id = id ∧ o.stage = .awaiting q ∧
      q.verdict = none ∧ q.order.commandId = r.order.commandId ∧
      ((l.step began e).1.run es).1.step now (.move id) =
        if now < q.wake then (((l.step began e).1.run es).1, [])
        else if q.deadline ≤ now then
          ((l.step began e).1.run es).1.finish o (.error (.timeout q.name))
        else (((l.step began e).1.run es).1.restage id (.transmitting q.again), []) := by
  obtain ⟨o, hmem, rfl, hstage, hverdict, hcommand⟩ := hs.exists_call_of_roll hcall rfl hticket
  rw [htold] at hstage
  have hsame : o.stage = .awaiting q :=
    hstage.trans (congrArg CallStage.awaiting (CommandRequest.heard_none hverdict))
  have hstep := step_awaiting (hs.run_orderly es) hmem hsame now
  rw [hverdict] at hstep
  exact ⟨o, hmem, rfl, hsame, hverdict, hcommand, hstep⟩

/-- A request that is to be sent again was told nothing. -/
theorem untold_again (hverdict : q.verdict = none) :
    (CallStage.transmitting q.again).untold = .transmitting q.again :=
  congrArg (fun q : CommandRequest => CallStage.transmitting q.again)
    (CommandRequest.heard_none hverdict)

/-- A request that was told something ends with that. -/
theorem Started.told (hs : Started l began e id r)
    (h : Stands (l.step began e).1 id r.order.commandId es (.awaiting q) answered)
    (hticket : q.ticket = r.ticket) {v : Verdict}
    (htold : l.toldAfter r answered = some v) (now : Instant) :
    Ended (l.step began e).1 id r.order.commandId (es ++ [(now, Event.move id)]) (q.reply v) := by
  rw [toldAfter, ← h.history] at htold
  obtain ⟨o, hid, hstep⟩ := hs.step_told h.call hticket htold now
  exact h.finished hid hstep fun name htimeout => absurd htimeout (q.reply_ne_timeout v name)

/-- A request that was told nothing goes on waiting until its pause is over. Then it ends if
its time is up, and is to be sent again otherwise. -/
theorem Started.untold (hs : Started l began e id r)
    (h : Stands (l.step began e).1 id r.order.commandId es (.awaiting q) answered)
    (hticket : q.ticket = r.ticket)
    (htold : l.toldAfter r answered = none) (now : Instant) :
    if now < q.wake then
      Stands (l.step began e).1 id r.order.commandId (es ++ [(now, Event.move id)]) (.awaiting q)
        answered
    else if q.deadline ≤ now then
      Ended (l.step began e).1 id r.order.commandId (es ++ [(now, Event.move id)])
        (.error (.timeout q.name))
    else
      Stands (l.step began e).1 id r.order.commandId (es ++ [(now, Event.move id)])
        (.transmitting q.again) answered := by
  have ho := hs.run_orderly es
  rw [toldAfter, ← h.history] at htold
  obtain ⟨o, hmem, rfl, hstage, hverdict, hcommand, hstep⟩ :=
    hs.step_untold h.call hticket htold now
  split
  · rename_i hearly
    rw [if_pos hearly] at hstep
    exact h.still ho hstep
  · rename_i hdue
    rw [if_neg hdue] at hstep
    split
    · rename_i hup
      rw [if_pos hup] at hstep
      exact h.finished rfl hstep fun name _ => hcommand ▸ finish_leaves ho hmem hstage hverdict _
    · rename_i hroom
      rw [if_neg hroom] at hstep
      rw [← untold_again hverdict]
      exact h.restaged ho (Rests.refl _) rfl hstep rfl

/-! ## The course of a request -/

theorem toldAfter_unmarked (h : l.marked r = false) :
    l.toldAfter r 1 = some (.answered CommandResult.accepted) := by
  rw [toldAfter, h]
  rfl

theorem toldAfter_marked (h : l.marked r = true) :
    l.toldAfter r 1 = none ∧ l.toldAfter r 2 = some (.answered CommandResult.accepted) := by
  rw [toldAfter, toldAfter, h]
  exact ⟨rfl, rfl⟩

/-- An answer comes in from outside. -/
theorem ne_of_answered {result : CommandResult}
    (h : l.notes command now e = [.answered result]) (id : Nat) :
    e ≠ .move id ∧ e ≠ .abandon id := by
  have hstarts : ∀ event, l.heard event = [] → l.notes command now event ≠ [.answered result] := by
    intro event hheard heq
    rw [notes, hheard] at heq
    split at heq <;> cases heq
  constructor
  · rintro rfl
    exact hstarts _ rfl h
  · rintro rfl
    exact hstarts _ rfl h

theorem sendsNext_eq (ho : l.Orderly) (hc : c ∈ l.calls) :
    l.sendsNext c.id = c.stage.isDue := by
  rw [sendsNext, find?_id ho hc]
  rfl

theorem isOpen_of_sendsNext (h : l.sendsNext id = true) : l.isOpen id = true := by
  unfold VehicleLink.sendsNext at h
  cases hfind : l.calls.find? fun c => decide (c.id = id) with
  | none =>
      rw [hfind] at h
      cases h
  | some c =>
      have hid : c.id = id := by simpa using List.find?_some hfind
      exact isOpen_iff.mpr ⟨c.untold, mem_roll (List.mem_of_find?_eq_some hfind), hid⟩

theorem isReady_eq (ho : l.Orderly) (hc : c ∈ l.calls) (now : Instant) :
    l.isReady c.id now = c.stage.isReady now := by
  rw [isReady, find?_id ho hc]
  rfl

/-- Whether a call sends next can be seen from its stage. -/
theorem sendsNext_of_roll (ho : l.Orderly) (h : ∃ o ∈ l.roll, o.id = id ∧ o.stage = stage) :
    l.sendsNext id = stage.isDue := by
  obtain ⟨o, hmem, rfl, rfl⟩ := h
  obtain ⟨c, hc, rfl⟩ := exists_of_mem_roll hmem
  exact (sendsNext_eq ho hc).trans c.stage.isDue_untold.symm

theorem Stands.sendsNext (h : Stands start id command es stage answered)
    (ho : (start.run es).1.Orderly) : (start.run es).1.sendsNext id = stage.isDue :=
  sendsNext_of_roll ho h.call

/-- The clock does not pass an instant at which a call is ready. -/
theorem le_of_isReady {ready later : Instant} (hready : l.isReady id ready = true)
    (hnow : now ≤ ready) (hidle : ∀ t, now ≤ t → t < later → l.isReady id t = false) :
    later ≤ ready := by
  by_contra hlater
  have hfalse := hidle ready hnow (Nat.lt_of_not_le hlater)
  rw [hready] at hfalse
  cases hfalse

/-- While a call is ready no time passes. -/
theorem eq_of_isReady {later : Instant} (hlater : now ≤ later)
    (hidle : ∀ t, now ≤ t → t < later → l.isReady id t = false) (hready : l.isReady id now = true) :
    later = now :=
  Nat.le_antisymm (le_of_isReady hready (Nat.le_refl now) hidle) hlater

/-- Whether the call of the request is ready can be seen from its stage and what it was told. -/
theorem Started.isReady (hs : Started l began e id r)
    (h : Stands (l.step began e).1 id r.order.commandId es stage answered)
    (hq : stage.request? = some q) (hticket : q.ticket = r.ticket) (now : Instant) :
    ((l.step began e).1.run es).1.isReady id now =
      (stage.heard (l.toldAfter r answered)).isReady now := by
  obtain ⟨o, hmem, rfl, hstage, -, -⟩ := hs.exists_call h hq hticket
  rw [isReady_eq (hs.run_orderly es) hmem, hstage]

/-- A request that waits is ready when it was told something, and when its pause is over. -/
theorem isReady_awaiting (v : Option Verdict) (q : CommandRequest) (now : Instant) :
    ((CallStage.awaiting q).heard v).isReady now = (v.isSome || decide (q.wake ≤ now)) := rfl

/-- **The course of a request** that an obliging vehicle answers: the points at which it can be,
at which instants, and whether a transmission is yet to be answered. -/
inductive Course (l : VehicleLink) (began : Instant) (e : Event) (id : Nat) (r : CommandRequest) :
    List (Instant × Event) → Instant → Bool → Prop
  | due {es : List (Instant × Event)}
    (h : Stands (l.step began e).1 id r.order.commandId es (.transmitting r) 0) :
    Course l began e id r es began false
  | asked {es : List (Instant × Event)}
    (h : Stands (l.step began e).1 id r.order.commandId es (.awaiting (r.sent began)) 0) :
    Course l began e id r es began true
  | answered {es : List (Instant × Event)} {now : Instant}
    (h : Stands (l.step began e).1 id r.order.commandId es (.awaiting (r.sent began)) 1)
    (hfrom : began ≤ now) (hto : now ≤ (r.sent began).wake)
    (hmarked : l.marked r = false → now = began) :
    Course l began e id r es now false
  | dueAgain {es : List (Instant × Event)} {now : Instant}
    (h : Stands (l.step began e).1 id r.order.commandId es (.transmitting (r.sent began).again) 1)
    (hnow : now = began + CommandRequest.firstPause) (hmarked : l.marked r = true)
    (hroom : CommandRequest.firstPause < r.deadline - began) :
    Course l began e id r es now false
  | askedAgain {es : List (Instant × Event)} {now : Instant}
    (h : Stands (l.step began e).1 id r.order.commandId es
      (.awaiting ((r.sent began).again.sent now)) 1)
    (hnow : now = began + CommandRequest.firstPause) (hmarked : l.marked r = true)
    (hroom : CommandRequest.firstPause < r.deadline - began) :
    Course l began e id r es now true
  | answeredAgain {es : List (Instant × Event)} {now : Instant}
    (h : Stands (l.step began e).1 id r.order.commandId es
      (.awaiting ((r.sent began).again.sent now)) 2)
    (hnow : now = began + CommandRequest.firstPause) (hmarked : l.marked r = true)
    (hroom : CommandRequest.firstPause < r.deadline - began) :
    Course l began e id r es now false
  | ended {es : List (Instant × Event)} {now : Instant}
    (h : Ended (l.step began e).1 id r.order.commandId es (r.outcome began (l.marked r))) :
    Course l began e id r es now false

/-- The first pause is over 250 milliseconds after the beginning, or at the deadline. -/
theorem Started.wake (hs : Started l began e id r) :
    (r.sent began).wake = began + min CommandRequest.firstPause (r.deadline - began) :=
  CommandRequest.sent_wake hs.pace

/-- At the end of the first pause the time is up, unless there was more of it than the pause. -/
private theorem up_or_room {first now deadline pause : Nat}
    (h : now = first + min pause (deadline - first)) :
    (deadline ≤ now → deadline - first ≤ pause) ∧
      (¬ deadline ≤ now → now = first + pause ∧ pause < deadline - first) := by
  omega

/-- With time for a retransmission the mark does no harm. -/
theorem lucky_of_room (hroom : CommandRequest.firstPause < r.deadline - began) :
    ¬ (l.marked r = true ∧ r.deadline - began ≤ CommandRequest.firstPause) := fun hshort =>
  Nat.not_le_of_lt hroom hshort.2

/-- A request that was told that it is accepted. -/
theorem Started.accepted (hs : Started l began e id r)
    (h : Stands (l.step began e).1 id r.order.commandId es (.awaiting q) answered)
    (hticket : q.ticket = r.ticket)
    (htold : l.toldAfter r answered = some (.answered CommandResult.accepted))
    (hlucky : ¬ (l.marked r = true ∧ r.deadline - began ≤ CommandRequest.firstPause))
    (now : Instant) :
    Ended (l.step began e).1 id r.order.commandId (es ++ [(now, Event.move id)])
      (r.outcome began (l.marked r)) := by
  rw [CommandRequest.outcome, if_neg hlucky]
  exact hs.told h hticket htold now

theorem Course.passes {later : Instant} (hs : Started l began e id r)
    (h : Course l began e id r es now false) (hlater : now ≤ later)
    (hidle : ∀ t, now ≤ t → t < later → ((l.step began e).1.run es).1.isReady id t = false) :
    Course l began e id r es later false := by
  have hstill := eq_of_isReady hlater hidle
  cases h with
  | due h =>
      rw [hstill (hs.isReady h rfl rfl began)]
      exact .due h
  | answered h hfrom hto hmarked =>
      have hready := hs.isReady h rfl rfl
      simp only [isReady_awaiting] at hready
      cases hm : l.marked r with
      | false =>
          rw [hstill (by rw [hready, toldAfter_unmarked hm]; rfl)]
          exact .answered h hfrom hto hmarked
      | true =>
          have hwake : ((l.step began e).1.run es).1.isReady id (r.sent began).wake = true := by
            rw [hready, decide_eq_true (Nat.le_refl _), Bool.or_true]
          refine .answered h (Nat.le_trans hfrom hlater) (le_of_isReady hwake hto hidle) ?_
          simp [hm]
  | dueAgain h hnow hmarked hroom =>
      rw [hstill (hs.isReady h rfl rfl now)]
      exact .dueAgain h hnow hmarked hroom
  | answeredAgain h hnow hmarked hroom =>
      have hready := hs.isReady h rfl rfl now
      rw [isReady_awaiting, (toldAfter_marked hmarked).2] at hready
      rw [hstill hready]
      exact .answeredAgain h hnow hmarked hroom
  | ended h => exact .ended h

theorem Course.sends (hs : Started l began e id r) (h : Course l began e id r es now false)
    (hdue : ((l.step began e).1.run es).1.sendsNext id = true)
    (hsent : ∀ m, (((l.step began e).1.run es).1.send m).reply = .ok ()) :
    Course l began e id r (es ++ [(now, Event.move id)]) now true := by
  have ho := hs.run_orderly es
  cases h with
  | due h => exact .asked (hs.sent h rfl hsent began)
  | answered h hfrom hto hmarked =>
      rw [h.sendsNext ho] at hdue
      cases hdue
  | dueAgain h hnow hmarked hroom => exact .askedAgain (hs.sent h rfl hsent now) hnow hmarked hroom
  | answeredAgain h hnow hmarked hroom =>
      rw [h.sendsNext ho] at hdue
      cases hdue
  | ended h =>
      have hopen := isOpen_of_sendsNext hdue
      rw [h.closed] at hopen
      cases hopen

theorem Course.answers {event : Event} (h : Course l began e id r es now true)
    (hanswer : ((l.step began e).1.run es).1.notes r.order.commandId now event =
      [.answered CommandResult.accepted]) :
    Course l began e id r (es ++ [(now, event)]) now false := by
  obtain ⟨hmove, hgiven⟩ := ne_of_answered hanswer id
  cases h with
  | asked h =>
      have hwake : began ≤ (r.sent began).wake := Nat.le_add_right _ _
      exact .answered (h.other 1 hanswer hmove hgiven) (Nat.le_refl _) hwake fun _ => rfl
  | askedAgain h hnow hmarked hroom =>
      exact .answeredAgain (h.other 1 hanswer hmove hgiven) hnow hmarked hroom

/-- What is done with the request between transmissions. -/
theorem Course.moves (hs : Started l began e id r) (h : Course l began e id r es now false)
    (hopen : ((l.step began e).1.run es).1.isOpen id = true)
    (hidle : ((l.step began e).1.run es).1.sendsNext id = false) :
    Course l began e id r (es ++ [(now, Event.move id)]) now false := by
  have ho := hs.run_orderly es
  cases h with
  | due h =>
      rw [h.sendsNext ho] at hidle
      cases hidle
  | answered h hfrom hto hmarked =>
      cases hm : l.marked r with
      | false => exact .ended (hs.accepted h rfl (toldAfter_unmarked hm) (by simp [hm]) now)
      | true =>
          have hwaits := hs.untold h rfl (toldAfter_marked hm).1 now
          have hsame : (r.sent began).deadline = r.deadline := rfl
          rw [hsame] at hwaits
          by_cases hearly : now < (r.sent began).wake
          · rw [if_pos hearly] at hwaits
            exact .answered hwaits hfrom hto hmarked
          · rw [if_neg hearly] at hwaits
            have hwake : now = (r.sent began).wake := Nat.le_antisymm hto (Nat.le_of_not_lt hearly)
            obtain ⟨hshort, hroom⟩ := up_or_room (hwake.trans hs.wake)
            by_cases hup : r.deadline ≤ now
            · -- the pause was cut short by the deadline
              rw [if_pos hup] at hwaits
              have hreply : r.outcome began (l.marked r) = .error (.timeout r.name) := by
                rw [CommandRequest.outcome, if_pos ⟨hm, hshort hup⟩]
              exact .ended (hreply ▸ hwaits)
            · rw [if_neg hup] at hwaits
              exact .dueAgain hwaits (hroom hup).1 hm (hroom hup).2
  | dueAgain h hnow hmarked hroom =>
      rw [h.sendsNext ho] at hidle
      cases hidle
  | answeredAgain h hnow hmarked hroom =>
      exact .ended (hs.accepted h rfl (toldAfter_marked hmarked).2 (lucky_of_room hroom) now)
  | ended h =>
      rw [h.closed] at hopen
      cases hopen

/-- Only at the end of its course has the request ended. -/
theorem Course.ended_of_ends {unanswered : Bool} (h : Course l began e id r es now unanswered)
    (hends : .ends id reply ∈ ((l.step began e).1.run es).2) :
    Ended (l.step began e).1 id r.order.commandId es (r.outcome began (l.marked r)) := by
  cases h with
  | ended h => exact h
  | due h => exact absurd hends (h.goesOn reply)
  | asked h => exact absurd hends (h.goesOn reply)
  | answered h => exact absurd hends (h.goesOn reply)
  | dueAgain h => exact absurd hends (h.goesOn reply)
  | askedAgain h => exact absurd hends (h.goesOn reply)
  | answeredAgain h => exact absurd hends (h.goesOn reply)

/-- What is no business of the request. -/
theorem Course.other {unanswered : Bool} {event : Event}
    (h : Course l began e id r es now unanswered)
    (hopen : ((l.step began e).1.run es).1.isOpen id = true)
    (hnote : ((l.step began e).1.run es).1.notes r.order.commandId now event = [])
    (hmove : event ≠ .move id) (hgiven : event ≠ .abandon id) :
    Course l began e id r (es ++ [(now, event)]) now unanswered := by
  cases h with
  | due h => exact .due (h.other 0 hnote hmove hgiven)
  | asked h => exact .asked (h.other 0 hnote hmove hgiven)
  | answered h hfrom hto hmarked => exact .answered (h.other 0 hnote hmove hgiven) hfrom hto hmarked
  | dueAgain h hnow hmarked hroom =>
      exact .dueAgain (h.other 0 hnote hmove hgiven) hnow hmarked hroom
  | askedAgain h hnow hmarked hroom =>
      exact .askedAgain (h.other 0 hnote hmove hgiven) hnow hmarked hroom
  | answeredAgain h hnow hmarked hroom =>
      exact .answeredAgain (h.other 0 hnote hmove hgiven) hnow hmarked hroom
  | ended h =>
      rw [h.closed] at hopen
      cases hopen

/-- **Where a request stands in a run** with an obliging vehicle. -/
theorem course_of_obliging {unanswered : Bool} (hs : Started l began e id r)
    (h : Obliging (l.step began e).1 began id r.order.commandId es now unanswered) :
    Course l began e id r es now unanswered := by
  induction h with
  | begins => exact .due ⟨hs.call, rfl, fun reply hmem => by cases hmem⟩
  | passes h hlater hidle ih => exact ih.passes hs hlater hidle
  | sends h hdue hsent ih => exact ih.sends hs hdue hsent
  | answers h hanswer ih => exact ih.answers hanswer
  | @other es now unanswered event h hopen hnote hgiven hmove ih =>
      by_cases heq : event = .move id
      · subst heq
        obtain ⟨rfl, hidle⟩ := hmove rfl
        exact ih.moves hs hopen hidle
      · exact ih.other hopen hnote heq hgiven

/-! ## A way to the end -/

/-- A vehicle is known, and everything that is sent to the peer arrives. -/
structure InContact (l : VehicleLink) : Prop where
  vehicle : ∃ target, l.vehicle = some target
  outlet : ∃ peer, l.peer = some peer ∧
    ∀ number, l.network.refusal l.config.mode peer number = none

theorem InContact.send_ok (h : l.InContact) (m : Message) : (l.send m).reply = .ok () := by
  obtain ⟨peer, hpeer, hnetwork⟩ := h.outlet
  unfold send
  rw [hpeer]
  dsimp only
  rw [hnetwork]

theorem InContact.step (h : l.InContact) (houtlet : l.SameOutlet (l.step now e).1) :
    (l.step now e).1.InContact := by
  obtain ⟨target, htarget⟩ := h.vehicle
  obtain ⟨peer, hpeer, hnetwork⟩ := h.outlet
  refine ⟨⟨target, step_vehicle htarget now e⟩, peer, houtlet.peer.trans hpeer, fun number => ?_⟩
  rw [houtlet.network, houtlet.config]
  exact hnetwork number

/-- The vehicle accepts a command. -/
def acceptance (target : SystemAddress) (command : CommandId) : Event :=
  .message ⟨target, 0⟩ (.commandAck ⟨command, CommandResult.accepted⟩)

theorem notes_acceptance {target : SystemAddress} (ho : l.Orderly) (h : l.vehicle = some target)
    (command : CommandId) (now : Instant) :
    l.notes command now (acceptance target command) = [.answered CommandResult.accepted] := by
  have hticket : (l.step now (acceptance target command)).1.acks.nextTicket =
      l.acks.nextTicket := by
    change (l.listen ⟨target, 0⟩ (.commandAck ⟨command, CommandResult.accepted⟩)).1.acks.nextTicket
      = _
    unfold listen
    rw [h]
    dsimp only
    split
    · rw [understand, acknowledge_acks, AckTable.resolve_nextTicket]
    · rfl
  have hheard : l.heard (acceptance target command) = [⟨command, CommandResult.accepted⟩] := by
    simp [acceptance, heard, heardIn, h]
  rw [notes, not_starts ho hticket, hheard]
  simp [CommandAck.isTerminal, CommandResult.accepted, CommandResult.inProgress]

/-- A request that waits starts no other one. -/
theorem notes_move_awaiting (ho : l.Orderly) (hc : c ∈ l.calls) (hstage : c.stage = .awaiting q)
    (command : CommandId) (now : Instant) : l.notes command now (.move c.id) = [] := by
  refine notes_move ho ?_
  have hfinish : ∀ reply, (l.finish c reply).1.acks.nextTicket = l.acks.nextTicket := by
    intro reply
    unfold finish dropped
    dsimp only
    split <;> rfl
  rw [step_awaiting ho hc hstage]
  repeat' split
  · exact hfinish _
  · rfl
  · exact hfinish _
  · rfl

/-- A run goes on in such a way that the vehicle obliges and the request ends. -/
def Finishes (l : VehicleLink) (began : Instant) (e : Event) (id : Nat) (r : CommandRequest)
    (es : List (Instant × Event)) : Prop :=
  ∃ more later, Obliging (l.step began e).1 began id r.order.commandId (es ++ more) later false ∧
    Ended (l.step began e).1 id r.order.commandId (es ++ more) (r.outcome began (l.marked r))

theorem Finishes.of_concat {x : Instant × Event} (h : Finishes l began e id r (es ++ [x])) :
    Finishes l began e id r es := by
  obtain ⟨more, later, hobliging, hended⟩ := h
  rw [List.append_assoc] at hobliging hended
  exact ⟨_, later, hobliging, hended⟩

theorem InContact.moved (h : (start.run es).1.InContact) (now : Instant) (id : Nat) :
    (start.run (es ++ [(now, Event.move id)])).1.InContact := by
  rw [(start.run_concat es now (.move id)).1]
  exact h.step (move_sameOutlet _ _ _)

theorem InContact.accepted (h : (start.run es).1.InContact) (now : Instant)
    (target : SystemAddress) (command : CommandId) :
    (start.run (es ++ [(now, acceptance target command)])).1.InContact := by
  rw [(start.run_concat es now (acceptance target command)).1]
  exact h.step (handle_sameOutlet _ _ _)

/-- A move of a request that waits obliges. -/
theorem Started.obliging_move (hs : Started l began e id r)
    (hobliging : Obliging (l.step began e).1 began id r.order.commandId es now false)
    (h : Stands (l.step began e).1 id r.order.commandId es (.awaiting q) answered)
    (hticket : q.ticket = r.ticket) :
    Obliging (l.step began e).1 began id r.order.commandId (es ++ [(now, Event.move id)]) now
      false := by
  have ho := hs.run_orderly es
  have hidle := h.sendsNext ho
  have hopen := h.isOpen
  obtain ⟨o, hmem, rfl, hstage, -, -⟩ := hs.exists_call h rfl hticket
  have hnote := notes_move_awaiting ho hmem hstage r.order.commandId now
  exact .other hobliging hopen hnote nofun fun _ => ⟨rfl, hidle⟩

theorem Started.finishes_accepted (hs : Started l began e id r)
    (hobliging : Obliging (l.step began e).1 began id r.order.commandId es now false)
    (h : Stands (l.step began e).1 id r.order.commandId es (.awaiting q) answered)
    (hticket : q.ticket = r.ticket)
    (htold : l.toldAfter r answered = some (.answered CommandResult.accepted))
    (hlucky : ¬ (l.marked r = true ∧ r.deadline - began ≤ CommandRequest.firstPause)) :
    Finishes l began e id r es :=
  ⟨_, now, hs.obliging_move hobliging h hticket, hs.accepted h hticket htold hlucky now⟩

/-- The second transmission is answered, and the request ends. -/
theorem Started.finishes_askedAgain (hs : Started l began e id r)
    (hobliging : Obliging (l.step began e).1 began id r.order.commandId es now true)
    (hcontact : ((l.step began e).1.run es).1.InContact)
    (h : Stands (l.step began e).1 id r.order.commandId es (.awaiting q) 1)
    (hticket : q.ticket = r.ticket) (hmarked : l.marked r = true)
    (hroom : CommandRequest.firstPause < r.deadline - began) :
    Finishes l began e id r es := by
  obtain ⟨target, htarget⟩ := hcontact.vehicle
  have hanswer := notes_acceptance (hs.run_orderly es) htarget r.order.commandId now
  obtain ⟨hmove, hgiven⟩ := ne_of_answered hanswer id
  have hfinishes := hs.finishes_accepted (hobliging.answers hanswer)
    (h.other 1 hanswer hmove hgiven) hticket (toldAfter_marked hmarked).2 (lucky_of_room hroom)
  exact hfinishes.of_concat

/-- A request that is to be sent again is sent, and the answer to that comes in. -/
theorem Started.finishes_dueAgain (hs : Started l began e id r)
    (hobliging : Obliging (l.step began e).1 began id r.order.commandId es now false)
    (hcontact : ((l.step began e).1.run es).1.InContact)
    (h : Stands (l.step began e).1 id r.order.commandId es (.transmitting q) 1)
    (hticket : q.ticket = r.ticket) (hmarked : l.marked r = true)
    (hroom : CommandRequest.firstPause < r.deadline - began) :
    Finishes l began e id r es := by
  have hsent := hcontact.send_ok
  have hobliging' := hobliging.sends (h.sendsNext (hs.run_orderly es)) hsent
  have hfinishes := hs.finishes_askedAgain hobliging' (hcontact.moved now id)
    (hs.sent h hticket hsent now) hticket hmarked hroom
  exact hfinishes.of_concat

/-- After the first answer a request without a mark ends, and one with a mark waits for the end
of the pause. -/
theorem Started.finishes_answered (hs : Started l began e id r)
    (hobliging : Obliging (l.step began e).1 began id r.order.commandId es now false)
    (hcontact : ((l.step began e).1.run es).1.InContact)
    (h : Stands (l.step began e).1 id r.order.commandId es (.awaiting (r.sent began)) 1)
    (hto : now ≤ (r.sent began).wake) : Finishes l began e id r es := by
  cases hm : l.marked r with
  | false => exact hs.finishes_accepted hobliging h rfl (toldAfter_unmarked hm) (by simp [hm])
  | true =>
      have hnone := (toldAfter_marked hm).1
      have hidle : ∀ t, now ≤ t → t < (r.sent began).wake →
          ((l.step began e).1.run es).1.isReady id t = false := by
        intro t _ ht
        rw [hs.isReady h rfl rfl, isReady_awaiting, hnone,
          decide_eq_false (Nat.not_le_of_lt ht)]
        rfl
      have hwaited := hs.obliging_move (hobliging.passes hto hidle) h rfl
      have hnext := hs.untold h rfl hnone (r.sent began).wake
      obtain ⟨hshort, hroom⟩ := up_or_room hs.wake
      have hsame : (r.sent began).deadline = r.deadline := rfl
      rw [if_neg (Nat.lt_irrefl _), hsame] at hnext
      by_cases hup : r.deadline ≤ (r.sent began).wake
      · rw [if_pos hup] at hnext
        have hreply : r.outcome began (l.marked r) = .error (.timeout r.name) := by
          rw [CommandRequest.outcome, if_pos ⟨hm, hshort hup⟩]
        exact ⟨_, _, hwaited, hreply ▸ hnext⟩
      · rw [if_neg hup] at hnext
        have hfinishes := hs.finishes_dueAgain hwaited (hcontact.moved _ id) hnext rfl hm
          (hroom hup).2
        exact hfinishes.of_concat

/-- The first transmission is answered, and the request goes on. -/
theorem Started.finishes_asked (hs : Started l began e id r)
    (hobliging : Obliging (l.step began e).1 began id r.order.commandId es began true)
    (hcontact : ((l.step began e).1.run es).1.InContact)
    (h : Stands (l.step began e).1 id r.order.commandId es (.awaiting (r.sent began)) 0) :
    Finishes l began e id r es := by
  obtain ⟨target, htarget⟩ := hcontact.vehicle
  have hanswer := notes_acceptance (hs.run_orderly es) htarget r.order.commandId began
  obtain ⟨hmove, hgiven⟩ := ne_of_answered hanswer id
  have hwake : began ≤ (r.sent began).wake := Nat.le_add_right _ _
  have hfinishes := hs.finishes_answered (hobliging.answers hanswer)
    (hcontact.accepted began target _) (h.other 1 hanswer hmove hgiven) hwake
  exact hfinishes.of_concat

/-- **From every point there is a way to the end.** -/
theorem Course.ends_after {unanswered : Bool} (hs : Started l began e id r)
    (h : Course l began e id r es now unanswered)
    (hobliging : Obliging (l.step began e).1 began id r.order.commandId es now unanswered)
    (hcontact : ((l.step began e).1.run es).1.InContact) : Finishes l began e id r es := by
  cases h with
  | due h =>
      have hsent := hcontact.send_ok
      have hobliging' := hobliging.sends (h.sendsNext (hs.run_orderly es)) hsent
      have hfinishes := hs.finishes_asked hobliging' (hcontact.moved began id)
        (hs.sent h rfl hsent began)
      exact hfinishes.of_concat
  | asked h => exact hs.finishes_asked hobliging hcontact h
  | answered h hfrom hto hmarked => exact hs.finishes_answered hobliging hcontact h hto
  | dueAgain h hnow hmarked hroom =>
      exact hs.finishes_dueAgain hobliging hcontact h rfl hmarked hroom
  | askedAgain h hnow hmarked hroom =>
      exact hs.finishes_askedAgain hobliging hcontact h rfl hmarked hroom
  | answeredAgain h hnow hmarked hroom =>
      exact hs.finishes_accepted hobliging h rfl (toldAfter_marked hmarked).2 (lucky_of_room hroom)
  | ended h =>
      refine ⟨[], now, ?_, ?_⟩
      · rw [List.append_nil]
        exact hobliging
      · rw [List.append_nil]
        exact h

/-! ## The end of the request -/

/-- The time that a request has is the configured one. -/
theorem Started.short_iff (hs : Started l began e id r) :
    r.deadline - began ≤ CommandRequest.firstPause ↔ l.config.commandTimeoutMillis ≤ 250 := by
  have htime : l.commandTimeout.timerMillis =
      min l.config.commandTimeoutMillis (18446744073709551616 * 1000) :=
    Duration.timerMillis_ofMillis _
  rw [hs.deadline, Nat.add_sub_cancel_left, htime]
  change min l.config.commandTimeoutMillis (18446744073709551616 * 1000) ≤ 250 ↔ _
  omega

/-- **What becomes of a request** whose every transmission the vehicle accepts at once. -/
structure Served (l : VehicleLink) (began : Instant) (e : Event) (id : Nat) (r : CommandRequest)
    (es : List (Instant × Event)) (now : Instant) : Prop where
  /-- It ends well if and only if the table held no entry for its command when it started, or
  there is time for a retransmission. -/
  well : ∀ reply, .ends id reply ∈ ((l.step began e).1.run es).2 →
    (reply = .ok () ↔
      l.acks.find? r.order.commandId = none ∨ 250 < l.config.commandTimeoutMillis)
  /-- Otherwise its time is up. -/
  unwell : ∀ reply, .ends id reply ∈ ((l.step began e).1.run es).2 → reply ≠ .ok () →
    reply = .error (.timeout r.name)
  /-- Then an entry for its command stays behind, so that the next request has a mark again. -/
  again : ∀ reply, .ends id reply ∈ ((l.step began e).1.run es).2 → reply ≠ .ok () →
    ((l.step began e).1.run es).1.acks.find? r.order.commandId ≠ none
  /-- It does not outlive its first pause. -/
  soon : ((l.step began e).1.run es).1.isOpen id = true → now ≤ began + 250
  /-- There is always a way to its end, as long as what is sent arrives. -/
  surely : ((l.step began e).1.run es).1.InContact → ∃ more later reply,
    Obliging (l.step began e).1 began id r.order.commandId (es ++ more) later false ∧
      .ends id reply ∈ ((l.step began e).1.run (es ++ more)).2

/-- **How a request ends whose every transmission is accepted at once**, for every history
before it and everything that happens beside it. -/
theorem obliged_request_ends {unanswered : Bool} (hl : l.Reached)
    (hc : c ∈ (l.step began e).1.calls) (hr : c.stage.request? = some r)
    (hnew : l.acks.nextTicket ≤ r.ticket)
    (hobliging : Obliging (l.step began e).1 began c.id r.order.commandId es now unanswered) :
    Served l began e c.id r es now := by
  have hs := started_of_call hl.orderly hc hr hnew
  have hcourse := course_of_obliging hs hobliging
  have houtcome : ∀ reply, .ends c.id reply ∈ ((l.step began e).1.run es).2 →
      reply = r.outcome began (l.marked r) := fun reply hends =>
    (hcourse.ended_of_ends hends).once reply hends
  have hlucky : (l.marked r = true ∧ r.deadline - began ≤ CommandRequest.firstPause) ↔
      ¬ (l.acks.find? r.order.commandId = none ∨ 250 < l.config.commandTimeoutMillis) := by
    rw [hs.short_iff, marked, Option.isSome_iff_ne_none, not_or, Nat.not_lt]
  have hunwell : ∀ reply, .ends c.id reply ∈ ((l.step began e).1.run es).2 → reply ≠ .ok () →
      reply = .error (.timeout r.name) := by
    intro reply hends hne
    rw [houtcome reply hends, CommandRequest.outcome] at hne ⊢
    split
    · rfl
    · rename_i hwell
      rw [if_neg hwell] at hne
      exact absurd rfl hne
  refine ⟨?well, hunwell, ?again, ?soon, ?surely⟩
  case well =>
    intro reply hends
    rw [houtcome reply hends, CommandRequest.outcome]
    split
    · rename_i hunlucky
      exact iff_of_false nofun (hlucky.mp hunlucky)
    · rename_i hwell
      exact iff_of_true rfl (Decidable.not_not.mp (hlucky.not.mp hwell))
  case again =>
    intro reply hends hne
    have hended := hcourse.ended_of_ends hends
    exact hended.leaves _ ((houtcome reply hends).symm.trans (hunwell reply hends hne))
  case soon =>
    intro hopen
    cases hcourse with
    | due h => exact Nat.le_add_right _ _
    | asked h => exact Nat.le_add_right _ _
    | answered h hfrom hto hmarked =>
        rw [hs.wake] at hto
        exact Nat.le_trans hto (Nat.add_le_add_left (Nat.min_le_left _ _) began)
    | dueAgain h hnow hmarked hroom => exact Nat.le_of_eq hnow
    | askedAgain h hnow hmarked hroom => exact Nat.le_of_eq hnow
    | answeredAgain h hnow hmarked hroom => exact Nat.le_of_eq hnow
    | ended h =>
        rw [h.closed] at hopen
        cases hopen
  case surely =>
    intro hcontact
    obtain ⟨more, later, hobliging', hended⟩ := hcourse.ends_after hs hobliging hcontact
    exact ⟨more, later, _, hobliging', hended.ends⟩

theorem inContact_disarmBegun : disarmBegun.InContact where
  vehicle := ⟨⟨1, 1⟩, by decide +kernel⟩
  outlet := ⟨⟨Network.localAddress, 14550⟩, by decide +kernel, fun _ => rfl⟩

/-- The request to disarm has three seconds. It can be sent again after the refusal of the given
up request was expected, and ends well. -/
theorem obliged_request_ends_disarm : ∃ more later,
    Obliging disarmBegun 200 1 .armDisarm more later false ∧
      .ends 1 (.ok ()) ∈ (disarmBegun.run more).2 := by
  have hreached : (beforeContact.run armGivenUp).1.Reached := (Reached.new _ _ _).run _
  obtain ⟨c, hc, hid, r, hr, hnew, hcommand⟩ : ∃ c ∈ disarmBegun.calls, c.id = 1 ∧
      ∃ r ∈ c.stage.request?, (beforeContact.run armGivenUp).1.acks.nextTicket ≤ r.ticket ∧
        r.order.commandId = .armDisarm := by decide +kernel
  have hserved := obliged_request_ends hreached hc hr hnew .begins
  obtain ⟨more, later, reply, hobliging, hends⟩ := hserved.surely inContact_disarmBegun
  have htime : 250 < (beforeContact.run armGivenUp).1.config.commandTimeoutMillis := by
    decide +kernel
  obtain ⟨hended, -⟩ := obliged_request_ends hreached hc hr hnew hobliging
  obtain rfl := (hended reply hends).mpr (.inr htime)
  rw [hid] at hobliging hends
  rw [hcommand] at hobliging
  exact ⟨more, later, hobliging, hends⟩

/-- A configuration in which a command has a quarter of a second. -/
def hurried : Config :=
  ⟨{ LinkConfig.default with commandTimeoutMillis := 250 }, .default, .default, []⟩

/-- The link of that configuration when a request to arm was given up. -/
def armGivenUpHurried : VehicleLink :=
  ((new hurried.link .reliable (some ⟨Network.localAddress, 14550⟩)).run armGivenUp).1

/-- The copter accepts the next request to arm at once, and the request waits until its time is
up. -/
def armAcceptedHurried : List (Instant × Event) :=
  [(200, .move 1), (200, acceptance ⟨1, 1⟩ .armDisarm), (450, .move 1)]

theorem inContact_armBegunHurried :
    (armGivenUpHurried.step 200 (.call 1 .arm)).1.InContact where
  vehicle := ⟨⟨1, 1⟩, by decide +kernel⟩
  outlet := ⟨⟨Network.localAddress, 14550⟩, by decide +kernel, fun _ => rfl⟩

/-- The configuration passes its check, the copter accepts every transmission at once, and the
request ends without an answer. -/
theorem obliged_request_times_out :
    ¬ ∀ (config : Config) network peer before began e c r es now reply, config.check = .ok () →
      c ∈ ((((new config.link network peer).run before).1).step began e).1.calls →
      c.stage.request? = some r →
      ((new config.link network peer).run before).1.acks.nextTicket ≤ r.ticket →
      Obliging (((new config.link network peer).run before).1.step began e).1 began c.id
        r.order.commandId es now false →
      .ends c.id reply ∈ ((((new config.link network peer).run before).1.step began e).1.run es).2 →
      reply = .ok () := by
  intro hclaim
  obtain ⟨c, hc, hid, r, hr, hnew, hcommand⟩ :
      ∃ c ∈ (armGivenUpHurried.step 200 (.call 1 .arm)).1.calls, c.id = 1 ∧
        ∃ r ∈ c.stage.request?, armGivenUpHurried.acks.nextTicket ≤ r.ticket ∧
          r.order.commandId = .armDisarm := by decide +kernel
  have hcheck : hurried.check = .ok () := by decide +kernel
  have hidle : ∀ t, 200 ≤ t → t < 450 → ((armGivenUpHurried.step 200 (.call 1 .arm)).1.run
      [(200, .move 1), (200, acceptance ⟨1, 1⟩ .armDisarm)]).1.isReady 1 t = false := by
    intro t _ ht
    exact decide_eq_false (Nat.not_le_of_lt ht)
  have hobliging : Obliging (armGivenUpHurried.step 200 (.call 1 .arm)).1 200 1 .armDisarm
      armAcceptedHurried 450 false := by
    refine .other (.passes (.answers (.sends .begins ?_ ?_) ?_) ?_ hidle) ?_ ?_ ?_ ?_
    · decide +kernel
    · exact inContact_armBegunHurried.send_ok
    · decide +kernel
    · decide +kernel
    · decide +kernel
    · decide +kernel
    · nofun
    · exact fun _ => ⟨rfl, by decide +kernel⟩
  have hends : .ends 1 (.error (.timeout "arm")) ∈
      ((armGivenUpHurried.step 200 (.call 1 .arm)).1.run armAcceptedHurried).2 :=
    mem_callEnds.mp (by decide +kernel)
  have hreply : (.error (.timeout "arm") : Reply) = .ok () := by
    refine hclaim hurried _ _ armGivenUp _ _ c r armAcceptedHurried 450 _ hcheck hc hr hnew ?_ ?_
    · rw [hid, hcommand]
      exact hobliging
    · rw [hid]
      exact hends
  cases hreply

end VehicleLink

end GroundStation
