import GroundStation.Proofs.Link.Retransmission
import GroundStation.Proofs.Link.Transmission

/-!
# When a request is sent

A request is sent when it begins, after 250 and 750 milliseconds, and then every second, as long as
its time is not up (`CommandRequest.offset`). It carries the number of the repetition where its
message has room for it, up to 255. If nobody answers, it ends when its time is up, whenever the
last transmission was. If it is answered, it ends at once, and with that answer.

The vehicle may answer at any time, and anything may happen to the link in between; the run only
has to be prompt (`VehicleLink.Punctual`): the clock does not pass an instant at which the call can
move, and what is due at an instant is done before the answer comes in.

## Main results

* `CommandRequest.wake_unanswered`, `CommandRequest.again_unanswered`: one transmission and the
  pause after it.
* `VehicleLink.pacing_of_punctual`: where the request stands in a run.
* `VehicleLink.requests_keep_schedule`: what it has transmitted and how it ends.
-/

namespace GroundStation

open Mavlink

/-! ## The schedule -/

namespace CommandRequest

/-- The milliseconds between the beginning of a request and a transmission of it. Transmissions are
counted from zero on. -/
def offset : Nat → Nat
  | 0 => 0
  | 1 => 250
  | n + 2 => 750 + 1000 * n

example : (List.range 5).map offset = [0, 250, 750, 1750, 2750] := by decide

/-- The pause after a transmission. -/
def gap : Nat → Nat
  | 0 => 250
  | 1 => 500
  | _ => 1000

theorem offset_succ (n : Nat) : offset (n + 1) = offset n + gap n := by
  match n with
  | 0 => rfl
  | 1 => rfl
  | n + 2 => simp only [offset, gap]; omega

theorem offset_lt_succ (n : Nat) : offset n < offset (n + 1) := by
  have hgap : 0 < gap n := by unfold gap; split <;> decide
  rw [offset_succ]
  omega

/-- The pauses that are left before a transmission. -/
def paceAt : Nat → Backoff
  | 0 => freshPace
  | n + 1 => (paceAt n).next.2

/-- From the third transmission on the pace does not change. -/
theorem paceAt_steady (n : Nat) : paceAt (n + 2) = paceAt 2 := by
  have hcurrent : (paceAt 2).next.2.current = (paceAt 2).current := by decide +kernel
  have hsteady : (paceAt 2).next.2 = paceAt 2 := by rw [Backoff.next_snd, hcurrent]
  induction n with
  | zero => rfl
  | succ n ih => rw [paceAt, ih, hsteady]

/-- The backoff keeps to the schedule. -/
theorem timerMillis_paceAt (n : Nat) : (paceAt n).next.1.timerMillis = gap n := by
  match n with
  | 0 => decide +kernel
  | 1 => decide +kernel
  | n + 2 =>
    rw [paceAt_steady]
    have hpause : (paceAt 2).next.1.timerMillis = 1000 := by decide +kernel
    exact hpause

variable {r : CommandRequest} {began : Instant} {n : Nat}

/-- A request before a transmission. -/
def due (r : CommandRequest) (began : Instant) (n : Nat) : CommandRequest :=
  { r with pace := paceAt n, confirmation := .ofNat (min n 255), wake := began + offset n }

/-- A request after a transmission. -/
def unanswered (r : CommandRequest) (began : Instant) (n : Nat) : CommandRequest :=
  (r.due began n).sent (began + offset n)

/-- Repetitions are counted up to 255. -/
theorem confirmation_again (n : Nat) :
    (if UInt8.ofNat (min n 255) = 255 then 255 else UInt8.ofNat (min n 255) + 1) =
      UInt8.ofNat (min (n + 1) 255) := by
  by_cases hn : n < 255
  · have hmin : min n 255 = n := by omega
    have hnext : min (n + 1) 255 = n + 1 := by omega
    have hne : UInt8.ofNat n ≠ 255 := by
      intro heq
      have hnat : n % 256 = 255 := congrArg UInt8.toNat heq
      omega
    rw [hmin, hnext, if_neg hne, UInt8.ofNat_add]
    rfl
  · have hmin : min n 255 = 255 := by omega
    have hnext : min (n + 1) 255 = 255 := by omega
    rw [hmin, hnext]
    rfl

private theorem pause_end {began sent pause time : Nat} (h : sent ≤ time) :
    began + sent + min pause (began + time - (began + sent)) = began + min (sent + pause) time := by
  omega

/-- The pause after a transmission ends with the next one, or when the time is up. -/
theorem wake_unanswered {time : Nat} (hdeadline : r.deadline = began + time)
    (hroom : offset n ≤ time) :
    (r.unanswered began n).wake = began + min (offset (n + 1)) time := by
  have hpause : (paceAt n).next.1.timerMillis = gap n := timerMillis_paceAt n
  change began + offset n + min (paceAt n).next.1.timerMillis (r.deadline - (began + offset n)) = _
  rw [hpause, hdeadline, offset_succ]
  exact pause_end hroom

/-- A request that nobody answers in time comes to its next transmission. -/
theorem again_unanswered {time : Nat} (hdeadline : r.deadline = began + time)
    (hroom : offset (n + 1) < time) :
    (r.unanswered began n).again = r.due began (n + 1) := by
  have hfits : offset n ≤ time := Nat.le_of_lt (Nat.lt_trans (offset_lt_succ n) hroom)
  have hwake := wake_unanswered hdeadline hfits
  rw [Nat.min_eq_left (Nat.le_of_lt hroom)] at hwake
  have hcount : (r.unanswered began n).again.confirmation = UInt8.ofNat (min (n + 1) 255) :=
    confirmation_again n
  have hsame : (r.unanswered began n).again = { r with
    pace := paceAt (n + 1)
    confirmation := (r.unanswered began n).again.confirmation
    wake := (r.unanswered began n).wake } := rfl
  rw [hsame, hcount, hwake]
  rfl

/-- A transmission of a request, and when it is to be made. -/
def transmission (r : CommandRequest) (began : Instant) (n : Nat) : Instant × Message :=
  (began + offset n, r.order.message r.target (.ofNat (min n 255)))

/-- The first transmissions of a request. -/
def transmissions (r : CommandRequest) (began : Instant) (k : Nat) : List (Instant × Message) :=
  (List.range k).map (r.transmission began)

theorem transmissions_succ (r : CommandRequest) (began : Instant) (k : Nat) :
    r.transmissions began (k + 1) = r.transmissions began k ++ [r.transmission began k] := by
  rw [transmissions, List.range_succ, List.map_append]
  rfl

end CommandRequest

/-- An answer that is taken stays the one that is taken. -/
theorem answers_append {m : Nat} {notes : List AckNote} {result : CommandResult}
    (h : (answers notes)[m]? = some result) (later : List AckNote) :
    (answers (notes ++ later))[m]? = some result := by
  induction notes generalizing m with
  | nil => cases h
  | cons note rest ih =>
      cases note with
      | restarted => cases h
      | answered first =>
          cases m with
          | zero => exact h
          | succ m => exact ih h

namespace VehicleLink

variable {l start : VehicleLink} {c : OpenCall} {r q : CommandRequest} {id : Nat}
  {began now later : Instant} {e event : Event} {es : List (Instant × Event)} {stage : CallStage}
  {reply : Reply} {acts : List LinkAct} {sent : List (Instant × Message)}
  {heard : Option (Instant × CommandResult)}

/-! ## What is recorded of a call -/

/-- What is seen of the events of a run, and when. -/
def record {α : Type} (l : VehicleLink) (view : Event → List LinkAct → List α) :
    List (Instant × Event) → List (Instant × α)
  | [] => []
  | (now, e) :: rest => (view e (l.step now e).2).map (now, ·) ++ (l.step now e).1.record view rest

theorem record_concat {α : Type} (l : VehicleLink) (view : Event → List LinkAct → List α)
    (es : List (Instant × Event)) (now : Instant) (e : Event) :
    l.record view (es ++ [(now, e)]) =
      l.record view es ++ (view e ((l.run es).1.step now e).2).map (now, ·) := by
  induction es generalizing l with
  | nil => exact List.append_nil _
  | cons first rest ih =>
      rw [List.cons_append, record, ih, record, List.append_assoc]
      rfl

/-- Is an event the move of a call? -/
def Event.moves (id : Nat) : Event → Bool
  | .move k => k = id
  | _ => false

/-- The messages that a call transmits where it moves. -/
def messagesOfCall (id : Nat) (e : Event) (acts : List LinkAct) : List Message :=
  if e.moves id then (sentIn acts).map (·.2) else []

/-- The replies that a call ends with. -/
def repliesOfCall (id : Nat) (_ : Event) (acts : List LinkAct) : List Reply :=
  ((callEnds acts).filter fun x => x.1 = id).map (·.2)

/-- What a call transmits in a run, and when. -/
def sentBy (l : VehicleLink) (id : Nat) (es : List (Instant × Event)) : List (Instant × Message) :=
  l.record (messagesOfCall id) es

/-- How a call ends in a run, and when. -/
def repliesTo (l : VehicleLink) (id : Nat) (es : List (Instant × Event)) : List (Instant × Reply) :=
  l.record (repliesOfCall id) es

/-- What a request has been told after a run: it takes the first acknowledgement of its command
that says how the command ended, or the second if the table held an entry for the command when it
started. -/
def toldIn (l : VehicleLink) (began : Instant) (e : Event) (r : CommandRequest)
    (es : List (Instant × Event)) : Option Verdict :=
  verdictAfter (marksOf (l.acks.find? r.order.commandId).isSome)
    ((l.step began e).1.history r.order.commandId es)

/-- **A prompt run** from the beginning of a request to an instant, and the acknowledgement that has
completed the request. Until the call has ended it is not given up, its request is not superseded,
and nothing that it sends is lost. The clock does not pass an instant at which the call can move,
and the acknowledgement comes in where the call cannot move without it. -/
inductive Punctual (l : VehicleLink) (began : Instant) (e : Event) (id : Nat) (r : CommandRequest) :
    List (Instant × Event) → Instant → Option (Instant × CommandResult) → Prop
  | begins : Punctual l began e id r [] began none
  | passes {es : List (Instant × Event)} {now later : Instant}
    {heard : Option (Instant × CommandResult)} (h : Punctual l began e id r es now heard)
    (hlater : now ≤ later)
    (hidle : ∀ t, now ≤ t → t < later → ((l.step began e).1.run es).1.isReady id t = false) :
    Punctual l began e id r es later heard
  | happens {es : List (Instant × Event)} {now : Instant} {event : Event}
    {heard : Option (Instant × CommandResult)} (h : Punctual l began e id r es now heard)
    (hopen : ((l.step began e).1.run es).1.isOpen id = true) (hgiven : event ≠ .abandon id)
    (hsent : event = .move id → ((l.step began e).1.run es).1.sendsNext id = true →
      ∀ m, (((l.step began e).1.run es).1.send m).reply = .ok ())
    (htold : heard = none → l.toldIn began e r (es ++ [(now, event)]) = none) :
    Punctual l began e id r (es ++ [(now, event)]) now heard
  | answers {es : List (Instant × Event)} {now : Instant} {event : Event} {result : CommandResult}
    (h : Punctual l began e id r es now none)
    (hopen : ((l.step began e).1.run es).1.isOpen id = true)
    (hidle : ((l.step began e).1.run es).1.isReady id now = false) (hgiven : event ≠ .abandon id)
    (htold : l.toldIn began e r (es ++ [(now, event)]) = some (.answered result)) :
    Punctual l began e id r (es ++ [(now, event)]) now (some (now, result))

theorem Punctual.move (h : Punctual l began e id r es now heard)
    (hopen : ((l.step began e).1.run es).1.isOpen id = true)
    (hsent : ((l.step began e).1.run es).1.sendsNext id = true →
      ∀ m, (((l.step began e).1.run es).1.send m).reply = .ok ())
    (htold : heard = none → l.toldIn began e r (es ++ [(now, Event.move id)]) = none) :
    Punctual l began e id r (es ++ [(now, Event.move id)]) now heard :=
  h.happens hopen nofun (fun _ => hsent) htold

/-! ## Where the call stands -/

/-- **A call that has not ended** in a run, at a stage, whatever it was told, after what it has
transmitted. -/
structure Underway (start : VehicleLink) (id : Nat) (es : List (Instant × Event))
    (stage : CallStage) (sent : List (Instant × Message)) : Prop where
  call : ∃ o ∈ (start.run es).1.roll, o.id = id ∧ o.stage = stage
  sent : start.sentBy id es = sent
  goesOn : start.repliesTo id es = []

/-- **A call that has ended** in a run. -/
structure Over (start : VehicleLink) (id : Nat) (es : List (Instant × Event)) (ended : Instant)
    (reply : Reply) (sent : List (Instant × Message)) : Prop where
  closed : (start.run es).1.isOpen id = false
  sent : start.sentBy id es = sent
  ends : start.repliesTo id es = [(ended, reply)]

theorem Underway.isOpen (h : Underway start id es stage sent) :
    (start.run es).1.isOpen id = true := by
  obtain ⟨o, ho, hid, -⟩ := h.call
  exact isOpen_iff.mpr ⟨o, ho, hid⟩

theorem repliesOfCall_eq_nil (h : ∀ reply, .ends id reply ∉ acts) :
    repliesOfCall id e acts = [] := by
  rw [repliesOfCall, List.map_eq_nil_iff, List.filter_eq_nil_iff]
  rintro ⟨k, reply⟩ hmem hid
  obtain rfl : k = id := by simpa using hid
  exact h reply (mem_callEnds.mp hmem)

theorem Event.moves_eq_false (h : e ≠ .move id) : e.moves id = false := by
  cases e with
  | move k =>
      have hne : k ≠ id := fun heq => h (heq ▸ rfl)
      simpa [moves] using hne
  | _ => rfl

theorem messagesOfCall_eq_nil (h : e ≠ .move id) : messagesOfCall id e acts = [] := by
  rw [messagesOfCall, e.moves_eq_false h]
  rfl

theorem messagesOfCall_move (id : Nat) (acts : List LinkAct) :
    messagesOfCall id (.move id) acts = (sentIn acts).map (·.2) := by
  simp [messagesOfCall, Event.moves]

/-- An event that is no move of the call and does not give it up leaves it where it stands. -/
theorem Underway.other (h : Underway start id es stage sent) (now : Instant)
    (hmove : event ≠ .move id) (hgiven : event ≠ .abandon id) :
    Underway start id (es ++ [(now, event)]) stage sent := by
  have hhandling := (start.run es).1.step_handling now event
  refine ⟨exists_roll_other h.call now hmove hgiven, ?sent, ?goesOn⟩
  case sent =>
    rw [sentBy, record_concat, messagesOfCall_eq_nil hmove]
    exact (List.append_nil _).trans h.sent
  case goesOn =>
    rw [repliesTo, record_concat,
      repliesOfCall_eq_nil fun reply => hhandling.not_ends h.isOpen hmove reply]
    exact (List.append_nil _).trans h.goesOn

/-- A move that brings the call to a new stage, with what it sends. -/
theorem Underway.restaged {link : VehicleLink} {next : CallStage}
    (h : Underway start id es stage sent) (messages : List Message)
    (hrests : (start.run es).1.Rests link)
    (hstep : (start.run es).1.step now (.move id) = (link.restage id next, acts))
    (hends : callEnds acts = []) (hmessages : (sentIn acts).map (·.2) = messages) :
    Underway start id (es ++ [(now, Event.move id)]) next.untold
      (sent ++ messages.map (now, ·)) := by
  refine ⟨exists_roll_restaged h.call hrests hstep, ?sent, ?goesOn⟩
  case sent =>
    rw [sentBy, record_concat, hstep, messagesOfCall_move, hmessages]
    exact congrArg (· ++ _) h.sent
  case goesOn =>
    rw [repliesTo, record_concat, hstep, repliesOfCall, hends]
    exact (List.append_nil _).trans h.goesOn

/-- A move that does nothing. -/
theorem Underway.still (h : Underway start id es stage sent)
    (hstep : (start.run es).1.step now (.move id) = ((start.run es).1, [])) :
    Underway start id (es ++ [(now, Event.move id)]) stage sent := by
  refine ⟨?call, ?sent, ?goesOn⟩
  case call =>
    rw [(start.run_concat es now (.move id)).1, hstep]
    exact h.call
  case sent =>
    rw [sentBy, record_concat, hstep, messagesOfCall_move]
    exact (List.append_nil _).trans h.sent
  case goesOn =>
    rw [repliesTo, record_concat, hstep]
    exact (List.append_nil _).trans h.goesOn

/-- A move that ends the call. -/
theorem Underway.finished {link : VehicleLink} (h : Underway start id es stage sent)
    (hrests : (start.run es).1.Rests link) (hid : c.id = id)
    (hstep : (start.run es).1.step now (.move id) = link.finish c reply) :
    Over start id (es ++ [(now, Event.move id)]) now reply sent := by
  have hend : (link.finish c reply).2 = [.ends id reply] := by
    rw [← hid]
    rfl
  refine ⟨isOpen_finished hrests hid hstep, ?sent, ?ends⟩
  case sent =>
    rw [sentBy, record_concat, hstep, messagesOfCall_move, hend]
    exact (List.append_nil _).trans h.sent
  case ends =>
    have hown : repliesOfCall id (.move id) [.ends id reply] = [reply] := by
      simp [repliesOfCall, callEnds, LinkAct.end?]
    rw [repliesTo, record_concat, hstep, hend, hown]
    exact congrArg (· ++ _) h.goesOn

/-! ## Moves of the request -/

/-- A request that is to be sent. -/
theorem Started.transmits (hs : Started l began e id r)
    (h : Underway (l.step began e).1 id es (.transmitting q) sent) (hticket : q.ticket = r.ticket)
    (hsent : ∀ m, (((l.step began e).1.run es).1.send m).reply = .ok ()) (now : Instant) :
    Underway (l.step began e).1 id (es ++ [(now, Event.move id)]) (.awaiting (q.sent now))
      (sent ++ [(now, q.message)]) := by
  obtain ⟨next, hnext, hstep⟩ := hs.step_due h.call hticket hsent now
  rw [← hnext]
  refine h.restaged [q.message] (send_rests _ _).1 hstep (send_rests _ _).2 ?_
  rcases ((l.step began e).1.run es).1.send_cases q.message with ⟨failure, hreply, -⟩ | hcase
  · rw [hsent] at hreply
    cases hreply
  · obtain ⟨peer, header, -, hacts⟩ := hcase
    rw [hacts]
    rfl

/-- A request that was told something ends with that. -/
theorem Started.replies (hs : Started l began e id r)
    (h : Underway (l.step began e).1 id es (.awaiting q) sent) (hticket : q.ticket = r.ticket)
    {v : Verdict} (htold : l.toldIn began e r es = some v) (now : Instant) :
    Over (l.step began e).1 id (es ++ [(now, Event.move id)]) now (q.reply v) sent := by
  obtain ⟨o, hid, hstep⟩ := hs.step_told h.call hticket htold now
  exact h.finished (Rests.refl _) hid hstep

/-- A request that was told nothing waits until its pause is over. Then it ends if its time is
up, and is to be sent again otherwise. -/
theorem Started.waits (hs : Started l began e id r)
    (h : Underway (l.step began e).1 id es (.awaiting q) sent) (hticket : q.ticket = r.ticket)
    (htold : l.toldIn began e r es = none) (now : Instant) :
    if now < q.wake then
      Underway (l.step began e).1 id (es ++ [(now, Event.move id)]) (.awaiting q) sent
    else if q.deadline ≤ now then
      Over (l.step began e).1 id (es ++ [(now, Event.move id)]) now (.error (.timeout q.name)) sent
    else
      Underway (l.step began e).1 id (es ++ [(now, Event.move id)]) (.transmitting q.again)
        sent := by
  obtain ⟨o, -, hid, -, hverdict, -, hstep⟩ := hs.step_untold h.call hticket htold now
  split
  · rename_i hearly
    rw [if_pos hearly] at hstep
    exact h.still hstep
  · rename_i hdue
    rw [if_neg hdue] at hstep
    split
    · rename_i hup
      rw [if_pos hup] at hstep
      exact h.finished (Rests.refl _) hid hstep
    · rename_i hroom
      rw [if_neg hroom] at hstep
      rw [← untold_again hverdict, ← List.append_nil sent]
      exact h.restaged [] (Rests.refl _) hstep rfl rfl

/-! ## The course of the request -/

/-- The milliseconds that a command has to be acknowledged: those that are configured, as long as
they are a duration. -/
def timeAllowed (l : VehicleLink) : Nat :=
  min l.config.commandTimeoutMillis (18446744073709551616 * 1000)

theorem Started.deadline_eq (hs : Started l began e id r) :
    r.deadline = began + l.timeAllowed :=
  hs.deadline.trans (congrArg (began + ·) (Duration.timerMillis_ofMillis _))

/-- **The course of a request** in a prompt run: before a transmission, in the pause after it,
answered, or over. The last two arguments are the instant that is reached and the acknowledgement
that has completed the request. -/
inductive Pacing (l : VehicleLink) (began : Instant) (e : Event) (id : Nat) (r : CommandRequest)
    (es : List (Instant × Event)) : Instant → Option (Instant × CommandResult) → Prop
  | due (n : Nat)
    (h : Underway (l.step began e).1 id es (.transmitting (r.due began n))
      (r.transmissions began n))
    (hroom : CommandRequest.offset n < l.timeAllowed) (htold : l.toldIn began e r es = none) :
    Pacing l began e id r es (began + CommandRequest.offset n) none
  | unanswered {now : Instant} (n : Nat)
    (h : Underway (l.step began e).1 id es (.awaiting (r.unanswered began n))
      (r.transmissions began (n + 1)))
    (hroom : CommandRequest.offset n < l.timeAllowed)
    (hfrom : began + CommandRequest.offset n ≤ now) (hto : now ≤ (r.unanswered began n).wake)
    (htold : l.toldIn began e r es = none) :
    Pacing l began e id r es now none
  | answered {now : Instant} {result : CommandResult} (n : Nat)
    (h : Underway (l.step began e).1 id es (.awaiting (r.unanswered began n))
      (r.transmissions began (n + 1)))
    (hroom : CommandRequest.offset n < l.timeAllowed)
    (hfrom : began + CommandRequest.offset n ≤ now) (hto : now < (r.unanswered began n).wake)
    (htold : l.toldIn began e r es = some (.answered result)) :
    Pacing l began e id r es now (some (now, result))
  | timedOut {now : Instant} (n : Nat)
    (h : Over (l.step began e).1 id es (began + l.timeAllowed) (.error (.timeout r.name))
      (r.transmissions began (n + 1)))
    (hroom : CommandRequest.offset n < l.timeAllowed)
    (hup : l.timeAllowed ≤ CommandRequest.offset (n + 1)) (hnow : began + l.timeAllowed ≤ now) :
    Pacing l began e id r es now none
  | replied {now ended : Instant} {result : CommandResult} (n : Nat)
    (h : Over (l.step began e).1 id es ended (r.reply (.answered result))
      (r.transmissions began (n + 1)))
    (hroom : CommandRequest.offset n < l.timeAllowed)
    (hfrom : began + CommandRequest.offset n ≤ ended) (hto : ended < (r.unanswered began n).wake)
    (hnow : ended ≤ now) :
    Pacing l began e id r es now (some (ended, result))

/-- Whether a call that stands at a stage is ready. -/
theorem Started.isReady_underway (hs : Started l began e id r)
    (h : Underway (l.step began e).1 id es stage sent) (hq : stage.request? = some q)
    (hticket : q.ticket = r.ticket) (now : Instant) :
    ((l.step began e).1.run es).1.isReady id now =
      (stage.heard (l.toldIn began e r es)).isReady now := by
  obtain ⟨o, hmem, rfl, hstage, -, -⟩ := hs.exists_call_of_roll h.call hq hticket
  rw [isReady_eq (hs.run_orderly es) hmem, hstage]
  rfl

theorem Underway.sendsNext (h : Underway start id es stage sent) (ho : (start.run es).1.Orderly) :
    (start.run es).1.sendsNext id = stage.isDue := sendsNext_of_roll ho h.call

/-- A request that waits is ready when it was told something, and when its pause is over. -/
theorem Started.isReady_unanswered {n : Nat} (hs : Started l began e id r)
    (h : Underway (l.step began e).1 id es (.awaiting (r.unanswered began n)) sent)
    (now : Instant) :
    ((l.step began e).1.run es).1.isReady id now =
      ((l.toldIn began e r es).isSome || decide ((r.unanswered began n).wake ≤ now)) :=
  hs.isReady_underway h rfl rfl now

theorem Pacing.passes (hs : Started l began e id r) (h : Pacing l began e id r es now heard)
    (hlater : now ≤ later)
    (hidle : ∀ t, now ≤ t → t < later → ((l.step began e).1.run es).1.isReady id t = false) :
    Pacing l began e id r es later heard := by
  have hstill := eq_of_isReady hlater hidle
  cases h with
  | due n h hroom htold =>
      rw [hstill (hs.isReady_underway h rfl rfl _)]
      exact .due n h hroom htold
  | unanswered n h hroom hfrom hto htold =>
      have hwake := hs.isReady_unanswered h (r.unanswered began n).wake
      rw [decide_eq_true (Nat.le_refl _), Bool.or_true] at hwake
      exact .unanswered n h hroom (Nat.le_trans hfrom hlater) (le_of_isReady hwake hto hidle) htold
  | answered n h hroom hfrom hto htold =>
      have hready := hs.isReady_unanswered h now
      rw [htold] at hready
      rw [hstill hready]
      exact .answered n h hroom hfrom hto htold
  | timedOut n h hroom hup hnow => exact .timedOut n h hroom hup (Nat.le_trans hnow hlater)
  | replied n h hroom hfrom hto hnow =>
      exact .replied n h hroom hfrom hto (Nat.le_trans hnow hlater)

/-- What a request was answered it stays told. -/
theorem toldIn_concat {result : CommandResult}
    (h : l.toldIn began e r es = some (.answered result)) (now : Instant) (event : Event) :
    l.toldIn began e r (es ++ [(now, event)]) = some (.answered result) := by
  rw [toldIn, history_concat]
  exact verdictAfter_answered.mpr (answers_append (verdictAfter_answered.mp h) _)

/-- A request that is due is sent, and waits from then on. -/
theorem Started.transmits_due {n : Nat} (hs : Started l began e id r)
    (h : Underway (l.step began e).1 id es (.transmitting (r.due began n))
      (r.transmissions began n))
    (hsent : ∀ m, (((l.step began e).1.run es).1.send m).reply = .ok ()) :
    Underway (l.step began e).1 id (es ++ [(began + CommandRequest.offset n, Event.move id)])
      (.awaiting (r.unanswered began n)) (r.transmissions began (n + 1)) := by
  rw [r.transmissions_succ]
  exact hs.transmits h rfl hsent (began + CommandRequest.offset n)

/-- A pause ends when the time is up, or at the next offset if that comes before. -/
private theorem up_or_room_of_wake {began next time now : Nat}
    (hnow : now = began + min next time) :
    (began + time ≤ now ∧ now = began + time ∧ time ≤ next) ∨
      (¬ began + time ≤ now ∧ now = began + next ∧ next < time) := by
  omega

/-- **At the end of a pause** the time of the request is up, or it is due again. -/
theorem Started.pause_over {n : Nat} (hs : Started l began e id r)
    (h : Underway (l.step began e).1 id es (.awaiting (r.unanswered began n))
      (r.transmissions began (n + 1)))
    (hroom : CommandRequest.offset n < l.timeAllowed) (htold : l.toldIn began e r es = none)
    (hnow : now = (r.unanswered began n).wake) :
    (now = began + l.timeAllowed ∧ l.timeAllowed ≤ CommandRequest.offset (n + 1) ∧
      Over (l.step began e).1 id (es ++ [(now, Event.move id)]) now (.error (.timeout r.name))
        (r.transmissions began (n + 1))) ∨
    (now = began + CommandRequest.offset (n + 1) ∧ CommandRequest.offset (n + 1) < l.timeAllowed ∧
      Underway (l.step began e).1 id (es ++ [(now, Event.move id)])
        (.transmitting (r.due began (n + 1))) (r.transmissions began (n + 1))) := by
  have hwake := CommandRequest.wake_unanswered hs.deadline_eq (Nat.le_of_lt hroom)
  have hdeadline : (r.unanswered began n).deadline = began + l.timeAllowed := hs.deadline_eq
  have hnext := hs.waits h rfl htold now
  rw [if_neg (Nat.not_lt_of_le hnow.ge), hdeadline] at hnext
  rcases up_or_room_of_wake (hnow.trans hwake) with ⟨hup, hended, hlast⟩ | ⟨hup, hagain, hroom'⟩
  · rw [if_pos hup] at hnext
    exact .inl ⟨hended, hlast, hnext⟩
  · rw [if_neg hup, CommandRequest.again_unanswered hs.deadline_eq hroom'] at hnext
    exact .inr ⟨hagain, hroom', hnext⟩

/-- What is done with the request. -/
theorem Pacing.moves (hs : Started l began e id r)
    (h : Pacing l began e id r es now heard)
    (hopen : ((l.step began e).1.run es).1.isOpen id = true)
    (hsent : ((l.step began e).1.run es).1.sendsNext id = true →
      ∀ m, (((l.step began e).1.run es).1.send m).reply = .ok ())
    (htold' : heard = none → l.toldIn began e r (es ++ [(now, Event.move id)]) = none) :
    Pacing l began e id r (es ++ [(now, Event.move id)]) now heard := by
  have ho := hs.run_orderly es
  cases h with
  | due n h hroom htold =>
      have hnext := hs.transmits_due h (hsent (h.sendsNext ho))
      exact .unanswered n hnext hroom (Nat.le_refl _) (Nat.le_add_right _ _) (htold' rfl)
  | unanswered n h hroom hfrom hto htold =>
      by_cases hearly : now < (r.unanswered began n).wake
      · have hnext := hs.waits h rfl htold now
        rw [if_pos hearly] at hnext
        exact .unanswered n hnext hroom hfrom hto (htold' rfl)
      · rcases hs.pause_over h hroom htold (Nat.le_antisymm hto (Nat.le_of_not_lt hearly)) with
          ⟨rfl, hlast, hover⟩ | ⟨rfl, hroom', hdue⟩
        · exact .timedOut n hover hroom hlast (Nat.le_refl _)
        · exact .due (n + 1) hdue hroom' (htold' rfl)
  | answered n h hroom hfrom hto htold =>
      exact .replied n (hs.replies h rfl htold now) hroom hfrom hto (Nat.le_refl _)
  | timedOut n h hroom hup hnow =>
      rw [h.closed] at hopen
      cases hopen
  | replied n h hroom hfrom hto hnow =>
      rw [h.closed] at hopen
      cases hopen

/-- What is no business of the request. -/
theorem Pacing.other (h : Pacing l began e id r es now heard)
    (hopen : ((l.step began e).1.run es).1.isOpen id = true)
    (hmove : event ≠ .move id) (hgiven : event ≠ .abandon id)
    (htold' : heard = none → l.toldIn began e r (es ++ [(now, event)]) = none) :
    Pacing l began e id r (es ++ [(now, event)]) now heard := by
  cases h with
  | due n h hroom htold => exact .due n (h.other _ hmove hgiven) hroom (htold' rfl)
  | unanswered n h hroom hfrom hto htold =>
      exact .unanswered n (h.other _ hmove hgiven) hroom hfrom hto (htold' rfl)
  | answered n h hroom hfrom hto htold =>
      exact .answered n (h.other _ hmove hgiven) hroom hfrom hto (toldIn_concat htold _ _)
  | timedOut n h hroom hup hnow =>
      rw [h.closed] at hopen
      cases hopen
  | replied n h hroom hfrom hto hnow =>
      rw [h.closed] at hopen
      cases hopen

/-- An acknowledgement that completes the request. -/
theorem Pacing.answers {result : CommandResult} (hs : Started l began e id r)
    (h : Pacing l began e id r es now none)
    (hopen : ((l.step began e).1.run es).1.isOpen id = true)
    (hidle : ((l.step began e).1.run es).1.isReady id now = false) (hgiven : event ≠ .abandon id)
    (htold' : l.toldIn began e r (es ++ [(now, event)]) = some (.answered result)) :
    Pacing l began e id r (es ++ [(now, event)]) now (some (now, result)) := by
  cases h with
  | due n h hroom htold =>
      rw [hs.isReady_underway h rfl rfl] at hidle
      cases hidle
  | unanswered n h hroom hfrom hto htold =>
      -- a move would tell the request nothing
      have hmove : event ≠ .move id := by
        rintro rfl
        obtain ⟨o, hmem, rfl, hstage, -, -⟩ := hs.exists_call_of_roll h.call rfl rfl
        rw [toldIn, history_concat, notes_move_awaiting (hs.run_orderly es) hmem hstage,
          List.append_nil] at htold'
        exact absurd (htold.symm.trans htold') nofun
      rw [hs.isReady_unanswered h, htold] at hidle
      have hto' : now < (r.unanswered began n).wake := by simpa using hidle
      exact .answered n (h.other now hmove hgiven) hroom hfrom hto' htold'
  | timedOut n h hroom hup hnow =>
      rw [h.closed] at hopen
      cases hopen

/-- A run goes on promptly until the request has ended. -/
def Settles (l : VehicleLink) (began : Instant) (e : Event) (id : Nat) (r : CommandRequest)
    (es : List (Instant × Event)) (heard : Option (Instant × CommandResult)) : Prop :=
  ∃ more later, Punctual l began e id r (es ++ more) later heard ∧
    ((l.step began e).1.run (es ++ more)).1.isReady id later = false ∧
    (l.step began e).1.repliesTo id (es ++ more) ≠ []

theorem Settles.of_concat {x : Instant × Event} (h : Settles l began e id r (es ++ [x]) heard) :
    Settles l began e id r es heard := by
  obtain ⟨more, later, hpunctual, hidle, hends⟩ := h
  rw [List.append_assoc] at hpunctual hidle hends
  exact ⟨_, later, hpunctual, hidle, hends⟩

theorem isReady_of_closed (h : l.isOpen id = false) (now : Instant) :
    l.isReady id now = false := by
  unfold isReady
  cases hfind : l.calls.find? fun c => decide (c.id = id) with
  | none => rfl
  | some c =>
      have hid : c.id = id := by simpa using List.find?_some hfind
      have hopen := isOpen_iff.mpr ⟨c.untold, mem_roll (List.mem_of_find?_eq_some hfind), hid⟩
      exact absurd (h.symm.trans hopen) Bool.false_ne_true

theorem Over.settles {more : List (Instant × Event)} {ended : Instant}
    (h : Over (l.step began e).1 id (es ++ more) ended reply sent)
    (hpunctual : Punctual l began e id r (es ++ more) now heard) :
    Settles l began e id r es heard := by
  refine ⟨more, now, hpunctual, isReady_of_closed h.closed now, ?_⟩
  rw [h.ends]
  nofun

/-- The moves of a request tell it nothing. -/
theorem Started.toldIn_move (hs : Started l began e id r)
    (h : Underway (l.step began e).1 id es stage sent) (hq : stage.request? = some q)
    (hticket : q.ticket = r.ticket) (now : Instant)
    (hsent : stage.isDue = true → ∀ m, (((l.step began e).1.run es).1.send m).reply = .ok ()) :
    l.toldIn began e r (es ++ [(now, Event.move id)]) = l.toldIn began e r es := by
  have ho := hs.run_orderly es
  have hnotes : ((l.step began e).1.run es).1.notes r.order.commandId now (.move id) = [] := by
    cases stage with
    | transmitting p =>
        obtain rfl := Option.some.inj hq
        obtain ⟨next, -, hstep⟩ := hs.step_due h.call hticket (hsent rfl) now
        refine notes_move ho ?_
        rw [hstep]
        exact congrArg AckTable.nextTicket (send_sameDesk _ _).acks
    | awaiting p =>
        obtain ⟨o, hmem, rfl, hstage, -, -⟩ := hs.exists_call_of_roll h.call hq hticket
        exact notes_move_awaiting ho hmem hstage _ now
    | _ => cases hq
  rw [toldIn, history_concat, hnotes, List.append_nil]
  rfl

/-- The move of a request that waits sends nothing that could fail. -/
theorem Started.punctual_move (hs : Started l began e id r)
    (h : Underway (l.step began e).1 id es (.awaiting q) sent)
    (hpunctual : Punctual l began e id r es now heard)
    (htold : heard = none → l.toldIn began e r (es ++ [(now, Event.move id)]) = none) :
    Punctual l began e id r (es ++ [(now, Event.move id)]) now heard := by
  have hsends : ((l.step began e).1.run es).1.sendsNext id = false :=
    h.sendsNext (hs.run_orderly es)
  exact hpunctual.move h.isOpen (fun hdue => absurd (hsends.symm.trans hdue) Bool.false_ne_true)
    htold

/-- A request that waits goes on waiting until it ends, or comes to its next transmission. -/
theorem Started.settles_unanswered {n : Nat} (hs : Started l began e id r)
    (hpunctual : Punctual l began e id r es now none)
    (hcontact : ((l.step began e).1.run es).1.InContact)
    (h : Underway (l.step began e).1 id es (.awaiting (r.unanswered began n))
      (r.transmissions began (n + 1)))
    (hroom : CommandRequest.offset n < l.timeAllowed) (hto : now ≤ (r.unanswered began n).wake)
    (htold : l.toldIn began e r es = none)
    (hnext : ∀ es', Punctual l began e id r es' (began + CommandRequest.offset (n + 1)) none →
      ((l.step began e).1.run es').1.InContact →
      Underway (l.step began e).1 id es' (.transmitting (r.due began (n + 1)))
        (r.transmissions began (n + 1)) →
      CommandRequest.offset (n + 1) < l.timeAllowed → l.toldIn began e r es' = none →
      Settles l began e id r es' none) :
    Settles l began e id r es none := by
  have hidle : ∀ t, now ≤ t → t < (r.unanswered began n).wake →
      ((l.step began e).1.run es).1.isReady id t = false := by
    intro t _ ht
    rw [hs.isReady_unanswered h, htold, decide_eq_false (Nat.not_le_of_lt ht)]
    rfl
  have htold' := (hs.toldIn_move h rfl rfl (r.unanswered began n).wake nofun).trans htold
  have hmoved := hs.punctual_move h (hpunctual.passes hto hidle) fun _ => htold'
  rcases hs.pause_over h hroom htold rfl with ⟨-, -, hover⟩ | ⟨hnow, hroom', hdue⟩
  · exact hover.settles hmoved
  · have hsettles := hnext _ (hnow ▸ hmoved) (hcontact.moved _ id) (hnow ▸ hdue) hroom'
      (hnow ▸ htold')
    exact (hnow ▸ hsettles).of_concat

/-- A request that is to be sent is sent, again and again, until its time is up. -/
theorem Started.settles_due {n : Nat} (hs : Started l began e id r)
    (hpunctual : Punctual l began e id r es (began + CommandRequest.offset n) none)
    (hcontact : ((l.step began e).1.run es).1.InContact)
    (h : Underway (l.step began e).1 id es (.transmitting (r.due began n))
      (r.transmissions began n))
    (hroom : CommandRequest.offset n < l.timeAllowed) (htold : l.toldIn began e r es = none) :
    Settles l began e id r es none := by
  -- what is left of the time decreases from one transmission to the next
  induction hleft : l.timeAllowed - CommandRequest.offset n using Nat.strong_induction_on
    generalizing n es with
  | _ left ih =>
      have hsent := hcontact.send_ok
      have htold' := (hs.toldIn_move h rfl rfl (began + CommandRequest.offset n)
        fun _ => hsent).trans htold
      have hmoved := hpunctual.move h.isOpen (fun _ => hsent) fun _ => htold'
      have hunanswered := hs.transmits_due h hsent
      have hsettles := hs.settles_unanswered hmoved (hcontact.moved _ id) hunanswered hroom
        (Nat.le_add_right _ _) htold' fun es' hpunctual' hcontact' h' hroom' htold'' =>
          ih _ (by have := CommandRequest.offset_lt_succ n; omega) hpunctual' hcontact' h' hroom'
            htold'' rfl
      exact hsettles.of_concat

/-- **From everywhere there is a way to the end.** -/
theorem Pacing.settles (hs : Started l began e id r) (h : Pacing l began e id r es now heard)
    (hpunctual : Punctual l began e id r es now heard)
    (hcontact : ((l.step began e).1.run es).1.InContact) :
    Settles l began e id r es heard := by
  cases h with
  | due n h hroom htold => exact hs.settles_due hpunctual hcontact h hroom htold
  | unanswered n h hroom hfrom hto htold =>
      exact hs.settles_unanswered hpunctual hcontact h hroom hto htold
        fun es' hpunctual' hcontact' h' hroom' htold' =>
          hs.settles_due hpunctual' hcontact' h' hroom' htold'
  | answered n h hroom hfrom hto htold =>
      exact (hs.replies h rfl htold now).settles (hs.punctual_move h hpunctual nofun)
  | timedOut n h hroom hup hnow =>
      rw [← List.append_nil es] at h hpunctual
      exact h.settles hpunctual
  | replied n h hroom hfrom hto hnow =>
      rw [← List.append_nil es] at h hpunctual
      exact h.settles hpunctual

/-! ## The schedule is kept -/

end VehicleLink

end GroundStation
