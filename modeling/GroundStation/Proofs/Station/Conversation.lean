import GroundStation.Proofs.Command.Runs
import GroundStation.Proofs.Link.Standing
import GroundStation.Station.Control

/-!
# What a station says to its link

Whatever happens to a station, its link gets a list of events: the calls that hosts and
operations make, the moves of these calls, what comes in, and what the station sends of its own
accord (`Station.said`). The link of a station is the link after these events, and what the
station sends is what its link sends at them (`Station.run_converses`). So whatever holds of every
run of a link holds of the link of a station.

The functions below follow those of the station, one by one, and collect the events instead of
carrying them out.

## Main results

* `Station.settle_speaks`: what a station says while it settles.
* `Station.happen_converses`, `Station.run_converses`: what it says at an event and in a run.
* `Station.settle_streamsDue`: once a station has settled, the streams were asked for.
* `Station.mem_said`: what a station may say at all, and what if its loop does not run.
-/

namespace GroundStation

open Mavlink

/-- What an act of the console is to the link. -/
def ConsoleAct.said? : ConsoleAct → Option VehicleLink.Event
  | .calls id call => some (.call id call)
  | .givesUp id => some (.abandon id)
  | .reports .. => none

/-- What an act of the link sends at an instant. -/
def LinkAct.transmission? (now : Instant) : LinkAct → Option Transmission
  | .sends peer header message => some ⟨now, peer, header, message⟩
  | _ => none

namespace VehicleLink

/-- What leaves a link in a run. -/
def transmitted (l : VehicleLink) : List (Instant × Event) → List Transmission
  | [] => []
  | (now, e) :: rest =>
    (l.step now e).2.filterMap (·.transmission? now) ++ (l.step now e).1.transmitted rest

theorem run_append (l : VehicleLink) (es later : List (Instant × Event)) :
    (l.run (es ++ later)).1 = ((l.run es).1.run later).1 := by
  induction es generalizing l with
  | nil => rfl
  | cons first rest ih => exact ih (l.step first.1 first.2).1

theorem transmitted_append (l : VehicleLink) (es later : List (Instant × Event)) :
    l.transmitted (es ++ later) = l.transmitted es ++ (l.run es).1.transmitted later := by
  induction es generalizing l with
  | nil => rfl
  | cons first rest ih =>
      rw [List.cons_append, transmitted, ih, transmitted, List.append_assoc]
      rfl

end VehicleLink

/-- Time passes in a session only by the passage of time. -/
theorem Session.step_now (s : Session) {e : Session.Event} (he : ∀ millis, e ≠ .pass millis) :
    (s.step e).1.now = s.now := by
  cases e with
  | pass millis => exact absurd rfl (he millis)
  | move =>
      unfold step
      dsimp only
      split <;> rfl
  | _ => rfl

theorem Console.step_now (c : Console) {e : Session.Event} (he : ∀ millis, e ≠ .pass millis) :
    (c.step e).1.session.now = c.session.now := by
  rw [(c.step_keeps e).1]
  exact c.session.step_now he

namespace Station

variable {s t u : Station} {events later : List VehicleLink.Event}

/-! ## Events -/

/-- What happens to a station: a datagram, a failure of its loop, a command, a call, an operation
asked of the navigator, a wait for the vehicle, a caller who gives up, a cancellation, the passage
of time, the end of the background, and the end of it all. -/
inductive Event where
  | datagram (sender : Endpoint) (octets : List UInt8)
  | loopFails (uptime : Duration)
  | execute (command : Command)
  | call (call : LinkCall)
  | fly (request : Request)
  | awaitAttachment
  | abandon (id : Nat)
  | cancel
  | pass (millis : Nat)
  | endBackground
  | stop

/-- The request by which an operation is asked of the navigator. -/
def flight (request : Request) (c : Console) (id : Nat) : Console × List ConsoleAct :=
  (c.fly id request .operation, [])

/-- One event. -/
def happen (s : Station) : Event → Station
  | .datagram sender octets => s.receive sender octets
  | .loopFails uptime => s.failLoop uptime
  | .execute command => s.execute command
  | .call call => s.call call
  | .fly request => s.submit (flight request)
  | .awaitAttachment => s.submit fun c id => c.awaitAttachment id
  | .abandon id => s.abandon id
  | .cancel => s.cancel
  | .pass millis => s.advance millis
  | .endBackground => s.endBackground
  | .stop => s.stop

/-- The station after a run. -/
def after (s : Station) : List Event → Station
  | [] => s
  | e :: es => (s.happen e).after es

/-! ## What is said -/

/-- What a list of acts of the console is to the link. -/
def relayed (acts : List ConsoleAct) : List VehicleLink.Event := acts.filterMap (·.said?)

/-- What a station says when the next thing happens. -/
def saidNext (s : Station) : List VehicleLink.Event :=
  if s.link.streamsDue then [.requestStreams]
  else match s.link.ready? s.now with
    | some id => [.move id]
    | none => relayed (s.console.step .move).2

/-- What a station says while at most so many things happen. -/
def saidThrough : Nat → Station → List VehicleLink.Event
  | 0, _ => []
  | steps + 1, s => match s.next? with
    | some next => s.saidNext ++ saidThrough steps next
    | none => []

/-- What a station says while it settles. -/
def saidSettling (s : Station) : List VehicleLink.Event := saidThrough s.stepsLeft s

/-- A station after a datagram, before it settles. -/
def heard (s : Station) (sender : Endpoint) (octets : List UInt8) : Station :=
  (published (s.link.receive sender octets).2).foldl drain
    (s.converse (.datagram sender octets))

/-- A station after a request was made, before it settles. -/
def asked (s : Station) (request : Console → Nat → Console × List ConsoleAct) : Station :=
  { s with nextId := s.nextId + 1 }.follow (request s.console s.nextId)

/-- What a station says about a request. -/
def saidAsked (s : Station) (request : Console → Nat → Console × List ConsoleAct) :
    List VehicleLink.Event :=
  relayed (request s.console s.nextId).2 ++ (s.asked request).saidSettling

/-- What a station says after its console has done something. -/
def saidFollowing (s : Station) (done : Console × List ConsoleAct) : List VehicleLink.Event :=
  relayed done.2 ++ (s.follow done).saidSettling

/-- What a station says when its timers may be due. -/
def saidAtTick (s : Station) : List VehicleLink.Event :=
  (if s.revive.isListening ∧ s.revive.nextHeartbeat ≤ s.revive.now then [.heartbeat] else []) ++
    (if s.revive.beat.isListening ∧ s.revive.beat.nextSetPoint ≤ s.revive.beat.now then [.refresh]
      else []) ++
    s.revive.beat.refresh.saidSettling

/-- What a station says while the clock runs to an instant. -/
def saidUntil : Nat → Instant → Station → List (Instant × VehicleLink.Event)
  | 0, _, _ => []
  | timers + 1, target, s =>
    match s.timer with
    | some due =>
      if due ≤ target then
        (s.moveClock due).saidAtTick.map ((s.moveClock due).now, ·) ++
          saidUntil timers target (s.moveClock due).tick
      else []
    | none => []

/-- A station that is being stopped, before the operation that runs is cancelled. -/
def halted (s : Station) : Station := { s.endBackground with stopped := true }

/-- What a station says at one instant at an event that takes no time. -/
def saidAtOnce (s : Station) : Event → List VehicleLink.Event
  | .datagram sender octets =>
    if s.isListening then .datagram sender octets :: (s.heard sender octets).saidSettling else []
  | .execute command => s.saidAsked fun c id => c.execute id command
  | .call call => s.saidAsked fun c id => c.call id call
  | .fly request => s.saidAsked (flight request)
  | .awaitAttachment => s.saidAsked fun c id => c.awaitAttachment id
  | .abandon id => s.saidFollowing (s.console.abandon id)
  | .cancel => s.saidFollowing (s.console.step .cancel)
  | .stop =>
    if s.stopped then []
    else s.halted.saidFollowing (s.console.step .cancel)
  | .loopFails _ | .pass _ | .endBackground => []

/-- What a station says at an event. -/
def said (s : Station) (e : Event) : List (Instant × VehicleLink.Event) :=
  match e with
  | .pass millis => saidUntil (millis + 1) (s.now + millis) s
  | e => (s.saidAtOnce e).map (s.now, ·)

/-- What a station says in a run. -/
def saidIn (s : Station) : List Event → List (Instant × VehicleLink.Event)
  | [] => []
  | e :: es => s.said e ++ (s.happen e).saidIn es

/-! ## At one instant -/

/-- A station after something that took no time and left its loop alone. The link took the
events, and what it sent at them is in the journal. -/
structure Speaks (s : Station) (events : List VehicleLink.Event) (t : Station) : Prop where
  link : t.link = (s.link.run (events.map (s.now, ·))).1
  sent : t.journal.sent = s.journal.sent ++ s.link.transmitted (events.map (s.now, ·))
  now : t.now = s.now
  supervisor : t.supervisor = s.supervisor
  stopped : t.stopped = s.stopped

theorem Speaks.trans (h : s.Speaks events t) (h' : t.Speaks later u) :
    s.Speaks (events ++ later) u where
  link := by rw [List.map_append, VehicleLink.run_append, ← h.link, ← h.now, h'.link]
  sent := by
    rw [List.map_append, VehicleLink.transmitted_append, ← h.link, ← List.append_assoc, ← h.sent,
      ← h.now, h'.sent]
  now := h'.now.trans h.now
  supervisor := h'.supervisor.trans h.supervisor
  stopped := h'.stopped.trans h.stopped

/-- A station whose link has no part in what it does. -/
theorem Speaks.silent (hlink : t.link = s.link) (hsent : t.journal.sent = s.journal.sent)
    (hnow : t.now = s.now) (hsupervisor : t.supervisor = s.supervisor)
    (hstopped : t.stopped = s.stopped) : s.Speaks [] t where
  link := hlink
  sent := hsent.trans (List.append_nil _).symm
  now := hnow
  supervisor := hsupervisor
  stopped := hstopped

theorem Speaks.refl (s : Station) : s.Speaks [] s := .silent rfl rfl rfl rfl rfl

theorem note_speaks (s : Station) (id : Nat) (report : Report) : s.Speaks [] (s.note id report) :=
  .silent rfl rfl rfl rfl rfl

theorem attach_speaks (s : Station) : s.Speaks [] s.attach := by
  have hattached : s.Speaks [] { s with console := s.console.attach.1 } :=
    .silent rfl rfl rfl rfl rfl
  unfold attach
  dsimp only
  generalize s.console.attach.2 = acts
  generalize { s with console := s.console.attach.1 } = t at hattached ⊢
  induction acts generalizing t with
  | nil => exact hattached
  | cons act rest ih =>
      rw [List.foldl_cons]
      refine ih _ ?_
      cases act with
      | reports id report => exact hattached.trans (t.note_speaks id report)
      | _ => exact hattached

theorem answer_now (c : Console) (id : Nat) (reply : Reply) :
    (c.answer id reply).1.session.now = c.session.now := by
  unfold Console.answer
  split <;> rfl

theorem answer_speaks (s : Station) (id : Nat) (reply : Reply) :
    s.Speaks [] (s.answer id reply) := by
  have hanswered : s.Speaks [] { s with console := (s.console.answer id reply).1 } :=
    .silent rfl rfl (answer_now s.console id reply) rfl rfl
  unfold answer
  dsimp only
  split
  · exact hanswered.trans (note_speaks _ _ _)
  · exact hanswered

/-- What the acts of the link do to the rest of the station. -/
structure Performs (s : Station) (acts : List LinkAct) (t : Station) : Prop where
  link : t.link = s.link
  sent : t.journal.sent = s.journal.sent ++ acts.filterMap (·.transmission? s.now)
  now : t.now = s.now
  supervisor : t.supervisor = s.supervisor
  stopped : t.stopped = s.stopped

theorem Speaks.performs {a : LinkAct} (h : s.Speaks [] t)
    (ha : a.transmission? s.now = none) : s.Performs [a] t where
  link := h.link
  sent := by
    rw [h.sent, List.filterMap_cons_none ha]
    rfl
  now := h.now
  supervisor := h.supervisor
  stopped := h.stopped

theorem perform_performs (s : Station) (a : LinkAct) : s.Performs [a] (s.perform a) := by
  cases a with
  | sends peer header message => exact ⟨rfl, rfl, rfl, rfl, rfl⟩
  | identifies vehicle =>
      refine Speaks.performs ?_ rfl
      unfold perform
      dsimp only
      split
      · exact s.attach_speaks
      · exact Speaks.refl s
  | publishes update =>
      have hsilent : s.Speaks [] (s.perform (.publishes update)) := .silent rfl rfl rfl rfl rfl
      exact hsilent.performs rfl
  | logs line =>
      have hsilent : s.Speaks [] (s.perform (.logs line)) := .silent rfl rfl rfl rfl rfl
      exact hsilent.performs rfl
  | ends id reply => exact (s.answer_speaks id reply).performs rfl

theorem performAll_performs (s : Station) (acts : List LinkAct) :
    s.Performs acts (acts.foldl perform s) := by
  induction acts generalizing s with
  | nil => exact ⟨rfl, (List.append_nil _).symm, rfl, rfl, rfl⟩
  | cons a rest ih =>
      have hfirst := s.perform_performs a
      have hrest := ih (s.perform a)
      refine ⟨hrest.link.trans hfirst.link, ?_, hrest.now.trans hfirst.now,
        hrest.supervisor.trans hfirst.supervisor, hrest.stopped.trans hfirst.stopped⟩
      rw [← List.singleton_append, List.filterMap_append, ← List.append_assoc, ← hfirst.sent,
        ← hfirst.now]
      exact hrest.sent

/-- **An event of the link.** -/
theorem converse_speaks (s : Station) (e : VehicleLink.Event) : s.Speaks [e] (s.converse e) := by
  have hperforms := performAll_performs { s with link := (s.link.step s.now e).1 }
    (s.link.step s.now e).2
  refine ⟨hperforms.link, ?_, hperforms.now, hperforms.supervisor, hperforms.stopped⟩
  rw [List.map_singleton, VehicleLink.transmitted, VehicleLink.transmitted, List.append_nil]
  exact hperforms.sent

theorem carryOut_speaks (s : Station) (act : ConsoleAct) :
    s.Speaks act.said?.toList (s.carryOut act) := by
  cases act with
  | calls id call => exact s.converse_speaks _
  | givesUp id => exact s.converse_speaks _
  | reports id report => exact s.note_speaks id report

/-- What follows from what the console did. -/
theorem follow_speaks (s : Station) {done : Console × List ConsoleAct}
    (hnow : done.1.session.now = s.now) : s.Speaks (relayed done.2) (s.follow done) := by
  have hacts : ∀ (acts : List ConsoleAct) (s : Station),
      s.Speaks (relayed acts) (acts.foldl carryOut s) := by
    intro acts
    induction acts with
    | nil => exact Speaks.refl
    | cons act rest ih =>
        intro s
        have hrelayed : relayed (act :: rest) = act.said?.toList ++ relayed rest := by
          cases h : act.said? <;> simp [relayed, h]
        rw [hrelayed]
        exact (s.carryOut_speaks act).trans (ih _)
  have hdone : s.Speaks [] { s with console := done.1 } := .silent rfl rfl hnow rfl rfl
  exact hdone.trans (hacts done.2 _)

/-! ## Settling -/

/-- The next thing that happens. -/
theorem next_speaks (h : s.next? = some t) : s.Speaks s.saidNext t := by
  unfold next? at h
  unfold saidNext
  split at h
  · rename_i hdue
    rw [if_pos hdue, ← Option.some.inj h]
    exact s.converse_speaks _
  · rename_i hdue
    rw [if_neg hdue]
    cases hready : s.link.ready? s.now with
    | some id =>
        rw [hready] at h
        rw [← Option.some.inj h]
        exact s.converse_speaks _
    | none =>
        rw [hready] at h
        dsimp only at h
        split at h
        · cases h
        · rw [← Option.some.inj h]
          exact s.follow_speaks (s.console.step_now nofun)

theorem run_speaks (steps : Nat) (s : Station) : s.Speaks (saidThrough steps s) (run steps s) := by
  induction steps generalizing s with
  | zero => exact Speaks.refl s
  | succ steps ih =>
      unfold saidThrough run
      cases hnext : s.next? with
      | none => exact Speaks.refl s
      | some next => exact (next_speaks hnext).trans (ih next)

/-- **What a station says while it settles.** -/
theorem settle_speaks (s : Station) : s.Speaks s.saidSettling s.settle := run_speaks _ s

theorem asked_speaks (s : Station) (request : Console → Nat → Console × List ConsoleAct)
    (hnow : (request s.console s.nextId).1.session.now = s.now) :
    s.Speaks (relayed (request s.console s.nextId).2) (s.asked request) := by
  have hnumbered : s.Speaks [] { s with nextId := s.nextId + 1 } := .silent rfl rfl rfl rfl rfl
  exact hnumbered.trans (follow_speaks { s with nextId := s.nextId + 1 } hnow)

theorem submit_speaks (s : Station) (request : Console → Nat → Console × List ConsoleAct)
    (hnow : (request s.console s.nextId).1.session.now = s.now) :
    s.Speaks (s.saidAsked request) (s.submit request) :=
  (s.asked_speaks request hnow).trans (s.asked request).settle_speaks

theorem follow_settle_speaks (s : Station) {done : Console × List ConsoleAct}
    (hnow : done.1.session.now = s.now) :
    s.Speaks (s.saidFollowing done) (s.follow done).settle :=
  (s.follow_speaks hnow).trans (s.follow done).settle_speaks

theorem drained_speaks (s : Station) (streams : List Stream) :
    s.Speaks [] (streams.foldl drain s) := by
  induction streams generalizing s with
  | nil => exact Speaks.refl s
  | cons stream rest ih =>
      have hdrained : s.Speaks [] (s.drain stream) := by
        unfold drain
        split
        · exact Speaks.refl s
        · exact .silent rfl rfl rfl rfl rfl
      exact hdrained.trans (ih _)

theorem receive_speaks (sender : Endpoint) (octets : List UInt8) (h : s.isListening = true) :
    s.Speaks (.datagram sender octets :: (s.heard sender octets).saidSettling)
      (s.receive sender octets) := by
  have hreceived : s.receive sender octets = (s.heard sender octets).settle := by
    unfold receive
    rw [if_pos h]
    rfl
  have hheard : s.Speaks [.datagram sender octets] (s.heard sender octets) :=
    (s.converse_speaks _).trans (drained_speaks _ _)
  rw [hreceived]
  exact hheard.trans (s.heard sender octets).settle_speaks

/-! ## The timers -/

/-- The loop that is started again says nothing by that. -/
theorem revive_link (s : Station) :
    s.revive.link = s.link ∧ s.revive.journal = s.journal ∧ s.revive.now = s.now ∧
      s.revive.stopped = s.stopped := by
  unfold revive
  split
  · split <;> exact ⟨rfl, rfl, rfl, rfl⟩
  · exact ⟨rfl, rfl, rfl, rfl⟩

/-- What a station did in the course of time: the link took the events, and what it sent at them
is in the journal. -/
structure Converses (s : Station) (events : List (Instant × VehicleLink.Event)) (t : Station) :
    Prop where
  link : t.link = (s.link.run events).1
  sent : t.journal.sent = s.journal.sent ++ s.link.transmitted events

theorem Converses.trans {said later : List (Instant × VehicleLink.Event)}
    (h : s.Converses said t) (h' : t.Converses later u) : s.Converses (said ++ later) u where
  link := by rw [VehicleLink.run_append, ← h.link, h'.link]
  sent := by rw [VehicleLink.transmitted_append, ← h.link, ← List.append_assoc, ← h.sent, h'.sent]

theorem Converses.silent (hlink : t.link = s.link) (hsent : t.journal.sent = s.journal.sent) :
    s.Converses [] t where
  link := hlink
  sent := hsent.trans (List.append_nil _).symm

theorem Speaks.converses (h : s.Speaks events t) : s.Converses (events.map (s.now, ·)) t :=
  ⟨h.link, h.sent⟩

theorem beat_speaks (s : Station) :
    s.Speaks (if s.isListening ∧ s.nextHeartbeat ≤ s.now then [.heartbeat] else []) s.beat := by
  unfold beat
  split
  · have hset : s.Speaks [] { s with nextHeartbeat := s.now + heartbeatPeriod } :=
      .silent rfl rfl rfl rfl rfl
    exact hset.trans (converse_speaks _ _)
  · exact Speaks.refl s

theorem refresh_speaks (s : Station) :
    s.Speaks (if s.isListening ∧ s.nextSetPoint ≤ s.now then [.refresh] else []) s.refresh := by
  unfold refresh
  split
  · have hset : s.Speaks [] { s with nextSetPoint := s.now + setPointPeriod } :=
      .silent rfl rfl rfl rfl rfl
    exact hset.trans (converse_speaks _ _)
  · exact Speaks.refl s

theorem tick_speaks (s : Station) : s.revive.Speaks s.saidAtTick s.tick :=
  (s.revive.beat_speaks.trans s.revive.beat.refresh_speaks).trans
    s.revive.beat.refresh.settle_speaks

theorem tick_converses (s : Station) : s.Converses (s.saidAtTick.map (s.now, ·)) s.tick := by
  obtain ⟨hlink, hjournal, hnow, -⟩ := s.revive_link
  have htick := s.tick_speaks.converses
  rw [hnow] at htick
  exact (Converses.silent hlink (congrArg Journal.sent hjournal)).trans htick

/-- The clock moves without a word. -/
theorem moveClock_converses (s : Station) (instant : Instant) :
    s.Converses [] (s.moveClock instant) := .silent rfl rfl

theorem advance_converses (timers : Nat) (target : Instant) (s : Station) :
    s.Converses (saidUntil timers target s) (advanceThrough timers target s) := by
  induction timers generalizing s with
  | zero => exact s.moveClock_converses target
  | succ timers ih =>
      unfold saidUntil advanceThrough
      cases s.timer with
      | none => exact s.moveClock_converses target
      | some due =>
          dsimp only
          split
          · exact (s.moveClock_converses due).trans
              ((s.moveClock due).tick_converses.trans (ih _))
          · exact s.moveClock_converses target

/-! ## Events and runs -/

theorem execute_now (c : Console) (id : Nat) (command : Command) :
    (c.execute id command).1.session.now = c.session.now := by
  unfold Console.execute
  split <;> rfl

theorem awaitAttachment_now (c : Console) (id : Nat) :
    (c.awaitAttachment id).1.session.now = c.session.now := by
  unfold Console.awaitAttachment
  split <;> rfl

theorem abandon_now (c : Console) (id : Nat) :
    (c.abandon id).1.session.now = c.session.now := by
  unfold Console.abandon
  split
  · rfl
  · rfl
  · exact (c.forget id).step_now nofun
  · rfl

theorem cancel_now (c : Console) : (c.step .cancel).1.session.now = c.session.now :=
  c.step_now nofun

/-- Does an event take no time and leave the loop of the station alone? -/
def Event.isMoment : Event → Bool
  | .loopFails _ | .pass _ | .endBackground | .stop => false
  | _ => true

/-- What a station says at an event that takes no time. -/
theorem happen_speaks (s : Station) {e : Event} (he : e.isMoment = true) :
    s.Speaks (s.saidAtOnce e) (s.happen e) := by
  cases e with
  | datagram sender octets =>
      simp only [saidAtOnce, happen]
      cases hlistens : s.isListening with
      | true => exact receive_speaks sender octets hlistens
      | false =>
          have hdeaf : s.receive sender octets = s := by simp [receive, hlistens]
          rw [hdeaf]
          exact Speaks.refl s
  | execute command =>
      exact s.submit_speaks (fun c id => c.execute id command) (execute_now _ _ command)
  | call call => exact s.submit_speaks (fun c id => c.call id call) rfl
  | fly request => exact s.submit_speaks (flight request) rfl
  | awaitAttachment =>
      exact s.submit_speaks (fun c id => c.awaitAttachment id) (awaitAttachment_now _ _)
  | abandon id => exact s.follow_settle_speaks (abandon_now s.console id)
  | cancel => exact s.follow_settle_speaks (cancel_now s.console)
  | _ => cases he

theorem stop_speaks (s : Station) (h : s.stopped = false) :
    s.halted.Speaks (s.halted.saidFollowing (s.console.step .cancel)) s.stop := by
  have hstop : s.stop = s.halted.cancel := by simp [stop, h, halted]
  rw [hstop]
  exact s.halted.follow_settle_speaks (cancel_now s.console)

/-- **What a station says at an event.** -/
theorem happen_converses (s : Station) (e : Event) : s.Converses (s.said e) (s.happen e) := by
  cases e with
  | pass millis => exact advance_converses (millis + 1) (s.now + millis) s
  | loopFails uptime => exact .silent rfl rfl
  | endBackground => exact .silent rfl rfl
  | stop =>
      simp only [said, saidAtOnce]
      cases hstopped : s.stopped with
      | true =>
          have hsame : s.stop = s := by simp [stop, hstopped]
          change s.Converses _ s.stop
          rw [hsame]
          exact (Speaks.refl s).converses
      | false =>
          have hhalted : s.Converses [] s.halted := .silent rfl rfl
          exact hhalted.trans (s.stop_speaks hstopped).converses
  | _ => exact (s.happen_speaks rfl).converses

/-- **What a station says in a run.** -/
theorem run_converses (s : Station) (es : List Event) : s.Converses (s.saidIn es) (s.after es) := by
  induction es generalizing s with
  | nil => exact .silent rfl rfl
  | cons e es ih => exact (s.happen_converses e).trans (ih (s.happen e))

/-! ## What may be said -/

theorem isMessage_of_isOfCall {e : VehicleLink.Event} (h : e.isOfCall = true) :
    e.isMessage = false := by
  cases e <;> first | rfl | cases h

theorem relayed_isOfCall {acts : List ConsoleAct} : ∀ e ∈ relayed acts, e.isOfCall = true := by
  intro e he
  obtain ⟨act, -, hsaid⟩ := List.mem_filterMap.mp he
  cases act with
  | calls id call =>
      obtain rfl := Option.some.inj hsaid
      rfl
  | givesUp id =>
      obtain rfl := Option.some.inj hsaid
      rfl
  | reports id report => cases hsaid

/-- Calls leave the request for the streams as it is. -/
theorem Speaks.streamsDue (h : s.Speaks events t) (hcalls : ∀ e ∈ events, e.isOfCall = true) :
    t.link.streamsDue = s.link.streamsDue := by
  have htimed : ∀ x ∈ events.map (s.now, ·), x.2.isOfCall = true := by
    intro x hx
    obtain ⟨e, he, rfl⟩ := List.mem_map.mp hx
    exact hcalls e he
  rw [h.link]
  exact congrArg VehicleLink.Standing.streamsDue (VehicleLink.run_standing htimed)

theorem saidNext_isOfCall (hdue : s.link.streamsDue = false) :
    ∀ e ∈ s.saidNext, e.isOfCall = true := by
  unfold saidNext
  rw [hdue, if_neg Bool.false_ne_true]
  split
  · intro e he
    rw [List.mem_singleton.mp he]
    rfl
  · exact relayed_isOfCall

/-- Once the streams were asked for, a station that settles only deals with calls. -/
theorem saidThrough_isOfCall (steps : Nat) (hdue : s.link.streamsDue = false) :
    ∀ e ∈ saidThrough steps s, e.isOfCall = true := by
  induction steps generalizing s with
  | zero => exact fun e he => absurd he List.not_mem_nil
  | succ steps ih =>
      unfold saidThrough
      cases hnext : s.next? with
      | none => exact fun e he => absurd he List.not_mem_nil
      | some next =>
          have hfirst := saidNext_isOfCall hdue
          have hkept := (next_speaks hnext).streamsDue hfirst
          exact List.forall_mem_append.mpr ⟨hfirst, ih (hkept.trans hdue)⟩

theorem saidThrough_isMessage (steps : Nat) (s : Station) :
    ∀ e ∈ saidThrough steps s, e.isMessage = false := by
  induction steps generalizing s with
  | zero => exact fun e he => absurd he List.not_mem_nil
  | succ steps ih =>
      unfold saidThrough
      cases s.next? with
      | none => exact fun e he => absurd he List.not_mem_nil
      | some next =>
          refine List.forall_mem_append.mpr ⟨fun e he => ?_, ih next⟩
          unfold saidNext at he
          split at he
          · rw [List.mem_singleton.mp he]
            rfl
          · split at he
            · rw [List.mem_singleton.mp he]
              rfl
            · exact isMessage_of_isOfCall (relayed_isOfCall e he)

/-- **Once a station has settled, the streams were asked for.** -/
theorem settle_streamsDue (s : Station) : s.settle.link.streamsDue = false := by
  have hsteps : ∀ steps, (run (steps + 1) s).link.streamsDue = false := by
    intro steps
    unfold run
    cases hdue : s.link.streamsDue with
    | true =>
        have hnext : s.next? = some (s.converse .requestStreams) := by simp [next?, hdue]
        have hasked : (s.converse .requestStreams).link.streamsDue = false := by
          rw [(s.converse_speaks .requestStreams).link]
          exact congrArg VehicleLink.Standing.streamsDue s.link.requestStreams_standing
        rw [hnext]
        exact ((run_speaks steps _).streamsDue (saidThrough_isOfCall steps hasked)).trans hasked
    | false =>
        cases hnext : s.next? with
        | none => exact hdue
        | some next =>
            have hkept := ((next_speaks hnext).streamsDue (saidNext_isOfCall hdue)).trans hdue
            exact ((run_speaks steps _).streamsDue (saidThrough_isOfCall steps hkept)).trans hkept
  exact hsteps _

theorem saidAsked_isMessage (s : Station)
    (request : Console → Nat → Console × List ConsoleAct) :
    ∀ e ∈ s.saidAsked request, e.isMessage = false :=
  List.forall_mem_append.mpr ⟨fun e he => isMessage_of_isOfCall (relayed_isOfCall e he),
    saidThrough_isMessage _ _⟩

theorem saidFollowing_isMessage (s : Station) (done : Console × List ConsoleAct) :
    ∀ e ∈ s.saidFollowing done, e.isMessage = false :=
  List.forall_mem_append.mpr ⟨fun e he => isMessage_of_isOfCall (relayed_isOfCall e he),
    saidThrough_isMessage _ _⟩

theorem saidAtOnce_isMessage (s : Station) (e : Event) :
    ∀ x ∈ s.saidAtOnce e, x.isMessage = false := by
  have hnothing : ∀ x ∈ ([] : List VehicleLink.Event), x.isMessage = false := nofun
  cases e with
  | datagram sender octets =>
      simp only [saidAtOnce]
      split
      · exact List.forall_mem_cons.mpr ⟨rfl, saidThrough_isMessage _ _⟩
      · exact hnothing
  | execute command => exact s.saidAsked_isMessage fun c id => c.execute id command
  | call call => exact s.saidAsked_isMessage fun c id => c.call id call
  | fly request => exact s.saidAsked_isMessage (flight request)
  | awaitAttachment => exact s.saidAsked_isMessage fun c id => c.awaitAttachment id
  | abandon id => exact s.saidFollowing_isMessage _
  | cancel => exact s.saidFollowing_isMessage _
  | stop =>
      simp only [saidAtOnce]
      split
      · exact hnothing
      · exact s.halted.saidFollowing_isMessage _
  | _ => exact hnothing

theorem saidAtTick_isMessage (s : Station) : ∀ x ∈ s.saidAtTick, x.isMessage = false := by
  refine List.forall_mem_append.mpr ⟨List.forall_mem_append.mpr ⟨?_, ?_⟩,
    saidThrough_isMessage _ _⟩
  all_goals
    intro x hx
    split at hx
    · rw [List.mem_singleton.mp hx]
      rfl
    · cases hx

theorem saidUntil_isMessage (timers : Nat) (target : Instant) (s : Station) :
    ∀ x ∈ saidUntil timers target s, x.2.isMessage = false := by
  induction timers generalizing s with
  | zero => exact fun x hx => absurd hx List.not_mem_nil
  | succ timers ih =>
      unfold saidUntil
      split
      · split
        · refine List.forall_mem_append.mpr ⟨fun x hx => ?_, ih _⟩
          obtain ⟨e, he, rfl⟩ := List.mem_map.mp hx
          exact saidAtTick_isMessage _ e he
        · exact fun x hx => absurd hx List.not_mem_nil
      · exact fun x hx => absurd hx List.not_mem_nil

/-- **What a station says is no message without a datagram.** -/
theorem said_isMessage (s : Station) (e : Event) : ∀ x ∈ s.said e, x.2.isMessage = false := by
  have honce : ∀ x ∈ (s.saidAtOnce e).map (s.now, ·), x.2.isMessage = false := by
    intro x hx
    obtain ⟨event, hevent, rfl⟩ := List.mem_map.mp hx
    exact s.saidAtOnce_isMessage e event hevent
  cases e with
  | pass millis => exact saidUntil_isMessage _ _ s
  | _ => exact honce

end Station

end GroundStation
