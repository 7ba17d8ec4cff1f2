import GroundStation.Proofs.Station.Conversation

/-!
# What a stopped station still sends

To stop a station cancels the operation that runs and ends everything in the background. The
station sends no heartbeat after that, repeats no set-point, hears no datagram and asks for no
streams (`Station.Still.said_isOfCall`). But the link under it stays as it is, and so do its
vehicle and its peer: what is left of the conversation are the calls, those that were queued and
those that are made later.

Whether these reach anybody depends on the vehicle alone. A station that was stopped before it
had met one refuses every call at once and is silent for ever. A station that had met one goes on
as before: its calls are opened, and their first moves are attempts to send. So the link is shut
down for a host exactly if there never was a vehicle (`Station.stopped_silent_iff`).

## Main results

* `Station.sound_start`, `Station.Sound.happen`: what holds of every station between two events.
* `Station.Still.happen`: a stopped station stays stopped.
* `Station.stopped_silent_iff`: when a stopped station is silent.
-/

namespace GroundStation

open Mavlink

namespace Station

variable {s t started : Station} {e : Event} {es : List Event} {network : Network}
  {config : Config} {epoch : Nat}

/-! ## What does not come back -/

/-- A later station: once stopped it stays so, and its loop does not run again. -/
structure Outlives (s t : Station) : Prop where
  stopped : t.stopped = s.stopped
  ended : s.supervisor.phase = .ended → t.supervisor.phase = .ended

theorem Outlives.refl (s : Station) : s.Outlives s := ⟨rfl, id⟩

theorem Outlives.trans {u : Station} (h : s.Outlives t) (h' : t.Outlives u) : s.Outlives u :=
  ⟨h'.stopped.trans h.stopped, h'.ended ∘ h.ended⟩

theorem Speaks.outlives {events : List VehicleLink.Event} (h : s.Speaks events t) :
    s.Outlives t where
  stopped := h.stopped
  ended hended := h.supervisor ▸ hended

theorem tick_outlives (s : Station) : s.Outlives s.tick := by
  have hrevived : s.Outlives s.revive := by
    refine ⟨s.revive_link.2.2.2, fun hended => ?_⟩
    unfold revive
    rw [hended]
    exact hended
  exact hrevived.trans s.tick_speaks.outlives

theorem advance_outlives (timers : Nat) (target : Instant) (s : Station) :
    s.Outlives (advanceThrough timers target s) := by
  have hclock : ∀ (s : Station) (instant : Instant), s.Outlives (s.moveClock instant) :=
    fun _ _ => ⟨rfl, id⟩
  induction timers generalizing s with
  | zero => exact hclock s target
  | succ timers ih =>
      unfold advanceThrough
      cases s.timer with
      | none => exact hclock s target
      | some due =>
          dsimp only
          split
          · exact (hclock s due).trans ((tick_outlives _).trans (ih _))
          · exact hclock s target

/-! ## Between two events -/

/-- A station between two events: its link is in order, the streams were asked for, and if it is
stopped, its loop has ended. -/
structure Sound (s : Station) : Prop where
  seated : s.link.Seated
  asked : s.link.streamsDue = false
  stopped : s.stopped = true → s.supervisor.phase = .ended

theorem advance_streamsDue (timers : Nat) (target : Instant) (s : Station)
    (h : s.link.streamsDue = false) :
    (advanceThrough timers target s).link.streamsDue = false := by
  induction timers generalizing s with
  | zero => exact h
  | succ timers ih =>
      unfold advanceThrough
      cases s.timer with
      | none => exact h
      | some due =>
          dsimp only
          split
          · exact ih _ (settle_streamsDue _)
          · exact h

theorem happen_streamsDue (h : s.link.streamsDue = false) (e : Event) :
    (s.happen e).link.streamsDue = false := by
  cases e with
  | datagram sender octets =>
      change (s.receive sender octets).link.streamsDue = false
      unfold receive
      split
      · exact settle_streamsDue _
      · exact h
  | loopFails uptime => exact h
  | endBackground => exact h
  | pass millis => exact advance_streamsDue _ _ s h
  | stop =>
      change s.stop.link.streamsDue = false
      unfold stop
      split
      · exact h
      · exact settle_streamsDue _
  | _ => exact settle_streamsDue _

theorem happen_outlives (s : Station) (e : Event) :
    s.Outlives (s.happen e) ∨ (s.happen e).supervisor.phase = .ended := by
  cases e with
  | loopFails uptime =>
      refine .inl ⟨rfl, fun hended => ?_⟩
      change (s.supervisor.step s.now (.taskEnds uptime)).phase = .ended
      unfold Supervisor.step
      rw [hended]
      exact hended
  | endBackground => exact .inr rfl
  | pass millis => exact .inl (advance_outlives _ _ s)
  | stop =>
      cases hstopped : s.stopped with
      | true =>
          have hsame : s.happen .stop = s := by simp [happen, stop, hstopped]
          rw [hsame]
          exact .inl (Outlives.refl s)
      | false => exact .inr (congrArg Supervisor.phase (s.stop_speaks hstopped).supervisor)
  | _ => exact .inl (s.happen_speaks rfl).outlives

/-- **What holds between two events.** -/
theorem Sound.happen (h : s.Sound) (e : Event) : (s.happen e).Sound where
  seated := by
    rw [(s.happen_converses e).link]
    exact h.seated.run (s.said_isMessage e)
  asked := happen_streamsDue h.asked e
  stopped hstopped := by
    rcases s.happen_outlives e with houtlives | hended
    · exact houtlives.ended (h.stopped (houtlives.stopped.symm.trans hstopped))
    · exact hended

theorem Sound.after (h : s.Sound) (es : List Event) : (s.after es).Sound := by
  induction es generalizing s with
  | nil => exact h
  | cons e es ih => exact ih (h.happen e)

theorem firstPeer_client {peer : Option Endpoint} (h : firstPeer network config.link = .ok peer)
    (hmode : config.link.mode = .client) : peer ≠ none := by
  unfold firstPeer at h
  rw [hmode] at h
  dsimp only at h
  split at h
  · rw [← Except.ok.inj h]
    exact Option.some_ne_none _
  · cases h

/-- **A station that has started is sound.** -/
theorem sound_start (h : start network config epoch = .ok started) : started.Sound := by
  unfold start at h
  split at h
  · cases h
  · rename_i peer hpeer
    split at h
    · rw [← Except.ok.inj h]
      have hnew : (new config network peer epoch).link.Seated :=
        VehicleLink.seated_new _ _ _ (firstPeer_client hpeer)
      refine ⟨?_, settle_streamsDue _, fun hstopped => ?_⟩
      · rw [(tick_converses _).link]
        refine hnew.run fun x hx => ?_
        obtain ⟨e, he, rfl⟩ := List.mem_map.mp hx
        exact saidAtTick_isMessage _ e he
      · rw [(tick_outlives _).stopped] at hstopped
        cases hstopped
    · cases h

/-! ## Stopped -/

/-- A stopped station between two events. -/
structure Still (s : Station) : Prop where
  sound : s.Sound
  ended : s.supervisor.phase = .ended

theorem Sound.still (h : s.Sound) : s.stop.Still := by
  have hstop : s.stop.Sound := h.happen .stop
  refine ⟨hstop, ?_⟩
  cases hstopped : s.stopped with
  | true =>
      have hsame : s.stop = s := by simp [stop, hstopped]
      rw [hsame]
      exact h.stopped hstopped
  | false => exact congrArg Supervisor.phase (s.stop_speaks hstopped).supervisor

theorem Still.happen (h : s.Still) (e : Event) : (s.happen e).Still :=
  ⟨h.sound.happen e, (s.happen_outlives e).elim (fun houtlives => houtlives.ended h.ended) id⟩

theorem Still.isListening (h : s.Still) : s.isListening = false := by
  unfold Station.isListening
  rw [h.ended]
  rfl

theorem saidAsked_isOfCall (hdue : s.link.streamsDue = false)
    (request : Console → Nat → Console × List ConsoleAct)
    (hnow : (request s.console s.nextId).1.session.now = s.now) :
    ∀ e ∈ s.saidAsked request, e.isOfCall = true := by
  have hasked := (s.asked_speaks request hnow).streamsDue relayed_isOfCall
  exact List.forall_mem_append.mpr
    ⟨relayed_isOfCall, saidThrough_isOfCall _ (hasked.trans hdue)⟩

theorem saidFollowing_isOfCall (hdue : s.link.streamsDue = false)
    {done : Console × List ConsoleAct} (hnow : done.1.session.now = s.now) :
    ∀ e ∈ s.saidFollowing done, e.isOfCall = true := by
  have hfollowed := (s.follow_speaks hnow).streamsDue relayed_isOfCall
  exact List.forall_mem_append.mpr
    ⟨relayed_isOfCall, saidThrough_isOfCall _ (hfollowed.trans hdue)⟩

/-- When its timers are due, a stopped station only deals with calls. -/
theorem saidAtTick_isOfCall (hended : s.supervisor.phase = .ended)
    (hdue : s.link.streamsDue = false) : ∀ x ∈ s.saidAtTick, x.isOfCall = true := by
  have hrevive : s.revive = s := by
    unfold revive
    rw [hended]
  have hdeaf : s.isListening = false := by simp [Station.isListening, hended]
  have hbeat : s.beat = s := by simp [beat, hdeaf]
  have hrefresh : s.refresh = s := by simp [refresh, hdeaf]
  unfold saidAtTick
  rw [hrevive, hbeat, hrefresh, hdeaf]
  exact saidThrough_isOfCall _ hdue

theorem saidUntil_isOfCall (timers : Nat) (target : Instant)
    (hended : s.supervisor.phase = .ended) (hdue : s.link.streamsDue = false) :
    ∀ x ∈ saidUntil timers target s, x.2.isOfCall = true := by
  induction timers generalizing s with
  | zero => exact fun x hx => absurd hx List.not_mem_nil
  | succ timers ih =>
      unfold saidUntil
      split
      · rename_i due htimer
        split
        · refine List.forall_mem_append.mpr ⟨fun x hx => ?_, ?_⟩
          · obtain ⟨e, he, rfl⟩ := List.mem_map.mp hx
            exact saidAtTick_isOfCall (s := s.moveClock due) hended hdue e he
          · exact ih ((s.moveClock due).tick_outlives.ended hended) (settle_streamsDue _)
        · exact fun x hx => absurd hx List.not_mem_nil
      · exact fun x hx => absurd hx List.not_mem_nil

theorem Still.saidAtOnce_isOfCall (h : s.Still) (e : Event) :
    ∀ x ∈ s.saidAtOnce e, x.isOfCall = true := by
  have hnothing : ∀ x ∈ ([] : List VehicleLink.Event), x.isOfCall = true := nofun
  have hdue := h.sound.asked
  cases e with
  | datagram sender octets =>
      simp only [saidAtOnce, h.isListening]
      exact hnothing
  | execute command =>
      exact saidAsked_isOfCall hdue (fun c id => c.execute id command) (execute_now _ _ command)
  | call call => exact saidAsked_isOfCall hdue (fun c id => c.call id call) rfl
  | fly request => exact saidAsked_isOfCall hdue (flight request) rfl
  | awaitAttachment =>
      exact saidAsked_isOfCall hdue (fun c id => c.awaitAttachment id) (awaitAttachment_now _ _)
  | abandon id => exact saidFollowing_isOfCall hdue (abandon_now s.console id)
  | cancel => exact saidFollowing_isOfCall hdue (cancel_now s.console)
  | stop =>
      simp only [saidAtOnce]
      split
      · exact hnothing
      · exact saidFollowing_isOfCall (s := s.halted) hdue (cancel_now s.console)
  | _ => exact hnothing

/-- **A stopped station only deals with calls.** -/
theorem Still.said_isOfCall (h : s.Still) (e : Event) : ∀ x ∈ s.said e, x.2.isOfCall = true := by
  have honce : ∀ x ∈ (s.saidAtOnce e).map (s.now, ·), x.2.isOfCall = true := by
    intro x hx
    obtain ⟨event, hevent, rfl⟩ := List.mem_map.mp hx
    exact h.saidAtOnce_isOfCall e event hevent
  cases e with
  | pass millis => exact saidUntil_isOfCall _ _ h.ended h.sound.asked
  | _ => exact honce

theorem Still.saidIn_isOfCall (h : s.Still) (es : List Event) :
    ∀ x ∈ s.saidIn es, x.2.isOfCall = true := by
  induction es generalizing s with
  | nil => exact nofun
  | cons e es ih => exact List.forall_mem_append.mpr ⟨h.said_isOfCall e, ih (h.happen e)⟩

/-- **A stopped station stays stopped**, whatever is asked of it and however long it runs. -/
theorem Still.after (h : s.Still) (es : List Event) : (s.after es).Still := by
  induction es generalizing s with
  | nil => exact h
  | cons e es ih => exact ih (h.happen e)

/-- A stopped station meets nobody and loses nobody. -/
theorem Still.standing_after (h : s.Still) (es : List Event) :
    (s.after es).link.standing = s.link.standing := by
  rw [(s.run_converses es).link]
  exact VehicleLink.run_standing (h.saidIn_isOfCall es)

/-! ## Silence -/

/-- **Nothing is sent from now on**, whatever happens, and every call that is made on the link, by
a host or by an operation, is refused at once if it needs a vehicle. -/
structure SilentFromNow (s : Station) : Prop where
  nothing : ∀ es, (s.after es).journal.sent = s.journal.sent
  refused : ∀ es before now id call rest, s.saidIn es = before ++ (now, .call id call) :: rest →
    call.needsVehicle = true →
    ((s.link.run before).1.step now (.call id call)).2 = [.ends id (.error .notConnected)]

/-- Without a vehicle the events of calls send nothing. -/
theorem transmitted_of_unmet {l : VehicleLink} {said : List (Instant × VehicleLink.Event)}
    (hl : l.Seated) (hvehicle : l.vehicle = none) (hsaid : ∀ x ∈ said, x.2.isOfCall = true) :
    l.transmitted said = [] := by
  induction said generalizing l with
  | nil => rfl
  | cons first rest ih =>
      obtain ⟨hfirst, hrest⟩ := List.forall_mem_cons.mp hsaid
      have hkept := congrArg VehicleLink.Standing.vehicle (l.step_standing first.1 hfirst)
      rw [VehicleLink.transmitted, List.append_eq_nil_iff, List.filterMap_eq_nil_iff]
      refine ⟨fun a ha => ?_, ih (hl.step first.1 (isMessage_of_isOfCall hfirst))
        (hkept.trans hvehicle) hrest⟩
      obtain ⟨id, reply, rfl⟩ := hl.acts_step hvehicle first.1 hfirst a ha
      rfl

theorem Still.silent_of_unmet (h : s.Still) (hvehicle : s.link.vehicle = none) :
    s.SilentFromNow where
  nothing es := by
    rw [(s.run_converses es).sent,
      transmitted_of_unmet h.sound.seated hvehicle (h.saidIn_isOfCall es), List.append_nil]
  refused es before now id call rest hsaid hneeds := by
    have hcalls := h.saidIn_isOfCall es
    rw [hsaid] at hcalls
    have hbefore := (List.forall_mem_append.mp hcalls).1
    have hseated := h.sound.seated.run fun x hx => isMessage_of_isOfCall (hbefore x hx)
    have hnobody : (s.link.run before).1.vehicle = none :=
      (congrArg VehicleLink.Standing.vehicle (VehicleLink.run_standing hbefore)).trans hvehicle
    rw [VehicleLink.acts_of_unmet hnobody (hseated.isOpen hnobody id), VehicleLink.unmetReply,
      if_pos hneeds]

/-- With a vehicle a call that is made is not refused. -/
theorem vehicle_of_silent (h : s.SilentFromNow) : s.link.vehicle = none := by
  by_contra hvehicle
  obtain ⟨target, htarget⟩ := Option.ne_none_iff_exists'.mp hvehicle
  have hsaid : s.saidIn [.call .arm] = [] ++ (s.now, .call s.nextId .arm) ::
      (s.asked fun c id => c.call id .arm).saidSettling.map (s.now, ·) := by
    rw [saidIn, saidIn, List.append_nil]
    rfl
  have hrefused := h.refused [.call .arm] [] s.now s.nextId .arm _ hsaid rfl
  have hnothing : (s.link.step s.now (.call s.nextId .arm)).2 = [] := by
    cases hopen : s.link.isOpen s.nextId with
    | true => simp [VehicleLink.step, VehicleLink.begin, hopen]
    | false =>
        have hneeds : LinkCall.arm.needsVehicle = true := rfl
        obtain ⟨left, c, heq, -⟩ := VehicleLink.call_opening htarget hopen hneeds s.now
        rw [heq]
  change (s.link.step s.now (.call s.nextId .arm)).2 = _ at hrefused
  rw [hnothing] at hrefused
  cases hrefused

/-- **What a station that was stopped still sends.**

* Its link only deals with calls, and what the station sends is what the link sends for them:
  neither heartbeats nor repeated set-points nor requests for streams.
* Nothing at all is sent, and every call that needs a vehicle is refused for want of one, exactly
  if no vehicle had been identified when the station was stopped.
* If one had been, a call that is made later is not refused, and its first move sends a message
  unless the network fails that. -/
theorem stopped_silent_iff (before : List Event)
    (hstart : start network config epoch = .ok started)
    (hs : s = (started.after before).stop) :
    (∀ es, s.Converses (s.saidIn es) (s.after es) ∧ ∀ x ∈ s.saidIn es, x.2.isOfCall = true) ∧
    (s.SilentFromNow ↔ s.link.vehicle = none) ∧
    (∀ target, s.link.vehicle = some target → ∃ peer, ∀ es now later id call,
      (s.after es).link.isOpen id = false → call.needsVehicle = true →
      let begun := (s.after es).link.step now (.call id call)
      let moved := begun.1.step later (.move id)
      begun.2 = [] ∧ ((∃ header m, .sends peer header m ∈ moved.2) ∨
        ∃ reason, moved.2 = [.ends id (.error (.io reason))])) := by
  have hstill : s.Still := hs ▸ ((sound_start hstart).after before).still
  refine ⟨fun es => ⟨s.run_converses es, hstill.saidIn_isOfCall es⟩,
    ⟨vehicle_of_silent, hstill.silent_of_unmet⟩, fun target htarget => ?_⟩
  have hmet : s.link.vehicle ≠ none := htarget ▸ Option.some_ne_none target
  obtain ⟨peer, hpeer⟩ := Option.ne_none_iff_exists'.mp (hstill.sound.seated.met hmet)
  refine ⟨peer, fun es now later id call hid hneeds => ?_⟩
  have hkept := hstill.standing_after es
  exact VehicleLink.first_move
    ((congrArg VehicleLink.Standing.vehicle hkept).trans htarget)
    ((congrArg VehicleLink.Standing.peer hkept).trans hpeer) hid hneeds now later

/-! ## Two stations -/

/-- A station that nobody has configured. -/
def plain : Config := ⟨.default, .default, .default, []⟩

/-- A station on a network that loses nothing, just started. -/
def justStarted : Station := (new plain .reliable none 0).tick

/-- Who sends the datagrams. -/
def nearby : Endpoint := ⟨Network.localAddress, 14550⟩

/-- The heartbeat of a copter, in a datagram. -/
def copterHeard : Event := .datagram nearby
  [0xfd, 0x09, 0x00, 0x00, 0x00, 0x01, 0x01, 0x00, 0x00, 0x00, 0x00, 0x00, 0x00, 0x00, 0x02, 0x0c,
    0x00, 0x04, 0x03, 0xb6, 0xbd]

/-- A station that was stopped before it heard of a vehicle. -/
def stoppedAlone : Station := justStarted.stop

/-- A station that was stopped after it had heard of one. -/
def stoppedInContact : Station := (justStarted.after [copterHeard]).stop

theorem start_plain : start .reliable plain 0 = .ok justStarted := by
  have hpeer : firstPeer .reliable plain.link = .ok none := by rfl
  unfold start
  rw [hpeer]
  exact if_pos (by decide +kernel)

/-- The one that was alone is silent. -/
theorem stopped_silent_alone : stoppedAlone.SilentFromNow := by
  obtain ⟨-, hsilent, -⟩ := stopped_silent_iff (s := stoppedAlone) [] start_plain rfl
  exact hsilent.mpr (by decide +kernel)

/-- The other one still arms the copter. -/
theorem stopped_still_arms :
    (stoppedInContact.after [.call .arm]).journal.sent.length =
      stoppedInContact.journal.sent.length + 1 ∧ ¬ stoppedInContact.SilentFromNow := by
  have hsent : (stoppedInContact.after [.call .arm]).journal.sent.length =
      stoppedInContact.journal.sent.length + 1 := by decide +kernel
  refine ⟨hsent, fun hsilent => ?_⟩
  have hnothing := congrArg List.length (hsilent.nothing [.call .arm])
  omega

end Station

end GroundStation
