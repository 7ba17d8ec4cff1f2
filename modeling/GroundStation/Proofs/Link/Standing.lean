import GroundStation.Proofs.Link.Transmission

/-!
# What calls leave alone

A call changes the numbers of the messages, the table of acknowledgements, the velocity slot, the
preset altitude and the calls. The rest of the link is its standing: where it sends, whose vehicle
it follows, and whether that vehicle is still to be asked for its streams. Only what comes in and
the request for the streams change it.

So a link that has met no vehicle meets none by its calls. It refuses each call that needs a
vehicle as soon as it is made, opens none, and sends nothing (`VehicleLink.Silent`). A link that
has met one knows where to send, and the first move of a call that needs the vehicle sends a
message unless the network fails it.

## Main results

* `VehicleLink.step_standing`: an event of a call leaves the standing alone.
* `VehicleLink.Seated.step`: without a vehicle there are no calls, with one there is a peer.
* `VehicleLink.Seated.silent_run`: without a vehicle the events of calls send nothing, and the
  calls are refused.
* `VehicleLink.first_move`: with a vehicle the first move of a call is an attempt to send.
-/

namespace GroundStation

open Mavlink

/-- Does a call do anything with the vehicle? -/
def LinkCall.needsVehicle : LinkCall → Bool
  | .setTakeoffAltitude _ => false
  | _ => true

/-- Is the next move of a call at a stage an attempt to send? -/
def CallStage.speaks : CallStage → Bool
  | .setPointDue .. | .transmitting _ | .shellDue (_ :: _) => true
  | .awaiting _ | .shellDue [] => false

/-- A line of the shell has at least its end. -/
theorem shellPieces_ne_nil (text : String) : shellPieces text ≠ [] := by
  obtain ⟨first, rest, hline⟩ := List.exists_cons_of_ne_nil
    (List.append_ne_nil_of_right_ne_nil text.toUTF8.toList (List.cons_ne_nil 10 []))
  rw [shellPieces, shellLine, hline, piecesOf]
  exact List.cons_ne_nil _ _

namespace VehicleLink

/-- Is an event part of a call? -/
def Event.isOfCall : Event → Bool
  | .call .. | .move _ | .abandon _ => true
  | _ => false

/-- Is an event a message without its datagram? -/
def Event.isMessage : Event → Bool
  | .message .. => true
  | _ => false

/-- The part of a link that calls leave alone. -/
structure Standing where
  config : LinkConfig
  network : Network
  peer : Option Endpoint
  vehicle : Option SystemAddress
  streamsDue : Bool

/-- The standing of a link. -/
def standing (l : VehicleLink) : Standing :=
  ⟨l.config, l.network, l.peer, l.vehicle, l.streamsDue⟩

variable {l l' : VehicleLink} {id : Nat} {call : LinkCall} {now : Instant} {e : Event}
  {es : List (Instant × Event)} {target : SystemAddress}

/-! ## The events of a call -/

theorem send_standing (l : VehicleLink) (m : Message) : (l.send m).link.standing = l.standing := by
  unfold send
  split
  · rfl
  · dsimp only
    split <;> rfl

theorem announceAll_standing (l : VehicleLink) (messages : List Message) :
    (l.announceAll messages).1.standing = l.standing := by
  induction messages generalizing l with
  | nil => rfl
  | cons m rest ih => exact (ih _).trans (l.send_standing m)

theorem refreshSetPoint_standing (l : VehicleLink) :
    l.refreshSetPoint.1.standing = l.standing := by
  unfold refreshSetPoint
  split
  · exact l.send_standing _
  · rfl

/-- The request for the streams is made once. -/
theorem requestStreams_standing (l : VehicleLink) :
    l.requestStreams.1.standing = { l.standing with streamsDue := false } := by
  unfold requestStreams
  dsimp only
  split
  · rfl
  · split
    · rfl
    · exact announceAll_standing _ _

theorem startRequest_standing (l : VehicleLink) (now : Instant) (name : String) (order : Order)
    (target : SystemAddress) :
    (l.startRequest now name order target).1.standing = l.standing := by
  unfold startRequest
  dsimp only
  split <;> rfl

theorem beginCommand_standing (l : VehicleLink) (now : Instant) (id : Nat) (name : String)
    (order : Order) : (l.beginCommand now id name order).1.standing = l.standing := by
  unfold beginCommand
  split
  · rfl
  · exact l.startRequest_standing now name order _

theorem beginFresh_standing (l : VehicleLink) (now : Instant) (id : Nat) (call : LinkCall) :
    (l.beginFresh now id call).1.standing = l.standing := by
  cases call with
  | setTakeoffAltitude altitude => rfl
  | velocity v =>
      unfold beginFresh beginVelocity
      dsimp only
      split <;> rfl
  | shell text =>
      unfold beginFresh
      dsimp only
      split <;> rfl
  | arm => exact l.beginCommand_standing now id _ _
  | _ => exact l.leaveOffboard.beginCommand_standing now id _ _

theorem after_standing (l : VehicleLink) (m : Message) (c : OpenCall)
    {goOn : VehicleLink → VehicleLink × List LinkAct}
    (hgoOn : ∀ l' : VehicleLink, (goOn l').1.standing = l'.standing) :
    (after (l.send m) c goOn).1.standing = l.standing := by
  have hsent := l.send_standing m
  rcases after_cases (l.send m) c goOn with heq | ⟨e, heq⟩
  · rw [heq]
    exact (hgoOn _).trans hsent
  · rw [heq]
    exact hsent

theorem moveCall_standing (l : VehicleLink) (now : Instant) (c : OpenCall) :
    (l.moveCall now c).1.standing = l.standing := by
  unfold moveCall
  cases c.stage with
  | setPointDue target v =>
      refine after_standing l _ c fun l' => ?_
      split
      · rfl
      · exact l'.startRequest_standing now "offboard" followOrder target
  | transmitting r => exact after_standing l _ c fun _ => rfl
  | awaiting r =>
      dsimp only
      repeat' split
      all_goals rfl
  | shellDue rest =>
      cases rest with
      | nil => rfl
      | cons m rest => exact after_standing l _ c fun _ => rfl

/-- **An event of a call leaves the standing alone.** -/
theorem step_standing (l : VehicleLink) (now : Instant) (he : e.isOfCall = true) :
    (l.step now e).1.standing = l.standing := by
  cases e with
  | call id call =>
      change (l.begin now id call).1.standing = l.standing
      unfold begin
      split
      · rfl
      · exact l.beginFresh_standing now id call
  | move id =>
      change (l.move now id).1.standing = l.standing
      unfold move
      split
      · exact l.moveCall_standing now _
      · rfl
  | abandon id =>
      change (l.abandon id).standing = l.standing
      unfold abandon
      split <;> rfl
  | _ => cases he

theorem run_standing (h : ∀ x ∈ es, x.2.isOfCall = true) : (l.run es).1.standing = l.standing := by
  induction es generalizing l with
  | nil => rfl
  | cons first rest ih =>
      obtain ⟨hfirst, hrest⟩ := List.forall_mem_cons.mp h
      exact (ih hrest).trans (l.step_standing first.1 hfirst)

/-! ## The peer and the network -/

/-- A link keeps a peer, though a datagram may put another in its place. -/
theorem step_peer (hpeer : l.peer ≠ none) (now : Instant) (e : Event) :
    (l.step now e).1.peer ≠ none := by
  have hkept : ∀ {l' : VehicleLink}, l'.peer = l.peer → l'.peer ≠ none := fun h => h ▸ hpeer
  cases e with
  | datagram sender octets =>
      change (l.receive sender octets).1.peer ≠ none
      rw [(l.receive_sameOutlet sender octets).peer]
      unfold notePeer
      split
      · exact Option.some_ne_none sender
      · exact hpeer
  | message h m => exact hkept (l.handle_sameOutlet h m).peer
  | heartbeat => exact hkept (congrArg Standing.peer (l.send_standing stationHeartbeat))
  | refresh => exact hkept (congrArg Standing.peer l.refreshSetPoint_standing)
  | requestStreams => exact hkept (congrArg Standing.peer l.requestStreams_standing)
  | _ => exact hkept (congrArg Standing.peer (l.step_standing now rfl))

/-- A link that has calls only with a vehicle, and has heard from the vehicle where to send. -/
structure Seated (l : VehicleLink) : Prop where
  unmet : l.vehicle = none → l.calls = []
  met : l.vehicle ≠ none → l.peer ≠ none
  known : l.config.mode = .client → l.peer ≠ none

theorem seated_new (config : LinkConfig) (network : Network) (peer : Option Endpoint)
    (hpeer : config.mode = .client → peer ≠ none) : (new config network peer).Seated where
  unmet _ := rfl
  met h := absurd rfl h
  known := hpeer

/-- How a call is answered at once by a link that has met no vehicle. -/
def unmetReply (call : LinkCall) : Reply :=
  if call.needsVehicle then .error .notConnected else .ok ()

/-- **Without a vehicle every call is answered at once**, and refused if it needs the vehicle. -/
theorem acts_of_unmet (hvehicle : l.vehicle = none) (hid : l.isOpen id = false) (now : Instant)
    (call : LinkCall) : (l.step now (.call id call)).2 = [.ends id (unmetReply call)] := by
  rw [step_call_of_fresh hid]
  cases call with
  | setTakeoffAltitude altitude => rfl
  | velocity v =>
      unfold beginFresh beginVelocity
      rw [hvehicle]
      rfl
  | shell text =>
      unfold beginFresh
      rw [hvehicle]
      rfl
  | arm =>
      unfold beginFresh beginCommand
      rw [hvehicle]
      rfl
  | _ =>
      have hleft : l.leaveOffboard.vehicle = none := hvehicle
      unfold beginFresh beginCommand
      rw [hleft]
      rfl

namespace Seated

theorem isOpen (h : l.Seated) (hvehicle : l.vehicle = none) (id : Nat) : l.isOpen id = false := by
  rw [VehicleLink.isOpen, h.unmet hvehicle]
  rfl

theorem roll (h : l.Seated) (hvehicle : l.vehicle = none) : l.roll = [] := by
  rw [VehicleLink.roll, h.unmet hvehicle]
  rfl

/-- No call is opened without a vehicle. -/
theorem calls_step (h : l.Seated) (hvehicle : l.vehicle = none) (now : Instant) (e : Event) :
    (l.step now e).1.calls = [] := by
  have hnobody : ∀ {c : OpenCall}, c ∉ l.roll := by
    rw [h.roll hvehicle]
    exact List.not_mem_nil
  suffices hroll : (l.step now e).1.roll = [] from List.map_eq_nil_iff.mp hroll
  cases l.step_handling now e with
  | rests hrests hends => exact hrests.roll.trans (h.roll hvehicle)
  | answers id call reply he hid hroll hslot hends => exact hroll.trans (h.roll hvehicle)
  | opens id call stage he hid hroll hslot hends =>
      rw [he, acts_of_unmet hvehicle hid] at hends
      cases hends
  | moves c stage hc he hroll hslot hends => exact absurd hc hnobody
  | ends c reply hc he hroll hslot hends => exact absurd hc hnobody
  | drops c hc he hroll hslot hends => exact absurd hc hnobody

/-- Messages come in datagrams, which tell the link where to send. -/
theorem step (h : l.Seated) (now : Instant) (he : e.isMessage = false) :
    (l.step now e).1.Seated where
  unmet hvehicle := by
    refine h.calls_step ?_ now e
    cases hknown : l.vehicle with
    | none => rfl
    | some target =>
        rw [step_vehicle hknown] at hvehicle
        cases hvehicle
  met hvehicle := by
    by_cases hknown : l.vehicle = none
    · cases e with
      | datagram sender octets =>
          change (l.receive sender octets).1.peer ≠ none
          rw [(l.receive_sameOutlet sender octets).peer]
          unfold notePeer
          cases hmode : l.config.mode with
          | server => exact Option.some_ne_none sender
          | client => exact h.known hmode
      | message header m => cases he
      | _ => exact absurd ((l.step_talks now rfl).vehicle.trans hknown) hvehicle
    · exact step_peer (h.met hknown) now e
  known hmode := by
    rw [(l.step_numbers now e).config] at hmode
    exact step_peer (h.known hmode) now e

theorem run (h : l.Seated) (hes : ∀ x ∈ es, x.2.isMessage = false) : (l.run es).1.Seated := by
  induction es generalizing l with
  | nil => exact h
  | cons first rest ih =>
      obtain ⟨hfirst, hrest⟩ := List.forall_mem_cons.mp hes
      exact ih (h.step first.1 hfirst) hrest

/-- Without a vehicle the events of calls only answer, and that at once. -/
theorem acts_step (h : l.Seated) (hvehicle : l.vehicle = none) (now : Instant)
    (he : e.isOfCall = true) : ∀ a ∈ (l.step now e).2, ∃ id reply, a = .ends id reply := by
  cases e with
  | call id call =>
      rw [acts_of_unmet hvehicle (h.isOpen hvehicle id)]
      exact fun a ha => ⟨id, unmetReply call, List.mem_singleton.mp ha⟩
  | move id =>
      change ∀ a ∈ (l.move now id).2, _
      unfold VehicleLink.move
      rw [h.unmet hvehicle]
      exact fun a ha => absurd ha List.not_mem_nil
  | abandon id => exact fun a ha => absurd ha List.not_mem_nil
  | _ => cases he

end Seated

/-! ## A call with a vehicle -/

/-- A call that begins and has something to send, behind those that were open. -/
structure Opening (l : VehicleLink) (id : Nat) (left : VehicleLink) (c : OpenCall) : Prop where
  owner : c.id = id
  speaks : c.stage.speaks = true
  fresh : left.isOpen id = false
  peer : left.peer = l.peer

theorem beginCommand_opening (hvehicle : l.vehicle = some target) (hid : l.isOpen id = false)
    (now : Instant) (name : String) (order : Order) :
    ∃ left c, l.beginCommand now id name order = (left.opened c, []) ∧ l.Opening id left c := by
  have hrests := l.startRequest_rests now name order target
  have hfresh : (l.startRequest now name order target).1.isOpen id = false := by
    rw [Bool.eq_false_iff, ne_eq, isOpen_iff, hrests.roll, ← isOpen_iff, hid]
    exact Bool.false_ne_true
  refine ⟨(l.startRequest now name order target).1,
    ⟨id, .other, .transmitting (l.startRequest now name order target).2⟩, ?_, rfl, rfl, hfresh,
    congrArg Standing.peer (l.startRequest_standing now name order target)⟩
  unfold beginCommand
  rw [hvehicle]

theorem call_opening (hvehicle : l.vehicle = some target) (hid : l.isOpen id = false)
    (hneeds : call.needsVehicle = true) (now : Instant) :
    ∃ left c, l.step now (.call id call) = (left.opened c, []) ∧ l.Opening id left c := by
  rw [step_call_of_fresh hid]
  cases call with
  | setTakeoffAltitude altitude => cases hneeds
  | velocity v =>
      refine ⟨{ l with slot := some ⟨v, l.isOffboard⟩ },
        ⟨id, .velocity l.isOffboard, .setPointDue target v⟩, ?_, rfl, rfl, hid, rfl⟩
      unfold beginFresh beginVelocity
      rw [hvehicle]
  | shell text =>
      refine ⟨l, ⟨id, .other, .shellDue (shellPieces text)⟩, ?_, rfl, ?_, hid, rfl⟩
      · unfold beginFresh
        rw [hvehicle]
      · obtain ⟨first, rest, hpieces⟩ := List.exists_cons_of_ne_nil (shellPieces_ne_nil text)
        rw [hpieces]
        rfl
  | arm => exact beginCommand_opening hvehicle hid now _ _
  | _ =>
      obtain ⟨left, c, heq, hopening⟩ :=
        beginCommand_opening (l := l.leaveOffboard) hvehicle hid now _ _
      exact ⟨left, c, heq, hopening.owner, hopening.speaks, hopening.fresh, hopening.peer⟩

/-- What an attempt to send that has a peer leads a call to. -/
theorem after_attempt {peer : Endpoint} (hpeer : l.peer = some peer) (m : Message) (c : OpenCall)
    (goOn : VehicleLink → VehicleLink × List LinkAct) :
    (∃ header, .sends peer header m ∈ (after (l.send m) c goOn).2) ∨
      ∃ reason, (after (l.send m) c goOn).2 = [.ends c.id (.error (.io reason))] := by
  unfold send
  rw [hpeer]
  dsimp only
  split
  · rename_i reason hrefusal
    exact .inr ⟨reason, rfl⟩
  · exact .inl ⟨_, List.mem_cons_self⟩

/-- **With a vehicle the first move of a call is an attempt to send.** -/
theorem first_move {peer : Endpoint} (hvehicle : l.vehicle = some target)
    (hpeer : l.peer = some peer) (hid : l.isOpen id = false) (hneeds : call.needsVehicle = true)
    (now later : Instant) :
    (l.step now (.call id call)).2 = [] ∧
      ((∃ header m, .sends peer header m ∈
          ((l.step now (.call id call)).1.step later (.move id)).2) ∨
        ∃ reason, ((l.step now (.call id call)).1.step later (.move id)).2 =
          [.ends id (.error (.io reason))]) := by
  obtain ⟨left, c, heq, hopening⟩ := call_opening hvehicle hid hneeds now
  rw [heq]
  refine ⟨rfl, ?_⟩
  have hfind : (left.opened c).calls.find? (fun o => o.id = id) = some c := by
    have hnone : left.calls.find? (fun o => o.id = id) = none := by
      rw [List.find?_eq_none]
      exact List.any_eq_false.mp hopening.fresh
    change (left.calls ++ [c]).find? _ = _
    rw [List.find?_append, hnone]
    simp [hopening.owner]
  have hmove : (left.opened c).step later (.move id) = (left.opened c).moveCall later c := by
    change (left.opened c).move later id = _
    rw [move, hfind]
  have hleft : (left.opened c).peer = some peer := hopening.peer.trans hpeer
  have hspeaks := hopening.speaks
  rw [hmove, ← hopening.owner]
  unfold moveCall
  cases hstage : c.stage with
  | setPointDue t v =>
      exact (after_attempt hleft _ c _).imp_left (Exists.imp fun _ hsent => ⟨_, hsent⟩)
  | transmitting r =>
      exact (after_attempt hleft _ c _).imp_left (Exists.imp fun _ hsent => ⟨_, hsent⟩)
  | awaiting r =>
      rw [hstage] at hspeaks
      cases hspeaks
  | shellDue messages =>
      cases messages with
      | nil =>
          rw [hstage] at hspeaks
          cases hspeaks
      | cons m rest =>
          exact (after_attempt hleft _ c _).imp_left (Exists.imp fun _ hsent => ⟨_, hsent⟩)

end VehicleLink

end GroundStation
