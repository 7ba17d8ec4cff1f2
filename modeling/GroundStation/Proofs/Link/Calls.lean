import GroundStation.Proofs.Link.Conduct
import Mathlib.Data.List.Nodup

/-!
# What an event is to the calls

Calls are made, move, end and are given up, and in between messages come in and the station
sends on its own account. This module says once, for every event, what that is to the open
calls and to the velocity slot (`VehicleLink.Handling`). At most one call is concerned. The
others stay as they are, except that their requests may be told something; so the calls are
compared without what they were told (`VehicleLink.roll`).

The slot changes in two places only: where a call is made, and where a call ends.

## Main results

* `VehicleLink.step_handling`: what one event is to the calls and to the slot.
* `VehicleLink.Handling.mem_roll`: who stays on the roll.
* `VehicleLink.started_stage`: how a request starts.
* `VehicleLink.step_vehicle`: the link does not lose its vehicle.
-/

namespace GroundStation

open Mavlink

/-! ## The roll -/

/-- A stage, whatever its request was told. -/
def CallStage.untold : CallStage → CallStage
  | .transmitting r => .transmitting { r with verdict := none }
  | .awaiting r => .awaiting { r with verdict := none }
  | stage => stage

@[simp] theorem CallStage.untold_ticket? (stage : CallStage) :
    stage.untold.ticket? = stage.ticket? := by
  cases stage <;> rfl

/-- A call, whatever its request was told. -/
def OpenCall.untold (c : OpenCall) : OpenCall := { c with stage := c.stage.untold }

/-- A stage that holds no request, or one that starts now. -/
def CallStage.Begins (l : VehicleLink) (now : Instant) (stage : CallStage) : Prop :=
  ∀ r, stage.request? = some r → stage = .transmitting r ∧
    r = .start r.name r.order r.target l.acks.nextTicket now l.commandTimeout

/-- The call that an act ends, and how. -/
def LinkAct.end? : LinkAct → Option (Nat × Reply)
  | .ends id reply => some (id, reply)
  | _ => none

/-- The calls that end, and how, in order. -/
def callEnds (acts : List LinkAct) : List (Nat × Reply) := acts.filterMap (·.end?)

theorem callEnds_append (acts later : List LinkAct) :
    callEnds (acts ++ later) = callEnds acts ++ callEnds later := List.filterMap_append ..

theorem mem_callEnds {acts : List LinkAct} {id : Nat} {reply : Reply} :
    (id, reply) ∈ callEnds acts ↔ .ends id reply ∈ acts := by
  rw [callEnds, List.mem_filterMap]
  constructor
  · rintro ⟨a, ha, heq⟩
    cases a <;> simp_all [LinkAct.end?]
  · exact fun h => ⟨_, h, rfl⟩

/-- What the beginning of a call leaves in the velocity slot. -/
def LinkCall.slotAfter (l : VehicleLink) : LinkCall → Option VelocitySlot
  | .disarm | .takeoff | .land | .goto .. => none
  | .velocity v => if l.vehicle.isSome then some ⟨v, l.isOffboard⟩ else l.slot
  | .arm | .setTakeoffAltitude _ | .shell _ => l.slot

/-- What a call that is made now is for. -/
def LinkCall.aim (l : VehicleLink) : LinkCall → CallAim
  | .velocity _ => .velocity l.isOffboard
  | _ => .other

namespace VehicleLink

/-- The open calls, whatever they were told. -/
def roll (l : VehicleLink) : List OpenCall := l.calls.map (·.untold)

variable {l l' l'' : VehicleLink} {c : OpenCall} {id : Nat} {now : Instant} {e : Event}
  {acts : List LinkAct}

theorem isOpen_iff : l.isOpen id = true ↔ ∃ c ∈ l.roll, c.id = id := by
  simp only [isOpen, List.any_eq_true, decide_eq_true_eq, roll, List.mem_map]
  constructor
  · rintro ⟨c, hc, hid⟩
    exact ⟨c.untold, ⟨c, hc, rfl⟩, hid⟩
  · rintro ⟨o, ⟨c, hc, rfl⟩, hid⟩
    exact ⟨c, hc, hid⟩

/-- A link with the same calls, whatever they were told, the same slot and, if it has one,
the same vehicle. -/
structure Rests (l l' : VehicleLink) : Prop where
  roll : l'.roll = l.roll
  slot : l'.slot = l.slot
  vehicle : ∀ target, l.vehicle = some target → l'.vehicle = some target

theorem Rests.refl (l : VehicleLink) : l.Rests l := ⟨rfl, rfl, fun _ h => h⟩

theorem Rests.trans (h : l.Rests l') (h' : l'.Rests l'') : l.Rests l'' where
  roll := h'.roll.trans h.roll
  slot := h'.slot.trans h.slot
  vehicle target ht := h'.vehicle target (h.vehicle target ht)

/-- **What an event is to the calls and to the slot.** -/
inductive Handling (l : VehicleLink) (now : Instant) (e : Event) (l' : VehicleLink)
    (acts : List LinkAct) : Prop
  /-- Nothing happens to them, except that requests may be told something. -/
  | rests (h : l.Rests l') (hends : callEnds acts = [])
  /-- A call is made and is over at once. -/
  | answers (id : Nat) (call : LinkCall) (reply : Reply) (he : e = .call id call)
    (hid : l.isOpen id = false) (hroll : l'.roll = l.roll) (hslot : l'.slot = call.slotAfter l)
    (hends : callEnds acts = [(id, reply)])
  /-- A call is made and is open now. -/
  | opens (id : Nat) (call : LinkCall) (stage : CallStage) (he : e = .call id call)
    (hid : l.isOpen id = false) (hroll : l'.roll = l.roll ++ [⟨id, call.aim l, stage.untold⟩])
    (hslot : l'.slot = call.slotAfter l) (hends : callEnds acts = [])
    (hstage : stage.Begins l now)
  /-- A call goes on, with the request it has or with one that starts now. -/
  | moves (c : OpenCall) (stage : CallStage) (hc : c ∈ l.roll) (he : e = .move c.id)
    (hroll : l'.roll = l.roll.map fun o =>
      if o.id = c.id then { o with stage := stage.untold } else o)
    (hslot : l'.slot = l.slot) (hends : callEnds acts = [])
    (hstage : stage.Begins l now ∨ stage.ticket? = c.stage.ticket?)
  /-- A call ends. -/
  | ends (c : OpenCall) (reply : Reply) (hc : c ∈ l.roll) (he : e = .move c.id)
    (hroll : l'.roll = l.roll.filter fun o => o.id ≠ c.id)
    (hslot : l'.slot = c.aim.settle l.slot reply) (hends : callEnds acts = [(c.id, reply)])
  /-- A call is given up. -/
  | drops (c : OpenCall) (hc : c ∈ l.roll) (he : e = .abandon c.id)
    (hroll : l'.roll = l.roll.filter fun o => o.id ≠ c.id)
    (hslot : l'.slot = l.slot) (hends : callEnds acts = [])

/-! ## What leaves the calls as they are -/

theorem tell_rests (l : VehicleLink) (ticket : Nat) (v : Verdict) :
    l.Rests (l.tell ticket v) := by
  refine ⟨?_, rfl, fun _ h => h⟩
  unfold roll tell
  rw [List.map_map]
  refine List.map_congr_left fun c _ => ?_
  obtain ⟨id, aim, stage⟩ := c
  cases stage <;> grind [OpenCall.untold, CallStage.untold]

theorem acknowledge_rests (l : VehicleLink) (a : CommandAck) : l.Rests (l.acknowledge a) := by
  unfold acknowledge
  split
  · rename_i acks ticket heq
    have hacks : l.Rests { l with acks := acks } := ⟨rfl, rfl, fun _ h => h⟩
    exact hacks.trans (tell_rests _ _ _)
  · exact ⟨rfl, rfl, fun _ h => h⟩

theorem understand_rests (l : VehicleLink) (fromAutopilot : Bool) (m : Message) :
    l.Rests (l.understand fromAutopilot m).1 ∧ callEnds (l.understand fromAutopilot m).2 = [] := by
  cases m with
  | commandAck a => exact ⟨l.acknowledge_rests a, rfl⟩
  | heartbeat b => cases fromAutopilot <;> exact ⟨Rests.refl l, rfl⟩
  | serialControl s =>
      refine ⟨Rests.refl l, ?_⟩
      rw [understand, callEnds, List.filterMap_map]
      exact List.filterMap_eq_nil_iff.mpr fun _ _ => rfl
  | _ => exact ⟨⟨rfl, rfl, fun _ h => h⟩, rfl⟩

theorem listen_rests (l : VehicleLink) (h : Header) (m : Message) :
    l.Rests (l.listen h m).1 ∧ callEnds (l.listen h m).2 = [] := by
  unfold listen
  split
  · exact ⟨Rests.refl l, rfl⟩
  · split
    · exact understand_rests _ _ _
    · exact ⟨Rests.refl l, rfl⟩

theorem identify_rests (l : VehicleLink) (sender : SystemAddress) :
    l.Rests (l.identify sender).1 ∧ callEnds (l.identify sender).2 = [] := by
  unfold identify
  split
  · exact ⟨Rests.refl l, rfl⟩
  · rename_i hknown
    refine ⟨⟨rfl, rfl, fun target ht => absurd (.inl ?_) hknown⟩, rfl⟩
    rw [ht]
    rfl

theorem handle_rests (l : VehicleLink) (h : Header) (m : Message) :
    l.Rests (l.handle h m).1 ∧ callEnds (l.handle h m).2 = [] := by
  cases m with
  | heartbeat b =>
      unfold handle
      dsimp only
      split
      · obtain ⟨hknown, hacts⟩ := l.identify_rests h.sender
        obtain ⟨hnext, hlater⟩ := (l.identify h.sender).1.listen_rests h (.heartbeat b)
        exact ⟨hknown.trans hnext, by rw [callEnds_append, hacts, hlater]; rfl⟩
      · exact ⟨Rests.refl l, rfl⟩
  | _ => exact listen_rests _ _ _

theorem handleAll_rests (l : VehicleLink) (messages : List (Header × Message)) :
    l.Rests (l.handleAll messages).1 ∧ callEnds (l.handleAll messages).2 = [] := by
  induction messages generalizing l with
  | nil => exact ⟨Rests.refl l, rfl⟩
  | cons first rest ih =>
      obtain ⟨hfirst, hacts⟩ := l.handle_rests first.1 first.2
      obtain ⟨hrest, hlater⟩ := ih (l.handle first.1 first.2).1
      exact ⟨hfirst.trans hrest, by rw [handleAll, callEnds_append, hacts, hlater]; rfl⟩

theorem receive_rests (l : VehicleLink) (sender : Endpoint) (octets : List UInt8) :
    l.Rests (l.receive sender octets).1 ∧ callEnds (l.receive sender octets).2 = [] := by
  have hpeer : l.Rests (l.notePeer sender) := by
    unfold notePeer
    split <;> exact ⟨rfl, rfl, fun _ h => h⟩
  obtain ⟨hrests, hends⟩ := (l.notePeer sender).handleAll_rests
    (l.network.dialect.messagesOf octets)
  exact ⟨hpeer.trans hrests, hends⟩

theorem send_rests (l : VehicleLink) (m : Message) :
    l.Rests (l.send m).link ∧ callEnds (l.send m).acts = [] := by
  unfold send
  split
  · exact ⟨Rests.refl l, rfl⟩
  · dsimp only
    split <;> exact ⟨⟨rfl, rfl, fun _ h => h⟩, rfl⟩

theorem announceAll_rests (l : VehicleLink) (messages : List Message) :
    l.Rests (l.announceAll messages).1 ∧ callEnds (l.announceAll messages).2 = [] := by
  induction messages generalizing l with
  | nil => exact ⟨Rests.refl l, rfl⟩
  | cons m rest ih =>
      obtain ⟨hfirst, hacts⟩ := l.send_rests m
      obtain ⟨hrest, hlater⟩ := ih (l.send m).link
      refine ⟨hfirst.trans hrest, ?_⟩
      rw [announceAll, callEnds_append, announce, hacts, hlater]
      rfl

theorem refreshSetPoint_rests (l : VehicleLink) :
    l.Rests l.refreshSetPoint.1 ∧ callEnds l.refreshSetPoint.2 = [] := by
  unfold refreshSetPoint
  split
  · exact l.send_rests _
  · exact ⟨Rests.refl l, rfl⟩

theorem requestStreams_rests (l : VehicleLink) :
    l.Rests l.requestStreams.1 ∧ callEnds l.requestStreams.2 = [] := by
  have hdone : l.Rests { l with streamsDue := false } := ⟨rfl, rfl, fun _ h => h⟩
  unfold requestStreams
  dsimp only
  split
  · exact ⟨hdone, rfl⟩
  · split
    · exact ⟨hdone, rfl⟩
    · obtain ⟨hsent, hacts⟩ := announceAll_rests { l with streamsDue := false } _
      exact ⟨hdone.trans hsent, hacts⟩

theorem startRequest_rests (l : VehicleLink) (now : Instant) (name : String) (order : Order)
    (target : SystemAddress) : l.Rests (l.startRequest now name order target).1 := by
  have hacks : l.Rests { l with acks := (l.acks.start order.commandId).table } :=
    ⟨rfl, rfl, fun _ h => h⟩
  unfold startRequest
  dsimp only
  split
  · exact hacks.trans (tell_rests _ _ _)
  · exact hacks

/-- A link that sends as the other does: to the same peer, on the same network. -/
structure SameOutlet (l l' : VehicleLink) : Prop where
  peer : l'.peer = l.peer
  network : l'.network = l.network
  config : l'.config = l.config

theorem SameOutlet.refl (l : VehicleLink) : l.SameOutlet l := ⟨rfl, rfl, rfl⟩

theorem SameOutlet.trans (h : l.SameOutlet l') (h' : l'.SameOutlet l'') : l.SameOutlet l'' where
  peer := h'.peer.trans h.peer
  network := h'.network.trans h.network
  config := h'.config.trans h.config

theorem SameOutlet.commandTimeout (h : l.SameOutlet l') : l'.commandTimeout = l.commandTimeout := by
  rw [VehicleLink.commandTimeout, h.config]
  rfl

theorem send_sameOutlet (l : VehicleLink) (m : Message) : l.SameOutlet (l.send m).link := by
  unfold send
  split
  · exact SameOutlet.refl l
  · dsimp only
    split <;> exact ⟨rfl, rfl, rfl⟩

theorem startRequest_sameOutlet (l : VehicleLink) (now : Instant) (name : String) (order : Order)
    (target : SystemAddress) : l.SameOutlet (l.startRequest now name order target).1 := by
  unfold startRequest
  dsimp only
  split <;> exact ⟨rfl, rfl, rfl⟩

/-! ## Calls that are made -/

theorem roll_opened (l : VehicleLink) (c : OpenCall) : (l.opened c).roll = l.roll ++ [c.untold] :=
  List.map_append

/-- A request that starts. -/
theorem startRequest_begins (hacks : l'.acks = l.acks) (houtlet : l.SameOutlet l')
    (now : Instant) (name : String) (order : Order) (target : SystemAddress) :
    CallStage.Begins l now (.transmitting (l'.startRequest now name order target).2) := by
  rintro r hr
  obtain rfl := Option.some.inj hr
  refine ⟨rfl, ?_⟩
  rw [← hacks, ← houtlet.commandTimeout]
  unfold startRequest
  dsimp only
  split <;> rfl

/-- A call that is one command, made once the slot is as the call leaves it. -/
theorem beginCommand_handling (left : VehicleLink) (call : LinkCall) (hid : l.isOpen id = false)
    (hdesk : l.SameDesk left) (houtlet : l.SameOutlet left)
    (hslot : left.slot = call.slotAfter l) (haim : call.aim l = .other)
    (now : Instant) (name : String) (order : Order) :
    l.Handling now (.call id call) (left.beginCommand now id name order).1
      (left.beginCommand now id name order).2 := by
  have hroll : left.roll = l.roll := congrArg (List.map _) hdesk.calls
  unfold beginCommand
  split
  · exact .answers id call _ rfl hid hroll hslot rfl
  · rename_i target htarget
    have hstart := left.startRequest_rests now name order target
    refine .opens id call (.transmitting (left.startRequest now name order target).2) rfl hid ?_
      (hstart.slot.trans hslot) rfl (startRequest_begins hdesk.acks houtlet _ _ _ _)
    rw [haim, ← hroll, ← hstart.roll]
    exact roll_opened _ _

theorem beginFresh_handling (hid : l.isOpen id = false) (now : Instant) (call : LinkCall) :
    l.Handling now (.call id call) (l.beginFresh now id call).1 (l.beginFresh now id call).2 := by
  have hleft : l.SameDesk l.leaveOffboard := ⟨rfl, rfl⟩
  have houtlet : l.SameOutlet l.leaveOffboard := ⟨rfl, rfl, rfl⟩
  cases call with
  | setTakeoffAltitude altitude => exact .answers id _ _ rfl hid rfl rfl rfl
  | velocity v =>
      unfold beginFresh beginVelocity
      dsimp only
      split
      · rename_i hnone
        refine .answers id _ _ rfl hid rfl ?_ rfl
        simp [refuse, LinkCall.slotAfter, hnone]
      · rename_i target hsome
        refine .opens id _ (.setPointDue target v) rfl hid (roll_opened _ _) ?_ rfl nofun
        simp [opened, LinkCall.slotAfter, hsome]
  | shell text =>
      unfold beginFresh
      dsimp only
      split
      · exact .answers id _ _ rfl hid rfl rfl rfl
      · exact .opens id _ (.shellDue (shellPieces text)) rfl hid (roll_opened _ _) rfl rfl nofun
  | arm =>
      exact beginCommand_handling l .arm hid (SameDesk.refl l) (SameOutlet.refl l) rfl rfl _ _ _
  | disarm => exact beginCommand_handling _ .disarm hid hleft houtlet rfl rfl _ _ _
  | takeoff => exact beginCommand_handling _ .takeoff hid hleft houtlet rfl rfl _ _ _
  | land => exact beginCommand_handling _ .land hid hleft houtlet rfl rfl _ _ _
  | goto latitude longitude altitude speed =>
      exact beginCommand_handling _ (.goto latitude longitude altitude speed) hid hleft houtlet
        rfl rfl _ _ _

/-! ## Calls that move -/

theorem roll_closed (l : VehicleLink) (id : Nat) :
    (l.closed id).roll = l.roll.filter fun o => o.id ≠ id := by
  change (l.calls.filter _).map _ = (l.calls.map _).filter _
  rw [List.filter_map]
  rfl

theorem roll_restage (l : VehicleLink) (id : Nat) (stage : CallStage) :
    (l.restage id stage).roll =
      l.roll.map fun o => if o.id = id then { o with stage := stage.untold } else o := by
  change (l.calls.map _).map _ = (l.calls.map _).map _
  rw [List.map_map, List.map_map]
  refine List.map_congr_left fun c _ => ?_
  by_cases h : c.id = id <;> simp [OpenCall.untold, h]

/-- What is done with a call after an attempt to send. -/
theorem Handling.of_send (m : Message) (h' : (l.send m).link.Handling now (.move id) l'' acts) :
    l.Handling now (.move id) l'' acts := by
  obtain ⟨h, -⟩ := l.send_rests m
  cases h' with
  | rests h' hends => exact .rests (h.trans h') hends
  | answers id call reply he => cases he
  | opens id call stage he => cases he
  | moves c stage hc he hroll hslot hends hstage =>
      refine .moves c stage (h.roll ▸ hc) he (h.roll ▸ hroll) (hslot.trans h.slot) hends ?_
      refine hstage.imp_left fun hbegins r hr => ?_
      rw [← (l.send_sameDesk m).acks, ← (l.send_sameOutlet m).commandTimeout]
      exact hbegins r hr
  | ends c reply hc he hroll hslot hends =>
      exact .ends c reply (h.roll ▸ hc) he (h.roll ▸ hroll) (h.slot ▸ hslot) hends
  | drops c hc he => cases he

/-- What was done before is no end of a call. -/
theorem Handling.prepend {earlier : List LinkAct} (h : l.Handling now e l' acts)
    (hearlier : callEnds earlier = []) : l.Handling now e l' (earlier ++ acts) := by
  have hsame : callEnds (earlier ++ acts) = callEnds acts := by
    rw [callEnds_append, hearlier]
    rfl
  cases h with
  | rests h hends => exact .rests h (hsame.trans hends)
  | answers id call reply he hid hroll hslot hends =>
      exact .answers id call reply he hid hroll hslot (hsame.trans hends)
  | opens id call stage he hid hroll hslot hends hstage =>
      exact .opens id call stage he hid hroll hslot (hsame.trans hends) hstage
  | moves c stage hc he hroll hslot hends hstage =>
      exact .moves c stage hc he hroll hslot (hsame.trans hends) hstage
  | ends c reply hc he hroll hslot hends =>
      exact .ends c reply hc he hroll hslot (hsame.trans hends)
  | drops c hc he hroll hslot hends => exact .drops c hc he hroll hslot (hsame.trans hends)

theorem mem_roll (hc : c ∈ l.calls) : c.untold ∈ l.roll := List.mem_map_of_mem hc

theorem finish_handling (hc : c.untold ∈ l.roll) (now : Instant) (reply : Reply) :
    l.Handling now (.move c.id) (l.finish c reply).1 (l.finish c reply).2 :=
  .ends c.untold reply hc rfl (l.roll_closed c.id) rfl rfl

/-- A call that goes on with the request it has, or without one. -/
theorem restage_handling (hc : c.untold ∈ l.roll) (now : Instant) {stage : CallStage}
    (hstage : stage.ticket? = c.stage.ticket?) :
    l.Handling now (.move c.id) (l.restage c.id stage) [] := by
  refine .moves c.untold stage hc rfl (l.roll_restage c.id stage) rfl rfl (.inr ?_)
  exact hstage.trans c.stage.untold_ticket?.symm

/-- A call that goes on to start a request. -/
theorem restage_start_handling (hc : c.untold ∈ l.roll) (now : Instant) (name : String)
    (order : Order) (target : SystemAddress) :
    l.Handling now (.move c.id) ((l.startRequest now name order target).1.restage c.id
      (.transmitting (l.startRequest now name order target).2)) [] := by
  have hstart := l.startRequest_rests now name order target
  refine .moves c.untold (.transmitting (l.startRequest now name order target).2) hc rfl ?_
    hstart.slot rfl (.inl (startRequest_begins rfl (SameOutlet.refl l) _ _ _ _))
  rw [roll_restage, hstart.roll]
  rfl

/-- Going on after an attempt to send. -/
theorem after_handling (hc : c.untold ∈ l.roll) (m : Message)
    {goOn : VehicleLink → VehicleLink × List LinkAct}
    (hgoOn : ∀ l' : VehicleLink, c.untold ∈ l'.roll →
      l'.Handling now (.move c.id) (goOn l').1 (goOn l').2) :
    l.Handling now (.move c.id) (after (l.send m) c goOn).1 (after (l.send m) c goOn).2 := by
  obtain ⟨hsent, hacts⟩ := l.send_rests m
  have hc' : c.untold ∈ (l.send m).link.roll := hsent.roll ▸ hc
  refine .of_send m ?_
  rcases after_cases (l.send m) c goOn with heq | ⟨e, heq⟩
  · rw [heq]
    exact (hgoOn _ hc').prepend hacts
  · rw [heq]
    exact (finish_handling hc' now (.error e)).prepend hacts

theorem moveCall_handling (hc : c.untold ∈ l.roll) (now : Instant) :
    l.Handling now (.move c.id) (l.moveCall now c).1 (l.moveCall now c).2 := by
  unfold moveCall
  cases hstage : c.stage with
  | setPointDue target v =>
      refine after_handling hc _ fun l' hc' => ?_
      split
      · exact finish_handling hc' now _
      · exact restage_start_handling hc' now _ _ _
  | transmitting r =>
      refine after_handling hc _ fun l' hc' => restage_handling hc' now ?_
      rw [hstage]
      rfl
  | awaiting r =>
      dsimp only
      repeat' split
      · exact finish_handling hc now _
      · exact .rests (Rests.refl l) rfl
      · exact finish_handling hc now _
      · refine restage_handling hc now ?_
        rw [hstage]
        rfl
  | shellDue rest =>
      cases rest with
      | nil => exact finish_handling hc now _
      | cons m rest =>
          refine after_handling hc _ fun l' hc' => restage_handling hc' now ?_
          rw [hstage]
          rfl

/-! ## Every event -/

/-- A call under a number that is free begins. -/
theorem step_call_of_fresh {l : VehicleLink} {id : Nat} (hid : l.isOpen id = false) (now : Instant)
    (call : LinkCall) : l.step now (.call id call) = l.beginFresh now id call := by
  simp [step, begin, hid]

/-- **What one event is to the calls and to the slot.** -/
theorem step_handling (l : VehicleLink) (now : Instant) (e : Event) :
    l.Handling now e (l.step now e).1 (l.step now e).2 := by
  cases e with
  | call id call =>
      change l.Handling now _ (l.begin now id call).1 (l.begin now id call).2
      unfold begin
      split
      · exact .rests (Rests.refl l) rfl
      · rename_i hid
        exact beginFresh_handling (Bool.eq_false_iff.mpr hid) _ _
  | move id =>
      change l.Handling now _ (l.move now id).1 (l.move now id).2
      unfold move
      split
      · rename_i c hfind
        have hid : c.id = id := by simpa using List.find?_some hfind
        rw [← hid]
        exact moveCall_handling (mem_roll (List.mem_of_find?_eq_some hfind)) now
      · exact .rests (Rests.refl l) rfl
  | abandon id =>
      change l.Handling now _ (l.abandon id) []
      unfold abandon
      split
      · rename_i c hfind
        have hid : c.id = id := by simpa using List.find?_some hfind
        rw [← hid]
        exact .drops c.untold (mem_roll (List.mem_of_find?_eq_some hfind)) rfl
          (l.roll_closed c.id) rfl rfl
      · exact .rests (Rests.refl l) rfl
  | datagram sender octets =>
      obtain ⟨hrests, hends⟩ := l.receive_rests sender octets
      exact .rests hrests hends
  | message h m => exact .rests (l.handle_rests h m).1 (l.handle_rests h m).2
  | heartbeat => exact .rests (l.send_rests _).1 (l.send_rests _).2
  | refresh => exact .rests l.refreshSetPoint_rests.1 l.refreshSetPoint_rests.2
  | requestStreams => exact .rests l.requestStreams_rests.1 l.requestStreams_rests.2

/-- A call that neither moves nor is given up stays as it is. -/
theorem Handling.mem_roll (h : l.Handling now e l' acts) (hc : c ∈ l.roll) (hmove : e ≠ .move c.id)
    (hgiven : e ≠ .abandon c.id) : c ∈ l'.roll := by
  cases h with
  | rests h hends => exact h.roll ▸ hc
  | answers id call reply he hid hroll hslot hends => exact hroll ▸ hc
  | opens id call stage he hid hroll hslot hends hstage =>
      rw [hroll]
      exact List.mem_append_left _ hc
  | moves o stage ho he hroll hslot hends hstage =>
      have hne : c.id ≠ o.id := fun heq => hmove (heq ▸ he)
      rw [hroll]
      exact List.mem_map.mpr ⟨c, hc, if_neg hne⟩
  | ends o reply ho he hroll hslot hends =>
      have hne : c.id ≠ o.id := fun heq => hmove (heq ▸ he)
      rw [hroll]
      exact List.mem_filter.mpr ⟨hc, decide_eq_true hne⟩
  | drops o ho he hroll hslot hends =>
      have hne : c.id ≠ o.id := fun heq => hgiven (heq ▸ he)
      rw [hroll]
      exact List.mem_filter.mpr ⟨hc, decide_eq_true hne⟩

/-- A call that is still open is not the one that was taken off the roll. -/
theorem mem_roll_of_isOpen {k : Nat} (hroll : l'.roll = l.roll.filter fun o => o.id ≠ k)
    (hc : c ∈ l.roll) (hopen : l'.isOpen c.id = true) : c ∈ l'.roll := by
  obtain ⟨o, ho, hid⟩ := isOpen_iff.mp hopen
  rw [hroll] at ho ⊢
  have hne : o.id ≠ k := by simpa using (List.mem_filter.mp ho).2
  exact List.mem_filter.mpr ⟨hc, decide_eq_true (hid ▸ hne)⟩

/-- A call keeps what it is for as long as it is open. -/
theorem Handling.aim (h : l.Handling now e l' acts) (hc : c ∈ l.roll)
    (hopen : l'.isOpen c.id = true) :
    ∃ o ∈ l'.roll, o.id = c.id ∧ o.aim = c.aim := by
  cases h with
  | rests h hends => exact ⟨c, h.roll ▸ hc, rfl, rfl⟩
  | answers id call reply he hid hroll hslot hends => exact ⟨c, hroll ▸ hc, rfl, rfl⟩
  | opens id call stage he hid hroll hslot hends hstage =>
      exact ⟨c, hroll ▸ List.mem_append_left _ hc, rfl, rfl⟩
  | moves o stage ho he hroll hslot hends hstage =>
      refine ⟨_, hroll ▸ List.mem_map_of_mem hc, ?_⟩
      by_cases heq : c.id = o.id <;> simp [heq]
  | ends o reply ho he hroll hslot hends =>
      exact ⟨c, mem_roll_of_isOpen hroll hc hopen, rfl, rfl⟩
  | drops o ho he hroll hslot hends => exact ⟨c, mem_roll_of_isOpen hroll hc hopen, rfl, rfl⟩

/-- The calls have different numbers, so a call is known by its number. -/
theorem Orderly.roll_unique (ho : l.Orderly) {o : OpenCall} (hc : c ∈ l.roll) (hmem : o ∈ l.roll)
    (hid : o.id = c.id) : o = c := by
  have hids : (l.roll.map (·.id)).Nodup := by
    unfold roll
    rw [List.map_map]
    exact ho.ids
  exact List.inj_on_of_nodup_map hids hmem hc hid

/-! ## Requests that start -/

/-- What a call was told is all that the roll leaves out. -/
theorem exists_of_mem_roll {o : OpenCall} (ho : o ∈ l.roll) : ∃ c ∈ l.calls, c.untold = o :=
  List.mem_map.mp ho

/-- The requests on the roll have tickets that were given before. -/
theorem Orderly.ticket_lt (ho : l.Orderly) (hc : c ∈ l.roll) {command : CommandId} {ticket : Nat}
    (hticket : c.stage.ticket? = some (command, ticket)) : ticket < l.acks.nextTicket := by
  obtain ⟨o, hopen, rfl⟩ := exists_of_mem_roll hc
  have hrequest : ∃ r, o.stage.request? = some r ∧ r.ticket = ticket := by
    have hstage : o.stage.ticket? = some (command, ticket) :=
      o.stage.untold_ticket?.symm.trans hticket
    cases ho : o.stage with
    | transmitting r =>
        rw [ho] at hstage
        exact ⟨r, rfl, congrArg Prod.snd (Option.some.inj hstage)⟩
    | awaiting r =>
        rw [ho] at hstage
        exact ⟨r, rfl, congrArg Prod.snd (Option.some.inj hstage)⟩
    | _ => simp [ho, CallStage.ticket?] at hstage
  obtain ⟨r, hr, rfl⟩ := hrequest
  have hmem : r ∈ l.requests := List.mem_filterMap.mpr ⟨o, hopen, hr⟩
  exact ho.sound.claim_fresh (List.mem_map_of_mem hmem)

/-- The ticket of a call with a request. -/
theorem ticket?_of_request? {stage : CallStage} {r : CommandRequest}
    (hr : stage.request? = some r) : stage.ticket? = some (r.order.commandId, r.ticket) := by
  cases stage with
  | transmitting q =>
      obtain rfl := Option.some.inj hr
      rfl
  | awaiting q =>
      obtain rfl := Option.some.inj hr
      rfl
  | _ => cases hr

/-- **A request that an event starts** is yet to be sent, and has all of its time. -/
theorem started_stage (ho : l.Orderly) (hc : c ∈ (l.step now e).1.roll) {r : CommandRequest}
    (hr : c.stage.request? = some r) (hnew : l.acks.nextTicket ≤ r.ticket) :
    c.stage = .transmitting r ∧
      r = .start r.name r.order r.target l.acks.nextTicket now l.commandTimeout := by
  have hticket := ticket?_of_request? hr
  have hold : c ∉ l.roll := fun hmem =>
    absurd (ho.ticket_lt hmem hticket) (Nat.not_lt_of_le hnew)
  have hbegins : ∀ {stage : CallStage}, c.stage = stage.untold → stage.Begins l now →
      c.stage = .transmitting r ∧
        r = .start r.name r.order r.target l.acks.nextTicket now l.commandTimeout := by
    intro stage heq hbegins
    rw [heq] at hr ⊢
    cases stage with
    | transmitting q =>
        obtain ⟨-, hstart⟩ := hbegins q rfl
        have hsame : ({ q with verdict := none } : CommandRequest) = q := by
          rw [hstart]
          rfl
        have hqr : q = r := hsame.symm.trans (Option.some.inj hr)
        exact ⟨congrArg CallStage.transmitting (hsame.trans hqr), hqr ▸ hstart⟩
    | awaiting q => cases (hbegins q rfl).1
    | _ => cases hr
  cases l.step_handling now e with
  | rests h hends => exact absurd (h.roll ▸ hc) hold
  | answers id call reply he hid hroll hslot hends => exact absurd (hroll ▸ hc) hold
  | opens id call stage he hid hroll hslot hends hstage =>
      rw [hroll, List.mem_append, List.mem_singleton] at hc
      exact hbegins (congrArg OpenCall.stage (hc.resolve_left hold)) hstage
  | moves o stage hmem he hroll hslot hends hstage =>
      rw [hroll] at hc
      obtain ⟨o', ho', rfl⟩ := List.mem_map.mp hc
      split at hold
      · rename_i hid
        rcases hstage with hstage | hstage
        · refine hbegins ?_ hstage
          rw [if_pos hid]
        · rw [if_pos hid] at hticket
          have hlt := ho.ticket_lt hmem (hstage.symm.trans
            (stage.untold_ticket?.symm.trans hticket))
          exact absurd hlt (Nat.not_lt_of_le hnew)
      · exact absurd ho' hold
  | ends o reply hmem he hroll hslot hends =>
      rw [hroll] at hc
      exact absurd (List.mem_filter.mp hc).1 hold
  | drops o hmem he hroll hslot hends =>
      rw [hroll] at hc
      exact absurd (List.mem_filter.mp hc).1 hold

/-! ## The vehicle -/

variable {target : SystemAddress}

theorem beginCommand_vehicle (h : l.vehicle = some target) (now : Instant) (id : Nat)
    (name : String) (order : Order) :
    (l.beginCommand now id name order).1.vehicle = some target := by
  unfold beginCommand
  split
  · exact h
  · exact (l.startRequest_rests now name order _).vehicle target h

theorem beginFresh_vehicle (h : l.vehicle = some target) (now : Instant) (id : Nat)
    (call : LinkCall) : (l.beginFresh now id call).1.vehicle = some target := by
  cases call with
  | setTakeoffAltitude altitude => exact h
  | velocity v =>
      unfold beginFresh beginVelocity
      dsimp only
      split <;> exact h
  | shell text =>
      unfold beginFresh
      dsimp only
      split <;> exact h
  | arm => exact beginCommand_vehicle h _ _ _ _
  | _ =>
      have hleft : l.leaveOffboard.vehicle = some target := h
      exact beginCommand_vehicle hleft _ _ _ _

theorem after_vehicle (h : l.vehicle = some target) (m : Message)
    {goOn : VehicleLink → VehicleLink × List LinkAct}
    (hgoOn : ∀ l' : VehicleLink, l'.vehicle = some target → (goOn l').1.vehicle = some target) :
    (after (l.send m) c goOn).1.vehicle = some target := by
  have hsent := (l.send_rests m).1.vehicle target h
  rcases after_cases (l.send m) c goOn with heq | ⟨e, heq⟩
  · rw [heq]
    exact hgoOn _ hsent
  · rw [heq]
    exact hsent

theorem moveCall_vehicle (h : l.vehicle = some target) (now : Instant) (c : OpenCall) :
    (l.moveCall now c).1.vehicle = some target := by
  unfold moveCall
  cases c.stage with
  | setPointDue t v =>
      refine after_vehicle h _ fun l' h' => ?_
      split
      · exact h'
      · exact (l'.startRequest_rests now "offboard" followOrder t).vehicle target h'
  | transmitting r => exact after_vehicle h _ fun l' h' => h'
  | awaiting r =>
      dsimp only
      repeat' split
      all_goals exact h
  | shellDue rest =>
      cases rest with
      | nil => exact h
      | cons m rest => exact after_vehicle h _ fun l' h' => h'

/-- **The link does not lose its vehicle.** -/
theorem step_vehicle (h : l.vehicle = some target) (now : Instant) (e : Event) :
    (l.step now e).1.vehicle = some target := by
  cases e with
  | call id call =>
      change (l.begin now id call).1.vehicle = some target
      unfold begin
      split
      · exact h
      · exact beginFresh_vehicle h _ _ _
  | move id =>
      change (l.move now id).1.vehicle = some target
      unfold move
      split
      · exact moveCall_vehicle h _ _
      · exact h
  | abandon id =>
      change (l.abandon id).vehicle = some target
      unfold abandon
      split <;> exact h
  | datagram sender octets => exact (l.receive_rests sender octets).1.vehicle target h
  | message header m => exact (l.handle_rests header m).1.vehicle target h
  | heartbeat => exact (l.send_rests _).1.vehicle target h
  | refresh => exact l.refreshSetPoint_rests.1.vehicle target h
  | requestStreams => exact l.requestStreams_rests.1.vehicle target h

theorem run_vehicle (h : l.vehicle = some target) (es : List (Instant × Event)) :
    (l.run es).1.vehicle = some target := by
  induction es generalizing l with
  | nil => exact h
  | cons first rest ih => exact ih (step_vehicle h first.1 first.2)

/-! ## The outlet -/

theorem after_sameOutlet (l : VehicleLink) (m : Message) (c : OpenCall)
    {goOn : VehicleLink → VehicleLink × List LinkAct}
    (hgoOn : ∀ l' : VehicleLink, l'.SameOutlet (goOn l').1) :
    l.SameOutlet (after (l.send m) c goOn).1 := by
  have hsent := l.send_sameOutlet m
  rcases after_cases (l.send m) c goOn with heq | ⟨e, heq⟩
  · rw [heq]
    exact hsent.trans (hgoOn (l.send m).link)
  · rw [heq]
    exact hsent.trans ⟨rfl, rfl, rfl⟩

/-- A call that moves changes nothing about where the link sends. -/
theorem move_sameOutlet (l : VehicleLink) (now : Instant) (id : Nat) :
    l.SameOutlet (l.step now (.move id)).1 := by
  change l.SameOutlet (l.move now id).1
  unfold move
  split
  · rename_i c hfind
    unfold moveCall
    cases c.stage with
    | setPointDue target v =>
        refine after_sameOutlet l _ c fun l' => ?_
        split
        · exact ⟨rfl, rfl, rfl⟩
        · exact (l'.startRequest_sameOutlet now "offboard" followOrder target).trans ⟨rfl, rfl, rfl⟩
    | transmitting r => exact after_sameOutlet l _ c fun l' => ⟨rfl, rfl, rfl⟩
    | awaiting r =>
        dsimp only
        repeat' split
        all_goals exact ⟨rfl, rfl, rfl⟩
    | shellDue rest =>
        cases rest with
        | nil => exact ⟨rfl, rfl, rfl⟩
        | cons m rest => exact after_sameOutlet l _ c fun l' => ⟨rfl, rfl, rfl⟩
  · exact SameOutlet.refl l

theorem identify_sameOutlet (l : VehicleLink) (sender : SystemAddress) :
    l.SameOutlet (l.identify sender).1 := by
  unfold identify
  split <;> exact ⟨rfl, rfl, rfl⟩

theorem understand_sameOutlet (l : VehicleLink) (fromAutopilot : Bool) (m : Message) :
    l.SameOutlet (l.understand fromAutopilot m).1 := by
  cases m with
  | commandAck a =>
      change l.SameOutlet (l.acknowledge a)
      unfold acknowledge
      split <;> exact ⟨rfl, rfl, rfl⟩
  | heartbeat b => cases fromAutopilot <;> exact ⟨rfl, rfl, rfl⟩
  | _ => exact ⟨rfl, rfl, rfl⟩

theorem listen_sameOutlet (l : VehicleLink) (h : Header) (m : Message) :
    l.SameOutlet (l.listen h m).1 := by
  unfold listen
  split
  · exact SameOutlet.refl l
  · split
    · exact l.understand_sameOutlet _ m
    · exact SameOutlet.refl l

/-- A message changes nothing about where the link sends. -/
theorem handle_sameOutlet (l : VehicleLink) (h : Header) (m : Message) :
    l.SameOutlet (l.handle h m).1 := by
  cases m with
  | heartbeat b =>
      unfold handle
      dsimp only
      split
      · exact (l.identify_sameOutlet _).trans (listen_sameOutlet _ _ _)
      · exact SameOutlet.refl l
  | _ => exact l.listen_sameOutlet h _

theorem handleAll_sameOutlet (l : VehicleLink) (messages : List (Header × Message)) :
    l.SameOutlet (l.handleAll messages).1 := by
  induction messages generalizing l with
  | nil => exact SameOutlet.refl l
  | cons first rest ih => exact (l.handle_sameOutlet first.1 first.2).trans (ih _)

/-- What a datagram changes about where the link sends is settled by its sender. -/
theorem receive_sameOutlet (l : VehicleLink) (sender : Endpoint) (octets : List UInt8) :
    (l.notePeer sender).SameOutlet (l.receive sender octets).1 :=
  handleAll_sameOutlet _ _

end VehicleLink

end GroundStation
