import GroundStation.Link.Conversation
import GroundStation.Proofs.Link.Desk

/-!
# What a link does at its desk

Of all that a link does, three things reach its desk: a call that sends a command starts a
request, messages of the vehicle bring acknowledgements, and a call that ends, or is given
up, ends the request it made. `VehicleLink.Conduct` says this once for every event, and the
table of acknowledgements need not be looked into again.

Two facts about the calls are needed on the way and kept from step to step: no two calls
have the same number, and no two requests the same ticket (`VehicleLink.Orderly`).

## Main results

* `VehicleLink.step_conduct`: what one event does at the desk.
* `VehicleLink.Orderly.step`, `VehicleLink.Orderly.run`: every link that is reached is
  orderly.
-/

namespace GroundStation

open Mavlink

/-! ## The requests of a link -/

/-- The request of a call that has made one. -/
def CallStage.request? : CallStage → Option CommandRequest
  | .transmitting r | .awaiting r => some r
  | _ => none

namespace CommandRequest

/-- What the table has to do with a request. -/
def claim (r : CommandRequest) : Claim := ⟨r.ticket, r.order.commandId, r.verdict⟩

/-- A request after the one with a ticket, if any, was told something. -/
def told (who : Option Nat) (v : Verdict) (r : CommandRequest) : CommandRequest :=
  if who = some r.ticket then { r with verdict := some v } else r

theorem told_claim (who : Option Nat) (v : Verdict) (r : CommandRequest) :
    (r.told who v).claim = r.claim.told who v := by
  unfold told Claim.told
  split <;> rename_i h <;> simp [claim, h]

@[simp] theorem told_ticket (who : Option Nat) (v : Verdict) (r : CommandRequest) :
    (r.told who v).ticket = r.ticket := by
  unfold told
  split <;> rfl

end CommandRequest

/-- The requests among calls. -/
def requestsOf (calls : List OpenCall) : List CommandRequest :=
  calls.filterMap (·.stage.request?)

theorem requestsOf_append (calls later : List OpenCall) :
    requestsOf (calls ++ later) = requestsOf calls ++ requestsOf later :=
  List.filterMap_append ..

theorem requestsOf_cons (c : OpenCall) (calls : List OpenCall) :
    requestsOf (c :: calls) = c.stage.request?.toList ++ requestsOf calls := by
  cases h : c.stage.request? <;> simp [requestsOf, h]

namespace VehicleLink

/-- The requests that are open. -/
def requests (l : VehicleLink) : List CommandRequest := requestsOf l.calls

/-- The desk of a link. -/
def desk (l : VehicleLink) : Desk := ⟨l.acks, fun x => x ∈ l.requests.map (·.claim)⟩

/-- The calls have different numbers and the requests different tickets, and the table is in
step with the requests. -/
structure Orderly (l : VehicleLink) : Prop where
  ids : (l.calls.map (·.id)).Nodup
  tickets : (l.requests.map (·.ticket)).Nodup
  sound : l.desk.Sound

variable {l l' : VehicleLink} {c : OpenCall} {r : CommandRequest} {id : Nat} {now : Instant}

theorem desk_eq {d : Desk} (hacks : l.acks = d.acks)
    (hclaims : ∀ x, x ∈ l.requests.map (·.claim) ↔ d.claims x) : l.desk = d := by
  obtain ⟨acks, claims⟩ := d
  subst hacks
  exact congrArg (Desk.mk l.acks) (funext fun x => propext (hclaims x))

/-- A link that differs in neither its calls nor its table. -/
structure SameDesk (l l' : VehicleLink) : Prop where
  calls : l'.calls = l.calls
  acks : l'.acks = l.acks

theorem SameDesk.refl (l : VehicleLink) : l.SameDesk l := ⟨rfl, rfl⟩

theorem SameDesk.requests (h : l.SameDesk l') : l'.requests = l.requests :=
  congrArg requestsOf h.calls

theorem SameDesk.desk (h : l.SameDesk l') : l'.desk = l.desk := by
  unfold VehicleLink.desk
  rw [h.acks, h.requests]

theorem SameDesk.orderly (h : l.SameDesk l') (ho : l.Orderly) : l'.Orderly where
  ids := h.calls ▸ ho.ids
  tickets := h.requests ▸ ho.tickets
  sound := h.desk ▸ ho.sound

/-! ## One call among the others -/

theorem exists_split (hids : (l.calls.map (·.id)).Nodup) (hc : c ∈ l.calls) :
    ∃ before after, l.calls = before ++ c :: after ∧ ∀ o ∈ before ++ after, o.id ≠ c.id := by
  obtain ⟨before, after, hsplit⟩ := List.append_of_mem hc
  refine ⟨before, after, hsplit, fun o ho heq => ?_⟩
  rw [hsplit, List.map_append, List.map_cons] at hids
  have hperm : (c.id :: (before.map (·.id) ++ after.map (·.id))).Nodup :=
    List.perm_middle.nodup_iff.mp hids
  rw [← List.map_append] at hperm
  exact (List.nodup_cons.mp hperm).1 (heq ▸ List.mem_map_of_mem ho)

theorem closed_calls {before after : List OpenCall} (hsplit : l.calls = before ++ c :: after)
    (hother : ∀ o ∈ before ++ after, o.id ≠ c.id) : (l.closed c.id).calls = before ++ after := by
  change l.calls.filter (fun o => decide (o.id ≠ c.id)) = _
  rw [hsplit, List.filter_append, List.filter_cons_of_neg (by simp), ← List.filter_append,
    List.filter_eq_self]
  exact fun o ho => decide_eq_true (hother o ho)

theorem restage_calls {before after : List OpenCall} (stage : CallStage)
    (hsplit : l.calls = before ++ c :: after) (hother : ∀ o ∈ before ++ after, o.id ≠ c.id) :
    (l.restage c.id stage).calls = before ++ { c with stage := stage } :: after := by
  have hkeep : ∀ calls : List OpenCall, (∀ o ∈ calls, o.id ≠ c.id) →
      calls.map (fun o => if o.id = c.id then { o with stage := stage } else o) = calls := by
    intro calls hcalls
    rw [List.map_congr_left fun o ho => if_neg (hcalls o ho), List.map_id']
  change l.calls.map _ = _
  rw [hsplit, List.map_append, List.map_cons, if_pos rfl,
    hkeep before fun o ho => hother o (List.mem_append_left _ ho),
    hkeep after fun o ho => hother o (List.mem_append_right _ ho)]

/-- The requests with a call in the middle. -/
theorem requestsOf_split (before after : List OpenCall) (c : OpenCall) :
    requestsOf (before ++ c :: after) =
      requestsOf before ++ (c.stage.request?.toList ++ requestsOf after) := by
  rw [requestsOf_append, requestsOf_cons]

/-! ## Telling -/

theorem tell_ids (l : VehicleLink) (ticket : Nat) (v : Verdict) :
    (l.tell ticket v).calls.map (·.id) = l.calls.map (·.id) := by
  unfold tell
  rw [List.map_map]
  refine List.map_congr_left fun o _ => ?_
  grind

/-- Telling a request something changes what it was told, and nothing else. -/
theorem tell_requests (l : VehicleLink) (ticket : Nat) (v : Verdict) :
    (l.tell ticket v).requests = l.requests.map (·.told (some ticket) v) := by
  unfold tell requests requestsOf
  rw [List.filterMap_map, List.map_filterMap]
  congr 1
  funext o
  grind [CallStage.request?, CommandRequest.told]

/-- A call whose request has another ticket, or that has made none, is told nothing. -/
theorem mem_tell {ticket : Nat} (v : Verdict) (hc : c ∈ l.calls)
    (hother : ∀ r, c.stage.request? = some r → r.ticket ≠ ticket) :
    c ∈ (l.tell ticket v).calls := by
  refine List.mem_map.mpr ⟨c, hc, ?_⟩
  obtain ⟨id, aim, stage⟩ := c
  cases stage with
  | transmitting r => simp [hother r rfl]
  | awaiting r => simp [hother r rfl]
  | _ => rfl

/-! ## Changes at the desk -/

/-- An orderly link with a given desk. -/
structure Becomes (l : VehicleLink) (d : Desk) : Prop where
  ids : (l.calls.map (·.id)).Nodup
  tickets : (l.requests.map (·.ticket)).Nodup
  desk : l.desk = d

theorem Becomes.orderly {d : Desk} (h : l.Becomes d) (hd : d.Sound) : l.Orderly where
  ids := h.ids
  tickets := h.tickets
  sound := h.desk ▸ hd

theorem SameDesk.becomes (h : l.SameDesk l') (ho : l.Orderly) : l'.Becomes l.desk where
  ids := (h.orderly ho).ids
  tickets := (h.orderly ho).tickets
  desk := h.desk

/-- The tickets of requests that have been told something are the same as before. -/
private theorem map_ticket_told (requests : List CommandRequest) (who : Option Nat)
    (v : Verdict) :
    (requests.map (·.told who v)).map (·.ticket) = requests.map (·.ticket) := by
  rw [List.map_map]
  exact List.map_congr_left fun r _ => r.told_ticket who v

private theorem mem_claims_told (requests : List CommandRequest) (who : Option Nat)
    (v : Verdict) (x : Claim) :
    x ∈ (requests.map (·.told who v)).map (·.claim) ↔
      ∃ y, y ∈ requests.map (·.claim) ∧ x = y.told who v := by
  have hmap : (requests.map (·.told who v)).map (·.claim) =
      (requests.map (·.claim)).map (·.told who v) := by
    rw [List.map_map, List.map_map]
    exact List.map_congr_left fun r _ => r.told_claim who v
  rw [hmap, List.mem_map]
  constructor
  · rintro ⟨y, hy, rfl⟩
    exact ⟨y, hy, rfl⟩
  · rintro ⟨y, hy, rfl⟩
    exact ⟨y, hy, rfl⟩

theorem acknowledge_acks (l : VehicleLink) (a : CommandAck) :
    (l.acknowledge a).acks = (l.acks.resolve a).1 := by
  unfold acknowledge
  split <;> rename_i heq <;> simp [heq, tell]

/-- An acknowledgement. -/
theorem becomes_acknowledge (ho : l.Orderly) (a : CommandAck) :
    (l.acknowledge a).Becomes (l.desk.hear a) := by
  have hids : (l.acknowledge a).calls.map (·.id) = l.calls.map (·.id) := by
    unfold acknowledge
    split
    · exact tell_ids _ _ _
    · rfl
  have hrequests : (l.acknowledge a).requests =
      l.requests.map (·.told (l.acks.resolve a).2 (.answered a.result)) := by
    unfold acknowledge
    split
    · rename_i acks ticket heq
      rw [heq]
      exact tell_requests _ _ _
    · rename_i acks heq
      rw [heq]
      exact (List.map_id' _).symm
  refine ⟨hids ▸ ho.ids, ?_, desk_eq (l.acknowledge_acks a) fun x => ?_⟩
  · rw [hrequests, map_ticket_told]
    exact ho.tickets
  · rw [hrequests]
    exact mem_claims_told _ _ _ x

/-- What the start of a request does to the calls that are there. -/
theorem startRequest_fst (l : VehicleLink) (now : Instant) (name : String) (order : Order)
    (target : SystemAddress) :
    (l.startRequest now name order target).1.acks = (l.acks.start order.commandId).table ∧
      (l.startRequest now name order target).1.calls.map (·.id) = l.calls.map (·.id) ∧
      (l.startRequest now name order target).1.requests =
        l.requests.map (·.told (l.acks.start order.commandId).superseded .superseded) ∧
      ∀ c ∈ l.calls, c.stage.request? = none →
        c ∈ (l.startRequest now name order target).1.calls := by
  unfold startRequest
  dsimp only
  cases hk : (l.acks.start order.commandId).superseded with
  | none => exact ⟨rfl, rfl, (List.map_id' _).symm, fun c hc _ => hc⟩
  | some ticket =>
      refine ⟨rfl, tell_ids _ _ _, tell_requests _ _ _, fun c hc hnone => mem_tell _ hc ?_⟩
      exact fun r hr => by cases hnone.symm.trans hr

theorem startRequest_claim (l : VehicleLink) (now : Instant) (name : String) (order : Order)
    (target : SystemAddress) :
    (l.startRequest now name order target).2.claim =
      ⟨l.acks.nextTicket, order.commandId, none⟩ := by
  unfold startRequest
  dsimp only
  split <;> rfl

/-- A ticket that has not been given yet. -/
private theorem fresh_not_mem (ho : l.Orderly) (hr : r.ticket = l.acks.nextTicket) :
    r.ticket ∉ l.requests.map (·.ticket) := by
  intro hmem
  obtain ⟨r', hr', hticket⟩ := List.mem_map.mp hmem
  have hfresh : r'.claim.ticket < l.acks.nextTicket :=
    ho.sound.claim_fresh (List.mem_map_of_mem hr')
  exact Nat.ne_of_lt hfresh (hticket.trans hr)

/-- A new call has a number of its own. -/
private theorem nodup_opened {ids : List Nat} (hids : ids = l.calls.map (·.id))
    (ho : l.Orderly) (hid : l.isOpen id = false) : (ids ++ [id]).Nodup := by
  rw [hids, List.nodup_append]
  refine ⟨ho.ids, by simp, ?_⟩
  intro i hi j hj heq
  obtain ⟨o, hopen, rfl⟩ := List.mem_map.mp hi
  rw [List.mem_singleton.mp hj] at heq
  simp only [isOpen, List.any_eq_false, decide_eq_true_eq] at hid
  exact hid o hopen heq

/-- A new call that starts a request. -/
theorem becomes_opened_start (ho : l.Orderly) (hid : l.isOpen id = false) (now : Instant)
    (name : String) (order : Order) (target : SystemAddress) (aim : CallAim) :
    ((l.startRequest now name order target).1.opened
      ⟨id, aim, .transmitting (l.startRequest now name order target).2⟩).Becomes
        (l.desk.start order.commandId) := by
  obtain ⟨hacks, hids, hrequests, -⟩ := startRequest_fst l now name order target
  have hclaim := startRequest_claim l now name order target
  generalize l.startRequest now name order target = started at *
  obtain ⟨next, request⟩ := started
  dsimp only at *
  have hall : (next.opened ⟨id, aim, .transmitting request⟩).requests =
      next.requests ++ [request] := requestsOf_append _ _
  refine ⟨?_, ?_, desk_eq hacks fun x => ?_⟩
  · change ((next.calls ++ [OpenCall.mk id aim (.transmitting request)]).map (·.id)).Nodup
    rw [List.map_append]
    exact nodup_opened hids ho hid
  · rw [hall, hrequests, List.map_append, map_ticket_told, List.nodup_append]
    refine ⟨ho.tickets, by simp, ?_⟩
    rintro k hk j hj rfl
    rw [List.mem_singleton.mp hj] at hk
    exact fresh_not_mem ho (congrArg Claim.ticket hclaim) hk
  · rw [hall, hrequests, List.map_append, List.mem_append, mem_claims_told, List.map_singleton,
      List.mem_singleton, hclaim]
    exact or_comm

/-- A call that goes on to start a request. -/
theorem becomes_restage_start (ho : l.Orderly) (hc : c ∈ l.calls)
    (hnone : c.stage.request? = none) (now : Instant) (name : String) (order : Order)
    (target : SystemAddress) :
    ((l.startRequest now name order target).1.restage c.id
      (.transmitting (l.startRequest now name order target).2)).Becomes
        (l.desk.start order.commandId) := by
  obtain ⟨hacks, hids, hrequests, hmem⟩ := startRequest_fst l now name order target
  have hclaim := startRequest_claim l now name order target
  have hc' := hmem c hc hnone
  generalize l.startRequest now name order target = started at *
  obtain ⟨next, request⟩ := started
  dsimp only at *
  obtain ⟨before, after, hsplit, hother⟩ := exists_split (hids ▸ ho.ids) hc'
  have hcalls := restage_calls (.transmitting request) hsplit hother
  have hall : (next.restage c.id (.transmitting request)).requests.Perm
      (request :: next.requests) := by
    unfold requests
    rw [hcalls, hsplit, requestsOf_split, requestsOf_split, hnone]
    exact List.perm_middle
  refine ⟨?_, ?_, desk_eq hacks fun x => ?_⟩
  · have hsame : (next.restage c.id (.transmitting request)).calls.map (·.id) =
        next.calls.map (·.id) := by
      rw [hcalls, hsplit, List.map_append, List.map_append, List.map_cons, List.map_cons]
    rw [hsame, hids]
    exact ho.ids
  · rw [(hall.map _).nodup_iff, List.map_cons, List.nodup_cons, hrequests, map_ticket_told]
    exact ⟨fresh_not_mem ho (congrArg Claim.ticket hclaim), ho.tickets⟩
  · rw [(hall.map _).mem_iff, List.map_cons, List.mem_cons, hrequests, mem_claims_told, hclaim]
    rfl

/-- A call that goes on with the request it has, or without one. -/
theorem becomes_restage (ho : l.Orderly) (hc : c ∈ l.calls) {stage : CallStage}
    (hclaim : stage.request?.map (·.claim) = c.stage.request?.map (·.claim)) :
    (l.restage c.id stage).Becomes l.desk := by
  obtain ⟨before, after, hsplit, hother⟩ := exists_split ho.ids hc
  have hcalls := restage_calls stage hsplit hother
  have hclaims : (l.restage c.id stage).requests.map (·.claim) = l.requests.map (·.claim) := by
    unfold requests
    rw [hcalls, hsplit, requestsOf_split, requestsOf_split]
    simp only [List.map_append, ← Option.toList_map, hclaim]
  refine ⟨?_, ?_, desk_eq rfl fun x => ?_⟩
  · have hsame : (l.restage c.id stage).calls.map (·.id) = l.calls.map (·.id) := by
      rw [hcalls, hsplit, List.map_append, List.map_append, List.map_cons, List.map_cons]
    rw [hsame]
    exact ho.ids
  · have htickets : (l.restage c.id stage).requests.map (·.ticket) = l.requests.map (·.ticket) := by
      have h := congrArg (List.map Claim.ticket) hclaims
      rw [List.map_map, List.map_map] at h
      exact h
    rw [htickets]
    exact ho.tickets
  · rw [hclaims]
    rfl

/-- A call that makes no request. -/
theorem becomes_opened (ho : l.Orderly) (hid : l.isOpen c.id = false)
    (hnone : c.stage.request? = none) : (l.opened c).Becomes l.desk := by
  have hall : (l.opened c).requests = l.requests := by
    change requestsOf (l.calls ++ [c]) = requestsOf l.calls
    rw [requestsOf_append, requestsOf_cons, hnone]
    exact List.append_nil _
  refine ⟨?_, hall ▸ ho.tickets, desk_eq rfl fun x => ?_⟩
  · change ((l.calls ++ [c]).map (·.id)).Nodup
    rw [List.map_append]
    exact nodup_opened rfl ho hid
  · rw [hall]
    rfl

/-- The end of a call that has made no request. -/
theorem becomes_dropped_none (ho : l.Orderly) (hc : c ∈ l.calls)
    (hnone : c.stage.request? = none) : (l.dropped c).Becomes l.desk := by
  obtain ⟨before, after, hsplit, hother⟩ := exists_split ho.ids hc
  have hcalls : (l.dropped c).calls = before ++ after := closed_calls hsplit hother
  have hacks : (l.dropped c).acks = l.acks := by
    unfold dropped
    cases hstage : c.stage <;> simp [hstage, CallStage.request?, CallStage.ticket?] at hnone ⊢
  have hall : (l.dropped c).requests = l.requests := by
    unfold requests
    rw [hcalls, hsplit, requestsOf_split, hnone, requestsOf_append]
    rfl
  refine ⟨?_, hall ▸ ho.tickets, desk_eq hacks fun x => ?_⟩
  · exact ho.ids.sublist ((List.filter_sublist).map _)
  · rw [hall]
    rfl

/-- The end of a call that has made a request. -/
theorem becomes_dropped (ho : l.Orderly) (hc : c ∈ l.calls) (hr : c.stage.request? = some r) :
    (l.dropped c).Becomes (l.desk.drop r.claim) := by
  obtain ⟨before, after, hsplit, hother⟩ := exists_split ho.ids hc
  have hcalls : (l.dropped c).calls = before ++ after := closed_calls hsplit hother
  have hacks : (l.dropped c).acks = l.acks.finish r.claim.command r.claim.ticket := by
    unfold dropped
    cases hstage : c.stage <;>
      simp_all [CallStage.request?, CallStage.ticket?, CommandRequest.claim]
  have hall : l.requests.Perm (r :: (l.dropped c).requests) := by
    unfold requests
    rw [hcalls, hsplit, requestsOf_split, hr, requestsOf_append]
    exact List.perm_middle
  have htickets := (hall.map (·.ticket)).nodup_iff.mp ho.tickets
  rw [List.map_cons, List.nodup_cons] at htickets
  refine ⟨?_, htickets.2, desk_eq hacks fun x => ?_⟩
  · exact ho.ids.sublist ((List.filter_sublist).map _)
  · have hclaims := (hall.map (·.claim)).mem_iff (a := x)
    rw [List.map_cons, List.mem_cons] at hclaims
    constructor
    · intro hx
      refine ⟨hclaims.mpr (.inr hx), fun heq => htickets.1 ?_⟩
      obtain ⟨r', hr', rfl⟩ := List.mem_map.mp hx
      exact List.mem_map.mpr ⟨r', hr', heq⟩
    · rintro ⟨hx, hne⟩
      rcases hclaims.mp hx with rfl | hx
      · exact absurd rfl hne
      · exact hx

/-! ## What is heard -/

/-- The acknowledgement in a message, if the message is of the vehicle's system. -/
def heardIn (l : VehicleLink) (h : Header) : Message → List CommandAck
  | .commandAck a =>
    match l.vehicle with
    | some vehicle => if h.sender.system = vehicle.system then [a] else []
    | none => []
  | _ => []

/-- The acknowledgements in messages, in order. -/
def heardAll (l : VehicleLink) : List (Header × Message) → List CommandAck
  | [] => []
  | (h, m) :: rest => l.heardIn h m ++ (l.handle h m).1.heardAll rest

/-- The acknowledgements that an event brings from the vehicle's system. -/
def heard (l : VehicleLink) : Event → List CommandAck
  | .datagram sender octets => (l.notePeer sender).heardAll (l.network.dialect.messagesOf octets)
  | .message h m => l.heardIn h m
  | _ => []

/-- A link that has heard acknowledgements, and nothing else has happened at its desk. -/
structure Hears (l : VehicleLink) (acks : List CommandAck) (l' : VehicleLink) : Prop where
  steps : Desk.Steps l.desk (acks.map .hears) l'.desk
  orderly : l'.Orderly

theorem Becomes.idle (ho : l.Orderly) (h : l'.Becomes l.desk) : l.Hears [] l' where
  steps := h.desk ▸ .nil _
  orderly := h.orderly ho.sound

theorem SameDesk.idle (h : l.SameDesk l') (ho : l.Orderly) : l.Hears [] l' :=
  (h.becomes ho).idle ho

theorem notePeer_sameDesk (l : VehicleLink) (sender : Endpoint) :
    l.SameDesk (l.notePeer sender) := by
  unfold notePeer
  split <;> exact ⟨rfl, rfl⟩

theorem identify_sameDesk (l : VehicleLink) (sender : SystemAddress) :
    l.SameDesk (l.identify sender).1 := by
  unfold identify
  split <;> exact ⟨rfl, rfl⟩

theorem understand_sameDesk (l : VehicleLink) (fromAutopilot : Bool) {m : Message}
    (h : ∀ a, m ≠ .commandAck a) : l.SameDesk (l.understand fromAutopilot m).1 := by
  cases m with
  | commandAck a => exact absurd rfl (h a)
  | heartbeat b => cases fromAutopilot <;> exact ⟨rfl, rfl⟩
  | _ => exact ⟨rfl, rfl⟩

theorem listen_sameDesk (l : VehicleLink) (h : Header) {m : Message}
    (hm : ∀ a, m ≠ .commandAck a) : l.SameDesk (l.listen h m).1 := by
  unfold listen
  split
  · exact SameDesk.refl l
  · split
    · exact understand_sameDesk _ _ hm
    · exact SameDesk.refl l

theorem SameDesk.trans {l'' : VehicleLink} (h : l.SameDesk l') (h' : l'.SameDesk l'') :
    l.SameDesk l'' := ⟨h'.calls.trans h.calls, h'.acks.trans h.acks⟩

/-- A message without an acknowledgement. -/
theorem handle_sameDesk (l : VehicleLink) (h : Header) {m : Message}
    (hm : ∀ a, m ≠ .commandAck a) : l.SameDesk (l.handle h m).1 := by
  cases m with
  | heartbeat b =>
      unfold handle
      dsimp only
      split
      · exact (l.identify_sameDesk h.sender).trans (listen_sameDesk _ _ hm)
      · exact SameDesk.refl l
  | _ => exact listen_sameDesk _ _ hm

/-- One message. -/
theorem handle_hears (ho : l.Orderly) (h : Header) (m : Message) :
    l.Hears (l.heardIn h m) (l.handle h m).1 := by
  by_cases hm : ∃ a, m = .commandAck a
  · obtain ⟨a, rfl⟩ := hm
    change l.Hears _ (l.listen h (.commandAck a)).1
    unfold heardIn listen
    cases l.vehicle with
    | none => exact (SameDesk.refl l).idle ho
    | some vehicle =>
        dsimp only
        split
        · have hbecomes := becomes_acknowledge ho a
          refine ⟨?_, hbecomes.orderly (ho.sound.hear a)⟩
          rw [understand, hbecomes.desk]
          exact .one (.hears _ _)
        · exact (SameDesk.refl l).idle ho
  · have hnot : ∀ a, m ≠ .commandAck a := fun a h => hm ⟨a, h⟩
    have hheard : l.heardIn h m = [] := by
      cases m with
      | commandAck a => exact absurd rfl (hnot a)
      | _ => rfl
    rw [hheard]
    exact (l.handle_sameDesk h hnot).idle ho

/-- Messages one after the other. -/
theorem handleAll_hears (ho : l.Orderly) (messages : List (Header × Message)) :
    l.Hears (l.heardAll messages) (l.handleAll messages).1 := by
  induction messages generalizing l with
  | nil => exact (SameDesk.refl l).idle ho
  | cons first rest ih =>
      obtain ⟨h, m⟩ := first
      have hfirst := handle_hears ho h m
      have hrest := ih hfirst.orderly
      refine ⟨?_, hrest.orderly⟩
      rw [heardAll, List.map_append]
      exact hfirst.steps.append hrest.steps

/-! ## What is sent -/

theorem send_sameDesk (l : VehicleLink) (m : Message) : l.SameDesk (l.send m).link := by
  unfold send
  split
  · exact SameDesk.refl l
  · dsimp only
    split <;> exact ⟨rfl, rfl⟩

theorem announceAll_sameDesk (l : VehicleLink) (messages : List Message) :
    l.SameDesk (l.announceAll messages).1 := by
  induction messages generalizing l with
  | nil => exact SameDesk.refl l
  | cons m rest ih => exact (l.send_sameDesk m).trans (ih _)

theorem refreshSetPoint_sameDesk (l : VehicleLink) : l.SameDesk l.refreshSetPoint.1 := by
  unfold refreshSetPoint
  split
  · exact l.send_sameDesk _
  · exact SameDesk.refl l

theorem requestStreams_sameDesk (l : VehicleLink) : l.SameDesk l.requestStreams.1 := by
  have hdone : l.SameDesk { l with streamsDue := false } := ⟨rfl, rfl⟩
  unfold requestStreams
  dsimp only
  split
  · exact hdone
  · split
    · exact hdone
    · exact hdone.trans (announceAll_sameDesk _ _)

/-! ## What calls do -/

/-- **What a link does at its desk**: it starts a request, or ends one, or hears
acknowledgements, and all of that possibly not at all. -/
inductive Conduct (l : VehicleLink) (acks : List CommandAck) (l' : VehicleLink) : Prop
  | starts (command : CommandId) (h : l'.Becomes (l.desk.start command)) (hnone : acks = [])
  | ends {x : Claim} (hx : l.desk.claims x) (h : l'.Becomes (l.desk.drop x)) (hnone : acks = [])
  | hears (h : l.Hears acks l')

theorem Conduct.orderly {acks : List CommandAck} (h : l.Conduct acks l') (ho : l.Orderly) :
    l'.Orderly := by
  cases h with
  | starts command h hnone => exact h.orderly (ho.sound.start command)
  | ends hx h hnone => exact h.orderly (ho.sound.drop hx)
  | hears h => exact h.orderly

/-- What is done from a link that differs in neither calls nor table. -/
theorem Conduct.of_sameDesk {l'' : VehicleLink} {acks : List CommandAck} (h : l.SameDesk l')
    (h' : l'.Conduct acks l'') : l.Conduct acks l'' := by
  cases h' with
  | starts command h' hnone => exact .starts command (h.desk ▸ h') hnone
  | ends hx h' hnone => exact .ends (h.desk ▸ hx) (h.desk ▸ h') hnone
  | hears h' => exact .hears ⟨h.desk ▸ h'.steps, h'.orderly⟩

theorem dropped_conduct (ho : l.Orderly) (hc : c ∈ l.calls) : l.Conduct [] (l.dropped c) := by
  cases hr : c.stage.request? with
  | none => exact .hears ((becomes_dropped_none ho hc hr).idle ho)
  | some r =>
      have hmem : r ∈ l.requests := List.mem_filterMap.mpr ⟨c, hc, hr⟩
      exact .ends (List.mem_map_of_mem hmem) (becomes_dropped ho hc hr) rfl

/-- The slot makes no difference to the desk. -/
theorem Conduct.withSlot {acks : List CommandAck} (h : l.Conduct acks l')
    (slot : Option VelocitySlot) : l.Conduct acks { l' with slot := slot } := by
  cases h with
  | starts command h hnone => exact .starts command ⟨h.ids, h.tickets, h.desk⟩ hnone
  | ends hx h hnone => exact .ends hx ⟨h.ids, h.tickets, h.desk⟩ hnone
  | hears h => exact .hears ⟨h.steps, ⟨h.orderly.ids, h.orderly.tickets, h.orderly.sound⟩⟩

theorem finish_conduct (ho : l.Orderly) (hc : c ∈ l.calls) (reply : Reply) :
    l.Conduct [] (l.finish c reply).1 := (dropped_conduct ho hc).withSlot _

theorem beginCommand_conduct (ho : l.Orderly) (hid : l.isOpen id = false) (now : Instant)
    (name : String) (order : Order) : l.Conduct [] (l.beginCommand now id name order).1 := by
  unfold beginCommand
  split
  · exact .hears ((SameDesk.refl l).idle ho)
  · exact .starts order.commandId (becomes_opened_start ho hid _ _ _ _ _) rfl

theorem beginFresh_conduct (ho : l.Orderly) (hid : l.isOpen id = false) (now : Instant)
    (call : LinkCall) : l.Conduct [] (l.beginFresh now id call).1 := by
  have hleft : l.SameDesk l.leaveOffboard := ⟨rfl, rfl⟩
  cases call with
  | arm => exact beginCommand_conduct ho hid _ _ _
  | setTakeoffAltitude altitude => exact .hears (SameDesk.idle ⟨rfl, rfl⟩ ho)
  | velocity v =>
      unfold beginFresh beginVelocity
      dsimp only
      split
      · exact .hears ((SameDesk.refl l).idle ho)
      · have hslot : l.SameDesk { l with slot := some ⟨v, l.isOffboard⟩ } := ⟨rfl, rfl⟩
        have ho' := hslot.orderly ho
        refine .of_sameDesk hslot (.hears (Becomes.idle ho' ?_))
        exact becomes_opened ho' hid rfl
  | shell text =>
      unfold beginFresh
      dsimp only
      split
      · exact .hears ((SameDesk.refl l).idle ho)
      · exact .hears ((becomes_opened ho hid rfl).idle ho)
  | _ => exact .of_sameDesk hleft (beginCommand_conduct (hleft.orderly ho) hid _ _ _)

/-- After an attempt to send, a call goes on or ends with the failure. -/
theorem after_cases (attempt : SendAttempt) (c : OpenCall)
    (goOn : VehicleLink → VehicleLink × List LinkAct) :
    after attempt c goOn = ((goOn attempt.link).1, attempt.acts ++ (goOn attempt.link).2) ∨
    ∃ e, after attempt c goOn = ((attempt.link.finish c (.error e)).1,
      attempt.acts ++ (attempt.link.finish c (.error e)).2) := by
  unfold after
  cases attempt.reply with
  | ok _ => exact .inl rfl
  | error e => exact .inr ⟨e, rfl⟩

/-- Going on after an attempt to send. -/
theorem after_conduct (ho : l.Orderly) (hc : c ∈ l.calls) (m : Message)
    {goOn : VehicleLink → VehicleLink × List LinkAct}
    (hgoOn : ∀ l' : VehicleLink, l'.Orderly → c ∈ l'.calls → l'.Conduct [] (goOn l').1) :
    l.Conduct [] (after (l.send m) c goOn).1 := by
  have hsame := l.send_sameDesk m
  have hc' : c ∈ (l.send m).link.calls := hsame.calls ▸ hc
  refine .of_sameDesk hsame ?_
  rcases after_cases (l.send m) c goOn with heq | ⟨e, heq⟩
  · rw [heq]
    exact hgoOn _ (hsame.orderly ho) hc'
  · rw [heq]
    exact finish_conduct (hsame.orderly ho) hc' (.error e)

theorem moveCall_conduct (ho : l.Orderly) (hc : c ∈ l.calls) (now : Instant) :
    l.Conduct [] (l.moveCall now c).1 := by
  have hrestage : ∀ {l' : VehicleLink} {stage : CallStage}, l'.Orderly → c ∈ l'.calls →
      stage.request?.map (·.claim) = c.stage.request?.map (·.claim) →
      l'.Conduct [] (l'.restage c.id stage) := fun ho' hc' hclaim =>
    .hears ((becomes_restage ho' hc' hclaim).idle ho')
  unfold moveCall
  cases hstage : c.stage with
  | setPointDue target v =>
      refine after_conduct ho hc _ fun l' ho' hc' => ?_
      split
      · exact finish_conduct ho' hc' _
      · have hnone : c.stage.request? = none := by rw [hstage]; rfl
        exact .starts followOrder.commandId (becomes_restage_start ho' hc' hnone _ _ _ _) rfl
  | transmitting r =>
      refine after_conduct ho hc _ fun l' ho' hc' => hrestage ho' hc' ?_
      rw [hstage]
      rfl
  | awaiting r =>
      dsimp only
      repeat' split
      · exact finish_conduct ho hc _
      · exact .hears ((SameDesk.refl l).idle ho)
      · exact finish_conduct ho hc _
      · refine hrestage ho hc ?_
        rw [hstage]
        rfl
  | shellDue rest =>
      cases rest with
      | nil => exact finish_conduct ho hc _
      | cons m rest =>
          refine after_conduct ho hc _ fun l' ho' hc' => hrestage ho' hc' ?_
          rw [hstage]
          rfl

/-! ## Runs -/

/-- **What one event does at the desk.** -/
theorem step_conduct (ho : l.Orderly) (now : Instant) (e : Event) :
    l.Conduct (l.heard e) (l.step now e).1 := by
  cases e with
  | call id call =>
      change l.Conduct [] (l.begin now id call).1
      unfold begin
      split
      · exact .hears ((SameDesk.refl l).idle ho)
      · rename_i hid
        exact beginFresh_conduct ho (Bool.eq_false_iff.mpr hid) _ _
  | move id =>
      change l.Conduct [] (l.move now id).1
      unfold move
      split
      · rename_i c hfind
        exact moveCall_conduct ho (List.mem_of_find?_eq_some hfind) now
      · exact .hears ((SameDesk.refl l).idle ho)
  | abandon id =>
      change l.Conduct [] (l.abandon id)
      unfold abandon
      split
      · rename_i c hfind
        exact dropped_conduct ho (List.mem_of_find?_eq_some hfind)
      · exact .hears ((SameDesk.refl l).idle ho)
  | datagram sender octets =>
      have hpeer := l.notePeer_sameDesk sender
      exact .of_sameDesk hpeer (.hears (handleAll_hears (hpeer.orderly ho) _))
  | message h m => exact .hears (handle_hears ho h m)
  | heartbeat => exact .hears ((l.send_sameDesk _).idle ho)
  | refresh => exact .hears (l.refreshSetPoint_sameDesk.idle ho)
  | requestStreams => exact .hears (l.requestStreams_sameDesk.idle ho)

theorem Orderly.step (ho : l.Orderly) (now : Instant) (e : Event) : (l.step now e).1.Orderly :=
  (step_conduct ho now e).orderly ho

theorem Orderly.run (ho : l.Orderly) (es : List (Instant × Event)) : (l.run es).1.Orderly := by
  induction es generalizing l with
  | nil => exact ho
  | cons first rest ih => exact ih (ho.step first.1 first.2)

theorem orderly_new (config : LinkConfig) (network : Network) (peer : Option Endpoint) :
    (new config network peer).Orderly where
  ids := List.nodup_nil
  tickets := List.nodup_nil
  sound := Desk.sound_empty nofun

end VehicleLink

end GroundStation
