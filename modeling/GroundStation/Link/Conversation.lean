import GroundStation.Link.Reception

/-!
# Calls on the link

A call does at once what needs no transmission: it looks for the vehicle, gives up
or takes the velocity slot, and starts its request. After that it moves by
`VehicleLink.move`, one transmission or one decision at a time, so that calls,
messages and the passage of time can come in any order in between.

A call that leaves the velocity mode empties the slot when it begins. A call that
has a velocity followed fills the slot when it begins; its end marks the slot as
engaged or, if the call failed and the vehicle did not follow set-points before,
empties it.
-/

namespace GroundStation

open Mavlink

/-- The order that puts the vehicle into the mode in which it follows set-points. -/
def followOrder : Order := .command .setMode #v[1.0, 6.0, 0.0, 0.0, 0.0, 0.0, 0.0]

namespace VehicleLink

/-! ## Beginning -/

/-- Empties the velocity slot. -/
def leaveOffboard (l : VehicleLink) : VehicleLink := { l with slot := none }

/-- Ends at once, before anything was sent. -/
def refuse (l : VehicleLink) (id : Nat) (e : LinkError) : VehicleLink × List LinkAct :=
  (l, [.ends id (.error e)])

/-- Adds a call behind those that are not over. -/
def opened (l : VehicleLink) (call : OpenCall) : VehicleLink :=
  { l with calls := l.calls ++ [call] }

/-- Starts a request, of which an older one of the same command learns. -/
def startRequest (l : VehicleLink) (now : Instant) (name : String) (order : Order)
    (target : SystemAddress) : VehicleLink × CommandRequest :=
  let started := l.acks.start order.commandId
  let next := { l with acks := started.table }
  let request := .start name order target started.ticket now l.commandTimeout
  match started.superseded with
  | some ticket => (next.tell ticket .superseded, request)
  | none => (next, request)

/-- Begins a call that is one command. -/
def beginCommand (l : VehicleLink) (now : Instant) (id : Nat) (name : String) (order : Order) :
    VehicleLink × List LinkAct :=
  match l.vehicle with
  | none => l.refuse id .notConnected
  | some target =>
    let (next, request) := l.startRequest now name order target
    (next.opened ⟨id, .other, .transmitting request⟩, [])

/-- The order to take off. The altitude above sea level is known once an altitude was set
and a position was seen; otherwise the autopilot chooses. -/
def takeoffOrder (l : VehicleLink) : Order :=
  let altitude := match l.takeoffAltitude, l.lastPosition with
    | some altitude, some position => altitude + position.terrainOffset
    | _, _ => singleNaN
  .command .takeoff #v[0.0, 0.0, 0.0, singleNaN, singleNaN, singleNaN, altitude]

/-- Begins to have a velocity followed. -/
def beginVelocity (l : VehicleLink) (id : Nat) (velocity : BodyVelocity) :
    VehicleLink × List LinkAct :=
  match l.vehicle with
  | none => l.refuse id .notConnected
  | some target =>
    let engaged := l.isOffboard
    ({ l with slot := some ⟨velocity, engaged⟩ }.opened
      ⟨id, .velocity engaged, .setPointDue target velocity⟩, [])

/-- Does what a call does at once. -/
def beginFresh (l : VehicleLink) (now : Instant) (id : Nat) (call : LinkCall) :
    VehicleLink × List LinkAct :=
  match call with
  | .arm =>
    l.beginCommand now id call.name (.command .armDisarm #v[1.0, 0.0, 0.0, 0.0, 0.0, 0.0, 0.0])
  | .disarm =>
    l.leaveOffboard.beginCommand now id call.name
      (.command .armDisarm #v[0.0, 0.0, 0.0, 0.0, 0.0, 0.0, 0.0])
  | .setTakeoffAltitude altitude =>
    ({ l with takeoffAltitude := some altitude }, [.ends id (.ok ())])
  | .takeoff => l.leaveOffboard.beginCommand now id call.name l.takeoffOrder
  | .land =>
    l.leaveOffboard.beginCommand now id call.name
      (.command .land #v[0.0, 0.0, 0.0, singleNaN, singleNaN, singleNaN, singleNaN])
  | .goto latitude longitude altitude speed =>
    l.leaveOffboard.beginCommand now id call.name (.reposition latitude longitude altitude speed)
  | .velocity velocity => l.beginVelocity id velocity
  | .shell text =>
    match l.vehicle with
    | none => l.refuse id .notConnected
    | some _ => (l.opened ⟨id, .other, .shellDue (shellPieces text)⟩, [])

/-- Is a call of a request open? -/
def isOpen (l : VehicleLink) (id : Nat) : Bool := l.calls.any fun c => c.id = id

/-- Begins the call of a request that has none open; a request makes one call at a
time. -/
def begin (l : VehicleLink) (now : Instant) (id : Nat) (call : LinkCall) :
    VehicleLink × List LinkAct :=
  if l.isOpen id then (l, []) else l.beginFresh now id call

/-! ## Moving -/

/-- Takes a call away from those that are not over. -/
def closed (l : VehicleLink) (id : Nat) : VehicleLink :=
  { l with calls := l.calls.filter fun c => c.id ≠ id }

/-- Puts a call at a new stage. -/
def restage (l : VehicleLink) (id : Nat) (stage : CallStage) : VehicleLink :=
  { l with calls := l.calls.map fun c => if c.id = id then { c with stage := stage } else c }

/-- Takes a call away and hands back its ticket. -/
def dropped (l : VehicleLink) (c : OpenCall) : VehicleLink :=
  let acks := match c.stage.ticket? with
    | some (command, ticket) => l.acks.finish command ticket
    | none => l.acks
  { l.closed c.id with acks := acks }

/-- Ends a call. -/
def finish (l : VehicleLink) (c : OpenCall) (reply : Reply) : VehicleLink × List LinkAct :=
  let next := l.dropped c
  ({ next with slot := c.aim.settle next.slot reply }, [.ends c.id reply])

/-- Goes on after an attempt to send, or ends the call with its failure. -/
def after (attempt : SendAttempt) (c : OpenCall)
    (goOn : VehicleLink → VehicleLink × List LinkAct) : VehicleLink × List LinkAct :=
  let (next, acts) := match attempt.reply with
    | .ok _ => goOn attempt.link
    | .error e => attempt.link.finish c (.error e)
  (next, attempt.acts ++ acts)

/-- Moves a call by one transmission or decision. -/
def moveCall (l : VehicleLink) (now : Instant) (c : OpenCall) : VehicleLink × List LinkAct :=
  match c.stage with
  | .setPointDue target velocity =>
    after (l.send (velocitySetPoint target velocity)) c fun l =>
      if c.aim = .velocity true then l.finish c (.ok ())
      else
        let (next, request) := l.startRequest now "offboard" followOrder target
        (next.restage c.id (.transmitting request), [])
  | .transmitting r =>
    after (l.send r.message) c fun l => (l.restage c.id (.awaiting (r.sent now)), [])
  | .awaiting r =>
    match r.verdict with
    | some verdict => l.finish c (r.reply verdict)
    | none =>
      if now < r.wake then (l, [])
      else if r.deadline ≤ now then l.finish c (.error (.timeout r.name))
      else (l.restage c.id (.transmitting r.again), [])
  | .shellDue [] => l.finish c (.ok ())
  | .shellDue (piece :: rest) =>
    after (l.send (shellPiece piece)) c fun l => (l.restage c.id (.shellDue rest), [])

/-- Moves the call of a request, if there is one. -/
def move (l : VehicleLink) (now : Instant) (id : Nat) : VehicleLink × List LinkAct :=
  match l.calls.find? fun c => c.id = id with
  | some c => l.moveCall now c
  | none => (l, [])

/-- The caller of a request gives its call up. -/
def abandon (l : VehicleLink) (id : Nat) : VehicleLink :=
  match l.calls.find? fun c => c.id = id with
  | some c => l.dropped c
  | none => l

/-- The oldest call that can move now. -/
def ready? (l : VehicleLink) (now : Instant) : Option Nat :=
  (l.calls.find? fun c => c.stage.isReady now).map (·.id)

/-- The instant at which a call moves even if nothing else happens. -/
def timer (l : VehicleLink) : Option Instant :=
  (l.calls.filterMap fun c =>
    match c.stage with
    | .awaiting r => some r.wake
    | _ => none).min?

/-- A bound on the moves left to the calls before time has to pass. -/
def movesLeft (l : VehicleLink) : Nat :=
  l.calls.foldr (fun c moves => c.stage.movesLeft + moves) 0

/-! ## Events -/

/-- What happens to a link. -/
inductive Event where
  | call (id : Nat) (call : LinkCall)
  | move (id : Nat)
  | abandon (id : Nat)
  | datagram (sender : Endpoint) (octets : List UInt8)
  | message (header : Header) (message : Message)
  | heartbeat
  | refresh
  | requestStreams

/-- One event at an instant, and what the link does at it. -/
def step (l : VehicleLink) (now : Instant) : Event → VehicleLink × List LinkAct
  | .call id call => l.begin now id call
  | .move id => l.move now id
  | .abandon id => (l.abandon id, [])
  | .datagram sender octets => l.receive sender octets
  | .message header message => l.handle header message
  | .heartbeat => l.sendHeartbeat
  | .refresh => l.refreshSetPoint
  | .requestStreams => l.requestStreams

/-- A run of events, each at its instant, and everything the link does in it, in order. -/
def run (l : VehicleLink) : List (Instant × Event) → VehicleLink × List LinkAct
  | [] => (l, [])
  | (now, e) :: rest =>
    let (next, acts) := l.step now e
    let (last, later) := run next rest
    (last, acts ++ later)

end VehicleLink

end GroundStation
