import GroundStation.Config.Basic
import GroundStation.Link.Network
import GroundStation.Link.Request
import GroundStation.Mavlink.Frame

/-!
# The vehicle link

The station's side of the conversation with one vehicle. The link sends to its
peer: the configured address, or else whoever sent the latest datagram. It knows
its vehicle from the first heartbeat that identifies one, and it does not change
its mind.

Calls are made on the link and move one by one. A call ends when its messages were
sent, when the request it makes is answered, or when either fails. While a
velocity is being followed, its set-point is kept in a slot and is sent again and
again.
-/

namespace GroundStation

open Mavlink

/-- The velocity that the vehicle is to follow, and whether the vehicle has agreed to
follow set-points. -/
structure VelocitySlot where
  velocity : BodyVelocity
  engaged : Bool
deriving DecidableEq, Repr

/-- Where a call stands. -/
inductive CallStage where
  | setPointDue (target : SystemAddress) (velocity : BodyVelocity)
  | transmitting (request : CommandRequest)
  | awaiting (request : CommandRequest)
  | shellDue (rest : List (List UInt8))

/-- What a call is for: to have a velocity followed, begun while the vehicle followed
set-points or not, or anything else. -/
inductive CallAim where
  | velocity (engaged : Bool)
  | other
deriving DecidableEq, Repr

/-- What the end of a call does to the velocity slot. -/
def CallAim.settle (slot : Option VelocitySlot) (reply : Reply) : CallAim → Option VelocitySlot
  | .other => slot
  | .velocity engaged =>
    match reply with
    | .ok _ => slot.map fun s => { s with engaged := true }
    | .error _ => if engaged then slot else none

namespace CallStage

/-- The ticket that a call at a stage holds, with its command. -/
def ticket? : CallStage → Option (CommandId × Nat)
  | .transmitting r | .awaiting r => some (r.order.commandId, r.ticket)
  | _ => none

/-- Can a call at a stage move now? -/
def isReady (now : Instant) : CallStage → Bool
  | .awaiting r => r.verdict.isSome || r.wake ≤ now
  | _ => true

/-- A bound on the moves left to a call before time has to pass. -/
def movesLeft : CallStage → Nat
  | .shellDue rest => rest.length + 1
  | _ => 4

end CallStage

/-- A call that is not over. -/
structure OpenCall where
  id : Nat
  aim : CallAim
  stage : CallStage

/-- The link to one vehicle. -/
structure VehicleLink where
  config : LinkConfig
  network : Network
  peer : Option Endpoint
  transmissions : Nat
  sequence : UInt8
  vehicle : Option SystemAddress
  streamsDue : Bool
  acks : AckTable
  slot : Option VelocitySlot
  lastPosition : Option Position
  takeoffAltitude : Option Float32
  calls : List OpenCall

/-- What the link does. -/
inductive LinkAct where
  | sends (peer : Endpoint) (header : Header) (message : Message)
  | identifies (vehicle : SystemAddress)
  | publishes (update : Update)
  | logs (line : String)
  | ends (id : Nat) (reply : Reply)

/-- The link after an attempt to send, what it did, and how the attempt went. -/
structure SendAttempt where
  link : VehicleLink
  acts : List LinkAct
  reply : Reply

namespace VehicleLink

/-- A link that has sent and received nothing. -/
def new (config : LinkConfig) (network : Network) (peer : Option Endpoint) : VehicleLink where
  config := config
  network := network
  peer := peer
  transmissions := 0
  sequence := 0
  vehicle := none
  streamsDue := false
  acks := .empty
  slot := none
  lastPosition := none
  takeoffAltitude := none
  calls := []

/-- The station's own address in the conversation. -/
def station (l : VehicleLink) : SystemAddress :=
  ⟨l.config.stationSystemId, l.config.stationComponentId⟩

/-- The time a command has to be acknowledged. -/
def commandTimeout (l : VehicleLink) : Duration := .ofMillis l.config.commandTimeoutMillis

/-- Has the vehicle been identified? -/
def isConnected (l : VehicleLink) : Bool := l.vehicle.isSome

/-- Does the vehicle follow velocities? -/
def isOffboard (l : VehicleLink) : Bool := l.slot.any fun s => s.engaged

/-! ## Sending -/

/-- Sends a message to the peer. A message without a peer is not numbered; one that the
network refuses is. -/
def send (l : VehicleLink) (m : Message) : SendAttempt :=
  match l.peer with
  | none => ⟨l, [], .error .notConnected⟩
  | some peer =>
    let next := { l with sequence := l.sequence + 1, transmissions := l.transmissions + 1 }
    match l.network.refusal l.config.mode peer l.transmissions with
    | some reason => ⟨next, [], .error (.io reason)⟩
    | none => ⟨next, [.sends peer ⟨l.station, l.sequence⟩ m], .ok ()⟩

/-- Sends a message and does not care how that goes. -/
def announce (l : VehicleLink) (m : Message) : VehicleLink × List LinkAct :=
  let attempt := l.send m
  (attempt.link, attempt.acts)

/-- Sends messages one after the other and does not care how that goes. -/
def announceAll (l : VehicleLink) : List Message → VehicleLink × List LinkAct
  | [] => (l, [])
  | m :: rest =>
    let (next, acts) := l.announce m
    let (last, later) := next.announceAll rest
    (last, acts ++ later)

/-- The station's sign of life. -/
def sendHeartbeat (l : VehicleLink) : VehicleLink × List LinkAct := l.announce stationHeartbeat

/-- Sends the set-point in the slot, if there is one and a vehicle for it. -/
def refreshSetPoint (l : VehicleLink) : VehicleLink × List LinkAct :=
  match l.slot, l.vehicle with
  | some slot, some vehicle => l.announce (velocitySetPoint vehicle slot.velocity)
  | _, _ => (l, [])

/-- The kinds of messages of which the station asks for a stream. -/
def streamedKinds : List MessageKind :=
  [.globalPosition, .highresImu, .attitude, .extendedState]

/-- The request for a stream of messages of a kind so many microseconds apart. -/
def streamRequest (vehicle : SystemAddress) (interval : Float32) (kind : MessageKind) : Message :=
  commandLong vehicle .setMessageInterval 0
    #v[singleOfInt kind.id, interval, 0.0, 0.0, 0.0, 0.0, 0.0]

/-- Asks the vehicle for its streams, once after it was identified. A rate that is not
positive leaves the streams to the vehicle. -/
def requestStreams (l : VehicleLink) : VehicleLink × List LinkAct :=
  let done := { l with streamsDue := false }
  match l.vehicle with
  | none => (done, [])
  | some vehicle =>
    if ¬ l.streamsDue ∨ l.config.streamRate ≤ 0.0 then (done, [])
    else
      let interval := 1000000.0 / l.config.streamRate
      done.announceAll (streamedKinds.map (streamRequest vehicle interval))

end VehicleLink

end GroundStation
