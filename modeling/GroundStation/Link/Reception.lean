import GroundStation.Data.Lines
import GroundStation.Link.Vehicle
import GroundStation.Mavlink.Decoding

/-!
# What the link receives

The first heartbeat of an autopilot, and of the configured system if there is one,
identifies the vehicle; that heartbeat already counts as one of the vehicle.
Heartbeats of other ground stations and of components without an autopilot are
passed over.

From then on only messages of the vehicle's system are taken in. Its components
share one system number; whether the motors are armed and the vehicle is healthy
is for the identified component alone to say. Messages that the station does not know
are passed over like those that say nothing of interest.
-/

namespace GroundStation

open Mavlink

namespace VehicleLink

/-- Takes the sender of an autopilot's heartbeat for the vehicle, if there is none yet and
it is the one expected. -/
def identify (l : VehicleLink) (sender : SystemAddress) : VehicleLink × List LinkAct :=
  if l.vehicle.isSome ∨ l.config.systemId.any (· ≠ sender.system) then (l, [])
  else ({ l with vehicle := some sender, streamsDue := true }, [.identifies sender])

/-- Tells the request with a ticket what became of it. -/
def tell (l : VehicleLink) (ticket : Nat) (verdict : Verdict) : VehicleLink :=
  { l with calls := l.calls.map fun c =>
      match c.stage with
      | .awaiting r =>
        if r.ticket = ticket then { c with stage := .awaiting { r with verdict := some verdict } }
        else c
      | .transmitting r =>
        if r.ticket = ticket then
          { c with stage := .transmitting { r with verdict := some verdict } }
        else c
      | _ => c }

/-- Takes in an acknowledgement. -/
def acknowledge (l : VehicleLink) (ack : CommandAck) : VehicleLink :=
  match l.acks.resolve ack with
  | (acks, some ticket) => { l with acks := acks }.tell ticket (.answered ack.result)
  | (acks, none) => { l with acks := acks }

/-- Takes in a message of the vehicle's system, sent by one of its components. -/
def understand (l : VehicleLink) (fromAutopilot : Bool) : Message → VehicleLink × List LinkAct
  | .heartbeat m =>
    if fromAutopilot then (l, [.publishes (.armed m.isArmed), .publishes (.health m.isHealthy)])
    else (l, [])
  | .globalPosition m =>
    ({ l with lastPosition := some m.position },
      [.publishes (.position m.position), .publishes (.velocity m.velocity)])
  | .highresImu m => (l, [.publishes (.imu m.imu)])
  | .attitude m => (l, [.publishes (.attitude m.attitude)])
  | .extendedState m => (l, [.publishes (.landed m.landedState)])
  | .commandAck m => (l.acknowledge m, [])
  | .serialControl m => (l, (m.shellText?.map printedLines |>.getD []).map .logs)
  | _ => (l, [])

/-- Takes in a message if it is of the vehicle's system. -/
def listen (l : VehicleLink) (h : Header) (m : Message) : VehicleLink × List LinkAct :=
  match l.vehicle with
  | none => (l, [])
  | some vehicle =>
    if h.sender.system = vehicle.system then
      l.understand (h.sender.component = vehicle.component) m
    else (l, [])

/-- Takes in a message, whoever sends it. -/
def handle (l : VehicleLink) (h : Header) (m : Message) : VehicleLink × List LinkAct :=
  match m with
  | .heartbeat b =>
    if b.isFromAutopilot then
      let (known, acts) := l.identify h.sender
      let (next, later) := known.listen h m
      (next, acts ++ later)
    else (l, [])
  | _ => l.listen h m

/-- Takes in messages, in order. -/
def handleAll (l : VehicleLink) : List (Header × Message) → VehicleLink × List LinkAct
  | [] => (l, [])
  | (h, m) :: rest =>
    let (next, acts) := l.handle h m
    let (last, later) := next.handleAll rest
    (last, acts ++ later)

/-- Remembers who sent a datagram, unless the peer is configured. -/
def notePeer (l : VehicleLink) (sender : Endpoint) : VehicleLink :=
  match l.config.mode with
  | .server => { l with peer := some sender }
  | .client => l

/-- Takes in a datagram. -/
def receive (l : VehicleLink) (sender : Endpoint) (octets : List UInt8) :
    VehicleLink × List LinkAct :=
  (l.notePeer sender).handleAll (l.network.dialect.messagesOf octets)

end VehicleLink

end GroundStation
