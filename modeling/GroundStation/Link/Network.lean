import GroundStation.Config.Basic
import GroundStation.Link.Address
import GroundStation.Mavlink.Common

/-!
# The network around the station

What the station cannot decide: which names a machine knows, at which addresses it
can listen, which transmissions fail, what is spoken besides the messages that the
station knows, and how long the machine has been running.
-/

namespace GroundStation

/-- An address and a port at which datagrams arrive. -/
structure Endpoint where
  host : HostAddress
  port : UInt16
deriving DecidableEq, Repr

/-- The machine and its network. The transmissions of a socket are counted from zero. -/
structure Network where
  address? : String → Option HostAddress
  owns : HostAddress → Bool
  fault : Nat → Option String
  dialect : Mavlink.Dialect
  clock : Clock

namespace Network

/-- The address of a machine by which it knows itself. -/
def localAddress : HostAddress := .v4 0x7f000001

/-- The only name that every machine knows is its own. -/
def ownName (name : String) : Option HostAddress :=
  if name.toLower = "localhost" then some localAddress else none

/-- A machine that can listen everywhere, and whose transmissions all arrive. -/
def reliable : Network := ⟨ownName, fun _ => true, fun _ => none, .common, .young⟩

/-- Is this an address that stands for one of 32 bits? -/
def isMapped (bits : BitVec 128) : Bool := bits.toNat / Nat.pow 2 32 = 65535

/-- Is this the address of a group of hosts? -/
def isGroup (bits : BitVec 128) : Bool := bits.toNat / Nat.pow 2 120 = 255

/-- Does the address of a group reach no further than one interface? -/
def isNearby (bits : BitVec 128) : Bool :=
  let reach := bits.toNat / Nat.pow 2 112 % 16
  reach = 1 || reach = 2

/-- The addresses at which a machine without a network can listen. No wide address is its
own, but it can listen at all of them together, at those that stand for addresses of
32 bits, and for groups; a nearby group needs the machine's only interface. -/
def canListenAlone : HostAddress → Bool
  | .v4 _ => true
  | .v6 bits interface =>
    bits = 0 || isMapped bits || (isGroup bits && (!isNearby bits || interface = 1))

/-- A machine without a network. -/
def isolated : Network :=
  ⟨ownName, canListenAlone, fun _ => some "Network is unreachable (os error 101)", .common, .young⟩

/-- Why a socket's transmission with a number fails, if it does. A client's socket sends to
addresses of 32 bits only, and nothing can be sent to port zero. -/
def refusal (network : Network) (mode : LinkMode) (peer : Endpoint) (number : Nat) :
    Option String :=
  match mode, peer.host with
  | .client, .v6 _ _ => some "Address family not supported by protocol (os error 97)"
  | _, _ =>
    if peer.port = 0 then some "Invalid argument (os error 22)" else network.fault number

end Network

/-- The endpoint of a host and a port, on a machine that knows the host. -/
def HostPort.resolve (network : Network) (hp : HostPort) : Except EndpointError Endpoint :=
  match hp.host with
  | .address host => .ok ⟨host, hp.port⟩
  | .name name =>
    match network.address? name with
    | some host => .ok ⟨host, hp.port⟩
    | none => .error .unknownHost

namespace Endpoint

/-- The endpoint of a text, on a machine that knows its host. -/
def find (network : Network) (text : String) : Except EndpointError Endpoint :=
  match HostPort.read text with
  | .ok hp => hp.resolve network
  | .error e => .error e

/-- The endpoint of a text at which the machine can listen. -/
def listen (network : Network) (text : String) : Except EndpointError Endpoint :=
  match find network text with
  | .error e => .error e
  | .ok endpoint => if network.owns endpoint.host then .ok endpoint else .error .unavailable

end Endpoint

end GroundStation
