import GroundStation.CommandLine
import GroundStation.Station.Script
import GroundStation.Telemetry.Record
import Std.Async.DNS
import Std.Async.Signal
import Std.Async.Timer
import Std.Async.UDP

/-!
# The program

Reads the command line and the configuration, opens the socket, and then does
nothing but hand datagrams and the time to the station and send what the station
wants sent, until the script is over or the program is interrupted.
-/

namespace GroundStation

open Std.Async Std.Net

/-- The largest datagram. -/
def datagramLimit : UInt64 := 65535

/-- The longest time in milliseconds for which the program sleeps, and so the longest for
which an interruption goes unnoticed. -/
def longestSleep : Nat := 200

/-- A socket address of the system for an endpoint. -/
def socketAddress (endpoint : Endpoint) : SocketAddress :=
  match endpoint.host with
  | .v4 bits =>
    .v4 ⟨⟨.ofFn fun i => .ofNat (bits.toNat >>> (8 * (3 - i.val)))⟩, endpoint.port⟩
  | .v6 bits _ =>
    .v6 ⟨⟨.ofFn fun i => .ofNat (bits.toNat >>> (16 * (7 - i.val)))⟩, endpoint.port⟩

/-- The host of an address of the system. -/
def hostOf : IPAddr → HostAddress
  | .v4 address => .v4 (.ofNat 32 (address.octets.foldl (fun n octet => 256 * n + octet.toNat) 0))
  | .v6 address => .v6 (HostAddress.ofGroups (address.segments.toList.map UInt16.toNat)) 0

/-- The endpoint of a socket address of the system. -/
def endpointOf (address : SocketAddress) : Endpoint := ⟨hostOf address.ipAddr, address.port⟩

/-- What the system knows of the name in an address, if there is one. -/
def lookUp (address : String) : IO (String → Option HostAddress) := do
  match HostPort.read address with
  | .ok ⟨.name name, _⟩ =>
    let found ← try (DNS.getAddrInfo name "").block catch _ => pure #[]
    return fun other => if other = name then found[0]?.map hostOf else none
  | _ => return fun _ => none

/-- The address to which the socket is bound. -/
def localAddress? (network : Network) (config : LinkConfig) : Option SocketAddress :=
  match config.mode with
  | .server => (Endpoint.listen network config.address).toOption.map socketAddress
  | .client => some (socketAddress ⟨.v4 0, 0⟩)

/-- What wakes the program. -/
inductive Waking where
  | datagram (sender : Option SocketAddress) (octets : ByteArray)
  | time

/-- Waits for a datagram, or for some milliseconds. -/
def awaitWaking (socket : UDP.Socket) (millis : Nat) : Async Waking := do
  let alarm ← Selector.sleep (Std.Time.Millisecond.Offset.ofNat millis)
  Selectable.one #[
    .case (socket.recvSelector datagramLimit) fun (octets, sender) =>
      return .datagram sender octets,
    .case alarm fun _ => return .time]

/-- Sends what left the station. A message that the system refuses is lost. -/
def transmit (socket : UDP.Socket) (sent : List Transmission) : IO Unit := do
  for t in sent do
    let frame := ByteArray.mk (Mavlink.frameOf t.header t.message).toArray
    try (socket.send frame (some (socketAddress t.peer))).block
    catch e => IO.eprintln s!"Send failed: {e}"

/-- Writes down what the station did, and begins a new journal. -/
def writeOut (socket : UDP.Socket) (s : ScriptedStation) : IO ScriptedStation := do
  transmit socket s.station.journal.sent
  for line in s.station.journal.shell do IO.eprintln ("shell: " ++ line)
  for remark in s.remarks do IO.eprintln remark
  return { s with station := s.station.watch, remarks := [] }

/-- Prints the samples that a receiver has not had, if there is one. -/
def printRecords (records : Option Receiver) (telemetry : Aggregator) : IO (Option Receiver) := do
  let some receiver := records | return none
  for sample in telemetry.samples.available receiver do IO.print sample.recordText
  return some telemetry.subscribe

/-- The milliseconds that the program sleeps before the station needs the time again. -/
def sleepOf (s : Station) (now : Nat) : Nat :=
  match s.timer with
  | some due => max 1 (min longestSleep (due - now))
  | none => longestSleep

/-- Stops a station, and sends what it still wants sent. -/
def shutDown (socket : UDP.Socket) (s : ScriptedStation) : IO Unit := do
  let _ ← writeOut socket { s with station := s.station.stop }

/-- Runs a station until its script is over or the interruption has come. -/
partial def serve (socket : UDP.Socket) (interruption : AsyncTask Int) (origin : Nat)
    (records : Option Receiver) (s : ScriptedStation) : IO Unit := do
  let records ← printRecords records s.station.telemetry
  let s ← writeOut socket s
  if s.progress = .complete then shutDown socket s
  else
    let elapsed := (← IO.monoMsNow) - origin
    let waking ← (awaitWaking socket (sleepOf s.station elapsed)).block
    let elapsed := (← IO.monoMsNow) - origin
    let s := { s with station := s.station.advance (elapsed - s.station.now) }
    if ← IO.hasFinished interruption then shutDown socket s
    else match waking with
    | .datagram (some sender) octets =>
      let station := s.station.receive (endpointOf sender) octets.toList
      serve socket interruption origin records { s with station := station }.catchUp
    | _ => serve socket interruption origin records s.catchUp

/-- Opens the socket, starts the station and runs it. -/
def launch (arguments : Arguments) (config : Config) : IO UInt32 := do
  let epoch := (← Std.Time.Timestamp.now).toMillisecondsSinceUnixEpoch.toInt.toNat
  let network := { Network.reliable with
    address? := ← lookUp config.link.address
    clock := ⟨← IO.monoNanosNow⟩ }
  match Station.start network config epoch with
  | .error e =>
    IO.eprintln e.message
    return 1
  | .ok station =>
    let socket ← UDP.Socket.mk
    try
      if let some address := localAddress? network config.link then socket.bind address
    catch e =>
      IO.eprintln (StartError.network config.link.address (toString e)).message
      return 1
    let interrupt ← Signal.Waiter.mk .sigint false
    let records := if arguments.records then some station.telemetry.subscribe else none
    serve socket (← interrupt.wait) (← IO.monoMsNow) records
      (.start station arguments.script (arguments.patience * 1000))
    interrupt.stop
    return 0

/-- The content of a file, if it can be read. -/
def readFile? (path : String) : IO (Option ByteArray) := do
  try return some (← IO.FS.readBinFile path)
  catch _ => return none

/-- How the program is called. -/
def usage : String :=
  "Options: [-c, --config <PATH>] [--takeoff <METRES>] [--mission <NAME OR NUMBER>] [--land] " ++
    "[--records] [--connect-timeout <SECONDS>] [-h, --help] [-V, --version]"

end GroundStation

open GroundStation

/-- Runs the program; the exit status is 2 if the command line cannot be read and 1 if the
station cannot be started. -/
def main (words : List String) : IO UInt32 := do
  match Arguments.ofWords words with
  | .error .help =>
    IO.println usage
    return 0
  | .error .version =>
    IO.println "0.1.0"
    return 0
  | .error _ =>
    IO.eprintln usage
    return 2
  | .ok arguments =>
    match Config.ofFile (← readFile? arguments.configPath) with
    | .error e =>
      IO.eprintln ("Error loading config: " ++ e.message)
      return 1
    | .ok config => launch arguments config
