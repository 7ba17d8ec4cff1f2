import GroundStation.Config.Document
import GroundStation.Station.Clockwork
import GroundStation.Station.Error

/-!
# Using a station

How a station is started and stopped, and what can be asked of it in between.

Stopping cancels the operation that runs and ends everything in the background:
the station no longer listens, and it sends neither heartbeats nor set-points. What
was asked of it before goes on, and it can still be asked for more.
-/

namespace GroundStation

namespace Station

/-! ## Starting -/

/-- The peer that a link starts with. A link in server mode needs an address at which it
can listen; a link in client mode needs the address of a known host. -/
def firstPeer (network : Network) (config : LinkConfig) : Except StartError (Option Endpoint) :=
  match config.mode with
  | .server =>
    match Endpoint.listen network config.address with
    | .ok _ => .ok none
    | .error e => .error (.network config.address e.message)
  | .client =>
    match Endpoint.find network config.address with
    | .ok peer => .ok (some peer)
    | .error _ => .error (.config ("Could not resolve vehicle address " ++ config.address))

/-- A station at the start of its clock. -/
def new (config : Config) (network : Network) (peer : Option Endpoint) (epoch : Nat) : Station :=
  let capacity := config.telemetry.sampleCapacity
  let feed := Feed.new capacity
  { epoch := epoch
    console := .new (config.navigation.settings network.clock) capacity config.flyable
    link := .new config.link network peer
    feed := feed
    taps := Stream.all.map fun stream => ⟨stream, (feed.channel stream).subscribe⟩
    supervisor := .start
    nextHeartbeat := 0
    nextSetPoint := 0
    background := true
    stopped := false
    nextId := 0
    journal := .empty }

/-- Starts a station at a time of day. Its channels come after its socket. -/
def start (network : Network) (config : Config) (epoch : Nat) : Except StartError Station :=
  match firstPeer network config.link with
  | .error e => .error e
  | .ok peer =>
    if Channel.hasRoom config.telemetry.sampleCapacity then
      .ok (new config network peer epoch).tick
    else .error (.memory config.telemetry.sampleCapacity)

/-- Starts a station by a configuration that was read, or not. -/
def startWith (network : Network) (config : Except ConfigError Config) (epoch : Nat) :
    Except StartError Station :=
  match config with
  | .ok config => start network config epoch
  | .error e => .error (.config e.message)

/-! ## What comes in -/

/-- Takes in a datagram if the station listens. The streams on which it publishes reach the
aggregator one after the other. -/
def receive (s : Station) (sender : Endpoint) (octets : List UInt8) : Station :=
  if s.isListening then
    let (link, acts) := s.link.receive sender octets
    ((published acts).foldl drain (acts.foldl perform { s with link := link })).settle
  else s

/-- The link loop fails after an uptime. -/
def failLoop (s : Station) (uptime : Duration) : Station :=
  { s with supervisor := s.supervisor.step s.now (.taskEnds uptime) }

/-! ## Requests -/

/-- Gives the request made next its number. -/
def submit (s : Station) (request : Console → Nat → Console × List ConsoleAct) : Station :=
  { s with nextId := s.nextId + 1 }.follow (request s.console s.nextId) |>.settle

/-- Carries out a command in the background. -/
def execute (s : Station) (command : Command) : Station :=
  s.submit fun c id => c.execute id command

/-- Makes a call on the vehicle link in the background. -/
def call (s : Station) (call : LinkCall) : Station := s.submit fun c id => c.call id call

/-- The caller of a request gives it up. -/
def abandon (s : Station) (id : Nat) : Station := (s.follow (s.console.abandon id)).settle

/-- Cancels the operation that runs. -/
def cancel (s : Station) : Station := (s.follow (s.console.step .cancel)).settle

/-! ## Stopping -/

/-- Ends everything in the background. -/
def endBackground (s : Station) : Station :=
  { s with
    supervisor := s.supervisor.step s.now .cancelled
    taps := []
    background := false }

/-- Stops the station. It cannot be stopped twice. -/
def stop (s : Station) : Station :=
  if s.stopped then s
  else { s.endBackground with stopped := true }.cancel

/-- Waits at most so long for the vehicle to be identified and attached. A station that
was stopped does not wait. -/
def waitConnected (s : Station) (millis : Nat) : Station × Option Bool :=
  if s.stopped then (s, none)
  else if s.link.isConnected ∧ s.console.dispatcher.attached then (s, some true)
  else
    let later := s.advance millis
    (later, some (later.link.isConnected && later.console.dispatcher.attached))

end Station

end GroundStation
