import GroundStation.Link.Call
import GroundStation.Navigation.Outcome
import GroundStation.Navigation.Waypoint
import GroundStation.Telemetry.Aggregator
import GroundStation.Time.Clock

/-!
# One navigation operation

An operation is always at one `Stage`: it is about to make a link call, awaits
the answer to one, watches the telemetry, or hovers. `Stage.move` says what it
does next, or that it has to wait.

Every wait obeys the same order. A cancellation comes first, even if the thing
waited for is there as well; then the thing waited for; then the deadline. A
call that is due is made without looking at the deadline, so an answer that is
there at once is in time.

A flight to one waypoint and a mission differ in two values of their `Route`:
whether there is a home to return to, and whether a failure names its leg.
-/

namespace GroundStation

/-- How the navigator flies, and the clock of its deadlines. -/
structure NavigatorSettings where
  approachSpeed : Float32
  arrivalTolerance : Float
  arrivalTimeout : Duration
  clock : Clock := .young

/-- The deadline of a time limit that is set now, if the clock comes to it. -/
def NavigatorSettings.deadline? (settings : NavigatorSettings) (now : Instant) : Option Instant :=
  settings.clock.deadline? now settings.arrivalTimeout

/-- A request to the navigator. -/
inductive Request where
  | goto (target : Waypoint) (returnToStart : Bool)
  | mission (mission : Mission)
  | takeoff (altitude : Float32)
  | land (disarm : Bool)
deriving DecidableEq, Repr

/-- What stays fixed during a flight: the altitude above sea level, the position to
return to, and whether its legs are numbered in failures. -/
structure Route where
  altitude : Float32
  home : Option HomePosition
  numbered : Bool
deriving DecidableEq, Repr

/-- An outbound leg: its number from one, its target, and the waypoints after it. -/
structure Leg where
  route : Route
  index : Nat
  target : Waypoint
  rest : List Waypoint
deriving DecidableEq, Repr

/-- A link call of an operation, with what is needed to go on after it. -/
inductive Task where
  | leg (leg : Leg)
  | home (route : Route) (home : HomePosition)
  | arm (altitude : Float32)
  | presetAltitude (altitude : Float32)
  | takeoff (altitude : Float32)
  | land (disarm : Bool)
  | disarm
deriving DecidableEq, Repr

/-- What an operation looks for in the telemetry. Samples count from the receiver's
position on. -/
inductive Sight where
  | arrival (leg : Leg) (since : Receiver)
  | climb (altitude : Float32) (since : Receiver)
  | touchdown (disarm : Bool)
deriving DecidableEq, Repr

/-- Where an operation stands. -/
inductive Stage where
  | begun (request : Request)
  | calling (task : Task) (deadline : Instant)
  | awaiting (task : Task) (deadline : Instant) (reply : Option Reply)
  | watching (sight : Sight) (deadline : Instant)
  | hovering (leg : Leg) (wake : Instant)

/-- How an operation is over: with an outcome, or because a length of time it needs
cannot be represented. -/
inductive Ending where
  | outcome (outcome : Outcome)
  | overflow
deriving DecidableEq, Repr

/-- What an operation does after showing a new state, if it shows one. -/
inductive Act where
  | enter (stage : Stage)
  | call (call : LinkCall) (stage : Stage)
  | finish (ending : Ending)

/-- One move of an operation. -/
structure Move where
  shows : Option NavState
  act : Act

namespace Move

/-- Goes on to a stage. -/
def enter (stage : Stage) : Move := ⟨none, .enter stage⟩

/-- Ends with an outcome. -/
def finish (outcome : Outcome) : Move := ⟨none, .finish (.outcome outcome)⟩

/-- Ends with a failure. -/
def fail (failure : NavFailure) : Move := finish (.failed failure)

/-- Shows a state, sets the time limit and goes on to a stage with its deadline. -/
def enterTimed (settings : NavigatorSettings) (now : Instant) (shows : Option NavState)
    (stage : Instant → Stage) : Move :=
  match settings.deadline? now with
  | some deadline => ⟨shows, .enter (stage deadline)⟩
  | none => ⟨shows, .finish .overflow⟩

end Move

/-- The link call of a task. -/
def Task.call (settings : NavigatorSettings) : Task → LinkCall
  | .leg l => .goto l.target.latitude l.target.longitude l.route.altitude settings.approachSpeed
  | .home route start => .goto start.latitude start.longitude route.altitude settings.approachSpeed
  | .arm _ => .arm
  | .presetAltitude altitude => .setTakeoffAltitude altitude
  | .takeoff _ => .takeoff
  | .land _ => .land
  | .disarm => .disarm

/-- A failure on a leg, which a numbered leg wraps. -/
def Leg.failure (l : Leg) (cause : NavFailure) : NavFailure :=
  if l.route.numbered then .leg l.index cause else cause

/-- A failure of a task. -/
def Task.failure (cause : NavFailure) : Task → NavFailure
  | .leg l => l.failure cause
  | _ => cause

/-- A failure to see something in time. -/
def Sight.failure (cause : NavFailure) : Sight → NavFailure
  | .arrival l _ => l.failure cause
  | _ => cause

namespace Leg

/-- Sets out on a leg, with a deadline for the call and the arrival together. -/
def start (settings : NavigatorSettings) (now : Instant) (l : Leg) : Move :=
  .enterTimed settings now (some (.enRoute l.index)) (.calling (.leg l))

/-- What follows a leg: the next one, the way home, or the end. -/
def next (settings : NavigatorSettings) (now : Instant) (l : Leg) : Move :=
  match l.rest with
  | target :: rest => start settings now ⟨l.route, l.index + 1, target, rest⟩
  | [] =>
    match l.route.home with
    | some home => .enterTimed settings now (some .returningHome) (.calling (.home l.route home))
    | none => .finish .arrived

/-- What follows the arrival at a leg's target: the hover, or what follows the leg. -/
def arrive (settings : NavigatorSettings) (now : Instant) (l : Leg) : Move :=
  if l.target.hovers then
    match l.target.hoverDuration? with
    | some pause => ⟨some .hovering, .enter (.hovering l (pauseEnd now pause))⟩
    | none => ⟨none, .finish .overflow⟩
  else l.next settings now

end Leg

/-- The first move of a request. A flight is planned from the sample that is the
latest now; a takeoff needs a sample as well, a landing does not. -/
def Request.begin (settings : NavigatorSettings) (now : Instant) (telemetry : Aggregator) :
    Request → Move
  | .goto target returnToStart =>
    match telemetry.latest with
    | none => .fail .notReady
    | some sample =>
      let home := if returnToStart then some sample.position.home else none
      let route := ⟨target.altitude + sample.position.terrainOffset, home, false⟩
      Leg.start settings now ⟨route, 1, target, []⟩
  | .mission m =>
    match m.waypoints with
    | [] => .fail .emptyMission
    | first :: rest =>
      match telemetry.latest with
      | none => .fail .notReady
      | some sample =>
        let home := if m.returnToStart then some sample.position.home else none
        let route := ⟨first.altitude + sample.position.terrainOffset, home, true⟩
        Leg.start settings now ⟨route, 1, first, rest⟩
  | .takeoff altitude =>
    match telemetry.latest with
    | none => .fail .notReady
    | some _ =>
      match settings.deadline? now with
      | some deadline => ⟨some .arming, .enter (.calling (.arm altitude) deadline)⟩
      | none => ⟨none, .finish .overflow⟩
  | .land disarm =>
    match settings.deadline? now with
    | some deadline => ⟨some .landing, .enter (.calling (.land disarm) deadline)⟩
    | none => ⟨none, .finish .overflow⟩

/-- What follows the acceptance of a task's call. Samples count from here on. -/
def Task.accepted (telemetry : Aggregator) (deadline : Instant) : Task → Move
  | .leg l => .enter (.watching (.arrival l telemetry.subscribe) deadline)
  | .home _ _ => .finish .arrived
  | .arm altitude => .enter (.calling (.presetAltitude altitude) deadline)
  | .presetAltitude altitude => ⟨some .takingOff, .enter (.calling (.takeoff altitude) deadline)⟩
  | .takeoff altitude =>
    match telemetry.latest with
    | some sample =>
      if altitude ≤ sample.position.relativeAltitude then .finish .arrived
      else .enter (.watching (.climb altitude telemetry.subscribe) deadline)
    | none => .enter (.watching (.climb altitude telemetry.subscribe) deadline)
  | .land disarms => .enter (.watching (.touchdown disarms) deadline)
  | .disarm => .finish .arrived

/-- Is what an operation looks for among the telemetry? -/
def Sight.seen (settings : NavigatorSettings) (telemetry : Aggregator) : Sight → Bool
  | .arrival l since => (telemetry.samples.available since).any fun s =>
      s.position.within l.target.latitude l.target.longitude settings.arrivalTolerance
  | .climb altitude since => (telemetry.samples.available since).any fun s =>
      altitude ≤ s.position.relativeAltitude
  | .touchdown _ => telemetry.status.landed = .onGround

/-- What follows once it is seen. -/
def Sight.followUp (settings : NavigatorSettings) (now : Instant) (telemetry : Aggregator)
    (deadline : Instant) : Sight → Move
  | .arrival l _ => l.arrive settings now
  | .climb _ _ => .finish .arrived
  | .touchdown disarm =>
    if disarm ∧ telemetry.status.armed then .enter (.calling .disarm deadline)
    else .finish .arrived

/-- The next move of an operation, or nothing while it has to wait. -/
def Stage.move (settings : NavigatorSettings) (now : Instant) (telemetry : Aggregator)
    (cancelled : Bool) : Stage → Option Move
  | .begun request => some (request.begin settings now telemetry)
  | .calling task deadline =>
    if cancelled then some (.finish .cancelled)
    else some ⟨none, .call (task.call settings) (.awaiting task deadline none)⟩
  | .awaiting task deadline reply =>
    if cancelled then some (.finish .cancelled)
    else match reply with
      | some (.ok _) => some (task.accepted telemetry deadline)
      | some (.error e) => some (.fail (task.failure (.link e)))
      | none => if deadline ≤ now then some (.fail (task.failure .timeout)) else none
  | .watching sight deadline =>
    if cancelled then some (.finish .cancelled)
    else if sight.seen settings telemetry then
      some (sight.followUp settings now telemetry deadline)
    else if deadline ≤ now then some (.fail (sight.failure .timeout))
    else none
  | .hovering l wake =>
    if cancelled then some (.finish .cancelled)
    else if wake ≤ now then some (l.next settings now)
    else none

/-- The instant at which a waiting operation moves even if nothing else happens. -/
def Stage.timer : Stage → Option Instant
  | .awaiting _ deadline _ => some deadline
  | .watching _ deadline => some deadline
  | .hovering _ wake => some wake
  | _ => none

/-- Is the answer to a call outstanding? -/
def Stage.isAwaiting : Stage → Bool
  | .awaiting _ _ none => true
  | _ => false

/-- A bound on the moves left to an operation. -/
def Stage.movesLeft : Stage → Nat
  | .begun (.mission m) => 5 * m.waypoints.length + 4
  | .begun _ => 12
  | .calling (.leg l) _ => 5 * l.rest.length + 8
  | .awaiting (.leg l) _ _ => 5 * l.rest.length + 7
  | .watching (.arrival l _) _ => 5 * l.rest.length + 6
  | .hovering l _ => 5 * l.rest.length + 5
  | .calling (.arm _) _ => 10
  | .awaiting (.arm _) _ _ => 9
  | .calling (.presetAltitude _) _ => 8
  | .awaiting (.presetAltitude _) _ _ => 7
  | .calling (.takeoff _) _ => 6
  | .awaiting (.takeoff _) _ _ => 5
  | .calling (.land _) _ => 6
  | .awaiting (.land _) _ _ => 5
  | .watching _ _ => 4
  | .calling _ _ => 3
  | .awaiting _ _ _ => 2

end GroundStation
