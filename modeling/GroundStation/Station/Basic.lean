import GroundStation.Command.Console
import GroundStation.Link.Conversation
import GroundStation.Station.Supervisor
import GroundStation.Telemetry.Feed

/-!
# The station

A station is the console on top of the vehicle link, with the vehicle's streams led
into the aggregator. In the background it takes in datagrams, sends heartbeats and
set-points at regular times, and attaches the vehicle to the dispatcher once it has
been identified.

Of what a station does it keeps a journal: the messages that left it, the requests
that are over, and the lines of the vehicle's shell.
-/

namespace GroundStation

open Mavlink

/-- A message that left the station. -/
structure Transmission where
  time : Instant
  peer : Endpoint
  header : Header
  message : Message

/-- What a station did since somebody last looked. -/
structure Journal where
  sent : List Transmission
  reports : List (Nat × Report)
  shell : List String

/-- A journal without entries. -/
def Journal.empty : Journal := ⟨[], [], []⟩

/-- The console, the link, the taps on the vehicle's streams, and what goes on in the
background. Samples have the time of day, so the station knows what it was, in
milliseconds since 1970, when its own clock started. -/
structure Station where
  epoch : Nat
  console : Console
  link : VehicleLink
  feed : Feed
  taps : List Tap
  supervisor : Supervisor
  nextHeartbeat : Instant
  nextSetPoint : Instant
  background : Bool
  stopped : Bool
  nextId : Nat
  journal : Journal

namespace Station

/-- The station's clock. -/
def now (s : Station) : Instant := s.console.session.now

/-- The merged telemetry. -/
def telemetry (s : Station) : Aggregator := s.console.session.telemetry

/-- Begins a new journal. -/
def watch (s : Station) : Station := { s with journal := .empty }

/-! ## Acts of the link -/

/-- Enters the end of a request into the journal. -/
def note (s : Station) (id : Nat) (report : Report) : Station :=
  { s with journal := { s.journal with reports := s.journal.reports ++ [(id, report)] } }

/-- Attaches the vehicle to the dispatcher. -/
def attach (s : Station) : Station :=
  let (console, acts) := s.console.attach
  acts.foldl (fun s act =>
    match act with
    | .reports id report => s.note id report
    | _ => s) { s with console := console }

/-- Hands over the answer to the call of a request. -/
def answer (s : Station) (id : Nat) (reply : Reply) : Station :=
  let (console, report) := s.console.answer id reply
  match report with
  | some report => { s with console := console }.note id report
  | none => { s with console := console }

/-- Carries out an act of the link. -/
def perform (s : Station) : LinkAct → Station
  | .sends peer header message =>
    { s with journal := { s.journal with
        sent := s.journal.sent ++ [⟨s.now, peer, header, message⟩] } }
  | .identifies _ => if s.background then s.attach else s
  | .publishes update => { s with feed := s.feed.publish update }
  | .logs line => { s with journal := { s.journal with shell := s.journal.shell ++ [line] } }
  | .ends id reply => s.answer id reply

/-- Lets an event happen to the link. -/
def converse (s : Station) (event : VehicleLink.Event) : Station :=
  let (link, acts) := s.link.step s.now event
  acts.foldl perform { s with link := link }

/-! ## Acts of the console -/

/-- Carries out an act of the console. -/
def carryOut (s : Station) : ConsoleAct → Station
  | .calls id call => s.converse (.call id call)
  | .givesUp id => s.converse (.abandon id)
  | .reports id report => s.note id report

/-- Goes on from what the console did. -/
def follow (s : Station) (done : Console × List ConsoleAct) : Station :=
  done.2.foldl carryOut { s with console := done.1 }

/-! ## Telemetry -/

/-- Lets the tap on a stream take everything the stream keeps for it. -/
def drain (s : Station) (stream : Stream) : Station :=
  match s.taps.find? fun tap => tap.stream = stream with
  | none => s
  | some tap =>
    let (telemetry, drained) := Intake.drain s.feed (s.epoch + s.now) s.telemetry tap
    { s with
      taps := s.taps.map fun tap => if tap.stream = stream then drained else tap
      console := { s.console with session := { s.console.session with telemetry := telemetry } } }

/-- The streams on which a list of acts publishes, each where it comes first. -/
def published (acts : List LinkAct) : List Stream :=
  (acts.filterMap fun act =>
    match act with
    | .publishes update => some update.stream
    | _ => none).eraseDups

/-! ## Settling -/

/-- The next thing that happens without time passing or anything coming in. Calls on the
link move before the navigator, so an answer that is there is not overtaken by a
deadline. -/
def next? (s : Station) : Option Station :=
  if s.link.streamsDue then some (s.converse .requestStreams)
  else match s.link.ready? s.now with
    | some id => some (s.converse (.move id))
    | none => if s.console.isQuiet then none else some (s.follow (s.console.step .move))

/-- Lets at most so many things happen. -/
def run : Nat → Station → Station
  | 0, s => s
  | steps + 1, s => match s.next? with
    | some next => run steps next
    | none => s

/-- A bound on what can happen without time passing or anything coming in: every step of
the navigator may begin a call, which has no more than four moves. -/
def stepsLeft (s : Station) : Nat :=
  5 * s.console.session.navigator.stepsLeft + s.link.movesLeft + 1

/-- Lets everything happen that can happen now. -/
def settle (s : Station) : Station := run s.stepsLeft s

end Station

end GroundStation
