import GroundStation.Station.Basic

/-!
# The station in time

While its link loop runs, a station sends a heartbeat every second and the set-point
in the velocity slot every tenth of a second, both also when the loop starts. The
clock goes from one timer to the next, and everything that can happen at an instant
happens before the clock goes on.
-/

namespace GroundStation

namespace Station

/-- The milliseconds between two heartbeats. -/
def heartbeatPeriod : Nat := 1000

/-- The milliseconds between two set-points; autopilots stop following set-points that come
less often than twice a second. -/
def setPointPeriod : Nat := 100

/-- Does the link loop run? -/
def isListening (s : Station) : Bool := s.supervisor.phase = .running

/-- Sends the heartbeat if it is due. -/
def beat (s : Station) : Station :=
  if s.isListening ∧ s.nextHeartbeat ≤ s.now then
    { s with nextHeartbeat := s.now + heartbeatPeriod }.converse .heartbeat
  else s

/-- Sends the set-point if it is due. -/
def refresh (s : Station) : Station :=
  if s.isListening ∧ s.nextSetPoint ≤ s.now then
    { s with nextSetPoint := s.now + setPointPeriod }.converse .refresh
  else s

/-- Starts the link loop again if its pause is over. -/
def revive (s : Station) : Station :=
  match s.supervisor.phase with
  | .pausing wake =>
    if wake ≤ s.now then
      { s with
        supervisor := s.supervisor.step s.now .wakes
        nextHeartbeat := s.now
        nextSetPoint := s.now }
    else s
  | _ => s

/-- Lets everything happen that is due now. -/
def tick (s : Station) : Station := s.revive.beat.refresh.settle

/-- The instants at which something in the background is due. -/
def backgroundTimers (s : Station) : List Instant :=
  match s.supervisor.phase with
  | .running => [s.nextHeartbeat, s.nextSetPoint]
  | .pausing wake => [wake]
  | .ended => []

/-- The instant at which something happens even if nothing comes in. -/
def timer (s : Station) : Option Instant :=
  (s.console.timer.toList ++ s.link.timer.toList ++ s.backgroundTimers).min?

/-- Moves the clock to an instant. -/
def moveClock (s : Station) (instant : Instant) : Station :=
  s.follow (s.console.step (.pass (instant - s.now)))

/-- Lets the clock run to an instant through at most so many timers. -/
def advanceThrough : Nat → Instant → Station → Station
  | 0, target, s => s.moveClock target
  | timers + 1, target, s =>
    match s.timer with
    | some due =>
      if due ≤ target then advanceThrough timers target (s.moveClock due).tick
      else s.moveClock target
    | none => s.moveClock target

/-- Lets time pass. Every timer is later than the one before it, which bounds their
number. -/
def advance (s : Station) (millis : Nat) : Station :=
  advanceThrough (millis + 1) (s.now + millis) s

end Station

end GroundStation
