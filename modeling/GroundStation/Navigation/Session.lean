import GroundStation.Navigation.Navigator

/-!
# Navigation in time

A session is the navigator together with the telemetry it looks at and the clock.
Its events are everything that can reach it: requests, answers, telemetry, the
passage of time, cancellations, and one step of the navigator itself. They come in
any order; the clock never goes back.
-/

namespace GroundStation

/-- The clock, the telemetry and the navigator. -/
structure Session where
  now : Instant
  telemetry : Aggregator
  navigator : Navigator

namespace Session

/-- What happens to a session. -/
inductive Event where
  | request (id : Nat) (request : Request)
  | answer (reply : Reply)
  | telemetry (update : Update) (timestamp : Nat)
  | pass (millis : Nat)
  | cancel
  | abandon (id : Nat)
  | move

/-- A session at the start of the clock. -/
def new (settings : NavigatorSettings) (capacity : Nat) : Session :=
  ⟨0, .new capacity, .new settings⟩

/-- One event, and what the navigator does at it. -/
def step (s : Session) : Event → Session × List NavigatorAct
  | .request id r => ({ s with navigator := s.navigator.request id r }, [])
  | .answer reply => ({ s with navigator := s.navigator.answer reply }, [])
  | .telemetry update timestamp =>
    ({ s with telemetry := s.telemetry.apply update timestamp }, [])
  | .pass millis => ({ s with now := s.now + millis }, [])
  | .cancel => ({ s with navigator := s.navigator.cancel }, [])
  | .abandon id =>
    let (navigator, acts) := s.navigator.abandon id
    ({ s with navigator := navigator }, acts)
  | .move =>
    match s.navigator.step s.now s.telemetry with
    | some (navigator, acts) => ({ s with navigator := navigator }, acts)
    | none => (s, [])

/-- A run of events, and everything the navigator does in it, in order. -/
def run (s : Session) : List Event → Session × List NavigatorAct
  | [] => (s, [])
  | e :: rest =>
    let (next, acts) := s.step e
    let (last, later) := run next rest
    (last, acts ++ later)

/-- Does the navigator have to wait? -/
def isQuiet (s : Session) : Bool := (s.navigator.step s.now s.telemetry).isNone

end Session

end GroundStation
