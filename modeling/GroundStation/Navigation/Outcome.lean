import GroundStation.Link.Error

/-!
# How a navigation operation ends

An operation ends arrived, cancelled or failed. A failure on an outbound leg of a
mission names the leg, counted from one, and wraps the cause. While an operation
runs its progress shows in the navigator's state.
-/

namespace GroundStation

/-- Why a navigation operation failed. -/
inductive NavFailure where
  | notReady
  | link (error : LinkError)
  | timeout
  | notInitialized
  | emptyMission
  | leg (index : Nat) (cause : NavFailure)
deriving DecidableEq, Repr

namespace NavFailure

/-- The text of a failure. -/
def message : NavFailure → String
  | .notReady => "no telemetry sample available yet"
  | .link error => error.message
  | .timeout => "arrival or completion not observed in time"
  | .notInitialized => "no vehicle link attached"
  | .emptyMission => "mission has no waypoints"
  | .leg index cause => "leg " ++ naturalText index ++ " failed: " ++ cause.message

/-- The vehicle's result code behind a failure, looking through legs. -/
def linkCode : NavFailure → Option Nat
  | .link error => some error.code
  | .leg _ cause => cause.linkCode
  | _ => none

/-- The number of the failing leg, counted from one. -/
def legIndex : NavFailure → Option Nat
  | .leg index _ => some index
  | _ => none

end NavFailure

/-- The result of a navigation operation. -/
inductive Outcome where
  | arrived
  | cancelled
  | failed (failure : NavFailure)
deriving DecidableEq, Repr

namespace Outcome

/-- The text of an outcome. -/
def message : Outcome → String
  | .arrived => "arrived"
  | .cancelled => "cancelled"
  | .failed failure => "failed: " ++ failure.message

/-- Did the operation reach its goal? -/
def isArrived : Outcome → Bool
  | .arrived => true
  | _ => false

end Outcome

/-- What an observer sees of the navigator. Outbound legs count from one. -/
inductive NavState where
  | idle
  | arming
  | takingOff
  | enRoute (leg : Nat)
  | hovering
  | returningHome
  | landing
  | done (outcome : Outcome)
deriving DecidableEq, Repr

end GroundStation
