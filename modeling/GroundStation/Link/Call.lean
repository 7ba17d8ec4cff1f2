import GroundStation.Link.Error

/-!
# Calls on the vehicle link

The motion interface of a vehicle, as values. An answer to a call means that the
vehicle has accepted or refused it, not that the motion is over.
-/

namespace GroundStation

/-- A velocity in the vehicle's body frame and a yaw rate in degrees a second. -/
structure BodyVelocity where
  forward : Float32
  right : Float32
  down : Float32
  yawRate : Float32
deriving DecidableEq, Repr

/-- A call on the vehicle link. -/
inductive LinkCall where
  | arm
  | disarm
  | setTakeoffAltitude (altitude : Float32)
  | takeoff
  | land
  | goto (latitude longitude : Float) (altitude speed : Float32)
  | velocity (velocity : BodyVelocity)
  | shell (text : String)
deriving DecidableEq, Repr

/-- The name of a call in errors. -/
def LinkCall.name : LinkCall → String
  | .arm => "arm"
  | .disarm => "disarm"
  | .setTakeoffAltitude _ => "set_takeoff_altitude"
  | .takeoff => "takeoff"
  | .land => "land"
  | .goto .. => "goto"
  | .velocity _ => "velocity"
  | .shell _ => "shell"

end GroundStation
