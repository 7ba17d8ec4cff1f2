/-!
# What the vehicle reports

The values a vehicle reports on its seven telemetry streams, and the sample that
merges the latest of them. Angles are in degrees, lengths in metres; velocities
point north, east and down, inertial vectors forward, right and down.
-/

namespace GroundStation

/-- A position fix: degrees, and metres above sea level and above the take-off
point. -/
structure Position where
  latitude : Float
  longitude : Float
  absoluteAltitude : Float32
  relativeAltitude : Float32
deriving DecidableEq, Repr

/-- The height of the take-off point above sea level, as this fix tells it. -/
def Position.terrainOffset (p : Position) : Float32 := p.absoluteAltitude - p.relativeAltitude

/-- A velocity in metres a second. -/
structure Velocity where
  north : Float32
  east : Float32
  down : Float32
deriving DecidableEq, Repr

/-- A vector along the axes of the vehicle's body. -/
structure BodyVector where
  forward : Float32
  right : Float32
  down : Float32
deriving DecidableEq, Repr

/-- An inertial reading. -/
structure Imu where
  acceleration : BodyVector
  angularVelocity : BodyVector
  magneticField : BodyVector
  temperature : Float32
deriving DecidableEq, Repr

/-- The vehicle's attitude as Euler angles in degrees. -/
structure Attitude where
  yaw : Float32
  pitch : Float32
  roll : Float32
deriving DecidableEq, Repr

/-- Where the autopilot says the vehicle is. -/
inductive LandedState where
  | unknown
  | onGround
  | inAir
  | takingOff
  | landing
deriving DecidableEq, Repr

/-- The flags kept beside the merged sample. -/
structure VehicleStatus where
  armed : Bool
  healthy : Bool
  landed : LandedState
deriving DecidableEq, Repr

/-- The status before the vehicle has reported anything. -/
def VehicleStatus.initial : VehicleStatus := ⟨false, false, .unknown⟩

/-- A merged snapshot of the vehicle. The attitude is there once it was reported. -/
structure Sample where
  timestamp : Nat
  position : Position
  velocity : Velocity
  imu : Imu
  attitude : Option Attitude
deriving DecidableEq, Repr

/-- The telemetry streams. -/
inductive Stream where
  | position
  | velocity
  | imu
  | attitude
  | armed
  | health
  | landed
deriving DecidableEq, Repr

/-- Every telemetry stream, in the order in which they are attached. -/
def Stream.all : List Stream :=
  [.position, .velocity, .imu, .attitude, .armed, .health, .landed]

/-- One value on one telemetry stream. -/
inductive Update where
  | position (value : Position)
  | velocity (value : Velocity)
  | imu (value : Imu)
  | attitude (value : Attitude)
  | armed (value : Bool)
  | health (value : Bool)
  | landed (value : LandedState)
deriving DecidableEq, Repr

/-- The stream an update belongs to. -/
def Update.stream : Update → Stream
  | .position _ => .position
  | .velocity _ => .velocity
  | .imu _ => .imu
  | .attitude _ => .attitude
  | .armed _ => .armed
  | .health _ => .health
  | .landed _ => .landed

end GroundStation
