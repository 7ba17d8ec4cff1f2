import GroundStation.Number.Text
import GroundStation.Time.Duration
import GroundStation.Telemetry.Sample

/-!
# Waypoints and missions

A waypoint is a target with a time to hover there; a mission is a named list of
waypoints with an optional leg back to where the vehicle started. Targets are
checked against the range of latitudes and longitudes; no comparison with a
number that is none succeeds, so such a coordinate is out of range.
-/

namespace GroundStation

/-- A navigation target: degrees, metres above ground, seconds to hover. -/
structure Waypoint where
  latitude : Float
  longitude : Float
  altitude : Float32
  hoverSeconds : Float
deriving DecidableEq, Repr

/-- Why a target cannot be sent to a vehicle. -/
inductive TargetError where
  | latitude (value : Float)
  | longitude (value : Float)
  | altitude (value : Float32)
deriving DecidableEq, Repr

/-- The text of a target error. -/
def TargetError.message : TargetError → String
  | .latitude value => "latitude " ++ doubleText value ++ " out of range"
  | .longitude value => "longitude " ++ doubleText value ++ " out of range"
  | .altitude value => "altitude " ++ singleText value ++ " is not finite"

/-- A latitude or longitude between the negative and the positive limit. -/
def withinLimit (limit value : Float) : Bool := -limit ≤ value && value ≤ limit

/-- Checks a target: the latitude first, then the longitude, then the altitude. -/
def checkTarget (latitude longitude : Float) (altitude : Float32) : Except TargetError Unit :=
  if ¬ withinLimit 90.0 latitude then .error (.latitude latitude)
  else if ¬ withinLimit 180.0 longitude then .error (.longitude longitude)
  else if ¬ altitude.isFinite then .error (.altitude altitude)
  else .ok ()

namespace Waypoint

/-- A waypoint; a hover time that is not a positive finite number counts as none. -/
def new (latitude longitude : Float) (altitude : Float32) (hoverSeconds : Float) : Waypoint :=
  let hover := if hoverSeconds.isFinite && 0.0 < hoverSeconds then hoverSeconds else 0.0
  ⟨latitude, longitude, altitude, hover⟩

/-- Checks the target of a waypoint. -/
def check (w : Waypoint) : Except TargetError Unit :=
  checkTarget w.latitude w.longitude w.altitude

/-- Does the vehicle hover at this waypoint? -/
def hovers (w : Waypoint) : Bool := 0.0 < w.hoverSeconds

/-- The time to hover, if it is a duration. -/
def hoverDuration? (w : Waypoint) : Option Duration := Duration.ofSeconds? w.hoverSeconds

end Waypoint

/-- A named list of waypoints, with or without a last leg back to the start. -/
structure Mission where
  name : String
  waypoints : List Waypoint
  returnToStart : Bool
deriving DecidableEq, Repr

/-- Where the vehicle was when an operation began. -/
structure HomePosition where
  latitude : Float
  longitude : Float
deriving DecidableEq, Repr

/-- The home position a fix tells. -/
def Position.home (p : Position) : HomePosition := ⟨p.latitude, p.longitude⟩

/-- Is a fix within the tolerance of a target on both axes? -/
def Position.within (p : Position) (latitude longitude tolerance : Float) : Bool :=
  (p.latitude - latitude).abs ≤ tolerance && (p.longitude - longitude).abs ≤ tolerance

end GroundStation
