import GroundStation.Config.Basic

/-!
# Checking configurations

A configuration that was read is accepted or refused for the first thing wrong
with it. The single values come first, in a fixed order; then the missions in
their order, and in each one its name, its points as a whole, and point by point
the target before the hover time. Missions and points count from one.

Every comparison is written so that a number that is none fails it.
-/

namespace GroundStation

/-- What is wrong with a configuration. -/
inductive ConfigError where
  | unreadable
  | malformed
  | commandTimeout
  | streamRate (value : Float32)
  | arrivalTolerance (value : Float)
  | arrivalTimeout
  | sampleCapacity (value : Nat)
  | duplicateMission (name : String) (number : Nat)
  | emptyMission (name : String)
  | target (mission : String) (point : Nat) (error : TargetError)
  | hover (mission : String) (point : Nat)
deriving DecidableEq, Repr

/-- The text of a configuration error. -/
def ConfigError.message : ConfigError → String
  | .unreadable => "Failed to read config file"
  | .malformed => "Failed to parse config file"
  | .commandTimeout => "command_timeout_ms must be positive"
  | .streamRate value => "stream_rate_hz must not be negative: " ++ singleText value
  | .arrivalTolerance value => "arrival_tolerance_deg must be positive: " ++ doubleText value
  | .arrivalTimeout => "arrival_timeout_secs must be positive"
  | .sampleCapacity value => "sample_channel_capacity too small: " ++ naturalText value
  | .duplicateMission name number =>
    "Duplicate mission name '" ++ name ++ "' (mission " ++ naturalText number ++ ")"
  | .emptyMission name => "Mission '" ++ name ++ "' has no points"
  | .target mission point error =>
    "Mission '" ++ mission ++ "' point " ++ naturalText point ++ ": " ++ error.message
  | .hover mission point =>
    "Mission '" ++ mission ++ "' point " ++ naturalText point ++ " has negative hover_seconds"

/-- The least number of samples that subscribers may fall behind. -/
def leastSampleCapacity : Nat := 10

/-- Checks the points of a mission, the first of which has the given number. -/
def checkPoints (mission : String) (number : Nat) : List PointConfig → Except ConfigError Unit
  | [] => .ok ()
  | p :: rest =>
    match checkTarget p.latitude p.longitude p.altitude with
    | .error e => .error (.target mission number e)
    | .ok _ =>
      if ¬ 0.0 ≤ p.hoverSeconds then .error (.hover mission number)
      else checkPoints mission (number + 1) rest

/-- Checks missions, the first of which has the given number, after missions of the
names given. -/
def checkMissions (names : List String) (number : Nat) :
    List MissionConfig → Except ConfigError Unit
  | [] => .ok ()
  | m :: rest =>
    if m.name ∈ names then .error (.duplicateMission m.name number)
    else if m.points.isEmpty then .error (.emptyMission m.name)
    else match checkPoints m.name 1 m.points with
      | .error e => .error e
      | .ok _ => checkMissions (m.name :: names) (number + 1) rest

/-- Checks the single values of a configuration. -/
def Config.checkValues (c : Config) : Except ConfigError Unit :=
  if c.link.commandTimeoutMillis = 0 then .error .commandTimeout
  else if ¬ 0.0 ≤ c.link.streamRate then .error (.streamRate c.link.streamRate)
  else if ¬ 0.0 < c.navigation.arrivalTolerance then
    .error (.arrivalTolerance c.navigation.arrivalTolerance)
  else if c.navigation.arrivalTimeoutSeconds = 0 then .error .arrivalTimeout
  else if c.telemetry.sampleCapacity < leastSampleCapacity then
    .error (.sampleCapacity c.telemetry.sampleCapacity)
  else .ok ()

/-- Checks a configuration. -/
def Config.check (c : Config) : Except ConfigError Unit :=
  match c.checkValues with
  | .error e => .error e
  | .ok _ => checkMissions [] 1 c.missions

end GroundStation
