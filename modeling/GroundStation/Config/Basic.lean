import GroundStation.Navigation.Operation

/-!
# The configuration of a station

What a configuration file can set, with the values that hold where it is silent.
-/

namespace GroundStation

/-- Whose address the link is given: its own, or the vehicle's. -/
inductive LinkMode where
  | server
  | client
deriving DecidableEq, Repr

/-- How the station reaches the vehicle. Without a system number the vehicle is whoever
identifies itself first. -/
structure LinkConfig where
  address : String
  mode : LinkMode
  systemId : Option UInt8
  stationSystemId : UInt8
  stationComponentId : UInt8
  commandTimeoutMillis : Nat
  streamRate : Float32

/-- The link as it is without a configuration. -/
def LinkConfig.default : LinkConfig where
  address := "0.0.0.0:14540"
  mode := .server
  systemId := none
  stationSystemId := 255
  stationComponentId := 190
  commandTimeoutMillis := 3000
  streamRate := 10.0

/-- How the navigator flies. -/
structure NavigationConfig where
  approachSpeed : Float32
  arrivalTolerance : Float
  arrivalTimeoutSeconds : Nat

/-- The navigation as it is without a configuration. -/
def NavigationConfig.default : NavigationConfig := ⟨45.0, 0.000003, 120⟩

/-- The settings of the navigator on a machine with a clock. -/
def NavigationConfig.settings (c : NavigationConfig) (clock : Clock := .young) :
    NavigatorSettings :=
  ⟨c.approachSpeed, c.arrivalTolerance, .ofSeconds c.arrivalTimeoutSeconds, clock⟩

/-- How much telemetry is kept, and how often its rate is logged. -/
structure TelemetryConfig where
  sampleCapacity : Nat
  logIntervalSeconds : Nat

/-- The telemetry as it is without a configuration. -/
def TelemetryConfig.default : TelemetryConfig := ⟨256, 10⟩

/-- A waypoint as configured. -/
structure PointConfig where
  latitude : Float
  longitude : Float
  altitude : Float32
  hoverSeconds : Float

/-- The altitude above ground of a point that gives none. -/
def PointConfig.defaultAltitude : Float32 := 30.0

/-- The waypoint of a configured point. -/
def PointConfig.waypoint (p : PointConfig) : Waypoint :=
  .new p.latitude p.longitude p.altitude p.hoverSeconds

/-- A mission as configured. -/
structure MissionConfig where
  name : String
  returnToStart : Bool
  points : List PointConfig

/-- The mission of its configuration. -/
def MissionConfig.mission (m : MissionConfig) : Mission :=
  ⟨m.name, m.points.map PointConfig.waypoint, m.returnToStart⟩

/-- The configuration of a station. -/
structure Config where
  link : LinkConfig
  navigation : NavigationConfig
  telemetry : TelemetryConfig
  missions : List MissionConfig

/-- The missions a station is configured with. -/
def Config.flyable (c : Config) : List Mission := c.missions.map MissionConfig.mission

end GroundStation
