import GroundStation.Config.Basic
import GroundStation.Data.Fields

/-!
# Reading configurations

Every part of a configuration is a record, written as a table or as a list of its
fields in the order in which they are read here. The system number has a default
only in a table.
-/

namespace GroundStation

/-- A number of a system or a component. -/
def Value.toId? (v : Value) : Option UInt8 := (v.toNatBelow? 256).map UInt8.ofNat

/-- The items of a list, all read in one way. -/
def Value.toListOf? {α : Type} (read : Value → Option α) : Value → Option (List α)
  | .list items => items.mapM read
  | _ => none

/-- Is nothing inside? -/
def Value.isEmptyCollection : Value → Bool
  | .table entries => entries.isEmpty
  | .list items => items.isEmpty
  | _ => false

namespace LinkMode

/-- The mode with a name. -/
def ofName? : String → Option LinkMode
  | "server" => some .server
  | "client" => some .client
  | _ => none

/-- Reads a mode: its name, or a table with the name as its only key and nothing in
it. -/
def ofValue? : Value → Option LinkMode
  | .text name => ofName? name
  | .table [(name, content)] => if content.isEmptyCollection then ofName? name else none
  | _ => none

end LinkMode

/-- Reads the part about the link. -/
def LinkConfig.ofValue? (v : Value) : Option LinkConfig := do
  let d := LinkConfig.default
  let fields ← Fields.ofValue? v
  let (address, fields) ← fields.takeD "address" Value.toText? d.address
  let (mode, fields) ← fields.takeD "mode" LinkMode.ofValue? d.mode
  let (systemId, fields) ← fields.takeOr (some none) none "system_id" (Value.toOption? Value.toId?)
  let (stationSystemId, fields) ← fields.takeD "gcs_system_id" Value.toId? d.stationSystemId
  let (stationComponentId, fields) ←
    fields.takeD "gcs_component_id" Value.toId? d.stationComponentId
  let (commandTimeoutMillis, fields) ←
    fields.takeD "command_timeout_ms" (Value.toNatBelow? Value.countLimit) d.commandTimeoutMillis
  let (streamRate, _) ← fields.takeD "stream_rate_hz" Value.toSingle? d.streamRate
  return ⟨address, mode, systemId, stationSystemId, stationComponentId, commandTimeoutMillis,
    streamRate⟩

/-- Reads the part about navigation. -/
def NavigationConfig.ofValue? (v : Value) : Option NavigationConfig := do
  let d := NavigationConfig.default
  let fields ← Fields.ofValue? v
  let (approachSpeed, fields) ← fields.takeD "approach_speed" Value.toSingle? d.approachSpeed
  let (arrivalTolerance, fields) ←
    fields.takeD "arrival_tolerance_deg" Value.toDouble? d.arrivalTolerance
  let (arrivalTimeoutSeconds, _) ←
    fields.takeD "arrival_timeout_secs" (Value.toNatBelow? Value.countLimit) d.arrivalTimeoutSeconds
  return ⟨approachSpeed, arrivalTolerance, arrivalTimeoutSeconds⟩

/-- Reads the part about telemetry. -/
def TelemetryConfig.ofValue? (v : Value) : Option TelemetryConfig := do
  let d := TelemetryConfig.default
  let fields ← Fields.ofValue? v
  let (sampleCapacity, fields) ←
    fields.takeD "sample_channel_capacity" (Value.toNatBelow? Value.countLimit) d.sampleCapacity
  let (logIntervalSeconds, _) ←
    fields.takeD "log_interval_secs" (Value.toNatBelow? Value.countLimit) d.logIntervalSeconds
  return ⟨sampleCapacity, logIntervalSeconds⟩

/-- Reads a point of a mission. -/
def PointConfig.ofValue? (v : Value) : Option PointConfig := do
  let fields ← Fields.ofValue? v
  let (latitude, fields) ← fields.take "latitude" Value.toDouble?
  let (longitude, fields) ← fields.take "longitude" Value.toDouble?
  let (altitude, fields) ←
    fields.takeD "altitude_agl" Value.toSingle? PointConfig.defaultAltitude
  let (hoverSeconds, _) ← fields.takeD "hover_seconds" Value.toDouble? 0.0
  return ⟨latitude, longitude, altitude, hoverSeconds⟩

/-- Reads a mission. -/
def MissionConfig.ofValue? (v : Value) : Option MissionConfig := do
  let fields ← Fields.ofValue? v
  let (name, fields) ← fields.take "name" Value.toText?
  let (returnToStart, fields) ← fields.takeD "return_to_start" Value.toBool? false
  let (points, _) ← fields.takeD "point" (Value.toListOf? PointConfig.ofValue?) []
  return ⟨name, returnToStart, points⟩

/-- Reads a configuration. -/
def Config.ofValue? (v : Value) : Option Config := do
  let fields ← Fields.ofValue? v
  let (link, fields) ← fields.takeD "link" LinkConfig.ofValue? .default
  let (navigation, fields) ← fields.takeD "navigation" NavigationConfig.ofValue? .default
  let (telemetry, fields) ← fields.takeD "telemetry" TelemetryConfig.ofValue? .default
  let (missions, _) ← fields.takeD "mission" (Value.toListOf? MissionConfig.ofValue?) []
  return ⟨link, navigation, telemetry, missions⟩

end GroundStation
