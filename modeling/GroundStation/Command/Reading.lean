import GroundStation.Command.Basic
import GroundStation.Data.Fields

/-!
# Reading commands

A command is a record tagged by its kind: a table with the key `type` beside the
fields, or a list of the kind and the fields. A table may hold more than the
command's fields, a list may not.
-/

namespace GroundStation

namespace Command

/-- Reads the fields of a command of a kind. -/
def ofFields? (kind : String) (fields : Fields) : Option (Command × Fields) := do
  match kind with
  | "takeoff" =>
    let (altitude, fields) ← fields.take "altitude_agl" Value.toSingle?
    return (.takeoff altitude, fields)
  | "location" =>
    let (latitude, fields) ← fields.take "latitude" Value.toDouble?
    let (longitude, fields) ← fields.take "longitude" Value.toDouble?
    let (altitude, fields) ← fields.take "altitude_agl" Value.toSingle?
    let (returnToStart, fields) ← fields.takeD "return_to_start" Value.toBool? false
    let (hoverSeconds, fields) ← fields.takeD "hover_seconds" Value.toDouble? 0.0
    return (.location latitude longitude altitude returnToStart hoverSeconds, fields)
  | "mission" =>
    let (number, fields) ←
      fields.takeD "number" (Value.toOption? (Value.toNatBelow? Value.countLimit)) none
    let (name, fields) ← fields.takeD "name" (Value.toOption? Value.toText?) none
    let (returnToStart, fields) ←
      fields.takeD "return_to_start" (Value.toOption? Value.toBool?) none
    return (.mission number name returnToStart, fields)
  | "land" =>
    let (disarm, fields) ← fields.takeD "disarm" Value.toBool? true
    return (.land disarm, fields)
  | "offboard" =>
    let (forward, fields) ← fields.takeD "forward" Value.toSingle? 0.0
    let (right, fields) ← fields.takeD "right" Value.toSingle? 0.0
    let (down, fields) ← fields.takeD "down" Value.toSingle? 0.0
    let (yawRate, fields) ← fields.takeD "yaw_rate" Value.toSingle? 0.0
    return (.offboard ⟨forward, right, down, yawRate⟩, fields)
  | "shell" =>
    let (text, fields) ← fields.take "command" Value.toText?
    return (.shell text, fields)
  | "cancel" => return (.cancel, fields)
  | _ => none

/-- Reads a command. -/
def ofValue? (v : Value) : Option Command := do
  let fields ← match v with
    | .table _ => Fields.ofValue? v
    | .list _ => Fields.ofValue? v
    | _ => none
  let (kind, fields) ← fields.take "type" Value.toText?
  let (command, fields) ← ofFields? kind fields
  if fields.isDone then return command else none

end Command

end GroundStation
