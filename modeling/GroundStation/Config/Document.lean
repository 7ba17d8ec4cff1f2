import GroundStation.Config.Check
import GroundStation.Config.Reading
import GroundStation.Data.Toml.Document

/-!
# Configuration files

A configuration file is a TOML document. Loading one fails on the file, on the
document, or on the configuration it describes, in this order.
-/

namespace GroundStation

/-- The accepted configuration that a text describes. -/
def Config.parse (text : String) : Except ConfigError Config :=
  match (Toml.read? text).bind Config.ofValue? with
  | none => .error .malformed
  | some c => c.check.map fun _ => c

/-- The accepted configuration in a file with these bytes, if there is such a file. -/
def Config.ofFile (content : Option ByteArray) : Except ConfigError Config :=
  match content.bind String.fromUTF8? with
  | none => .error .unreadable
  | some text => Config.parse text

end GroundStation
