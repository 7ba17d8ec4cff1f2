import GroundStation.Number.Text

/-!
# How a link call fails

A call on the vehicle link is refused by the vehicle, goes unanswered, finds no
vehicle, or fails locally. Only a refusal carries the vehicle's result code; the
other failures report code zero.
-/

namespace GroundStation

/-- A failed call on the vehicle link. -/
inductive LinkError where
  | rejected (command : String) (code : Nat)
  | timeout (command : String)
  | notConnected
  | io (message : String)
deriving DecidableEq, Repr

namespace LinkError

/-- The vehicle's result code, zero for a failure that never reached it. -/
def code : LinkError → Nat
  | .rejected _ code => code
  | _ => 0

/-- The text of a failure. -/
def message : LinkError → String
  | .rejected command code => command ++ " rejected by vehicle (code " ++ naturalText code ++ ")"
  | .timeout command => command ++ " was not acknowledged in time"
  | .notConnected => "vehicle not connected"
  | .io message => "link I/O error: " ++ message

end LinkError

/-- The answer to a link call: done, or failed. -/
abbrev Reply := Except LinkError Unit

end GroundStation
