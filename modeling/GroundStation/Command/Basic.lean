import GroundStation.Link.Call
import GroundStation.Navigation.Waypoint

/-!
# Host commands

What a host can ask the station to do. A command's numbers are checked before
anything else happens: only those that can be put on the wire pass.
-/

namespace GroundStation

/-- A host command. A mission is selected by name or by its number from one. -/
inductive Command where
  | takeoff (altitude : Float32)
  | location (latitude longitude : Float) (altitude : Float32) (returnToStart : Bool)
      (hoverSeconds : Float)
  | mission (number : Option Nat) (name : Option String) (returnToStart : Option Bool)
  | land (disarm : Bool)
  | offboard (velocity : BodyVelocity)
  | shell (text : String)
  | cancel
deriving DecidableEq, Repr

/-- Why the numbers of a command cannot be put on the wire. -/
inductive CommandFault where
  | takeoffAltitude (altitude : Float32)
  | target (error : TargetError)
  | setPoint
deriving DecidableEq, Repr

/-- The text of a command fault. -/
def CommandFault.message : CommandFault → String
  | .takeoffAltitude altitude =>
    "takeoff altitude " ++ singleText altitude ++ " must be positive"
  | .target error => error.message
  | .setPoint => "offboard set-point must be finite"

/-- Are all components of a velocity finite? -/
def BodyVelocity.isFinite (v : BodyVelocity) : Bool :=
  v.forward.isFinite && v.right.isFinite && v.down.isFinite && v.yawRate.isFinite

/-- Checks the numbers of a command. -/
def Command.check : Command → Except CommandFault Unit
  | .takeoff altitude =>
    if altitude.isFinite && 0.0 < altitude then .ok () else .error (.takeoffAltitude altitude)
  | .location latitude longitude altitude _ _ =>
    (checkTarget latitude longitude altitude).mapError .target
  | .offboard v => if v.isFinite then .ok () else .error .setPoint
  | _ => .ok ()

end GroundStation
