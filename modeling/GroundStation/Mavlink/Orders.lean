import GroundStation.Link.Call
import GroundStation.Mavlink.Message
import GroundStation.Number.Decimal

/-!
# The messages the station sends

The station's heartbeat, its commands, velocity set-points and the lines it sends
to the vehicle's shell. What a message does not use is zero; a parameter that is
no number leaves the choice to the autopilot.
-/

namespace GroundStation.Mavlink

/-- The station's sign of life. -/
def stationHeartbeat : Message :=
  .heartbeat ⟨0, VehicleType.groundStation, Autopilot.invalid, 0, SystemState.active, 3⟩

/-! ## Commands -/

/-- A command with seven parameters to a vehicle. -/
def commandLong (target : SystemAddress) (command : CommandId) (confirmation : UInt8)
    (params : Vector Float32 7) : Message :=
  .commandLong ⟨params, command, target, confirmation⟩

/-- The largest number of units of a place. -/
def e7Limit : Nat := Nat.pow 2 31

/-- The units of `1e-7` degrees nearest to an angle in degrees, a half going away from
zero. An angle out of range goes to the end of the range; zero stands for one that
is no number. -/
def degreesToE7 (degrees : Float) : Int32 :=
  match doubleValue (degrees * 10000000.0) with
  | .nan => 0
  | .infinite negative => if negative then Int32.minValue else Int32.maxValue
  | .finite negative m q =>
    let units := (2 * m * Nat.pow 2 q.toNat + Nat.pow 2 (-q).toNat) / (2 * Nat.pow 2 (-q).toNat)
    if negative then Int32.ofInt (-(min units e7Limit : Nat))
    else Int32.ofInt (min units (e7Limit - 1) : Nat)

/-- The first parameter of a reposition that takes the vehicle out of other modes. -/
def repositionChangesMode : Float32 := 1.0

/-- Sends a vehicle to a place at a speed. -/
def reposition (target : SystemAddress) (latitude longitude : Float) (altitude speed : Float32) :
    Message :=
  .commandInt {
    param1 := speed
    param2 := repositionChangesMode
    param3 := 0.0
    param4 := singleNaN
    x := degreesToE7 latitude
    y := degreesToE7 longitude
    z := altitude
    command := .reposition
    target := target
    frame := CoordinateFrame.global
    current := 0
    autocontinue := 0 }

/-! ## Set-points -/

/-- The radians in a degree, in single precision. -/
def radiansPerDegree : Float32 :=
  (NumberSyntax.decimal false ⟨314159265358979, -14⟩).toSingle / 180.0

/-- The mask of a set-point of which only the velocity and the yaw rate count. -/
def velocityMask : BitVec 12 := 1 ||| 2 ||| 4 ||| 64 ||| 128 ||| 256 ||| 1024

/-- The set-point of a velocity in the vehicle's body frame. -/
def velocitySetPoint (target : SystemAddress) (v : BodyVelocity) : Message :=
  .setPoint {
    time := 0
    x := 0.0
    y := 0.0
    z := 0.0
    vx := v.forward
    vy := v.right
    vz := v.down
    ax := 0.0
    ay := 0.0
    az := 0.0
    yaw := 0.0
    yawRate := v.yawRate * radiansPerDegree
    mask := velocityMask
    target := target
    frame := CoordinateFrame.body }

/-! ## Shell lines -/

/-- The flags of a piece of a shell line: the shell is the station's alone and is to
reply. -/
def shellFlags : BitVec 5 := 2 ||| 4

/-- The message of a piece of a shell line, of which at most the capacity is sent. -/
def shellPiece (octets : List UInt8) : Message :=
  .serialControl {
    baudrate := 0
    timeout := 0
    device := .shell
    flags := shellFlags
    count := UInt8.ofNat (min octets.length serialCapacity)
    data := Vector.ofFn fun i => octets.getD i.val 0 }

/-- Octets in pieces of a size, the last of which may be shorter. -/
def piecesOf (size : Nat) (h : 0 < size) (octets : List UInt8) : List (List UInt8) :=
  match octets with
  | [] => []
  | first :: rest =>
    (first :: rest).take size :: piecesOf size h ((first :: rest).drop size)
termination_by octets.length
decreasing_by simp only [List.length_drop, List.length_cons]; omega

/-- The octets of a shell line with its line end. -/
def shellLine (text : String) : List UInt8 := text.toUTF8.toList ++ [10]

/-- A shell line in pieces. -/
def shellPieces (text : String) : List (List UInt8) :=
  piecesOf serialCapacity (by decide) (shellLine text)

/-- The messages of a shell line. -/
def shellMessages (text : String) : List Message := (shellPieces text).map shellPiece

end GroundStation.Mavlink
