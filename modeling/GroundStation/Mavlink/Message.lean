import GroundStation.Mavlink.Commands
import GroundStation.Mavlink.Octets

/-!
# The messages of the dialect

The messages that the station sends or understands, field by field. A field that
the dialect restricts has a type with just the values it allows, so a message that
was built is one that can be read: enumerations are bounded numbers, flags have
as many bits as are defined. Of the other messages, which the station only passes
over, no more is known than their kind and their octets.

On the wire a message is a row of numbers whose order is not that of the fields
here but that of their widths. `Message.numbers` and `Message.ofNumbers?` are the
two directions.
-/

namespace GroundStation.Mavlink

/-! ## Kinds of messages -/

/-- A kind of message that the station neither sends nor looks at: its number in frames, its
name, the octet that takes part in the checksum, and the number of octets of a message. -/
structure OtherKind where
  number : BitVec 24
  name : String
  seed : UInt8
  size : UInt8
deriving DecidableEq, Repr

/-- A kind of message. -/
inductive MessageKind where
  | heartbeat
  | attitude
  | globalPosition
  | commandInt
  | commandLong
  | commandAck
  | setPoint
  | highresImu
  | serialControl
  | extendedState
  | statusText
  | other (kind : OtherKind)
deriving DecidableEq, Repr

namespace MessageKind

/-- The kinds of messages that the station sends or understands. -/
def own : List MessageKind :=
  [.heartbeat, .attitude, .globalPosition, .commandInt, .commandLong, .commandAck, .setPoint,
    .highresImu, .serialControl, .extendedState, .statusText]

/-- Does the station send or understand messages of a kind? -/
def isOwn : MessageKind → Bool
  | .other _ => false
  | _ => true

/-- The number of a kind in frames. -/
def id : MessageKind → Nat
  | .heartbeat => 0
  | .attitude => 30
  | .globalPosition => 33
  | .commandInt => 75
  | .commandLong => 76
  | .commandAck => 77
  | .setPoint => 84
  | .highresImu => 105
  | .serialControl => 126
  | .extendedState => 245
  | .statusText => 253
  | .other kind => kind.number.toNat

/-- The kind among the station's with a number. -/
def ofId? (n : Nat) : Option MessageKind := own.find? fun k => k.id == n

/-- The name of a kind. -/
def name : MessageKind → String
  | .heartbeat => "HEARTBEAT"
  | .attitude => "ATTITUDE"
  | .globalPosition => "GLOBAL_POSITION_INT"
  | .commandInt => "COMMAND_INT"
  | .commandLong => "COMMAND_LONG"
  | .commandAck => "COMMAND_ACK"
  | .setPoint => "SET_POSITION_TARGET_LOCAL_NED"
  | .highresImu => "HIGHRES_IMU"
  | .serialControl => "SERIAL_CONTROL"
  | .extendedState => "EXTENDED_SYS_STATE"
  | .statusText => "STATUSTEXT"
  | .other kind => kind.name

/-- The octet that takes part in the checksum of a kind after the frame, so that both
sides mean the same fields. -/
def seed : MessageKind → UInt8
  | .heartbeat => 50
  | .attitude => 39
  | .globalPosition => 104
  | .commandInt => 158
  | .commandLong => 152
  | .commandAck => 143
  | .setPoint => 143
  | .highresImu => 93
  | .serialControl => 220
  | .extendedState => 130
  | .statusText => 83
  | .other kind => kind.seed

/-- The widths of the numbers of a kind, in the order of the wire. -/
def layout : MessageKind → Layout
  | .heartbeat => [4, 1, 1, 1, 1, 1]
  | .attitude => [4, 4, 4, 4, 4, 4, 4]
  | .globalPosition => [4, 4, 4, 4, 4, 2, 2, 2, 2]
  | .commandInt => [4, 4, 4, 4, 4, 4, 4, 2, 1, 1, 1, 1, 1]
  | .commandLong => [4, 4, 4, 4, 4, 4, 4, 2, 1, 1, 1]
  | .commandAck => [2, 1]
  | .setPoint => [4, 4, 4, 4, 4, 4, 4, 4, 4, 4, 4, 4, 2, 1, 1, 1]
  | .highresImu => [8, 4, 4, 4, 4, 4, 4, 4, 4, 4, 4, 4, 4, 4, 2]
  | .serialControl => [4, 2, 1, 1, 1] ++ List.replicate 70 1
  | .extendedState => [1, 1]
  | .statusText => 1 :: List.replicate 50 1
  | .other kind => List.replicate kind.size.toNat 1

end MessageKind

/-! ## Fields -/

/-- The number of a kind of vehicle. -/
abbrev VehicleType := Fin 43

/-- The number of a kind of autopilot. -/
abbrev Autopilot := Fin 21

/-- The number of a state of a system. -/
abbrev SystemState := Fin 9

/-- The number of a frame of coordinates. -/
abbrev CoordinateFrame := Fin 22

/-- The result of a command. -/
abbrev CommandResult := Fin 7

/-- A ground station. -/
def VehicleType.groundStation : VehicleType := 6

/-- No autopilot. -/
def Autopilot.invalid : Autopilot := 8

/-- A system that is up. -/
def SystemState.active : SystemState := 4

/-- A system that is not in control of itself. -/
def SystemState.critical : SystemState := 5

/-- A system that has lost control of itself. -/
def SystemState.emergency : SystemState := 6

/-- Degrees, and metres above sea level. -/
def CoordinateFrame.global : CoordinateFrame := 0

/-- Forward, right and down of the vehicle. -/
def CoordinateFrame.body : CoordinateFrame := 8

/-- The command was carried out. -/
def CommandResult.accepted : CommandResult := 0

/-- The command is being carried out. -/
def CommandResult.inProgress : CommandResult := 5

/-- Is this the number of a serial device? -/
def isSerialDevice (n : Nat) : Bool := n ≤ 3 || n == 10 || (100 ≤ n && n ≤ 109)

/-- A serial device. -/
structure SerialDevice where
  number : UInt8
  defined : isSerialDevice number.toNat = true := by decide
deriving DecidableEq, Repr

/-- The serial device with a number. -/
def SerialDevice.ofNat? (n : Nat) : Option SerialDevice :=
  if h : isSerialDevice (UInt8.ofNat n).toNat = true then some ⟨UInt8.ofNat n, h⟩ else none

/-- The shell of the autopilot. -/
def SerialDevice.shell : SerialDevice := ⟨10, by decide⟩

/-- A component of a system. -/
structure SystemAddress where
  system : UInt8
  component : UInt8
deriving DecidableEq, Repr

/-! ## Messages -/

/-- A sign of life. -/
structure Heartbeat where
  customMode : UInt32
  vehicleType : VehicleType
  autopilot : Autopilot
  baseMode : UInt8
  state : SystemState
  version : UInt8
deriving DecidableEq, Repr

/-- An attitude in radians, and its rates of change. -/
structure AttitudeReport where
  time : UInt32
  roll : Float32
  pitch : Float32
  yaw : Float32
  rollSpeed : Float32
  pitchSpeed : Float32
  yawSpeed : Float32
deriving DecidableEq, Repr

/-- A position in units of `1e-7` degrees and in millimetres, with a velocity in
centimetres a second. -/
structure PositionReport where
  time : UInt32
  latitude : Int32
  longitude : Int32
  altitude : Int32
  relativeAltitude : Int32
  north : Int16
  east : Int16
  down : Int16
  heading : UInt16
deriving DecidableEq, Repr

/-- A command with a place in units of `1e-7` degrees. -/
structure CommandInt where
  param1 : Float32
  param2 : Float32
  param3 : Float32
  param4 : Float32
  x : Int32
  y : Int32
  z : Float32
  command : CommandId
  target : SystemAddress
  frame : CoordinateFrame
  current : UInt8
  autocontinue : UInt8
deriving DecidableEq, Repr

/-- A command with seven parameters. -/
structure CommandLong where
  params : Vector Float32 7
  command : CommandId
  target : SystemAddress
  confirmation : UInt8
deriving DecidableEq, Repr

/-- The answer to a command. -/
structure CommandAck where
  command : CommandId
  result : CommandResult
deriving DecidableEq, Repr

/-- A place, velocity, acceleration and heading to keep, as far as the mask does not
exclude them. -/
structure SetPoint where
  time : UInt32
  x : Float32
  y : Float32
  z : Float32
  vx : Float32
  vy : Float32
  vz : Float32
  ax : Float32
  ay : Float32
  az : Float32
  yaw : Float32
  yawRate : Float32
  mask : BitVec 12
  target : SystemAddress
  frame : CoordinateFrame
deriving DecidableEq, Repr

/-- Inertial readings. -/
structure ImuReport where
  time : UInt64
  xAcceleration : Float32
  yAcceleration : Float32
  zAcceleration : Float32
  xRate : Float32
  yRate : Float32
  zRate : Float32
  xField : Float32
  yField : Float32
  zField : Float32
  pressure : Float32
  pressureDifference : Float32
  pressureAltitude : Float32
  temperature : Float32
  updated : BitVec 13
deriving DecidableEq, Repr

/-- The number of octets that a serial message holds. -/
def serialCapacity : Nat := 70

/-- A piece of the traffic of a serial device, of which `count` octets are used. -/
structure SerialControl where
  baudrate : UInt32
  timeout : UInt16
  device : SerialDevice
  flags : BitVec 5
  count : UInt8
  data : Vector UInt8 serialCapacity
deriving DecidableEq, Repr

/-- Whether the vehicle hovers like a helicopter, and whether it is in the air. -/
structure ExtendedState where
  transition : Fin 5
  landed : Fin 5
deriving DecidableEq, Repr

/-- A text for the operator. -/
structure StatusText where
  severity : Fin 8
  text : Vector UInt8 50
deriving DecidableEq, Repr

/-- A message of another kind, octet by octet. -/
structure OtherMessage where
  kind : OtherKind
  content : Vector UInt8 kind.size.toNat
deriving DecidableEq, Repr

/-- A message. -/
inductive Message where
  | heartbeat (m : Heartbeat)
  | attitude (m : AttitudeReport)
  | globalPosition (m : PositionReport)
  | commandInt (m : CommandInt)
  | commandLong (m : CommandLong)
  | commandAck (m : CommandAck)
  | setPoint (m : SetPoint)
  | highresImu (m : ImuReport)
  | serialControl (m : SerialControl)
  | extendedState (m : ExtendedState)
  | statusText (m : StatusText)
  | other (m : OtherMessage)
deriving DecidableEq, Repr

/-- The kind of a message. -/
def Message.kind : Message → MessageKind
  | .heartbeat _ => .heartbeat
  | .attitude _ => .attitude
  | .globalPosition _ => .globalPosition
  | .commandInt _ => .commandInt
  | .commandLong _ => .commandLong
  | .commandAck _ => .commandAck
  | .setPoint _ => .setPoint
  | .highresImu _ => .highresImu
  | .serialControl _ => .serialControl
  | .extendedState _ => .extendedState
  | .statusText _ => .statusText
  | .other m => .other m.kind

/-! ## Messages as rows of numbers -/

/-- The number of a single-precision field. -/
def singleNumber (x : Float32) : Nat := x.toBits.toNat

/-- The single-precision field with a number. -/
def singleOf (n : Nat) : Float32 := Float32.ofBits (UInt32.ofNat n)

/-- The signed field of 32 bits with a number. -/
def int32Of (n : Nat) : Int32 := (UInt32.ofNat n).toInt32

/-- The signed field of 16 bits with a number. -/
def int16Of (n : Nat) : Int16 := (UInt16.ofNat n).toInt16

/-- The value of an enumeration with a number. -/
def finOf? (size n : Nat) : Option (Fin size) := if h : n < size then some ⟨n, h⟩ else none

/-- So many octets from the front of a row. -/
def octetField (size : Nat) (ns : List Nat) : Vector UInt8 size :=
  Vector.ofFn fun i => UInt8.ofNat (ns.getD i.val 0)

namespace Message

/-- The row of numbers of a message. -/
def numbers : Message → List Nat
  | .heartbeat m =>
    [m.customMode.toNat, m.vehicleType.val, m.autopilot.val, m.baseMode.toNat, m.state.val,
      m.version.toNat]
  | .attitude m =>
    [m.time.toNat, singleNumber m.roll, singleNumber m.pitch, singleNumber m.yaw,
      singleNumber m.rollSpeed, singleNumber m.pitchSpeed, singleNumber m.yawSpeed]
  | .globalPosition m =>
    [m.time.toNat, m.latitude.toUInt32.toNat, m.longitude.toUInt32.toNat,
      m.altitude.toUInt32.toNat, m.relativeAltitude.toUInt32.toNat, m.north.toUInt16.toNat,
      m.east.toUInt16.toNat, m.down.toUInt16.toNat, m.heading.toNat]
  | .commandInt m =>
    [singleNumber m.param1, singleNumber m.param2, singleNumber m.param3, singleNumber m.param4,
      m.x.toUInt32.toNat, m.y.toUInt32.toNat, singleNumber m.z, m.command.number.toNat,
      m.target.system.toNat, m.target.component.toNat, m.frame.val, m.current.toNat,
      m.autocontinue.toNat]
  | .commandLong m =>
    m.params.toList.map singleNumber ++
      [m.command.number.toNat, m.target.system.toNat, m.target.component.toNat,
        m.confirmation.toNat]
  | .commandAck m => [m.command.number.toNat, m.result.val]
  | .setPoint m =>
    [m.time.toNat, singleNumber m.x, singleNumber m.y, singleNumber m.z, singleNumber m.vx,
      singleNumber m.vy, singleNumber m.vz, singleNumber m.ax, singleNumber m.ay,
      singleNumber m.az, singleNumber m.yaw, singleNumber m.yawRate, m.mask.toNat,
      m.target.system.toNat, m.target.component.toNat, m.frame.val]
  | .highresImu m =>
    [m.time.toNat, singleNumber m.xAcceleration, singleNumber m.yAcceleration,
      singleNumber m.zAcceleration, singleNumber m.xRate, singleNumber m.yRate,
      singleNumber m.zRate, singleNumber m.xField, singleNumber m.yField, singleNumber m.zField,
      singleNumber m.pressure, singleNumber m.pressureDifference,
      singleNumber m.pressureAltitude, singleNumber m.temperature, m.updated.toNat]
  | .serialControl m =>
    [m.baudrate.toNat, m.timeout.toNat, m.device.number.toNat, m.flags.toNat, m.count.toNat] ++
      m.data.toList.map UInt8.toNat
  | .extendedState m => [m.transition.val, m.landed.val]
  | .statusText m => m.severity.val :: m.text.toList.map UInt8.toNat
  | .other m => m.content.toList.map UInt8.toNat

/-- The message of one of the station's kinds with a row of numbers. There is none if a number
is not among the values of its field; flags that are not defined are left out. What messages
of other kinds say is for the dialect to tell. -/
def ofNumbers? : MessageKind → List Nat → Option Message
  | .heartbeat, [mode, type, pilot, base, state, version] => do
    let type ← finOf? 43 type
    let pilot ← finOf? 21 pilot
    let state ← finOf? 9 state
    return .heartbeat ⟨.ofNat mode, type, pilot, .ofNat base, state, .ofNat version⟩
  | .attitude, [time, roll, pitch, yaw, rollSpeed, pitchSpeed, yawSpeed] =>
    some (.attitude ⟨.ofNat time, singleOf roll, singleOf pitch, singleOf yaw,
      singleOf rollSpeed, singleOf pitchSpeed, singleOf yawSpeed⟩)
  | .globalPosition, [time, lat, lon, alt, rel, north, east, down, heading] =>
    some (.globalPosition ⟨.ofNat time, int32Of lat, int32Of lon, int32Of alt, int32Of rel,
      int16Of north, int16Of east, int16Of down, .ofNat heading⟩)
  | .commandInt, [a, b, c, d, x, y, z, command, system, component, frame, current, auto] => do
    let command ← CommandId.ofNat? command
    let frame ← finOf? 22 frame
    return .commandInt ⟨singleOf a, singleOf b, singleOf c, singleOf d, int32Of x, int32Of y,
      singleOf z, command, ⟨.ofNat system, .ofNat component⟩, frame, .ofNat current,
      .ofNat auto⟩
  | .commandLong, [a, b, c, d, e, f, g, command, system, component, confirmation] => do
    let command ← CommandId.ofNat? command
    return .commandLong ⟨#v[singleOf a, singleOf b, singleOf c, singleOf d, singleOf e,
      singleOf f, singleOf g], command, ⟨.ofNat system, .ofNat component⟩, .ofNat confirmation⟩
  | .commandAck, [command, result] => do
    let command ← CommandId.ofNat? command
    let result ← finOf? 7 result
    return .commandAck ⟨command, result⟩
  | .setPoint, [time, x, y, z, vx, vy, vz, ax, ay, az, yaw, rate, mask, system, component,
      frame] => do
    let frame ← finOf? 22 frame
    return .setPoint ⟨.ofNat time, singleOf x, singleOf y, singleOf z, singleOf vx, singleOf vy,
      singleOf vz, singleOf ax, singleOf ay, singleOf az, singleOf yaw, singleOf rate,
      .ofNat 12 mask, ⟨.ofNat system, .ofNat component⟩, frame⟩
  | .highresImu, [time, xa, ya, za, xg, yg, zg, xm, ym, zm, p, dp, pa, t, updated] =>
    some (.highresImu ⟨.ofNat time, singleOf xa, singleOf ya, singleOf za, singleOf xg,
      singleOf yg, singleOf zg, singleOf xm, singleOf ym, singleOf zm, singleOf p, singleOf dp,
      singleOf pa, singleOf t, .ofNat 13 updated⟩)
  | .serialControl, baudrate :: timeout :: device :: flags :: count :: data => do
    let device ← SerialDevice.ofNat? device
    return .serialControl ⟨.ofNat baudrate, .ofNat timeout, device, .ofNat 5 flags,
      .ofNat count, octetField serialCapacity data⟩
  | .extendedState, [transition, landed] => do
    let transition ← finOf? 5 transition
    let landed ← finOf? 5 landed
    return .extendedState ⟨transition, landed⟩
  | .statusText, severity :: text => do
    let severity ← finOf? 8 severity
    return .statusText ⟨severity, octetField 50 text⟩
  | _, _ => none

/-- The octets of a message. -/
def octets (m : Message) : List UInt8 := m.kind.layout.write m.numbers

/-- The message of one of the station's kinds that octets stand for. Missing octets count as
zero, octets beyond the message are not looked at. -/
def ofOctets? (kind : MessageKind) (octets : List UInt8) : Option Message :=
  ofNumbers? kind (kind.layout.read octets)

end Message

end GroundStation.Mavlink
