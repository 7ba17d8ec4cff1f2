import GroundStation.Data.LossyText
import GroundStation.Mavlink.Message
import GroundStation.Number.Decimal
import GroundStation.Telemetry.Sample

/-!
# What messages say

The telemetry in the vehicle's messages, in the units of the station. Integers are
converted first and divided then, so a quotient is rounded once; radians are
multiplied by a factor that is itself a single-precision number.
-/

namespace GroundStation.Mavlink

/-- The degrees in a radian, in single precision. -/
def degreesPerRadian : Float32 := (NumberSyntax.decimal false ⟨572957795130823, -13⟩).toSingle

/-- The flag of a vehicle whose motors are armed. -/
def armedFlag : UInt8 := 128

namespace Heartbeat

/-- Are the motors armed? -/
def isArmed (m : Heartbeat) : Bool := m.baseMode &&& armedFlag ≠ 0

/-- Is the vehicle in control of itself? -/
def isHealthy (m : Heartbeat) : Bool :=
  m.state ≠ SystemState.critical && m.state ≠ SystemState.emergency

/-- Does an autopilot send this, and not a ground station or another component? -/
def isFromAutopilot (m : Heartbeat) : Bool :=
  m.vehicleType ≠ VehicleType.groundStation && m.autopilot ≠ Autopilot.invalid

end Heartbeat

namespace PositionReport

/-- The degrees in units of `1e-7` degrees. -/
def degrees (n : Int32) : Float := doubleOfInt n.toInt / 10000000.0

/-- The metres in millimetres. -/
def metres (n : Int32) : Float32 := singleOfInt n.toInt / 1000.0

/-- The metres a second in centimetres a second. -/
def metresPerSecond (n : Int16) : Float32 := singleOfInt n.toInt / 100.0

/-- The position of a report. -/
def position (m : PositionReport) : Position :=
  ⟨degrees m.latitude, degrees m.longitude, metres m.altitude, metres m.relativeAltitude⟩

/-- The velocity of a report. -/
def velocity (m : PositionReport) : Velocity :=
  ⟨metresPerSecond m.north, metresPerSecond m.east, metresPerSecond m.down⟩

end PositionReport

/-- The inertial reading of a report. -/
def ImuReport.imu (m : ImuReport) : Imu where
  acceleration := ⟨m.xAcceleration, m.yAcceleration, m.zAcceleration⟩
  angularVelocity := ⟨m.xRate, m.yRate, m.zRate⟩
  magneticField := ⟨m.xField, m.yField, m.zField⟩
  temperature := m.temperature

/-- The attitude of a report. -/
def AttitudeReport.attitude (m : AttitudeReport) : Attitude :=
  ⟨m.yaw * degreesPerRadian, m.pitch * degreesPerRadian, m.roll * degreesPerRadian⟩

/-- Where the vehicle says it is. -/
def ExtendedState.landedState (m : ExtendedState) : LandedState :=
  match m.landed.val with
  | 1 => .onGround
  | 2 => .inAir
  | 3 => .takingOff
  | 4 => .landing
  | _ => .unknown

/-- The text of a reply of the vehicle's shell; other devices and empty replies have
none. -/
def SerialControl.shellText? (m : SerialControl) : Option String :=
  let used := m.data.toList.take m.count.toNat
  if m.device ≠ SerialDevice.shell ∨ used.isEmpty then none else some (lossyText used)

end GroundStation.Mavlink
