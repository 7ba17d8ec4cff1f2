import GroundStation.Number.Text
import GroundStation.Telemetry.Aggregator

/-!
# Samples as text records

A sample is written as one line of seventeen numbers divided by commas. The
fields and their order are the list `RecordField.all`; the attitude and the
altitude above the take-off point are not among them.
-/

namespace GroundStation

/-- The fields of a text record. -/
inductive RecordField where
  | time
  | latitude
  | longitude
  | altitude
  | velNorth
  | velEast
  | velDown
  | accForward
  | accRight
  | accDown
  | gyroForward
  | gyroRight
  | gyroDown
  | temperature
  | magForward
  | magRight
  | magDown
deriving DecidableEq, Repr

namespace RecordField

/-- The fields in the order in which they are written. -/
def all : List RecordField :=
  [.time, .latitude, .longitude, .altitude, .velNorth, .velEast, .velDown, .accForward,
    .accRight, .accDown, .gyroForward, .gyroRight, .gyroDown, .temperature, .magForward,
    .magRight, .magDown]

/-- The name of a field. -/
def name : RecordField → String
  | .time => "time"
  | .latitude => "latitude"
  | .longitude => "longitude"
  | .altitude => "altitude"
  | .velNorth => "vel_north"
  | .velEast => "vel_east"
  | .velDown => "vel_down"
  | .accForward => "acc_forward"
  | .accRight => "acc_right"
  | .accDown => "acc_down"
  | .gyroForward => "gyro_forward"
  | .gyroRight => "gyro_right"
  | .gyroDown => "gyro_down"
  | .temperature => "temperature"
  | .magForward => "mag_forward"
  | .magRight => "mag_right"
  | .magDown => "mag_down"

/-- The text of a field of a sample. The time is in seconds. -/
def text (s : Sample) : RecordField → List Char
  | .time => binary64.chars (doubleValue (doubleOfInt s.timestamp / 1000.0))
  | .latitude => binary64.chars (doubleValue s.position.latitude)
  | .longitude => binary64.chars (doubleValue s.position.longitude)
  | .altitude => binary32.chars (singleValue s.position.absoluteAltitude)
  | .velNorth => binary32.chars (singleValue s.velocity.north)
  | .velEast => binary32.chars (singleValue s.velocity.east)
  | .velDown => binary32.chars (singleValue s.velocity.down)
  | .accForward => binary32.chars (singleValue s.imu.acceleration.forward)
  | .accRight => binary32.chars (singleValue s.imu.acceleration.right)
  | .accDown => binary32.chars (singleValue s.imu.acceleration.down)
  | .gyroForward => binary32.chars (singleValue s.imu.angularVelocity.forward)
  | .gyroRight => binary32.chars (singleValue s.imu.angularVelocity.right)
  | .gyroDown => binary32.chars (singleValue s.imu.angularVelocity.down)
  | .temperature => binary32.chars (singleValue s.imu.temperature)
  | .magForward => binary32.chars (singleValue s.imu.magneticField.forward)
  | .magRight => binary32.chars (singleValue s.imu.magneticField.right)
  | .magDown => binary32.chars (singleValue s.imu.magneticField.down)

end RecordField

/-- The tokens with the separator between them. -/
def joinTokens (separator : Char) : List (List Char) → List Char
  | [] => []
  | [token] => token
  | token :: rest => token ++ separator :: joinTokens separator rest

/-- The text record of a sample: the fields divided by commas, and a line end. -/
def Sample.recordText (s : Sample) : String :=
  String.ofList (joinTokens ',' (RecordField.all.map (RecordField.text s)) ++ ['\n'])

end GroundStation
