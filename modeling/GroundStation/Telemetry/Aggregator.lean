import GroundStation.Number.Binary
import GroundStation.Telemetry.Sample
import GroundStation.Telemetry.History
import GroundStation.Telemetry.Channel

/-!
# Merging telemetry into samples

The aggregator keeps the latest value of each stream. Once position, velocity and
inertial reading have all been seen, every update of one of the four sampled
streams emits a merged sample with that update's timestamp; the attitude joins
when it has been reported. Status updates only change the status.

An emission does four things at once: it becomes the latest sample, it counts, its
distance from the sample before it enters the history, and it goes out on the
channel.
-/

namespace GroundStation

/-- The latest telemetry of one vehicle. -/
structure Aggregator where
  position : Option Position
  velocity : Option Velocity
  imu : Option Imu
  attitude : Option Attitude
  latest : Option Sample
  history : SamplingHistory
  emitted : Nat
  samples : Channel Sample
  status : VehicleStatus

namespace Aggregator

/-- The channel capacity of an aggregator that is given none. -/
def defaultCapacity : Nat := 256

/-- An aggregator that has seen nothing, whose subscribers may fall `capacity`
samples behind. -/
def new (capacity : Nat) : Aggregator where
  position := none
  velocity := none
  imu := none
  attitude := none
  latest := none
  history := .empty
  emitted := 0
  samples := .new capacity
  status := .initial

/-- The seconds between two timestamps in milliseconds, zero when time went
backwards. -/
def interval (earlier later : Nat) : Float := doubleOfInt (later - earlier : Nat) / 1000.0

/-- Records an emitted sample. -/
def emit (a : Aggregator) (sample : Sample) : Aggregator :=
  { a with
    latest := some sample
    history := match a.latest with
      | some previous => a.history.push (interval previous.timestamp sample.timestamp)
      | none => a.history
    emitted := a.emitted + 1
    samples := a.samples.send sample }

/-- The sample made of the latest values, once there are enough of them. -/
def merged (a : Aggregator) (timestamp : Nat) : Option Sample :=
  match a.position, a.velocity, a.imu with
  | some position, some velocity, some imu =>
    some ⟨timestamp, position, velocity, imu, a.attitude⟩
  | _, _, _ => none

/-- Emits the merged sample if there is one. -/
def refresh (a : Aggregator) (timestamp : Nat) : Aggregator :=
  match a.merged timestamp with
  | some sample => a.emit sample
  | none => a

/-- Applies one update at a time in milliseconds. -/
def apply (a : Aggregator) (u : Update) (timestamp : Nat) : Aggregator :=
  match u with
  | .position value => { a with position := some value }.refresh timestamp
  | .velocity value => { a with velocity := some value }.refresh timestamp
  | .imu value => { a with imu := some value }.refresh timestamp
  | .attitude value => { a with attitude := some value }.refresh timestamp
  | .armed value => { a with status := { a.status with armed := value } }
  | .health value => { a with status := { a.status with healthy := value } }
  | .landed value => { a with status := { a.status with landed := value } }

/-- A receiver of every sample emitted from now on. -/
def subscribe (a : Aggregator) : Receiver := a.samples.subscribe

end Aggregator

end GroundStation
