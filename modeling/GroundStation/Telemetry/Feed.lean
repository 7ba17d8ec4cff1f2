import GroundStation.Telemetry.Aggregator

/-!
# From the vehicle's streams to the aggregator

A feed has one lossy channel for each telemetry stream. Attaching an aggregator
starts one tap on each of them; a tap takes the values of its stream in order and
applies them. Taps run independently, so only the order within a stream is fixed:
`Intake.advance` moves one tap by one value, and `Intake.settle` runs the taps one
after the other until each has taken everything.
-/

namespace GroundStation

/-- One channel for each telemetry stream. -/
structure Feed where
  position : Channel Update
  velocity : Channel Update
  imu : Channel Update
  attitude : Channel Update
  armed : Channel Update
  health : Channel Update
  landed : Channel Update

namespace Feed

/-- A feed whose streams keep up to `capacity` values, rounded up as for every
channel. -/
def new (capacity : Nat) : Feed :=
  ⟨.new capacity, .new capacity, .new capacity, .new capacity, .new capacity, .new capacity,
    .new capacity⟩

/-- The channel of a stream. -/
def channel (f : Feed) : Stream → Channel Update
  | .position => f.position
  | .velocity => f.velocity
  | .imu => f.imu
  | .attitude => f.attitude
  | .armed => f.armed
  | .health => f.health
  | .landed => f.landed

/-- Publishes a value on its stream. -/
def publish (f : Feed) (u : Update) : Feed :=
  match u.stream with
  | .position => { f with position := f.position.send u }
  | .velocity => { f with velocity := f.velocity.send u }
  | .imu => { f with imu := f.imu.send u }
  | .attitude => { f with attitude := f.attitude.send u }
  | .armed => { f with armed := f.armed.send u }
  | .health => { f with health := f.health.send u }
  | .landed => { f with landed := f.landed.send u }

end Feed

/-- A running tap on one stream. -/
structure Tap where
  stream : Stream
  receiver : Receiver
deriving DecidableEq, Repr

/-- A feed, the taps on it and the aggregator they apply to. Once it is closed no
tap runs any more. -/
structure Intake where
  feed : Feed
  taps : List Tap
  aggregator : Aggregator
  closed : Bool

namespace Intake

/-- A feed and an aggregator of one capacity, not yet attached. -/
def new (capacity : Nat) : Intake := ⟨.new capacity, [], .new capacity, false⟩

/-- Starts a tap on every stream; each receives what is published from now on. -/
def attach (i : Intake) : Intake :=
  if i.closed then i
  else { i with taps := i.taps ++ Stream.all.map fun s => ⟨s, (i.feed.channel s).subscribe⟩ }

/-- Publishes a value. -/
def publish (i : Intake) (u : Update) : Intake := { i with feed := i.feed.publish u }

/-- Ends every tap, and those that would be attached later. -/
def close (i : Intake) : Intake := { i with taps := [], closed := true }

/-- Lets the tap at `index` take one value, or the news of values it lost. -/
def advance (i : Intake) (index : Nat) (now : Nat) : Intake :=
  match i.taps[index]? with
  | none => i
  | some tap =>
    let (found, receiver) := (i.feed.channel tap.stream).receive tap.receiver
    let taps := i.taps.set index { tap with receiver := receiver }
    match found with
    | .value u => { i with taps := taps, aggregator := i.aggregator.apply u now }
    | .lagged _ => { i with taps := taps }
    | .empty => i

/-- Lets one tap take everything its stream keeps for it. -/
def drain (feed : Feed) (now : Nat) (a : Aggregator) (tap : Tap) : Aggregator × Tap :=
  let channel := feed.channel tap.stream
  ((channel.available tap.receiver).foldl (fun b u => b.apply u now) a,
    { tap with receiver := channel.subscribe })

/-- Runs every tap until it has taken everything, in the order of the taps. -/
def settle (i : Intake) (now : Nat) : Intake :=
  let step := fun (a, done) tap =>
    let (b, drained) := drain i.feed now a tap
    (b, done ++ [drained])
  let (aggregator, taps) := i.taps.foldl step (i.aggregator, [])
  { i with aggregator := aggregator, taps := taps }

end Intake

end GroundStation
