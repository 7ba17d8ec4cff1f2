import GroundStation.Command.Basic
import GroundStation.Command.Console
import GroundStation.Command.Dispatch
import GroundStation.Command.Reading
import GroundStation.CommandLine
import GroundStation.Config.Basic
import GroundStation.Config.Check
import GroundStation.Config.Document
import GroundStation.Config.Reading
import GroundStation.Data.Fields
import GroundStation.Data.Hexadecimal
import GroundStation.Data.Json
import GroundStation.Data.Lines
import GroundStation.Data.LossyText
import GroundStation.Data.Toml.Document
import GroundStation.Data.Toml.Scalar
import GroundStation.Data.Toml.Table
import GroundStation.Data.Toml.Text
import GroundStation.Data.Value
import GroundStation.Link.Acknowledgement
import GroundStation.Link.Address
import GroundStation.Link.Call
import GroundStation.Link.Conversation
import GroundStation.Link.Error
import GroundStation.Link.Network
import GroundStation.Link.Reception
import GroundStation.Link.Request
import GroundStation.Link.Vehicle
import GroundStation.Main
import GroundStation.Mavlink.Checksum
import GroundStation.Mavlink.Commands
import GroundStation.Mavlink.Decoding
import GroundStation.Mavlink.Frame
import GroundStation.Mavlink.Message
import GroundStation.Mavlink.Octets
import GroundStation.Mavlink.Orders
import GroundStation.Navigation.Navigator
import GroundStation.Navigation.Operation
import GroundStation.Navigation.Outcome
import GroundStation.Navigation.Session
import GroundStation.Navigation.Waypoint
import GroundStation.Number.Binary
import GroundStation.Number.Decimal
import GroundStation.Number.Shortest
import GroundStation.Number.Text
import GroundStation.Proofs.Command.Bounds
import GroundStation.Proofs.Command.Endings
import GroundStation.Proofs.Command.MissionOption
import GroundStation.Proofs.Command.Refusals
import GroundStation.Proofs.Command.Runs
import GroundStation.Proofs.Link.Answers
import GroundStation.Proofs.Link.Attention
import GroundStation.Proofs.Link.Calls
import GroundStation.Proofs.Link.Conduct
import GroundStation.Proofs.Link.Desk
import GroundStation.Proofs.Link.Ownership
import GroundStation.Proofs.Link.Retransmission
import GroundStation.Proofs.Link.Schedule
import GroundStation.Proofs.Link.SetPoints
import GroundStation.Proofs.Link.Shell
import GroundStation.Proofs.Link.Standing
import GroundStation.Proofs.Link.Transmission
import GroundStation.Proofs.Link.Velocity
import GroundStation.Proofs.Mavlink.Datagram
import GroundStation.Proofs.Mavlink.Payload
import GroundStation.Proofs.Navigation.Acts
import GroundStation.Proofs.Navigation.Arrival
import GroundStation.Proofs.Navigation.Budgets
import GroundStation.Proofs.Navigation.Cancellation
import GroundStation.Proofs.Navigation.Display
import GroundStation.Proofs.Navigation.Exchange
import GroundStation.Proofs.Navigation.Flight
import GroundStation.Proofs.Navigation.Itinerary
import GroundStation.Proofs.Navigation.Legs
import GroundStation.Proofs.Navigation.Mission
import GroundStation.Proofs.Navigation.OneLeg
import GroundStation.Proofs.Navigation.Progress
import GroundStation.Proofs.Navigation.ShortMission
import GroundStation.Proofs.Navigation.TakeoffLanding
import GroundStation.Proofs.Navigation.Turns
import GroundStation.Proofs.Navigation.Waiting
import GroundStation.Proofs.Number.Rounding
import GroundStation.Proofs.Station.Conversation
import GroundStation.Proofs.Station.Stopping
import GroundStation.Proofs.Station.Supervision
import GroundStation.Proofs.Telemetry.Convergence
import GroundStation.Proofs.Telemetry.Delivery
import GroundStation.Proofs.Telemetry.Record
import GroundStation.Proofs.Telemetry.Reflection
import GroundStation.Proofs.Telemetry.Samples
import GroundStation.Proofs.Telemetry.Subscription
import GroundStation.Proofs.Time.Pacing
import GroundStation.Proofs.Time.Scaling
import GroundStation.Proofs.Time.Seconds
import GroundStation.Rehearsal.Basic
import GroundStation.Rehearsal.Script
import GroundStation.Station.Basic
import GroundStation.Station.Clockwork
import GroundStation.Station.Control
import GroundStation.Station.Error
import GroundStation.Station.Script
import GroundStation.Station.Supervisor
import GroundStation.Telemetry.Aggregator
import GroundStation.Telemetry.Channel
import GroundStation.Telemetry.Feed
import GroundStation.Telemetry.History
import GroundStation.Telemetry.Memory
import GroundStation.Telemetry.Record
import GroundStation.Telemetry.Sample
import GroundStation.Time.Backoff
import GroundStation.Time.Clock
import GroundStation.Time.Duration
