import GroundStation.Link.Acknowledgement
import GroundStation.Link.Error
import GroundStation.Mavlink.Orders
import GroundStation.Time.Backoff
import GroundStation.Time.Clock

/-!
# One acknowledged command

A command is sent again and again, after 250 and 500 milliseconds and then every
second, until it is acknowledged or its time is up. The last pause ends at the
deadline. What came in decides before what is due.
-/

namespace GroundStation

open Mavlink

/-- What a command tells the vehicle to do. -/
inductive Order where
  | command (id : CommandId) (params : Vector Float32 7)
  | reposition (latitude longitude : Float) (altitude speed : Float32)

namespace Order

/-- The command of an order. -/
def commandId : Order → CommandId
  | .command id _ => id
  | .reposition .. => CommandId.reposition

/-- The message of an order. The number of the repetition is sent along where the
message has room for it. -/
def message (target : SystemAddress) (confirmation : UInt8) : Order → Message
  | .command id params => commandLong target id confirmation params
  | .reposition latitude longitude altitude speed =>
    Mavlink.reposition target latitude longitude altitude speed

end Order

/-- A request that has been started: what it asks for, its ticket, its deadline, the
pauses it has left to make, how often it was repeated, when it is due again, and
what it was told. -/
structure CommandRequest where
  name : String
  order : Order
  target : SystemAddress
  ticket : Nat
  deadline : Instant
  pace : Backoff
  confirmation : UInt8
  wake : Instant
  verdict : Option Verdict

namespace CommandRequest

/-- The pauses between repetitions. -/
def freshPace : Backoff := .new (.ofMillis 250) (.ofSeconds 1) 2.0

/-- A request that has not been sent yet. -/
def start (name : String) (order : Order) (target : SystemAddress) (ticket : Nat)
    (now : Instant) (timeout : Duration) : CommandRequest where
  name := name
  order := order
  target := target
  ticket := ticket
  deadline := now + timeout.timerMillis
  pace := freshPace
  confirmation := 0
  wake := now
  verdict := none

/-- The message of a request. -/
def message (r : CommandRequest) : Message := r.order.message r.target r.confirmation

/-- The request after it was sent: it is due again after the next pause, or at its
deadline. -/
def sent (r : CommandRequest) (now : Instant) : CommandRequest :=
  let (pause, pace) := r.pace.next
  { r with pace := pace, wake := now + min pause.timerMillis (r.deadline - now) }

/-- The request before it is sent again. Repetitions are counted up to 255. -/
def again (r : CommandRequest) : CommandRequest :=
  { r with confirmation := if r.confirmation = 255 then 255 else r.confirmation + 1 }

/-- How a request ends that was told something. -/
def reply (r : CommandRequest) : Verdict → Reply
  | .superseded => .error (.io (r.name ++ " superseded by a newer request"))
  | .answered result =>
    if result = CommandResult.accepted then .ok () else .error (.rejected r.name result.val)

end CommandRequest

end GroundStation
