import GroundStation.Proofs.Link.Answers
import GroundStation.Proofs.Link.Calls

/-!
# Whose set-point is in the slot

A call that has a velocity followed puts it into the slot when it begins and marks it as
engaged when it ends well. In between the slot is open to everybody, and a call that ends does
not look whose set-point it finds there. A call that began while the vehicle did not follow
set-points and fails empties the slot, although a later call may have filled it meanwhile.

This module says exactly when that happens to a call that ends well and that nobody took the
slot from: if an earlier call of that kind fails between its beginning and its end
(`VehicleLink.failsIn`). The failure of the earlier call need not be the vehicle's doing. Both
calls ask for the same mode, so the later one supersedes the earlier one.

## Main results

* `VehicleLink.slot_step`: what one event does to the velocity in the slot, if no call takes
  the slot.
* `VehicleLink.slot_run`: what a run does to it.
* `VehicleLink.velocity_followed_iff`: when a velocity is followed whose call has ended well.
-/

namespace GroundStation

open Mavlink

/-- Does a call fill or empty the velocity slot when it begins? -/
def LinkCall.takesSlot : LinkCall → Bool
  | .disarm | .takeoff | .land | .goto .. | .velocity _ => true
  | .arm | .setTakeoffAltitude _ | .shell _ => false

theorem LinkCall.slotAfter_of_not_takesSlot {call : LinkCall} (h : call.takesSlot = false)
    (l : VehicleLink) : call.slotAfter l = l.slot := by
  cases call <;> first | rfl | simp [takesSlot] at h

namespace VehicleLink

/-- Does an event make a call that takes the slot? -/
def takesSlot (l : VehicleLink) : Event → Bool
  | .call id call => !l.isOpen id && call.takesSlot
  | _ => false

/-- **A call is left alone** in a run: it stays open, and no call is made that takes the
slot. -/
def LeftAlone (l : VehicleLink) (id : Nat) : List (Instant × Event) → Prop
  | [] => l.isOpen id = true
  | (now, e) :: rest =>
    l.isOpen id = true ∧ l.takesSlot e = false ∧ (l.step now e).1.LeftAlone id rest

instance decidableLeftAlone (id : Nat) :
    (es : List (Instant × Event)) → (l : VehicleLink) → Decidable (l.LeftAlone id es)
  | [], l => inferInstanceAs (Decidable (l.isOpen id = true))
  | (now, e) :: rest, l =>
    have : Decidable ((l.step now e).1.LeftAlone id rest) := decidableLeftAlone id rest _
    inferInstanceAs (Decidable (l.isOpen id = true ∧ l.takesSlot e = false ∧
      (l.step now e).1.LeftAlone id rest))

/-- Does a call for a velocity fail at an event that was begun while the vehicle did not follow
set-points? -/
def fails (l : VehicleLink) (now : Instant) (e : Event) : Bool :=
  (callEnds (l.step now e).2).any fun x =>
    !x.2.isOk && l.roll.any fun c => c.id = x.1 && c.aim = .velocity false

/-- Does such a call fail in a run? -/
def failsIn (l : VehicleLink) : List (Instant × Event) → Bool
  | [] => false
  | (now, e) :: rest => l.fails now e || (l.step now e).1.failsIn rest

/-- A velocity is followed, and its set-point is sent again and again. -/
structure Follows (l : VehicleLink) (v : BodyVelocity) : Prop where
  slot : l.slot = some ⟨v, true⟩
  offboard : l.isOffboard = true
  stream : ∃ target, l.vehicle = some target ∧
    l.refreshSetPoint = l.announce (velocitySetPoint target v)

/-- No velocity is followed, and no set-point is sent. -/
structure Idles (l : VehicleLink) : Prop where
  slot : l.slot = none
  offboard : l.isOffboard = false
  stream : l.refreshSetPoint = (l, [])

variable {l next last : VehicleLink} {c : OpenCall} {id : Nat} {now : Instant} {e : Event}
  {es : List (Instant × Event)} {v : BodyVelocity}

theorem follows_of_slot {target : SystemAddress} (hslot : l.slot = some ⟨v, true⟩)
    (htarget : l.vehicle = some target) : l.Follows v where
  slot := hslot
  offboard := by rw [isOffboard, hslot]; rfl
  stream := ⟨target, htarget, by rw [refreshSetPoint, hslot, htarget]⟩

theorem idles_of_slot (hslot : l.slot = none) : l.Idles where
  slot := hslot
  offboard := by rw [isOffboard, hslot]; rfl
  stream := by rw [refreshSetPoint, hslot]

/-! ## The velocity in the slot -/

/-- The velocity in the slot, agreed to or not. -/
def velocity? (l : VehicleLink) : Option BodyVelocity := l.slot.map (·.velocity)

/-- What the end of a call does to the velocity in the slot. -/
theorem settle_velocity (slot : Option VelocitySlot) (reply : Reply) (aim : CallAim) :
    (aim.settle slot reply).map (·.velocity) =
      if !reply.isOk && aim = .velocity false then none else slot.map (·.velocity) := by
  cases aim with
  | other => simp [CallAim.settle]
  | velocity engaged => cases reply <;> cases engaged <;> cases slot <;> rfl

/-- **What one event does to the velocity in the slot**, if no call takes the slot. -/
theorem slot_step (ho : l.Orderly) (htakes : l.takesSlot e = false) :
    (l.step now e).1.velocity? = if l.fails now e then none else l.velocity? := by
  have hkept : ∀ {call : LinkCall} {k : Nat}, e = .call k call → l.isOpen k = false →
      call.slotAfter l = l.slot := by
    rintro call k rfl hk
    rw [takesSlot, hk] at htakes
    exact LinkCall.slotAfter_of_not_takesSlot htakes l
  unfold fails velocity?
  cases l.step_handling now e with
  | rests h hends => simp [h.slot, hends]
  | answers k call reply he hk hroll hslot hends =>
      have hnot : (l.roll.any fun c => c.id = k && c.aim = .velocity false) = false := by
        rw [List.any_eq_false]
        intro c hc heq
        have hid : c.id = k := by simp_all
        have hopen := isOpen_iff.mpr ⟨c, hc, hid⟩
        rw [hk] at hopen
        cases hopen
      rw [hends, hslot, hkept he hk]
      simp [hnot]
  | opens k call stage he hk hroll hslot hends => simp [hslot, hkept he hk, hends]
  | moves c stage hc he hroll hslot hends => simp [hslot, hends]
  | ends c reply hc he hroll hslot hends =>
      have haim : (l.roll.any fun o => o.id = c.id && o.aim = .velocity false) =
          decide (c.aim = .velocity false) := by
        rw [Bool.eq_iff_iff, List.any_eq_true, decide_eq_true_eq]
        constructor
        · rintro ⟨o, hmem, heq⟩
          rw [Bool.and_eq_true, decide_eq_true_eq, decide_eq_true_eq] at heq
          rw [← ho.roll_unique hc hmem heq.1]
          exact heq.2
        · intro heq
          exact ⟨c, hc, by simp [heq]⟩
      rw [hends, hslot, settle_velocity]
      simp [haim]
  | drops c hc he hroll hslot hends => simp [hslot, hends]

/-- **What a run does to the velocity in the slot** in which a call is left alone. -/
theorem slot_run (ho : l.Orderly) (halone : l.LeftAlone id es) :
    (l.run es).1.velocity? = if l.failsIn es then none else l.velocity? := by
  induction es generalizing l with
  | nil => rfl
  | cons first rest ih =>
      obtain ⟨now, e⟩ := first
      obtain ⟨-, htakes, halone⟩ := halone
      have hrest := ih (ho.step now e) halone
      rw [slot_step ho htakes] at hrest
      rw [failsIn]
      change ((l.step now e).1.run rest).1.velocity? = _
      rw [hrest]
      cases l.fails now e <;> simp

/-- A call that is left alone keeps what it is for. -/
theorem aim_run (halone : l.LeftAlone id es) {aim : CallAim}
    (hc : ∃ c ∈ l.roll, c.id = id ∧ c.aim = aim) :
    ∃ c ∈ (l.run es).1.roll, c.id = id ∧ c.aim = aim := by
  induction es generalizing l with
  | nil => exact hc
  | cons first rest ih =>
      obtain ⟨now, e⟩ := first
      obtain ⟨-, -, halone⟩ := halone
      refine ih halone ?_
      obtain ⟨c, hc, rfl, rfl⟩ := hc
      have hopen : (l.step now e).1.isOpen c.id = true := by
        cases rest with
        | nil => exact halone
        | cons _ _ => exact halone.1
      exact (l.step_handling now e).aim hc hopen

/-! ## A call and its end -/

/-- A call for a velocity that is open has filled the slot. -/
theorem velocity_begun (hid : l.isOpen id = false)
    (hopen : (l.step now (.call id (.velocity v))).1.isOpen id = true) :
    (∃ target, l.vehicle = some target) ∧
      (l.step now (.call id (.velocity v))).1.slot = some ⟨v, l.isOffboard⟩ ∧
      ∃ c ∈ (l.step now (.call id (.velocity v))).1.roll,
        c.id = id ∧ c.aim = .velocity l.isOffboard := by
  cases hvehicle : l.vehicle with
  | none =>
      have hstep : (l.step now (.call id (.velocity v))).1 = l := by
        rw [step_call_of_fresh hid]
        simp [beginFresh, beginVelocity, hvehicle, refuse]
      rw [hstep, hid] at hopen
      cases hopen
  | some target =>
      have hstep : (l.step now (.call id (.velocity v))).1 =
          { l with slot := some ⟨v, l.isOffboard⟩ }.opened
            ⟨id, .velocity l.isOffboard, .setPointDue target v⟩ := by
        rw [step_call_of_fresh hid]
        simp [beginFresh, beginVelocity, hvehicle]
      rw [hstep, roll_opened]
      exact ⟨⟨target, rfl⟩, rfl, _, List.mem_append_right _ (List.mem_singleton_self _), rfl, rfl⟩

/-- The good end of a call for a velocity marks the slot, if it is not empty. -/
theorem slot_of_ended (ho : l.Orderly) {engaged : Bool}
    (hc : ∃ c ∈ l.roll, c.id = id ∧ c.aim = .velocity engaged)
    (hends : .ends id (.ok ()) ∈ (l.step now e).2) :
    (l.step now e).1.slot = l.velocity?.map fun v => ⟨v, true⟩ := by
  obtain ⟨c, hc, rfl, haim⟩ := hc
  have hmem := mem_callEnds.mpr hends
  cases l.step_handling now e with
  | rests h hends => simp [hends] at hmem
  | answers k call reply he hk hroll hslot hends =>
      rw [hends, List.mem_singleton, Prod.mk.injEq] at hmem
      have hopen := isOpen_iff.mpr ⟨c, hc, hmem.1⟩
      rw [hk] at hopen
      cases hopen
  | opens k call stage he hk hroll hslot hends => simp [hends] at hmem
  | moves o stage ho' he hroll hslot hends => simp [hends] at hmem
  | ends o reply ho' he hroll hslot hends =>
      rw [hends, List.mem_singleton, Prod.mk.injEq] at hmem
      rw [ho.roll_unique hc ho' hmem.1.symm, haim, ← hmem.2] at hslot
      rw [hslot, velocity?, Option.map_map]
      rfl
  | drops o ho' he hroll hslot hends => simp [hends] at hmem

/-- **When a velocity is followed whose call has ended well.** A call for a velocity is made,
and is left alone until it ends well. Then the velocity is followed if and only if no call that
was begun while the vehicle did not follow set-points has failed in between; otherwise none
is. -/
theorem velocity_followed_iff {later : List (Instant × Event)} {now' : Instant}
    (hl : l.Reached) (hid : l.isOpen id = false)
    (hnext : next = (l.step now (.call id (.velocity v))).1) (halone : next.LeftAlone id later)
    (hlast : last = (next.run later).1) (hends : .ends id (.ok ()) ∈ (last.step now' e).2) :
    ((last.step now' e).1.Follows v ↔ next.failsIn later = false) ∧
      (next.failsIn later = true → (last.step now' e).1.Idles) := by
  subst hnext hlast
  have ho : (l.step now (.call id (.velocity v))).1.Orderly := hl.orderly.step _ _
  have hopen : (l.step now (.call id (.velocity v))).1.isOpen id = true := by
    cases later with
    | nil => exact halone
    | cons _ _ => exact halone.1
  obtain ⟨⟨target, htarget⟩, hslot, hcall⟩ := velocity_begun hid hopen
  have hended := slot_of_ended (ho.run later) (aim_run halone hcall) hends
  rw [slot_run ho halone, velocity?, hslot] at hended
  have hvehicle : (((l.step now (.call id (.velocity v))).1.run later).1.step now' e).1.vehicle =
      some target := step_vehicle (run_vehicle (step_vehicle htarget now _) later) now' e
  cases hfails : (l.step now (.call id (.velocity v))).1.failsIn later with
  | false =>
      rw [hfails] at hended
      exact ⟨iff_of_true (follows_of_slot hended hvehicle) rfl, nofun⟩
  | true =>
      rw [hfails] at hended
      refine ⟨iff_of_false (fun hfollows => ?_) nofun, fun _ => idles_of_slot hended⟩
      have hslot' := hfollows.slot
      rw [hended] at hslot'
      cases hslot'

/-- Forwards at two metres a second. -/
def forwards : BodyVelocity := ⟨2.0, 0.0, 0.0, 0.0⟩

/-- To the right at one metre a second. -/
def rightwards : BodyVelocity := ⟨0.0, 1.0, 0.0, 0.0⟩

/-- The copter agrees to follow set-points. -/
def modeAgreed : Event := .message ⟨⟨1, 1⟩, 0⟩ (.commandAck ⟨.setMode, CommandResult.accepted⟩)

/-- To fly forwards is asked for, and the copter has been asked to follow set-points. -/
def forwardsBegun : List (Instant × Event) :=
  [(0, contact), (0, .call 0 (.velocity forwards)), (0, .move 0), (0, .move 0)]

/-- To fly to the right is asked for as well, and the copter agrees to both requests. -/
def rightwardsAgreed : List (Instant × Event) :=
  [(100, .move 1), (100, .move 1), (150, modeAgreed), (160, modeAgreed)]

/-- The same, and the call to fly forwards learns that it was superseded. -/
def forwardsSuperseded : List (Instant × Event) :=
  [(100, .move 1), (100, .move 0), (100, .move 1), (150, modeAgreed), (160, modeAgreed)]

/-- The link when the call to fly forwards has been given up, and the one to fly to the right
is made. -/
def rightwardsBegun : VehicleLink :=
  ((beforeContact.run (forwardsBegun ++ [(50, .abandon 0)])).1.step 100
    (.call 1 (.velocity rightwards))).1

/-- The copter flies to the right, because the call to fly forwards has not failed. -/
theorem velocity_followed_rightwards :
    ((rightwardsBegun.run rightwardsAgreed).1.step 160 (.move 1)).1.Follows rightwards := by
  have hreached : (beforeContact.run (forwardsBegun ++ [(50, .abandon 0)])).1.Reached :=
    (Reached.new _ _ _).run _
  have halone : rightwardsBegun.LeftAlone 1 rightwardsAgreed := by decide +kernel
  have hended : (1, .ok ()) ∈
      callEnds ((rightwardsBegun.run rightwardsAgreed).1.step 160 (.move 1)).2 := by decide +kernel
  obtain ⟨hfollowed, -⟩ :=
    velocity_followed_iff hreached rfl rfl halone rfl (mem_callEnds.mp hended)
  exact hfollowed.mpr (by decide +kernel)

/-- The call to fly to the right ends well, and the copter follows nothing, if the call to fly
forwards ends in between. -/
theorem velocity_not_followed :
    ¬ ∀ before later now now' id v,
      (beforeContact.run before).1.isOpen id = false →
      ((beforeContact.run before).1.step now (.call id (.velocity v))).1.LeftAlone id later →
      .ends id (.ok ()) ∈ ((((beforeContact.run before).1.step now
        (.call id (.velocity v))).1.run later).1.step now' (.move id)).2 →
      ((((beforeContact.run before).1.step now
        (.call id (.velocity v))).1.run later).1.step now' (.move id)).1.slot = some ⟨v, true⟩ := by
  intro hclaim
  have hslot := hclaim forwardsBegun forwardsSuperseded 100 160 1 rightwards rfl
    (by decide +kernel) (mem_callEnds.mp (by decide +kernel))
  revert hslot
  decide +kernel

end VehicleLink

end GroundStation
