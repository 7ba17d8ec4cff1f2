import GroundStation.Proofs.Telemetry.Subscription

/-!
# What an aggregator reflects

An aggregator is told one update after the other. What it has in the end is the last value of
each kind, and its latest sample is the merge of what it has at that moment, whichever update
came last (`Aggregator.latest_applyAll`). So nothing that it has hangs on how updates of
different streams were mixed.

## Main results

* `Aggregator.latest_applyAll`: the latest sample is the merge of what an aggregator has.
* `Aggregator.reflects_applyAll`: what an aggregator has is the last value of each kind.
* `Aggregator.Reflects.congr`: only the last update of each stream matters.
-/

namespace GroundStation

/-! ## The last value of a kind -/

namespace Update

/-- The armed flag that an update brings. -/
def armed? : Update → Option Bool
  | .armed value => some value
  | _ => none

/-- The health that an update brings. -/
def health? : Update → Option Bool
  | .health value => some value
  | _ => none

/-- The landed state that an update brings. -/
def landed? : Update → Option LandedState
  | .landed value => some value
  | _ => none

end Update

/-- The last value of a kind among updates. -/
def lastOf {α : Type} (pick : Update → Option α) (us : List Update) : Option α :=
  (us.filterMap pick).getLast?

/-- The updates of one stream. -/
def onStream (s : Stream) (us : List Update) : List Update := us.filter fun u => u.stream = s

/-- A kind of value that all updates of one stream have, and no others. -/
structure Stream.Brings {α : Type} (s : Stream) (pick : Update → Option α) : Prop where
  own : ∀ u : Update, u.stream = s → (pick u).isSome
  other : ∀ u : Update, u.stream ≠ s → pick u = none

section Last

variable {α : Type} {pick : Update → Option α} {us vs : List Update} {s : Stream}

theorem onStream_append (s : Stream) (us vs : List Update) :
    onStream s (us ++ vs) = onStream s us ++ onStream s vs := List.filter_append ..

theorem onStream_concat_self (us : List Update) (u : Update) :
    onStream u.stream (us ++ [u]) = onStream u.stream us ++ [u] := by
  simp [onStream]

theorem onStream_concat_of_ne {u : Update} (h : u.stream ≠ s) (us : List Update) :
    onStream s (us ++ [u]) = onStream s us := by
  simp [onStream, h]

theorem lastOf_concat (pick : Update → Option α) (us : List Update) (u : Update) :
    lastOf pick (us ++ [u]) = (pick u).or (lastOf pick us) := by
  unfold lastOf
  rw [List.filterMap_append, List.getLast?_append]
  cases h : pick u <;> simp [h]

/-- The last value of a kind is that of the last update of its stream. -/
theorem Stream.Brings.lastOf_eq (h : s.Brings pick) (us : List Update) :
    lastOf pick us = (onStream s us).getLast?.bind pick := by
  induction us using List.reverseRecOn with
  | nil => rfl
  | append_singleton us u ih =>
      rw [lastOf_concat]
      by_cases hu : u.stream = s
      · subst hu
        obtain ⟨value, hvalue⟩ := Option.isSome_iff_exists.mp (h.own u rfl)
        rw [onStream_concat_self, List.getLast?_concat, hvalue]
        exact hvalue.symm
      · rw [onStream_concat_of_ne hu, h.other u hu, Option.none_or, ih]

theorem isSome_getLast?_onStream :
    (onStream s us).getLast?.isSome ↔ ∃ u ∈ us, u.stream = s := by
  rw [Option.isSome_iff_ne_none, Ne, List.getLast?_eq_none_iff, onStream]
  simp

theorem Stream.Brings.isSome_lastOf (h : s.Brings pick) (us : List Update) :
    (lastOf pick us).isSome ↔ ∃ u ∈ us, u.stream = s := by
  rw [lastOf, Option.isSome_iff_ne_none, Ne, List.getLast?_eq_none_iff, List.filterMap_eq_nil_iff]
  constructor
  · intro hsome
    refine Classical.byContradiction fun hnone => hsome fun u hu => h.other u fun hs => ?_
    exact hnone ⟨u, hu, hs⟩
  · rintro ⟨u, hu, hs⟩ hnone
    have hown := h.own u hs
    rw [hnone u hu] at hown
    cases hown

theorem brings_position : Stream.position.Brings Update.position? := by
  constructor <;> intro u <;> cases u <;> simp [Update.stream, Update.position?]

theorem brings_velocity : Stream.velocity.Brings Update.velocity? := by
  constructor <;> intro u <;> cases u <;> simp [Update.stream, Update.velocity?]

theorem brings_imu : Stream.imu.Brings Update.imu? := by
  constructor <;> intro u <;> cases u <;> simp [Update.stream, Update.imu?]

theorem brings_attitude : Stream.attitude.Brings Update.attitude? := by
  constructor <;> intro u <;> cases u <;> simp [Update.stream, Update.attitude?]

theorem brings_armed : Stream.armed.Brings Update.armed? := by
  constructor <;> intro u <;> cases u <;> simp [Update.stream, Update.armed?]

theorem brings_health : Stream.health.Brings Update.health? := by
  constructor <;> intro u <;> cases u <;> simp [Update.stream, Update.health?]

theorem brings_landed : Stream.landed.Brings Update.landed? := by
  constructor <;> intro u <;> cases u <;> simp [Update.stream, Update.landed?]

end Last

/-! ## What an aggregator has -/

/-- A sample without its time. -/
def Sample.undated (s : Sample) : Sample := { s with timestamp := 0 }

namespace Aggregator

/-- **An aggregator reflects updates**: of each stream it has the last value, and its latest
sample is made of the values that it has. -/
structure Reflects (a : Aggregator) (us : List Update) : Prop where
  position : a.position = lastOf Update.position? us
  velocity : a.velocity = lastOf Update.velocity? us
  imu : a.imu = lastOf Update.imu? us
  attitude : a.attitude = lastOf Update.attitude? us
  armed : a.status.armed = (lastOf Update.armed? us).getD false
  healthy : a.status.healthy = (lastOf Update.health? us).getD false
  landed : a.status.landed = (lastOf Update.landed? us).getD .unknown
  /-- There is a sample once position, velocity and inertial reading have all been seen. -/
  isSome_latest : a.latest.isSome ↔
    ∀ s ∈ [Stream.position, .velocity, .imu], ∃ u ∈ us, u.stream = s
  /-- The sample has the values that the aggregator has. -/
  latest : ∀ s ∈ a.latest, a.position = some s.position ∧ a.velocity = some s.velocity ∧
    a.imu = some s.imu ∧ a.attitude = s.attitude

variable {a : Aggregator} {us vs : List Update}

/-- What is merged does not hang on the time. -/
theorem undated_merged (a : Aggregator) (timestamp : Nat) :
    (a.merged timestamp).map Sample.undated = a.merged 0 := by
  unfold merged
  cases a.position <;> cases a.velocity <;> cases a.imu <;> rfl

theorem isSome_merged (a : Aggregator) (timestamp : Nat) : (a.merged timestamp).isSome ↔
    a.position.isSome ∧ a.velocity.isSome ∧ a.imu.isSome := by
  unfold merged
  cases a.position <;> cases a.velocity <;> cases a.imu <;> simp

/-- What is merged is what the aggregator has. -/
theorem of_merged {timestamp : Nat} {s : Sample} (h : a.merged timestamp = some s) :
    a.position = some s.position ∧ a.velocity = some s.velocity ∧ a.imu = some s.imu ∧
      a.attitude = s.attitude := by
  unfold merged at h
  split at h
  · rename_i hposition hvelocity himu
    obtain rfl := Option.some.inj h
    exact ⟨hposition, hvelocity, himu, rfl⟩
  · cases h

/-- An update takes nothing away. -/
theorem merged_of_taken {u : Update} (h : (a.taken u).merged 0 = none) : a.merged 0 = none := by
  unfold merged taken at *
  cases hposition : a.position with
  | none => rfl
  | some position =>
      cases hvelocity : a.velocity with
      | none => rfl
      | some velocity =>
          cases himu : a.imu with
          | none => rfl
          | some imu => cases u <;> simp [hposition, hvelocity, himu, Update.position?,
              Update.velocity?, Update.imu?] at h

/-- What is emitted is what is merged at that moment. -/
theorem latest_refresh (h : a.merged 0 = none → a.latest = none) (timestamp : Nat) :
    (a.refresh timestamp).latest.map Sample.undated = (a.refresh timestamp).merged 0 := by
  have hundated := a.undated_merged timestamp
  unfold refresh
  cases hmerged : a.merged timestamp with
  | some sample =>
      rw [hmerged] at hundated
      exact hundated
  | none =>
      rw [hmerged] at hundated
      have hnone : a.merged 0 = none := hundated.symm
      change a.latest.map Sample.undated = a.merged 0
      rw [h hnone, hnone]
      rfl

theorem latest_apply (h : a.latest.map Sample.undated = a.merged 0) (u : Update)
    (timestamp : Nat) :
    (a.apply u timestamp).latest.map Sample.undated = (a.apply u timestamp).merged 0 := by
  cases hu : u.isSampled with
  | true =>
      rw [apply_of_isSampled hu]
      refine latest_refresh (fun hnone => ?_) timestamp
      rw [merged_of_taken hnone] at h
      exact Option.map_eq_none_iff.mp h
  | false => cases u <;> first | exact h | cases hu

/-- **The latest sample is the merge of what an aggregator has**, once it is complete. -/
theorem latest_applyAll (room : Nat) (us : UpdateHistory) :
    ((new room).applyAll us).latest.map Sample.undated = ((new room).applyAll us).merged 0 := by
  induction us using List.reverseRecOn with
  | nil => rfl
  | append_singleton us u ih =>
      rw [applyAll_append]
      exact latest_apply ih u.1 u.2

theorem refresh_status (a : Aggregator) (timestamp : Nat) :
    (a.refresh timestamp).status = a.status := by
  unfold refresh
  cases a.merged timestamp <;> rfl

theorem apply_status (a : Aggregator) (u : Update) (timestamp : Nat) :
    (a.apply u timestamp).status = ⟨u.armed?.getD a.status.armed, u.health?.getD a.status.healthy,
      u.landed?.getD a.status.landed⟩ := by
  cases u <;> first | rfl | exact refresh_status _ _

/-- The status is what the last status updates say. -/
theorem status_applyAll (room : Nat) (us : UpdateHistory) :
    ((new room).applyAll us).status =
      ⟨(lastOf Update.armed? (us.map Prod.fst)).getD false,
        (lastOf Update.health? (us.map Prod.fst)).getD false,
        (lastOf Update.landed? (us.map Prod.fst)).getD .unknown⟩ := by
  induction us using List.reverseRecOn with
  | nil => rfl
  | append_singleton us u ih =>
      rw [applyAll_append, List.map_append, List.map_singleton, lastOf_concat, lastOf_concat,
        lastOf_concat, Option.getD_or, Option.getD_or, Option.getD_or]
      change (((new room).applyAll us).apply u.1 u.2).status = _
      rw [apply_status, ih]

/-- The latest value of a history is the last one of its updates. -/
theorem latestOf_eq_lastOf {α : Type} (pick : Update → Option α) (us : UpdateHistory) :
    latestOf pick us = lastOf pick (us.map Prod.fst) := by
  rw [latestOf, lastOf, List.filterMap_map]
  rfl

/-- **An aggregator reflects what it was told.** -/
theorem reflects_applyAll (room : Nat) (us : UpdateHistory) :
    ((new room).applyAll us).Reflects (us.map Prod.fst) := by
  have hholds := (follows_applyAll room us).holds
  have hlatest := latest_applyAll room us
  have hstatus := status_applyAll room us
  have hposition := hholds.position.trans (latestOf_eq_lastOf _ us)
  have hvelocity := hholds.velocity.trans (latestOf_eq_lastOf _ us)
  have himu := hholds.imu.trans (latestOf_eq_lastOf _ us)
  refine ⟨hposition, hvelocity, himu, hholds.attitude.trans (latestOf_eq_lastOf _ us), ?_, ?_, ?_,
    ?isSome, ?latest⟩
  · rw [hstatus]
  · rw [hstatus]
  · rw [hstatus]
  case isSome =>
    rw [← Option.isSome_map (f := Sample.undated), hlatest, isSome_merged, hposition, hvelocity,
      himu, brings_position.isSome_lastOf, brings_velocity.isSome_lastOf, brings_imu.isSome_lastOf]
    simp
  case latest =>
    intro s hs
    rw [Option.mem_def.mp hs] at hlatest
    have hmerged : ((new room).applyAll us).merged 0 = some s.undated := hlatest.symm
    have hhas := of_merged hmerged
    exact hhas

/-- What an aggregator reflects is a matter of the last update of each stream. -/
theorem Reflects.congr (h : a.Reflects us)
    (hlast : ∀ s, (onStream s us).getLast? = (onStream s vs).getLast?) : a.Reflects vs := by
  have hof : ∀ {α : Type} {s : Stream} {pick : Update → Option α}, s.Brings pick →
      lastOf pick us = lastOf pick vs := by
    intro α s pick hbrings
    rw [hbrings.lastOf_eq, hbrings.lastOf_eq, hlast]
  have hseen : ∀ s, (∃ u ∈ us, u.stream = s) ↔ ∃ u ∈ vs, u.stream = s := by
    intro s
    rw [← isSome_getLast?_onStream, hlast, isSome_getLast?_onStream]
  refine ⟨h.position.trans (hof brings_position), h.velocity.trans (hof brings_velocity),
    h.imu.trans (hof brings_imu), h.attitude.trans (hof brings_attitude), ?_, ?_, ?_, ?_, h.latest⟩
  · rw [h.armed, hof brings_armed]
  · rw [h.healthy, hof brings_health]
  · rw [h.landed, hof brings_landed]
  · rw [h.isSome_latest]
    simp only [hseen]

/-- Aggregators that reflect the same updates have the same, but for the time of the sample. -/
theorem Reflects.unique {b : Aggregator} (h : a.Reflects us) (h' : b.Reflects us) :
    a.status = b.status ∧ a.latest.map Sample.undated = b.latest.map Sample.undated := by
  refine ⟨?status, ?latest⟩
  case status =>
    calc a.status = ⟨a.status.armed, a.status.healthy, a.status.landed⟩ := rfl
      _ = ⟨b.status.armed, b.status.healthy, b.status.landed⟩ := by
        rw [h.armed, h.healthy, h.landed, h'.armed, h'.healthy, h'.landed]
      _ = b.status := rfl
  case latest =>
    have hsome : a.latest.isSome ↔ b.latest.isSome := h.isSome_latest.trans h'.isSome_latest.symm
    cases ha : a.latest with
    | none => cases hb : b.latest with
      | none => rfl
      | some s => simp [ha, hb] at hsome
    | some s => cases hb : b.latest with
      | none => simp [ha, hb] at hsome
      | some s' =>
          obtain ⟨hposition, hvelocity, himu, hattitude⟩ := h.latest s ha
          obtain ⟨hposition', hvelocity', himu', hattitude'⟩ := h'.latest s' hb
          rw [h.position, ← h'.position, hposition', Option.some.injEq] at hposition
          rw [h.velocity, ← h'.velocity, hvelocity', Option.some.injEq] at hvelocity
          rw [h.imu, ← h'.imu, himu', Option.some.injEq] at himu
          rw [h.attitude, ← h'.attitude, hattitude'] at hattitude
          simp only [Option.map_some, Sample.undated, hposition, hvelocity, himu, hattitude]

end Aggregator

end GroundStation
