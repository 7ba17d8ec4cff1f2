import GroundStation.Telemetry.Aggregator
import Mathlib.Data.List.DropRight
import Mathlib.Data.List.Induction
import Mathlib.Data.List.Infix

/-!
# Samples as a function of the updates

An aggregator keeps four values, a sample, ten intervals and a number. This module says what
they are in terms of everything the aggregator was ever told, whatever the order of the
updates and whatever their timestamps.

The samples of a history of updates are read off its beginnings: each beginning emits at
most one sample, at its last update (`emitted?`), and `emissions` lists them. All that an
aggregator shows is a function of that list (`Aggregator.Follows`).

## Main results

* `isSome_emitted?`, `merges_of_emitted?`: which update emits, and what.
* `Aggregator.Follows.apply`: one update keeps the aggregator in step with the history.
* `Aggregator.samples_follow_updates`: what an aggregator shows after any history.
-/

namespace GroundStation

/-! ## Histories of updates -/

namespace Update

/-- The position that an update brings. -/
def position? : Update → Option Position
  | .position value => some value
  | _ => none

/-- The velocity that an update brings. -/
def velocity? : Update → Option Velocity
  | .velocity value => some value
  | _ => none

/-- The inertial reading that an update brings. -/
def imu? : Update → Option Imu
  | .imu value => some value
  | _ => none

/-- The attitude that an update brings. -/
def attitude? : Update → Option Attitude
  | .attitude value => some value
  | _ => none

/-- Is an update of one of the streams that samples are made of? -/
def isSampled (u : Update) : Bool :=
  u.stream ∈ [Stream.position, .velocity, .imu, .attitude]

end Update

/-- Updates with their times, oldest first. -/
abbrev UpdateHistory := List (Update × Nat)

/-- The latest value of a kind in a history. -/
def latestOf {α : Type} (pick : Update → Option α) (us : UpdateHistory) : Option α :=
  (us.filterMap fun u => pick u.1).getLast?

/-- Position, velocity and inertial reading have each been seen. -/
def IsComplete (us : UpdateHistory) : Prop :=
  ∀ s ∈ [Stream.position, .velocity, .imu], ∃ u ∈ us, u.1.stream = s

/-- **A sample merges a history**: it has the latest value of each stream, and no attitude
before the first one. -/
structure Merges (us : UpdateHistory) (timestamp : Nat) (s : Sample) : Prop where
  timestamp : s.timestamp = timestamp
  position : latestOf Update.position? us = some s.position
  velocity : latestOf Update.velocity? us = some s.velocity
  imu : latestOf Update.imu? us = some s.imu
  attitude : latestOf Update.attitude? us = s.attitude

/-- The sample that the last update of a history emits. -/
def emitted? (us : UpdateHistory) : Option Sample :=
  match us.getLast?, latestOf Update.position? us, latestOf Update.velocity? us,
    latestOf Update.imu? us with
  | some (u, timestamp), some position, some velocity, some imu =>
    if u.isSampled then
      some ⟨timestamp, position, velocity, imu, latestOf Update.attitude? us⟩
    else none
  | _, _, _, _ => none

/-- The samples that a history emits, oldest first. -/
def emissions (us : UpdateHistory) : List Sample := us.inits.filterMap emitted?

/-- The seconds between samples that follow each other, zero where time went backwards. -/
def spacings : List Sample → List Float
  | first :: second :: rest =>
    doubleOfInt (second.timestamp - first.timestamp : Nat) / 1000.0 :: spacings (second :: rest)
  | _ => []

variable {us : UpdateHistory} {u : Update} {timestamp : Nat} {s : Sample} {α : Type}

theorem latestOf_concat (pick : Update → Option α) (us : UpdateHistory) (u : Update)
    (timestamp : Nat) :
    latestOf pick (us ++ [(u, timestamp)]) = (pick u).or (latestOf pick us) := by
  unfold latestOf
  rw [List.filterMap_append, List.getLast?_append]
  cases h : pick u <;> simp [h]

theorem isSome_latestOf {pick : Update → Option α} :
    (latestOf pick us).isSome ↔ ∃ u ∈ us, (pick u.1).isSome := by
  unfold latestOf
  rw [Option.isSome_iff_ne_none, Ne, List.getLast?_eq_none_iff, List.filterMap_eq_nil_iff]
  simp [Option.ne_none_iff_isSome]

/-- A stream has been seen as soon as there is a latest value of it. -/
theorem isComplete_iff : IsComplete us ↔ (latestOf Update.position? us).isSome ∧
    (latestOf Update.velocity? us).isSome ∧ (latestOf Update.imu? us).isSome := by
  have hposition : ∀ u : Update, u.position?.isSome ↔ u.stream = .position := by
    intro u; cases u <;> simp [Update.position?, Update.stream]
  have hvelocity : ∀ u : Update, u.velocity?.isSome ↔ u.stream = .velocity := by
    intro u; cases u <;> simp [Update.velocity?, Update.stream]
  have himu : ∀ u : Update, u.imu?.isSome ↔ u.stream = .imu := by
    intro u; cases u <;> simp [Update.imu?, Update.stream]
  simp [IsComplete, isSome_latestOf, hposition, hvelocity, himu]

/-! ## One more update -/

/-- Only an update of a sampled stream emits, and only once the others have been seen. -/
theorem isSome_emitted?_concat : (emitted? (us ++ [(u, timestamp)])).isSome ↔
    u.isSampled = true ∧ IsComplete (us ++ [(u, timestamp)]) := by
  rw [isComplete_iff]
  unfold emitted?
  rw [List.getLast?_concat]
  cases latestOf Update.position? (us ++ [(u, timestamp)]) <;>
    cases latestOf Update.velocity? (us ++ [(u, timestamp)]) <;>
    cases latestOf Update.imu? (us ++ [(u, timestamp)]) <;>
    cases h : u.isSampled <;> simp [h]

/-- What is emitted merges the history. -/
theorem merges_of_emitted? (h : emitted? (us ++ [(u, timestamp)]) = some s) :
    Merges (us ++ [(u, timestamp)]) timestamp s := by
  unfold emitted? at h
  rw [List.getLast?_concat] at h
  split at h
  · rename_i heq hposition hvelocity himu
    obtain ⟨rfl, rfl⟩ : u = _ ∧ timestamp = _ := by simpa using heq
    split at h
    · obtain rfl := Option.some.inj h
      exact ⟨rfl, hposition, hvelocity, himu, rfl⟩
    · cases h
  · cases h

theorem emissions_concat (us : UpdateHistory) (u : Update × Nat) :
    emissions (us ++ [u]) = emissions us ++ (emitted? (us ++ [u])).toList := by
  unfold emissions
  rw [List.inits_append, List.filterMap_append]
  cases h : emitted? (us ++ [u]) <;> simp [h]

theorem spacings_concat (ss : List Sample) (first second : Sample) :
    spacings (ss ++ [first, second]) = spacings (ss ++ [first]) ++
      [doubleOfInt (second.timestamp - first.timestamp : Nat) / 1000.0] := by
  induction ss with
  | nil => rfl
  | cons s rest ih =>
      cases rest with
      | nil => rfl
      | cons t rest => exact congrArg (_ :: ·) ih

theorem length_spacings (ss : List Sample) : (spacings ss).length = ss.length - 1 := by
  induction ss with
  | nil => rfl
  | cons s rest ih =>
      cases rest with
      | nil => rfl
      | cons t rest =>
          rw [spacings, List.length_cons, ih]
          rfl

/-! ## The aggregator -/

/-- A full history forgets its oldest interval, so it has the last ones pushed. -/
theorem SamplingHistory.intervals_push {h : SamplingHistory} {n : Nat} {xs : List Float}
    (hcapacity : h.capacity = n + 1) (hkept : h.intervals = xs.rtake (n + 1)) (x : Float) :
    (h.push x).intervals = (xs ++ [x]).rtake (n + 1) := by
  change h.kept ++ [x] = _
  rw [List.rtake_concat_succ, kept, hcapacity, hkept, List.rtake, List.rtake]
  split
  · rename_i hfull
    rw [List.length_drop] at hfull
    have hdrop : xs.length - (n + 1) + 1 = xs.length - n := by omega
    rw [List.drop_drop, hdrop]
  · rename_i hroom
    rw [List.length_drop] at hroom
    have hdrop : xs.length - (n + 1) = xs.length - n := by omega
    rw [hdrop]

theorem SamplingHistory.average_eq_none {h : SamplingHistory} :
    h.average = none ↔ h.intervals = [] := by
  unfold average
  cases h.intervals <;> simp

/-- Whoever subscribed just before a value was sent is handed that value and no other. -/
theorem Channel.available_send {c : Channel α} (hsize : 0 < c.size) (value : α) :
    (c.send value).available c.subscribe = [value] := by
  have hbehind : c.sent + 1 - max c.sent (c.sent + 1 - c.size) = 1 := by omega
  simp [available, send, subscribe, oldest, hbehind]

namespace Aggregator

/-- An aggregator after one update after the other. -/
def applyAll (a : Aggregator) (us : UpdateHistory) : Aggregator :=
  us.foldl (fun b u => b.apply u.1 u.2) a

/-- The latest value of each stream, as a history has it. -/
structure Holds (a : Aggregator) (us : UpdateHistory) : Prop where
  position : a.position = latestOf Update.position? us
  velocity : a.velocity = latestOf Update.velocity? us
  imu : a.imu = latestOf Update.imu? us
  attitude : a.attitude = latestOf Update.attitude? us

/-- The samples emitted so far, as an aggregator shows them. -/
structure Shows (a : Aggregator) (ss : List Sample) : Prop where
  latest : a.latest = ss.getLast?
  emitted : a.emitted = ss.length
  capacity : a.history.capacity = 10
  intervals : a.history.intervals = (spacings ss).rtake 10

/-- **An aggregator is in step with a history**, and has a channel with room for a
sample. -/
structure Follows (a : Aggregator) (us : UpdateHistory) : Prop where
  holds : a.Holds us
  shows : a.Shows (emissions us)
  size_pos : 0 < a.samples.size

variable {a : Aggregator} {ss : List Sample}

theorem follows_new (capacity : Nat) : (new capacity).Follows [] where
  holds := ⟨rfl, rfl, rfl, rfl⟩
  shows := ⟨rfl, rfl, rfl, rfl⟩
  size_pos := Nat.pos_of_isPowerOfTwo (Nat.isPowerOfTwo_nextPowerOfTwo _)

/-- An aggregator that has taken the value of an update, and emitted nothing yet. -/
def taken (a : Aggregator) (u : Update) : Aggregator :=
  { a with
    position := u.position?.or a.position
    velocity := u.velocity?.or a.velocity
    imu := u.imu?.or a.imu
    attitude := u.attitude?.or a.attitude }

theorem Holds.taken (h : a.Holds us) (u : Update) (timestamp : Nat) :
    (a.taken u).Holds (us ++ [(u, timestamp)]) := by
  constructor
  · rw [latestOf_concat, ← h.position]; rfl
  · rw [latestOf_concat, ← h.velocity]; rfl
  · rw [latestOf_concat, ← h.imu]; rfl
  · rw [latestOf_concat, ← h.attitude]; rfl

theorem apply_of_isSampled (hu : u.isSampled = true) :
    a.apply u timestamp = (a.taken u).refresh timestamp := by
  cases u <;> first | rfl | simp [Update.isSampled, Update.stream] at hu

/-- A status update touches nothing but the status. -/
theorem apply_of_not_isSampled (hu : u.isSampled = false) :
    ∃ status, a.apply u timestamp = { a.taken u with status := status } := by
  cases u <;> first | exact ⟨_, rfl⟩ | simp [Update.isSampled, Update.stream] at hu

/-- What an aggregator merges is what the history emits. -/
theorem Holds.merged (h : a.Holds (us ++ [(u, timestamp)])) (hu : u.isSampled = true) :
    a.merged timestamp = emitted? (us ++ [(u, timestamp)]) := by
  unfold emitted? Aggregator.merged
  rw [List.getLast?_concat, ← h.position, ← h.velocity, ← h.imu, ← h.attitude]
  cases a.position <;> cases a.velocity <;> cases a.imu <;> simp [hu]

/-- **What one update does**: the sample that it emits is recorded, or nothing is. -/
theorem Holds.apply_cases (h : a.Holds us) (u : Update) (timestamp : Nat) :
    (∃ s, emitted? (us ++ [(u, timestamp)]) = some s ∧
      a.apply u timestamp = (a.taken u).emit s) ∨
    (emitted? (us ++ [(u, timestamp)]) = none ∧
      ∃ status, a.apply u timestamp = { a.taken u with status := status }) := by
  cases hu : u.isSampled with
  | false =>
      refine .inr ⟨?_, apply_of_not_isSampled hu⟩
      rw [← Option.not_isSome_iff_eq_none, isSome_emitted?_concat, hu]
      simp
  | true =>
      have hmerged := (h.taken u timestamp).merged hu
      rw [apply_of_isSampled hu, refresh, hmerged]
      cases emitted? (us ++ [(u, timestamp)]) with
      | some s => exact .inl ⟨s, rfl, rfl⟩
      | none => exact .inr ⟨rfl, a.status, rfl⟩

/-- An emission becomes the latest sample, counts, and adds its distance to the history. -/
theorem Shows.emit (h : a.Shows ss) (s : Sample) : (a.emit s).Shows (ss ++ [s]) where
  latest := List.getLast?_concat.symm
  emitted := by
    rw [List.length_append, ← h.emitted]
    rfl
  capacity := by
    unfold Aggregator.emit
    dsimp only
    cases a.latest <;> exact h.capacity
  intervals := by
    have hkept := h.intervals
    unfold Aggregator.emit
    dsimp only
    rw [h.latest]
    rcases List.eq_nil_or_concat ss with rfl | ⟨earlier, previous, rfl⟩
    · exact hkept
    · rw [List.concat_eq_append] at hkept ⊢
      rw [List.getLast?_concat, List.append_assoc, List.singleton_append, spacings_concat]
      exact SamplingHistory.intervals_push h.capacity hkept _

/-- **One update keeps the aggregator in step with the history.** -/
theorem Follows.apply (h : a.Follows us) (u : Update) (timestamp : Nat) :
    (a.apply u timestamp).Follows (us ++ [(u, timestamp)]) := by
  have htaken := h.holds.taken u timestamp
  rcases h.holds.apply_cases u timestamp with ⟨s, hs, heq⟩ | ⟨hs, status, heq⟩
  · rw [heq]
    refine ⟨⟨htaken.position, htaken.velocity, htaken.imu, htaken.attitude⟩, ?_, h.size_pos⟩
    rw [emissions_concat, hs]
    have hshows : (a.taken u).Shows (emissions us) := ⟨h.shows.latest, h.shows.emitted,
      h.shows.capacity, h.shows.intervals⟩
    exact hshows.emit s
  · rw [heq]
    refine ⟨⟨htaken.position, htaken.velocity, htaken.imu, htaken.attitude⟩, ?_, h.size_pos⟩
    rw [emissions_concat, hs, Option.toList_none, List.append_nil]
    exact ⟨h.shows.latest, h.shows.emitted, h.shows.capacity, h.shows.intervals⟩

/-- **An aggregator is in step with everything it was told.** -/
theorem follows_applyAll (capacity : Nat) (us : UpdateHistory) :
    ((new capacity).applyAll us).Follows us := by
  induction us using List.reverseRecOn with
  | nil => exact follows_new capacity
  | append_singleton us u ih =>
      rw [applyAll, List.foldl_append]
      exact ih.apply u.1 u.2

/-- **What an aggregator shows is a function of the updates.** For every history of updates,
in any order and with any timestamps, and for every update that follows:

* The latest sample, the number of samples and the last ten spacings are those of the
  samples the history emits. There is a mean spacing once there are two of them.
* The update emits one sample if it is of a sampled stream and position, velocity and
  inertial reading have all been seen by then. The sample merges the history up to and with
  this update and has its timestamp; whoever subscribed before the update is handed it.
* Otherwise, and for a status update always, it emits nothing and leaves the samples, their
  number and their spacings as they are. -/
theorem samples_follow_updates (capacity : Nat) (us : UpdateHistory) (u : Update)
    (timestamp : Nat) :
    (((new capacity).applyAll us).latest = (emissions us).getLast? ∧
      ((new capacity).applyAll us).emitted = (emissions us).length ∧
      ((new capacity).applyAll us).history.intervals = (spacings (emissions us)).rtake 10 ∧
      (((new capacity).applyAll us).history.average = none ↔ (emissions us).length < 2)) ∧
    (u.isSampled = true ∧ IsComplete (us ++ [(u, timestamp)]) →
      ∃ s, Merges (us ++ [(u, timestamp)]) timestamp s ∧
        emissions (us ++ [(u, timestamp)]) = emissions us ++ [s] ∧
        (((new capacity).applyAll us).apply u timestamp).samples =
          ((new capacity).applyAll us).samples.send s ∧
        (((new capacity).applyAll us).apply u timestamp).samples.available
          ((new capacity).applyAll us).subscribe = [s]) ∧
    (¬ (u.isSampled = true ∧ IsComplete (us ++ [(u, timestamp)])) →
      emissions (us ++ [(u, timestamp)]) = emissions us ∧
        (((new capacity).applyAll us).apply u timestamp).samples =
          ((new capacity).applyAll us).samples ∧
        (((new capacity).applyAll us).apply u timestamp).latest =
          ((new capacity).applyAll us).latest ∧
        (((new capacity).applyAll us).apply u timestamp).emitted =
          ((new capacity).applyAll us).emitted ∧
        (((new capacity).applyAll us).apply u timestamp).history =
          ((new capacity).applyAll us).history) := by
  have h := follows_applyAll capacity us
  generalize (new capacity).applyAll us = a at h
  refine ⟨⟨h.shows.latest, h.shows.emitted, h.shows.intervals, ?average⟩, ?emits, ?silent⟩
  case average =>
    rw [SamplingHistory.average_eq_none, h.shows.intervals]
    have hlength : ((spacings (emissions us)).rtake 10).length =
        min 10 ((emissions us).length - 1) := by
      rw [List.rtake, List.length_drop, length_spacings]
      omega
    rw [← List.length_eq_zero_iff, hlength]
    omega
  case emits =>
    intro hemits
    rcases h.holds.apply_cases u timestamp with ⟨s, hs, heq⟩ | ⟨hs, -⟩
    · rw [emissions_concat, hs, heq]
      exact ⟨s, merges_of_emitted? hs, rfl, rfl, Channel.available_send h.size_pos s⟩
    · rw [← isSome_emitted?_concat, hs] at hemits
      cases hemits
  case silent =>
    intro hsilent
    rcases h.holds.apply_cases u timestamp with ⟨s, hs, -⟩ | ⟨hs, status, heq⟩
    · rw [← isSome_emitted?_concat, hs] at hsilent
      exact absurd rfl hsilent
    · rw [emissions_concat, hs, heq]
      exact ⟨List.append_nil _, rfl, rfl, rfl, rfl⟩

end Aggregator

end GroundStation
