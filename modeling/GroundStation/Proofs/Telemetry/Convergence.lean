import GroundStation.Telemetry.Feed
import GroundStation.Proofs.Telemetry.Reflection
import Mathlib.Logic.Function.Basic

/-!
# Taps in any order

Seven taps feed an aggregator, each from its own lossy stream, and nobody says which of them
runs when. A tap takes a value from its stream and applies it later, and meanwhile other taps
and the publisher go on (`Ingest`). This module shows that the order does not matter once
everything has been taken and applied: what the aggregator then has is the last value of each
stream, although a burst may have pushed earlier ones out.

What carries this is one fact about each tap (`Ingest.Reaches`). A receiver that lags goes on
with the oldest value kept, so where a tap has read all of its stream, the last thing it took is
the last thing published there.

## Main results

* `Ingest.InStep.step`: one event keeps the taps in step with their streams.
* `Ingest.InStep.reflects`: idle taps have told the aggregator the last value of each stream.
* `Ingest.settle_is_schedule`: letting the taps run one after the other is one of the orders.
* `Ingest.schedules_converge`: in whatever order the taps run, they end alike.
-/

namespace GroundStation

/-! ## One look after the other -/

/-- The value that was found, if one was. -/
def Received.value? {α : Type} : Received α → Option α
  | .value x => some x
  | .lagged _ | .empty => none

/-- Was nothing found, and nothing reported as lost? -/
def Received.isEmpty {α : Type} : Received α → Bool
  | .empty => true
  | .value _ | .lagged _ => false

namespace Channel

variable {α : Type} {c : Channel α} {xs : List α} {r : Receiver}

/-- A receiver that finds nothing has not moved. -/
theorem receive_of_isEmpty (h : (c.receive r).1.isEmpty = true) : (c.receive r).2 = r := by
  unfold Channel.receive at *
  split at h
  · cases h
  · rename_i hnear
    rw [if_neg hnear]
    split at h
    · rename_i hcaught
      rw [if_pos hcaught]
    · rename_i hbehind
      rw [if_neg hbehind]
      split at h
      · cases h
      · rfl

/-- What is kept for a receiver is what it finds next, if it is a value, and what is kept for
it then. -/
theorem Carries.available_receive (h : c.Carries xs) (hr : r.next ≤ xs.length) :
    c.available r = (c.receive r).1.value?.toList ++ c.available (c.receive r).2 := by
  obtain ⟨hfound, hrest, -, hle⟩ := h.receive hr
  rw [h.available hr, h.available hle, hrest, hfound]
  rcases findIn_cases c.size (xs.drop r.next) with
    ⟨hlagged, heq⟩ | ⟨hnil, heq⟩ | ⟨value, later, hcons, hkept, heq⟩
  · rw [heq]
    change (xs.drop r.next).rtake c.size = ((xs.drop r.next).drop _).rtake c.size
    have hlength :
        ((xs.drop r.next).drop ((xs.drop r.next).length - c.size)).length - c.size = 0 := by
      rw [List.length_drop (l := xs.drop r.next)]
      omega
    rw [List.rtake, List.rtake, hlength, List.drop_zero]
  · rw [heq, hnil]
    rfl
  · rw [heq, hcons, List.rtake, List.rtake]
    rw [hcons] at hkept
    have hlater : later.length - c.size = 0 := by
      rw [List.length_cons] at hkept
      omega
    rw [Nat.sub_eq_zero_of_le hkept, hlater]
    rfl

/-- Whoever has not read everything gets further by looking. -/
theorem Carries.next_lt_receive (h : c.Carries xs) (hr : r.next < xs.length) :
    r.next < (c.receive r).2.next := by
  obtain ⟨-, hrest, -, hle⟩ := h.receive (Nat.le_of_lt hr)
  have hpos := h.size_pos
  have hlength := congrArg List.length hrest
  rw [List.length_drop] at hlength
  rcases findIn_cases c.size (xs.drop r.next) with
    ⟨hlagged, heq⟩ | ⟨hnil, -⟩ | ⟨value, later, hcons, -, heq⟩
  · rw [heq, List.length_drop (l := xs.drop r.next)] at hlength
    rw [List.length_drop] at hlagged hlength
    omega
  · exact absurd (List.drop_eq_nil_iff.mp hnil) (Nat.not_le.mpr hr)
  · rw [heq] at hlength
    have hcount := congrArg List.length hcons
    rw [List.length_drop, List.length_cons] at hcount
    change _ = later.length at hlength
    omega

end Channel

/-! ## Taps at work -/

/-- A feed with its taps at work, and for each of them the value that it has taken from its
stream and not yet applied. -/
structure Ingest where
  intake : Intake
  held : Nat → Option Update

namespace Ingest

/-- What happens while taps are at work: a value is published, a tap takes what it finds, a tap
applies what it took. -/
inductive Event where
  | publish (u : Update)
  | take (index : Nat)
  | apply (index : Nat) (now : Nat)

/-- Taps that have just been attached to a feed on which some values were published before, for
an aggregator of another capacity. -/
def begin (capacity room : Nat) (early : List Update) : Ingest :=
  ⟨(early.foldl Intake.publish { Intake.new capacity with aggregator := .new room }).attach,
    fun _ => none⟩

/-- A tap takes what it finds. -/
def takes (g : Ingest) (index : Nat) (tap : Tap) : Ingest :=
  let found := (g.intake.feed.channel tap.stream).receive tap.receiver
  { intake := { g.intake with taps := g.intake.taps.set index { tap with receiver := found.2 } }
    held := Function.update g.held index found.1.value? }

/-- A tap applies a value that it took. -/
def applies (g : Ingest) (index : Nat) (u : Update) (now : Nat) : Ingest where
  intake := { g.intake with aggregator := g.intake.aggregator.apply u now }
  held := Function.update g.held index none

/-- One event. A tap takes nothing more before it has applied what it took. -/
def step (g : Ingest) : Event → Ingest
  | .publish u => { g with intake := g.intake.publish u }
  | .take index =>
    match g.held index, g.intake.taps[index]? with
    | none, some tap => g.takes index tap
    | _, _ => g
  | .apply index now =>
    match g.held index with
    | some u => g.applies index u now
    | none => g

/-- A run of events. -/
def after (g : Ingest) (es : List Event) : Ingest := es.foldl step g

/-- The value that an event publishes. -/
def Event.published? : Event → Option Update
  | .publish u => some u
  | .take _ | .apply _ _ => none

/-- The values published in a run. -/
def published (es : List Event) : List Update := es.filterMap Event.published?

/-- No tap holds a value, and none finds anything. -/
def IsIdle (g : Ingest) : Prop :=
  (∀ index < g.intake.taps.length, g.held index = none) ∧
    ∀ tap ∈ g.intake.taps,
      ((g.intake.feed.channel tap.stream).receive tap.receiver).1.isEmpty = true

instance (g : Ingest) : Decidable g.IsIdle := by unfold IsIdle; infer_instance

/-! ### Taking and applying at once -/

theorem after_append (g : Ingest) (es later : List Event) :
    g.after (es ++ later) = (g.after es).after later := List.foldl_append ..

theorem published_append (es later : List Event) :
    published (es ++ later) = published es ++ published later := List.filterMap_append ..

/-- What a tap finds in one advance is applied, if it is a value. -/
theorem advance_eq {i : Intake} {index : Nat} {tap : Tap} (h : i.taps[index]? = some tap)
    (now : Nat) :
    i.advance index now =
      { i with
        taps := i.taps.set index
          { tap with receiver := ((i.feed.channel tap.stream).receive tap.receiver).2 }
        aggregator := ((i.feed.channel tap.stream).receive tap.receiver).1.value?.toList.foldl
          (fun a u => a.apply u now) i.aggregator } := by
  unfold Intake.advance
  cases hfound : (i.feed.channel tap.stream).receive tap.receiver with
  | mk found receiver =>
      cases found with
      | value u => simp [h, hfound, Received.value?]
      | lagged lost => simp [h, hfound, Received.value?]
      | empty =>
          have hsame := Channel.receive_of_isEmpty (c := i.feed.channel tap.stream)
            (r := tap.receiver) (by rw [hfound]; rfl)
          rw [hfound] at hsame
          obtain rfl : receiver = tap.receiver := hsame
          have hset : i.taps.set index tap = i.taps := by
            obtain ⟨hlt, rfl⟩ := List.getElem?_eq_some_iff.mp h
            exact List.set_getElem_self hlt
          simp [h, hfound, Received.value?, hset]

/-- **Taking a value and applying it at once is one advance of the tap.** -/
theorem take_apply (g : Ingest) {index : Nat} (h : g.held index = none) (now : Nat) :
    g.after [.take index, .apply index now] = ⟨g.intake.advance index now, g.held⟩ := by
  change (g.step (.take index)).step (.apply index now) = _
  cases htap : g.intake.taps[index]? with
  | none => simp [step, h, htap, Intake.advance]
  | some tap =>
      rw [advance_eq htap]
      cases hvalue : ((g.intake.feed.channel tap.stream).receive tap.receiver).1.value? with
      | none => simp [step, takes, h, htap, hvalue]
      | some u => simp [step, takes, applies, h, htap, hvalue]

/-! ### In step with the streams -/

/-- **A tap in step with its stream**, which has carried some values from before the tap was
attached and then the ones published, and with what has been applied. It has read from its own
beginning on, and once it has read everything, the last value published is the one it holds,
or else the last one applied. -/
structure Reaches (tap : Tap) (held : Option Update) (early us vs : List Update) : Prop where
  start_le : (onStream tap.stream early).length ≤ tap.receiver.next
  next_le : tap.receiver.next ≤ (onStream tap.stream (early ++ us)).length
  held_own : ∀ u ∈ held, u.stream = tap.stream
  caught_up : tap.receiver.next = (onStream tap.stream (early ++ us)).length →
    held.or (onStream tap.stream vs).getLast? = (onStream tap.stream us).getLast?

/-- **Taps in step with their feed**: one for each stream, and an aggregator that was told some
updates. -/
structure InStep (room : Nat) (early us : List Update) (g : Ingest) (vs : UpdateHistory) :
    Prop where
  streams : g.intake.taps.map Tap.stream = Stream.all
  carries : ∀ s, (g.intake.feed.channel s).Carries (onStream s (early ++ us))
  told : g.intake.aggregator = (Aggregator.new room).applyAll vs
  reaches : ∀ index tap, g.intake.taps[index]? = some tap →
    Reaches tap (g.held index) early us (vs.map Prod.fst)
  held_tap : ∀ index, g.intake.taps.length ≤ index → g.held index = none

variable {room : Nat} {early us : List Update} {g : Ingest} {vs : UpdateHistory} {tap : Tap}
  {held : Option Update} {ws : List Update}

/-- Publishing on a stream leaves the other streams alone. -/
theorem channel_publish (f : Feed) (u : Update) (s : Stream) :
    (f.publish u).channel s = if u.stream = s then (f.channel s).send u else f.channel s := by
  cases u <;> cases s <;> rfl

theorem carries_publish {f : Feed} {s : Stream} (h : (f.channel s).Carries (onStream s us))
    (u : Update) : ((f.publish u).channel s).Carries (onStream s (us ++ [u])) := by
  rw [channel_publish]
  by_cases hu : u.stream = s
  · subst hu
    rw [if_pos rfl, onStream_concat_self]
    exact h.send u
  · rwa [if_neg hu, onStream_concat_of_ne hu]

/-- A new feed carries what is published on it. -/
theorem carries_publishAll (capacity : Nat) (us : List Update) (s : Stream) :
    ((us.foldl Feed.publish (.new capacity)).channel s).Carries (onStream s us) := by
  induction us using List.reverseRecOn with
  | nil => cases s <;> exact Channel.carries_new capacity
  | append_singleton us u ih =>
      rw [List.foldl_append]
      exact carries_publish ih u

/-- One more value is published: on the tap's own stream, and it is behind; or on another. -/
theorem Reaches.publish (h : Reaches tap held early us ws) (u : Update) :
    Reaches tap held early (us ++ [u]) ws := by
  have hle := h.next_le
  by_cases hu : u.stream = tap.stream
  · have hgrown : (onStream tap.stream (early ++ (us ++ [u]))).length =
        (onStream tap.stream (early ++ us)).length + 1 := by
      rw [← List.append_assoc, ← hu, onStream_concat_self, List.length_append,
        List.length_singleton]
    exact ⟨h.start_le, by omega, h.held_own, fun hnext => by omega⟩
  · have hsame :
        onStream tap.stream (early ++ (us ++ [u])) = onStream tap.stream (early ++ us) := by
      rw [← List.append_assoc, onStream_concat_of_ne hu]
    refine ⟨h.start_le, hsame ▸ hle, h.held_own, ?_⟩
    rw [hsame, onStream_concat_of_ne hu]
    exact h.caught_up

/-- The tap applies the value that it holds. -/
theorem Reaches.apply {u : Update} (h : Reaches tap (some u) early us ws) :
    Reaches tap none early us (ws ++ [u]) where
  start_le := h.start_le
  next_le := h.next_le
  held_own _ hnone := by cases hnone
  caught_up hnext := by
    have hown : u.stream = tap.stream := h.held_own u rfl
    rw [← h.caught_up hnext, ← hown, onStream_concat_self, List.getLast?_concat]
    rfl

/-- Another tap applies a value. -/
theorem Reaches.apply_other {u : Update} (h : Reaches tap held early us ws)
    (hu : u.stream ≠ tap.stream) : Reaches tap held early us (ws ++ [u]) where
  start_le := h.start_le
  next_le := h.next_le
  held_own := h.held_own
  caught_up hnext := by rw [onStream_concat_of_ne hu, h.caught_up hnext]

/-- The tap takes what it finds. A tap that is told of a loss has not read everything yet, so
what it takes last is the last value there is. -/
theorem Reaches.take {c : Channel Update} (h : Reaches tap none early us ws)
    (hc : c.Carries (onStream tap.stream (early ++ us))) :
    Reaches { tap with receiver := (c.receive tap.receiver).2 }
      (c.receive tap.receiver).1.value? early us ws := by
  obtain ⟨hfound, hrest, hnext, hle⟩ := hc.receive h.next_le
  have hpos := hc.size_pos
  rw [hfound]
  rcases Channel.findIn_cases c.size ((onStream tap.stream (early ++ us)).drop tap.receiver.next)
    with ⟨hlagged, heq⟩ | ⟨hnil, heq⟩ | ⟨value, later, hcons, -, heq⟩
  · rw [heq] at hrest ⊢
    refine ⟨h.start_le.trans hnext, hle, fun u hu => (by cases hu), fun hread => ?_⟩
    have hread : (c.receive tap.receiver).2.next =
        (onStream tap.stream (early ++ us)).length := hread
    have hlength := congrArg List.length hrest
    rw [hread, List.drop_length, List.length_nil, List.length_drop] at hlength
    omega
  · rw [heq] at hrest ⊢
    refine ⟨h.start_le.trans hnext, hle, fun u hu => (by cases hu), fun hread => ?_⟩
    exact h.caught_up (Nat.le_antisymm h.next_le (List.drop_eq_nil_iff.mp hnil))
  · rw [heq] at hrest ⊢
    refine ⟨h.start_le.trans hnext, hle, ?_, fun hread => ?_⟩
    · intro u hu
      obtain rfl : value = u := Option.some.inj hu
      have hmem : value ∈ onStream tap.stream (early ++ us) :=
        List.mem_of_mem_drop (hcons ▸ List.mem_cons_self)
      simpa [onStream] using (List.mem_filter.mp hmem).2
    · have hread : (c.receive tap.receiver).2.next =
          (onStream tap.stream (early ++ us)).length := hread
      rw [hread, List.drop_length] at hrest
      obtain rfl : later = [] := hrest.symm
      rw [onStream_append, List.drop_append, List.drop_eq_nil_of_le h.start_le,
        List.nil_append] at hcons
      have hlast := congrArg List.getLast? hcons
      have hsome : ¬ (onStream tap.stream us).length ≤
          tap.receiver.next - (onStream tap.stream early).length := fun hall => by
        rw [List.drop_eq_nil_of_le hall] at hcons
        cases hcons
      rw [List.getLast?_drop, if_neg hsome] at hlast
      exact hlast.symm

/-! ### Every order -/

/-- No stream has two taps. -/
theorem InStep.index_unique (h : InStep room early us g vs) {index other : Nat} {tap' : Tap}
    (htap : g.intake.taps[index]? = some tap) (htap' : g.intake.taps[other]? = some tap')
    (hstream : tap.stream = tap'.stream) : index = other := by
  have hnodup : (g.intake.taps.map Tap.stream).Nodup := by
    rw [h.streams]
    decide
  have hlt := (List.getElem?_eq_some_iff.mp htap).1
  refine (List.getElem?_inj (by rwa [List.length_map]) hnodup).mp ?_
  rw [List.getElem?_map, List.getElem?_map, htap, htap', Option.map_some, Option.map_some, hstream]

theorem InStep.publish (h : InStep room early us g vs) (u : Update) :
    InStep room early (us ++ [u]) { g with intake := g.intake.publish u } vs where
  streams := h.streams
  carries s := by
    rw [← List.append_assoc]
    exact carries_publish (h.carries s) u
  told := h.told
  reaches index tap htap := (h.reaches index tap htap).publish u
  held_tap := h.held_tap

theorem InStep.takes (h : InStep room early us g vs) {index : Nat}
    (hheld : g.held index = none) (htap : g.intake.taps[index]? = some tap) :
    InStep room early us (g.takes index tap) vs where
  streams := by
    obtain ⟨hlt, rfl⟩ := List.getElem?_eq_some_iff.mp htap
    rw [← h.streams, Ingest.takes, List.map_set]
    have hlt' : index < (g.intake.taps.map Tap.stream).length := by rwa [List.length_map]
    have hself := List.set_getElem_self hlt'
    rwa [List.getElem_map] at hself
  carries := h.carries
  told := h.told
  reaches other tap' htap' := by
    have hreaches := h.reaches index tap htap
    rw [hheld] at hreaches
    change (g.intake.taps.set index _)[other]? = some tap' at htap'
    change Reaches tap' (Function.update g.held index _ other) early us _
    by_cases hother : other = index
    · subst hother
      rw [List.getElem?_set_self (List.getElem?_eq_some_iff.mp htap).1, Option.some.injEq] at htap'
      rw [← htap', Function.update_self]
      exact hreaches.take (h.carries tap.stream)
    · rw [List.getElem?_set_ne (Ne.symm hother)] at htap'
      rw [Function.update_of_ne hother]
      exact h.reaches other tap' htap'
  held_tap other hother := by
    change (g.intake.taps.set index _).length ≤ other at hother
    change Function.update g.held index _ other = none
    have hlt := (List.getElem?_eq_some_iff.mp htap).1
    rw [List.length_set] at hother
    rw [Function.update_of_ne (Nat.ne_of_gt (Nat.lt_of_lt_of_le hlt hother))]
    exact h.held_tap other hother

theorem InStep.applies (h : InStep room early us g vs) {index : Nat} {u : Update}
    (hheld : g.held index = some u) (now : Nat) :
    InStep room early us (g.applies index u now) (vs ++ [(u, now)]) := by
  have hlt : index < g.intake.taps.length := by
    refine Nat.lt_of_not_le fun hle => ?_
    rw [h.held_tap index hle] at hheld
    cases hheld
  have htap := List.getElem?_eq_getElem hlt
  have hreaches := h.reaches index _ htap
  rw [hheld] at hreaches
  refine ⟨h.streams, h.carries, ?told, fun other tap' htap' => ?reaches, fun other hother => ?held⟩
  case told =>
    rw [Aggregator.applyAll_append, ← h.told]
    rfl
  case reaches =>
    rw [List.map_append, List.map_singleton]
    change Reaches tap' (Function.update g.held index none other) early us _
    change g.intake.taps[other]? = some tap' at htap'
    by_cases hother : other = index
    · subst hother
      rw [htap, Option.some.injEq] at htap'
      rw [← htap', Function.update_self]
      exact hreaches.apply
    · rw [Function.update_of_ne hother]
      refine (h.reaches other tap' htap').apply_other fun hu => hother ?_
      exact h.index_unique htap' htap (hu.symm.trans (hreaches.held_own u rfl))
  case held =>
    change Function.update g.held index none other = none
    rw [Function.update_of_ne (Nat.ne_of_gt (Nat.lt_of_lt_of_le hlt hother))]
    exact h.held_tap other hother

/-- **One event keeps the taps in step with their streams.** -/
theorem InStep.step (h : InStep room early us g vs) (e : Event) :
    ∃ vs, InStep room early (us ++ e.published?.toList) (g.step e) vs := by
  cases e with
  | publish u => exact ⟨vs, h.publish u⟩
  | take index =>
      rw [Event.published?, Option.toList_none, List.append_nil, Ingest.step]
      split
      · rename_i tap hheld htap
        exact ⟨vs, h.takes hheld htap⟩
      · exact ⟨vs, h⟩
  | apply index now =>
      rw [Event.published?, Option.toList_none, List.append_nil, Ingest.step]
      split
      · rename_i u hheld
        exact ⟨_, h.applies hheld now⟩
      · exact ⟨vs, h⟩

/-- Publishing changes the feed only. -/
theorem foldl_publish (i : Intake) (us : List Update) :
    us.foldl Intake.publish i = { i with feed := us.foldl Feed.publish i.feed } := by
  induction us generalizing i with
  | nil => rfl
  | cons u us ih => exact ih (i.publish u)

/-- Taps that have just been attached have everything before them. -/
theorem inStep_begin (capacity room : Nat) (early : List Update) :
    InStep room early [] (begin capacity room early) [] := by
  have hcarries := carries_publishAll capacity early
  unfold begin
  rw [foldl_publish, Intake.attach, if_neg (by exact Bool.false_ne_true)]
  refine ⟨rfl, fun s => ?carries, rfl, fun index tap htap => ?reaches, fun index _ => rfl⟩
  case carries =>
    rw [List.append_nil]
    exact hcarries s
  case reaches =>
    obtain ⟨s, -, rfl⟩ := List.mem_map.mp (List.mem_of_getElem? htap)
    have hsent := (hcarries s).sent
    refine ⟨Nat.le_of_eq hsent.symm, ?_, fun u hu => (by cases hu), fun _ => rfl⟩
    rw [List.append_nil]
    exact Nat.le_of_eq hsent

/-- Taps are in step with their streams after every run. -/
theorem InStep.after (h : InStep room early us g vs) (es : List Event) :
    ∃ vs, InStep room early (us ++ published es) (g.after es) vs := by
  induction es using List.reverseRecOn with
  | nil => exact ⟨vs, by rwa [published, List.filterMap_nil, List.append_nil]⟩
  | append_singleton es e ih =>
      obtain ⟨vs, hes⟩ := ih
      rw [published_append, ← List.append_assoc, after_append]
      exact hes.step e

/-- A run that begins with the attachment is in step with what it published. -/
theorem inStep_after (capacity room : Nat) (early : List Update) (es : List Event) :
    ∃ vs, InStep room early (published es) ((begin capacity room early).after es) vs :=
  (inStep_begin capacity room early).after es

/-- A tap that finds nothing has read everything. -/
theorem Reaches.next_eq {c : Channel Update} (h : Reaches tap held early us ws)
    (hc : c.Carries (onStream tap.stream (early ++ us)))
    (hempty : (c.receive tap.receiver).1.isEmpty = true) :
    tap.receiver.next = (onStream tap.stream (early ++ us)).length := by
  rw [(hc.receive h.next_le).1] at hempty
  rcases Channel.findIn_cases c.size ((onStream tap.stream (early ++ us)).drop tap.receiver.next)
    with ⟨-, heq⟩ | ⟨hnil, -⟩ | ⟨value, later, -, -, heq⟩
  · rw [heq] at hempty
    cases hempty
  · exact Nat.le_antisymm h.next_le (List.drop_eq_nil_iff.mp hnil)
  · rw [heq] at hempty
    cases hempty

/-- **Idle taps have told the aggregator the last value of each stream.** -/
theorem InStep.reflects (h : InStep room early us g vs) (hidle : g.IsIdle) :
    g.intake.aggregator.Reflects us := by
  have hlast : ∀ s, (onStream s (vs.map Prod.fst)).getLast? = (onStream s us).getLast? := by
    intro s
    have hmem : s ∈ g.intake.taps.map Tap.stream := by
      rw [h.streams]
      cases s <;> decide
    obtain ⟨tap, htap, rfl⟩ := List.mem_map.mp hmem
    obtain ⟨index, hlt, hindex⟩ := List.getElem_of_mem htap
    have hreaches := h.reaches index tap (by rw [List.getElem?_eq_getElem hlt, hindex])
    rw [hidle.1 index hlt] at hreaches
    exact hreaches.caught_up (hreaches.next_eq (h.carries tap.stream) (hidle.2 tap htap))
  have hreflects := Aggregator.reflects_applyAll room vs
  rw [← h.told] at hreflects
  exact hreflects.congr hlast

/-! ### One tap after the other -/

/-- The events with which a tap takes and applies so many times. -/
def pulls (index now count : Nat) : List Event :=
  (List.replicate count [.take index, .apply index now]).flatten

theorem published_pulls (index now count : Nat) : published (pulls index now count) = [] := by
  induction count with
  | zero => rfl
  | succ count ih =>
      rw [pulls, List.replicate_succ, List.flatten_cons, published_append, ← pulls, ih]
      rfl

theorem after_pulls_succ (h : g.held index = none) (now count : Nat) :
    g.after (pulls index now (count + 1)) =
      (⟨g.intake.advance index now, g.held⟩ : Ingest).after (pulls index now count) := by
  rw [pulls, List.replicate_succ, List.flatten_cons, after_append, take_apply g h, ← pulls]

/-- There is nothing to drain for a tap that has read everything. -/
theorem drain_of_next_eq {feed : Feed} {xs : List Update}
    (hc : (feed.channel tap.stream).Carries xs) (hread : tap.receiver.next = xs.length) (now : Nat)
    (a : Aggregator) :
    Intake.drain feed now a tap = (a, tap) := by
  have hsubscribe : (feed.channel tap.stream).subscribe = tap.receiver := by
    rw [Channel.subscribe, hc.sent, ← hread]
  have hnone : (feed.channel tap.stream).available tap.receiver = [] := by
    rw [hc.available (Nat.le_of_eq hread), hread, List.drop_length, List.rtake_nil]
  rw [Intake.drain, hnone, hsubscribe]
  rfl

/-- Draining is looking once and draining what is left. -/
theorem drain_receive {feed : Feed} {xs : List Update} (hc : (feed.channel tap.stream).Carries xs)
    (hle : tap.receiver.next ≤ xs.length) (now : Nat) (a : Aggregator) :
    Intake.drain feed now a tap = Intake.drain feed now
      (((feed.channel tap.stream).receive tap.receiver).1.value?.toList.foldl
        (fun a u => a.apply u now) a)
      { tap with receiver := ((feed.channel tap.stream).receive tap.receiver).2 } := by
  rw [Intake.drain, Intake.drain, hc.available_receive hle, List.foldl_append]

/-- A tap that pulls until there is nothing more has drained its stream. -/
theorem exists_pulls {index : Nat} {xs : List Update} (h : g.held index = none)
    (htap : g.intake.taps[index]? = some tap)
    (hc : (g.intake.feed.channel tap.stream).Carries xs) (hle : tap.receiver.next ≤ xs.length)
    (now : Nat) :
    ∃ count, g.after (pulls index now count) =
      ⟨{ g.intake with
          taps := g.intake.taps.set index
            (Intake.drain g.intake.feed now g.intake.aggregator tap).2
          aggregator := (Intake.drain g.intake.feed now g.intake.aggregator tap).1 }, g.held⟩ := by
  induction hbehind : xs.length - tap.receiver.next using Nat.strong_induction_on
    generalizing g tap with
  | _ behind ih =>
      obtain ⟨hlt, hindex⟩ := List.getElem?_eq_some_iff.mp htap
      by_cases hread : tap.receiver.next = xs.length
      · refine ⟨0, ?_⟩
        have hset : g.intake.taps.set index tap = g.intake.taps := by
          rw [← hindex]
          exact List.set_getElem_self hlt
        rw [drain_of_next_eq hc hread, hset]
        rfl
      · have hfurther := hc.next_lt_receive (Nat.lt_of_le_of_ne hle hread)
        have hwithin := (hc.receive hle).2.2.2
        have hless : xs.length - ((g.intake.feed.channel tap.stream).receive tap.receiver).2.next <
            behind := by omega
        have hmoved : (g.intake.advance index now).taps[index]? = some { tap with
            receiver := ((g.intake.feed.channel tap.stream).receive tap.receiver).2 } := by
          rw [advance_eq htap]
          exact List.getElem?_set_self hlt
        have hcarries : ((g.intake.advance index now).feed.channel tap.stream).Carries xs := by
          rw [advance_eq htap]
          exact hc
        obtain ⟨count, hcount⟩ := ih _ hless (g := ⟨g.intake.advance index now, g.held⟩)
          h hmoved hcarries hwithin rfl
        refine ⟨count + 1, ?_⟩
        rw [after_pulls_succ h, hcount, drain_receive hc hle, advance_eq htap, List.set_set]

/-- One tap of those that settle: what the aggregator is then, and one more tap that is done. -/
def drainNext (feed : Feed) (now : Nat) (done : Aggregator × List Tap) (tap : Tap) :
    Aggregator × List Tap :=
  ((Intake.drain feed now done.1 tap).1, done.2 ++ [(Intake.drain feed now done.1 tap).2])

/-- The taps that are left settle, after the first ones have. -/
theorem exists_drained {done rest : List Tap} (htaps : g.intake.taps = done ++ rest)
    (hreads : ∀ tap ∈ rest, ∃ xs, (g.intake.feed.channel tap.stream).Carries xs ∧
      tap.receiver.next ≤ xs.length)
    (hheld : ∀ index, g.held index = none) (now : Nat) :
    ∃ later, published later = [] ∧ g.after later =
      ⟨{ g.intake with
          taps := (rest.foldl (drainNext g.intake.feed now) (g.intake.aggregator, done)).2
          aggregator := (rest.foldl (drainNext g.intake.feed now) (g.intake.aggregator, done)).1 },
        g.held⟩ := by
  induction rest generalizing g done with
  | nil =>
      rw [List.append_nil] at htaps
      exact ⟨[], rfl, by rw [List.foldl_nil, ← htaps]; rfl⟩
  | cons tap rest ih =>
      obtain ⟨xs, hc, hle⟩ := hreads tap List.mem_cons_self
      have htap : g.intake.taps[done.length]? = some tap := by
        rw [htaps, List.getElem?_append_right (Nat.le_refl _), Nat.sub_self]
        rfl
      obtain ⟨count, hcount⟩ := exists_pulls (hheld done.length) htap hc hle now
      have hmoved : (g.after (pulls done.length now count)).intake.taps =
          (done ++ [(Intake.drain g.intake.feed now g.intake.aggregator tap).2]) ++ rest := by
        rw [hcount, htaps]
        simp
      obtain ⟨later, hlater, hafter⟩ := ih hmoved
        (by rw [hcount]; exact fun tap htap => hreads tap (List.mem_cons_of_mem _ htap))
        (by rw [hcount]; exact hheld)
      refine ⟨pulls done.length now count ++ later, ?_, ?_⟩
      · rw [published_append, published_pulls, hlater, List.nil_append]
      · rw [after_append, hafter, hcount]
        rfl

/-- The taps afterwards have nothing left to read. -/
theorem foldl_drainNext (feed : Feed) (now : Nat) (taps : List Tap)
    (done : Aggregator × List Tap) :
    (taps.foldl (drainNext feed now) done).2 =
      done.2 ++
        taps.map fun tap => { tap with receiver := (feed.channel tap.stream).subscribe } := by
  induction taps generalizing done with
  | nil => rw [List.foldl_nil, List.map_nil, List.append_nil]
  | cons tap taps ih =>
      rw [List.foldl_cons, ih, List.map_cons, drainNext, List.append_assoc]
      rfl

/-- Taps that hold nothing when they settle are idle afterwards. -/
theorem isIdle_settle (h : InStep room early us g vs) (hheld : ∀ index, g.held index = none)
    (now : Nat) : IsIdle ⟨g.intake.settle now, g.held⟩ := by
  refine ⟨fun index _ => hheld index, fun tap htap => ?_⟩
  have htaps : (g.intake.settle now).taps = _ :=
    foldl_drainNext g.intake.feed now g.intake.taps (g.intake.aggregator, [])
  rw [htaps, List.nil_append] at htap
  obtain ⟨before, -, rfl⟩ := List.mem_map.mp htap
  have hc := h.carries before.stream
  change ((g.intake.feed.channel before.stream).receive _).1.isEmpty = true
  have hsent : (g.intake.feed.channel before.stream).subscribe.next =
    (onStream before.stream (early ++ us)).length := hc.sent
  rw [(hc.receive (Nat.le_of_eq hsent)).1, hsent, List.drop_length]
  rfl

/-- **Letting the taps run one after the other is one of the orders**, once each has applied
what it held. -/
theorem settle_is_schedule (h : InStep room early us g vs) (hheld : ∀ index, g.held index = none)
    (now : Nat) :
    ∃ later, published later = [] ∧ g.after later = ⟨g.intake.settle now, g.held⟩ := by
  refine exists_drained (List.nil_append _).symm (fun tap htap => ?_) hheld now
  obtain ⟨index, hlt, hindex⟩ := List.getElem_of_mem htap
  have hreaches := h.reaches index tap (by rw [List.getElem?_eq_getElem hlt, hindex])
  exact ⟨_, h.carries tap.stream, hreaches.next_le⟩

/-- A tap applies what it holds. -/
theorem held_apply (g : Ingest) (index now : Nat) :
    (g.step (.apply index now)).held = Function.update g.held index none := by
  rw [step]
  split
  · rfl
  · rename_i hheld
    exact (Function.update_eq_self_iff.mpr hheld.symm).symm

/-- The events with which the first taps apply what they hold. -/
def flush (now count : Nat) : List Event := (List.range count).map (.apply · now)

theorem published_flush (now count : Nat) : published (flush now count) = [] := by
  rw [published, List.filterMap_eq_nil_iff]
  intro e he
  obtain ⟨index, -, rfl⟩ := List.mem_map.mp he
  rfl

theorem held_flush (g : Ingest) (now count : Nat) {index : Nat} (h : index < count) :
    (g.after (flush now count)).held index = none := by
  induction count with
  | zero => exact absurd h (Nat.not_lt_zero index)
  | succ count ih =>
      rw [flush, List.range_succ, List.map_append, after_append, ← flush]
      change (step _ (.apply count now)).held index = none
      rw [held_apply]
      by_cases heq : index = count
      · rw [heq, Function.update_self]
      · rw [Function.update_of_ne heq]
        exact ih (by omega)

theorem InStep.length_taps (h : InStep room early us g vs) :
    g.intake.taps.length = Stream.all.length := by
  rw [← h.streams, List.length_map]

/-- **The taps can always become idle** without anything more being published. -/
theorem InStep.exists_idle (h : InStep room early us g vs) (now : Nat) :
    ∃ later, published later = [] ∧ (g.after later).IsIdle := by
  obtain ⟨ws, hflush⟩ := h.after (flush now Stream.all.length)
  have hheld : ∀ index, (g.after (flush now Stream.all.length)).held index = none := by
    intro index
    by_cases hlt : index < Stream.all.length
    · exact held_flush g now _ hlt
    · refine hflush.held_tap index ?_
      rw [hflush.length_taps]
      exact Nat.le_of_not_lt hlt
  obtain ⟨later, hlater, hafter⟩ := settle_is_schedule hflush hheld now
  refine ⟨flush now Stream.all.length ++ later, ?_, ?_⟩
  · rw [published_append, published_flush, hlater, List.nil_append]
  · rw [after_append, hafter]
    exact isIdle_settle hflush hheld now

/-- **In whatever order the taps run, they end alike.** Taps are attached to a feed of any
capacity, on which some values may have been published before, and an aggregator. For every run
of publications and of the taps' steps, whatever values the streams lose:

* The taps can become idle with nothing more published.
* Once they are idle, the aggregator has of each stream the last value published, and there is
  a latest sample, made of these values, as soon as position, velocity and inertial reading have
  all been published.
* Another run that has published the same on each stream has, once idle, the same status and
  the same latest sample but for its time. -/
theorem schedules_converge (capacity room : Nat) (early : List Update) (es : List Event) :
    (∃ later, published later = [] ∧ ((begin capacity room early).after (es ++ later)).IsIdle) ∧
    (((begin capacity room early).after es).IsIdle →
      ((begin capacity room early).after es).intake.aggregator.Reflects (published es) ∧
      ∀ capacity' room' early' es', ((begin capacity' room' early').after es').IsIdle →
        (∀ s, onStream s (published es') = onStream s (published es)) →
        ((begin capacity' room' early').after es').intake.aggregator.status =
          ((begin capacity room early).after es).intake.aggregator.status ∧
        ((begin capacity' room' early').after es').intake.aggregator.latest.map Sample.undated =
          ((begin capacity room early).after es).intake.aggregator.latest.map Sample.undated) := by
  obtain ⟨vs, h⟩ := inStep_after capacity room early es
  refine ⟨?idle, fun hidle => ⟨h.reflects hidle, ?alike⟩⟩
  case idle =>
    obtain ⟨later, hlater, hidle⟩ := h.exists_idle 0
    exact ⟨later, hlater, by rwa [after_append]⟩
  case alike =>
    intro capacity' room' early' es' hidle' hsame
    obtain ⟨vs', h'⟩ := inStep_after capacity' room' early' es'
    refine ((h'.reflects hidle').congr fun s => ?_).unique (h.reflects hidle)
    rw [hsame]

/-- A burst of two fixes, a velocity, an inertial reading, and news that the motors run. -/
def burst : List Update :=
  [.position ⟨47.0, 8.0, 500.0, 10.0⟩, .position ⟨47.5, 8.0, 510.0, 20.0⟩,
    .velocity ⟨1.0, 0.0, 0.0⟩, .imu ⟨⟨0.0, 0.0, -9.8⟩, ⟨0.0, 0.0, 0.0⟩, ⟨0.0, 0.0, 0.0⟩, 20.0⟩,
    .armed true]

/-- Each value is taken and applied as soon as it is published. -/
def promptly : List Event :=
  (burst.zip [0, 0, 1, 2, 4]).flatMap fun (u, index) => [.publish u, .take index, .apply index 1]

/-- The taps run only after the burst, the last ones first, and the one for positions is told of
a loss before it finds a value. -/
def belatedly : List Event :=
  burst.map .publish ++
    [.take 4, .take 2, .apply 2 5, .take 0, .take 1, .apply 1 6, .take 0, .apply 4 7, .apply 0 8]

/-- A stream that keeps a single value loses the first fix of a burst if the taps are late, and
they end where prompt taps do. -/
theorem schedules_converge_burst :
    (((begin 1 4 []).after belatedly).IsIdle ∧ ((begin 1 4 []).after promptly).IsIdle ∧
      ∀ s, onStream s (published promptly) = onStream s (published belatedly)) ∧
    ((begin 1 4 []).after belatedly).intake.aggregator.Reflects burst ∧
      ((begin 1 4 []).after promptly).intake.aggregator.status =
        ((begin 1 4 []).after belatedly).intake.aggregator.status ∧
      ((begin 1 4 []).after promptly).intake.aggregator.latest.map Sample.undated =
        ((begin 1 4 []).after belatedly).intake.aggregator.latest.map Sample.undated := by
  have hbelatedly : ((begin 1 4 []).after belatedly).IsIdle := by decide +kernel
  have hpromptly : ((begin 1 4 []).after promptly).IsIdle := by decide +kernel
  have hsame : ∀ s, onStream s (published promptly) = onStream s (published belatedly) := by
    intro s
    cases s <;> rfl
  obtain ⟨hreflects, halike⟩ := (schedules_converge 1 4 [] belatedly).2 hbelatedly
  exact ⟨⟨hbelatedly, hpromptly, hsame⟩, hreflects, halike 1 4 [] promptly hpromptly hsame⟩

end Ingest

end GroundStation
