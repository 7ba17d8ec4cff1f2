import GroundStation.Proofs.Navigation.Exchange
import GroundStation.Proofs.Navigation.Progress

/-!
# Takeoffs and landings

A takeoff has three calls, one after the other, and then waits until the vehicle is high enough;
a landing has one, waits until the vehicle stands on the ground, and may have another one. Both
have one deadline for everything. This module says exactly in which runs a call is made and in
which the operation arrives.

The wait of a takeoff mixes a stored value with a stream: the latest sample at the acceptance of
the last call counts, and so does every sample that is emitted from then on and handed to the
operation. The wait of a landing looks at the status alone, which may have been reported before.

## Main results

* `Session.exists_exchanges`: calls that follow each other, one exchange each.
* `Session.takeoff_arrives_iff`, `Session.exists_touchdown`: the two waits.
* `Session.takeoff_and_landing_complete`: both operations, in every run.
-/

namespace GroundStation

/-- The task whose call is due once the call of a task is accepted. -/
def Task.following : Task → Option Task
  | .arm altitude => some (.presetAltitude altitude)
  | .presetAltitude altitude => some (.takeoff altitude)
  | _ => none

/-- The task whose call is due after so many calls. -/
def Task.after : Nat → Task → Option Task
  | 0, task => some task
  | n + 1, task => task.following.bind (Task.after n)

theorem Task.accepted_following {task next : Task} (h : task.following = some next)
    (telemetry : Aggregator) (deadline : Instant) :
    ∃ shows, task.accepted telemetry deadline = ⟨shows, .enter (.calling next deadline)⟩ := by
  cases task with
  | arm altitude => exact ⟨none, by cases h; rfl⟩
  | presetAltitude altitude => exact ⟨some .takingOff, by cases h; rfl⟩
  | _ => cases h

namespace Session

variable {s : Session} {id n : Nat} {es later : List Event} {a : NavigatorAct}
  {task next last : Task} {deadline : Instant}

/-! ## Calls that follow each other -/

/-- So many exchanges, one after the other. -/
def Exchanges (s : Session) (id : Nat) (deadline : Instant) : Nat → List Event → Prop
  | 0, es => es = []
  | n + 1, es => ∃ exchange rest, es = exchange ++ rest ∧ s.Exchange id deadline exchange ∧
      (s.after exchange).Exchanges id deadline n rest

theorem Exchanges.concat (h : s.Exchanges id deadline n es)
    (h' : (s.after es).Exchange id deadline later) :
    s.Exchanges id deadline (n + 1) (es ++ later) := by
  induction n generalizing s es with
  | zero =>
      obtain rfl := h
      exact ⟨later, [], by simp, h', rfl⟩
  | succ n ih =>
      obtain ⟨exchange, rest, rfl, hexchange, hrest⟩ := h
      rw [after_append] at h'
      exact ⟨exchange, rest ++ later, by simp, hexchange, ih hrest h'⟩

/-- The last of some exchanges. -/
theorem Exchanges.split (h : s.Exchanges id deadline (n + 1) es) :
    ∃ done last, es = done ++ last ∧ s.Exchanges id deadline n done ∧
      (s.after done).Exchange id deadline last := by
  induction n generalizing s es with
  | zero =>
      obtain ⟨exchange, rest, rfl, hexchange, rfl⟩ := h
      exact ⟨[], exchange, by simp, rfl, hexchange⟩
  | succ n ih =>
      obtain ⟨exchange, rest, rfl, hexchange, hrest⟩ := h
      obtain ⟨done, last, rfl, hdone, hlast⟩ := ih hrest
      rw [← after_append] at hlast
      exact ⟨exchange ++ done, last, by simp, ⟨exchange, done, rfl, hexchange, hdone⟩, hlast⟩

/-- An exchange that leads to another call. -/
theorem Exchange.leads (h : s.Exchange id deadline es) (hnext : task.following = some next)
    (hactive : s.navigator.active = some ⟨id, false, .calling task deadline⟩) :
    (s.after es).navigator.active = some ⟨id, false, .calling next deadline⟩ := by
  obtain ⟨shows, haccepted⟩ := task.accepted_following hnext (s.after es).telemetry deadline
  rw [(h.done hactive).1, haccepted]
  rfl

/-- Nothing gets done in it but the call. -/
theorem Exchange.only (h : s.Exchange id deadline es) (hnext : task.following = some next)
    (hactive : s.navigator.active = some ⟨id, false, .calling task deadline⟩)
    (ha : a.IsProgress id) (hmem : a ∈ s.acts es) :
    a = .calls id (task.call s.navigator.settings) := by
  obtain ⟨shows, haccepted⟩ := task.accepted_following hnext (s.after es).telemetry deadline
  rw [(h.done hactive).2, haccepted, List.mem_cons] at hmem
  refine hmem.resolve_right fun hshown => ?_
  rcases ha with ⟨call, rfl⟩ | rfl <;> simp [Navigator.carryOut] at hshown

/-- **An operation that gets more done than the calls ahead has exchanged them**, one after the
other. -/
theorem exists_exchanges (hd : s.Distinct es)
    (h : s.navigator.active = some ⟨id, false, .calling task deadline⟩)
    (hlast : task.after n = some last) (ha : a.IsProgress id)
    (hne : ∀ k t, k < n → task.after k = some t → a ≠ .calls id (t.call s.navigator.settings))
    (hmem : a ∈ s.acts es) :
    ∃ done rest, es = done ++ rest ∧ s.Exchanges id deadline n done ∧
      (s.after done).navigator.active = some ⟨id, false, .calling last deadline⟩ ∧
      a ∈ (s.after done).acts rest := by
  induction n generalizing s es task with
  | zero =>
      obtain rfl := Option.some.inj hlast
      exact ⟨[], es, rfl, rfl, h, hmem⟩
  | succ n ih =>
      obtain ⟨next, hnext, hlast⟩ := Option.bind_eq_some_iff.mp hlast
      have hfirst := hne 0 task (Nat.succ_pos n) rfl
      obtain ⟨exchange, later, rfl, hexchange⟩ := exists_exchange hd h ha hfirst hmem
      rw [acts_append, List.mem_append] at hmem
      have hlater := hmem.resolve_left fun hmem => hfirst (hexchange.only hnext h ha hmem)
      obtain ⟨done, rest, rfl, hdone, hactive, hrest⟩ := ih hd.after (hexchange.leads hnext h) hlast
        (fun k t hk ht => by
          rw [after_settings]
          exact hne (k + 1) t (Nat.succ_lt_succ hk) (Option.bind_eq_some_iff.mpr ⟨next, hnext, ht⟩))
        hlater
      rw [← after_append] at hactive hrest
      exact ⟨exchange ++ done, rest, by simp, ⟨exchange, done, rfl, hexchange, hdone⟩, hactive,
        hrest⟩

/-- Where some exchanges lead. -/
theorem Exchanges.leads (h : s.Exchanges id deadline n es)
    (hactive : s.navigator.active = some ⟨id, false, .calling task deadline⟩)
    (hlast : task.after n = some last) :
    (s.after es).navigator.active = some ⟨id, false, .calling last deadline⟩ := by
  induction n generalizing s es task with
  | zero =>
      obtain rfl := Option.some.inj hlast
      obtain rfl := h
      exact hactive
  | succ n ih =>
      obtain ⟨next, hnext, hlast⟩ := Option.bind_eq_some_iff.mp hlast
      obtain ⟨exchange, rest, rfl, hexchange, hrest⟩ := h
      rw [after_append]
      exact ih hrest (hexchange.leads hnext hactive) hlast

/-- A call that is due at the beginning of a run is made in it. -/
def GetsCalled (id : Nat) (es : List Event) : Prop := ∃ call rest, es = call ++ rest ∧ Makes id call

/-- A call that is due is made just when there is a move before anything gets in its way. -/
theorem call_iff_gets_called (hd : s.Distinct es)
    (h : s.navigator.active = some ⟨id, false, .calling task deadline⟩) :
    .calls id (task.call s.navigator.settings) ∈ s.acts es ↔ GetsCalled id es := by
  constructor
  · exact exists_makes hd h (.inl ⟨_, rfl⟩)
  · rintro ⟨call, rest, rfl, hcall⟩
    rw [acts_append, (hcall.done h).2]
    exact List.mem_append_left _ (List.mem_singleton_self _)

/-- **The call after so many exchanges.** -/
theorem call_iff_exchanges (hd : s.Distinct es)
    (h : s.navigator.active = some ⟨id, false, .calling task deadline⟩)
    (hlast : task.after n = some last)
    (hne : ∀ k t, k < n → task.after k = some t →
      last.call s.navigator.settings ≠ t.call s.navigator.settings) :
    .calls id (last.call s.navigator.settings) ∈ s.acts es ↔
      ∃ done rest, es = done ++ rest ∧ s.Exchanges id deadline n done ∧ GetsCalled id rest := by
  constructor
  · intro hmem
    obtain ⟨done, rest, rfl, hdone, hactive, hrest⟩ := exists_exchanges hd h hlast
      (.inl ⟨_, rfl⟩) (fun k t hk ht heq => hne k t hk ht (by simpa using heq)) hmem
    rw [← after_settings s done, call_iff_gets_called hd.after hactive] at hrest
    exact ⟨done, rest, rfl, hdone, hrest⟩
  · rintro ⟨done, rest, rfl, hdone, hcalled⟩
    rw [← call_iff_gets_called hd.after (hdone.leads h hlast), after_settings] at hcalled
    rw [acts_append]
    exact List.mem_append_right _ hcalled

/-! ## The wait of a takeoff -/

variable {altitude : Float32} {disarm : Bool}

/-- The latest sample shows the vehicle at an altitude, or above. -/
def IsAloft (s : Session) (altitude : Float32) : Prop :=
  ∃ x, s.telemetry.latest = some x ∧ altitude ≤ x.position.relativeAltitude

/-- Whoever subscribed before a run is handed a sample after it that shows the vehicle at an
altitude, or above. Of a burst that overruns the channel there are the latest samples only. -/
def SeesAloft (s : Session) (altitude : Float32) (es : List Event) : Prop :=
  ∃ x ∈ (s.emissions es).rtake s.telemetry.samples.size, altitude ≤ x.position.relativeAltitude

/-- The climb after the last call of a takeoff: the vehicle is up already, or it is seen to be
in a run from now on. -/
def Climbs (s : Session) (id : Nat) (altitude : Float32) (deadline : Instant)
    (es : List Event) : Prop :=
  s.IsAloft altitude ∨ ∃ part rest, es = part ++ .move :: rest ∧
    s.Finds id deadline (s.SeesAloft altitude) part

theorem shows_climb : s.Shows (.climb altitude s.telemetry.subscribe) (s.SeesAloft altitude) := by
  intro part
  rw [Sight.seen, available_eq, List.any_eq_true]
  simp [SeesAloft]

theorem accepted_takeoff_of_aloft (h : s.IsAloft altitude) (deadline : Instant) :
    (Task.takeoff altitude).accepted s.telemetry deadline = .finish .arrived := by
  obtain ⟨x, hlatest, hhigh⟩ := h
  simp [Task.accepted, hlatest, hhigh]

theorem accepted_takeoff_of_not_aloft (h : ¬ s.IsAloft altitude) (deadline : Instant) :
    (Task.takeoff altitude).accepted s.telemetry deadline =
      .enter (.watching (.climb altitude s.telemetry.subscribe) deadline) := by
  cases hlatest : s.telemetry.latest with
  | none => simp [Task.accepted, hlatest]
  | some x =>
      have hlow : ¬ altitude ≤ x.position.relativeAltitude := fun hhigh => h ⟨x, hlatest, hhigh⟩
      simp [Task.accepted, hlatest, hlow]

/-- **A takeoff arrives with the climb after its last call.** -/
theorem takeoff_arrives_iff (hd : s.Distinct es)
    (h : s.navigator.active = some ⟨id, false, .calling (.takeoff altitude) deadline⟩) :
    .ends id (.outcome .arrived) ∈ s.acts es ↔
      ∃ exchange rest, es = exchange ++ rest ∧ s.Exchange id deadline exchange ∧
        (s.after exchange).Climbs id altitude deadline rest := by
  have harrival : NavigatorAct.IsProgress id (.ends id (.outcome .arrived)) := .inr rfl
  constructor
  · intro hmem
    obtain ⟨exchange, rest, rfl, hexchange⟩ := exists_exchange hd h harrival nofun hmem
    refine ⟨exchange, rest, rfl, hexchange, ?_⟩
    by_cases haloft : (s.after exchange).IsAloft altitude
    · exact .inl haloft
    · obtain ⟨hafter, hacts⟩ := hexchange.done h
      rw [accepted_takeoff_of_not_aloft haloft] at hafter hacts
      rw [acts_append, hacts, List.mem_append] at hmem
      have hrest := hmem.resolve_left (by simp [Navigator.carryOut, Move.enter])
      exact .inr (exists_finds hd.after shows_climb hafter harrival hrest)
  · rintro ⟨exchange, rest, rfl, hexchange, hclimbs⟩
    obtain ⟨hafter, hacts⟩ := hexchange.done h
    rw [acts_append, hacts]
    by_cases haloft : (s.after exchange).IsAloft altitude
    · rw [accepted_takeoff_of_aloft haloft]
      simp [Navigator.carryOut, Move.finish]
    · rw [accepted_takeoff_of_not_aloft haloft] at hafter
      obtain ⟨part, rest, rfl, hfinds⟩ := hclimbs.resolve_left haloft
      have harrives := (hfinds.done shows_climb hafter).2
      rw [List.append_cons, acts_append (s.after exchange), harrives]
      simp [Navigator.carryOut, Move.finish, Sight.followUp]

/-- **A takeoff arrives when its calls are exchanged and the vehicle climbs.** -/
theorem takeoff_completes_iff (hd : s.Distinct es)
    (h : s.navigator.active = some ⟨id, false, .calling (.arm altitude) deadline⟩) :
    .ends id (.outcome .arrived) ∈ s.acts es ↔
      ∃ done rest, es = done ++ rest ∧ s.Exchanges id deadline 3 done ∧
        (s.after done).Climbs id altitude deadline rest := by
  have hlast : (Task.arm altitude).after 2 = some (.takeoff altitude) := rfl
  constructor
  · intro hmem
    obtain ⟨done, later, rfl, hdone, hactive, hlater⟩ :=
      exists_exchanges hd h hlast (.inr rfl) nofun hmem
    rw [takeoff_arrives_iff hd.after hactive] at hlater
    obtain ⟨exchange, rest, rfl, hexchange, hclimbs⟩ := hlater
    rw [← after_append] at hclimbs
    exact ⟨done ++ exchange, rest, by simp, hdone.concat hexchange, hclimbs⟩
  · rintro ⟨front, rest, rfl, hfront, hclimbs⟩
    obtain ⟨done, exchange, rfl, hdone, hexchange⟩ := hfront.split
    rw [List.append_assoc] at hd ⊢
    rw [after_append] at hclimbs
    rw [acts_append]
    refine List.mem_append_right _ ?_
    exact (takeoff_arrives_iff hd.after (hdone.leads h hlast)).mpr
      ⟨exchange, rest, rfl, hexchange, hclimbs⟩

/-! ## The wait of a landing -/

/-- The status shows the vehicle on the ground. -/
def IsGrounded (s : Session) : Prop := s.telemetry.status.landed = .onGround

/-- A landing whose first call is exchanged, up to the move that finds the vehicle on the
ground. -/
def TouchesDown (s : Session) (id : Nat) (deadline : Instant) (es : List Event) : Prop :=
  ∃ exchange part, es = exchange ++ (part ++ [.move]) ∧ s.Exchange id deadline exchange ∧
    (s.after exchange).Finds id deadline (fun es => ((s.after exchange).after es).IsGrounded) part

/-- Is the vehicle to be disarmed once it is on the ground? -/
def Disarms (s : Session) (disarm : Bool) : Prop :=
  disarm = true ∧ s.telemetry.status.armed = true

theorem shows_touchdown (s : Session) (disarm : Bool) :
    s.Shows (.touchdown disarm) fun es => (s.after es).IsGrounded := by
  intro part
  simp [Sight.seen, IsGrounded]

/-- **Where a touchdown leads**: to the second call, or to the arrival at once. -/
theorem TouchesDown.done (h : s.TouchesDown id deadline es)
    (hactive : s.navigator.active = some ⟨id, false, .calling (.land disarm) deadline⟩) :
    ((s.after es).Disarms disarm →
      (s.after es).navigator.active = some ⟨id, false, .calling .disarm deadline⟩ ∧
        s.acts es = [.calls id .land]) ∧
    (¬ (s.after es).Disarms disarm →
      (s.after es).navigator.active = none ∧
        s.acts es = [.calls id .land, .shows (.done .arrived), .ends id (.outcome .arrived)]) := by
  obtain ⟨exchange, part, rfl, hexchange, hfinds⟩ := h
  obtain ⟨hwatching, hcalled⟩ := hexchange.done hactive
  obtain ⟨hafter, hacts⟩ := hfinds.done (shows_touchdown _ disarm) hwatching
  -- the move that finds the vehicle on the ground leaves the status as it is
  have htelemetry : (s.after (exchange ++ (part ++ [.move]))).telemetry =
      ((s.after exchange).after part).telemetry := by
    rw [after_append, after_append, after_cons, after_nil]
    exact (step_inside _ rfl).2
  have hlanded : s.acts (exchange ++ (part ++ [.move])) =
      .calls id .land :: (s.after exchange).acts (part ++ [.move]) := by
    rw [acts_append, hcalled]
    simp [Navigator.carryOut, Task.accepted, Move.enter, Task.call]
  rw [hlanded, hacts, after_append, hafter, Disarms, ← after_append, htelemetry, Sight.followUp]
  constructor
  · intro hdisarms
    rw [if_pos hdisarms]
    exact ⟨rfl, rfl⟩
  · intro hdone
    rw [if_neg hdone]
    exact ⟨rfl, rfl⟩

/-- **A landing that gets more done than its first call has touched down.** -/
theorem exists_touchdown (hd : s.Distinct es)
    (h : s.navigator.active = some ⟨id, false, .calling (.land disarm) deadline⟩)
    (ha : a.IsProgress id) (hne : a ≠ .calls id .land) (hmem : a ∈ s.acts es) :
    ∃ down rest, es = down ++ rest ∧ s.TouchesDown id deadline down := by
  obtain ⟨exchange, later, rfl, hexchange⟩ := exists_exchange hd h ha hne hmem
  obtain ⟨hwatching, hcalled⟩ := hexchange.done h
  rw [acts_append, hcalled, List.mem_append] at hmem
  have hlater : a ∈ (s.after exchange).acts later := by
    refine hmem.resolve_left fun hcall => hne ?_
    simpa [Navigator.carryOut, Task.accepted, Move.enter, Task.call] using hcall
  obtain ⟨part, rest, rfl, hfinds⟩ :=
    exists_finds hd.after (shows_touchdown _ disarm) hwatching ha hlater
  exact ⟨exchange ++ (part ++ [.move]), rest, by simp, exchange, part, rfl, hexchange, hfinds⟩

/-- What follows a touchdown without a second call is nothing. -/
theorem TouchesDown.absent (h : s.TouchesDown id deadline es) (hd : s.Distinct (es ++ later))
    (hactive : s.navigator.active = some ⟨id, false, .calling (.land disarm) deadline⟩)
    (hdone : ¬ (s.after es).Disarms disarm) : (s.after es).Absent id later := by
  refine absent_of_ended hd fun hnone => ?_
  rw [((h.done hactive).2 hdone).2] at hnone
  simp [endingsOf, NavigatorAct.endingOf?] at hnone

/-- **A landing disarms** when it has touched down armed, and is to. -/
theorem landing_disarms_iff (hd : s.Distinct es)
    (h : s.navigator.active = some ⟨id, false, .calling (.land disarm) deadline⟩) :
    .calls id .disarm ∈ s.acts es ↔ ∃ down rest, es = down ++ rest ∧
      s.TouchesDown id deadline down ∧ (s.after down).Disarms disarm ∧ GetsCalled id rest := by
  constructor
  · intro hmem
    have hother : NavigatorAct.calls id .disarm ≠ .calls id .land := nofun
    obtain ⟨down, rest, rfl, hdown⟩ := exists_touchdown hd h (.inl ⟨_, rfl⟩) hother hmem
    refine ⟨down, rest, rfl, hdown, ?_⟩
    by_cases hdisarms : (s.after down).Disarms disarm
    · obtain ⟨hcalling, hacts⟩ := (hdown.done h).1 hdisarms
      rw [acts_append, hacts, List.mem_append, or_iff_right (by simp)] at hmem
      exact ⟨hdisarms, (call_iff_gets_called hd.after hcalling).mp hmem⟩
    · have habsent := hdown.absent hd h hdisarms
      rw [acts_append, ((hdown.done h).2 hdisarms).2, List.mem_append,
        or_iff_right (by simp)] at hmem
      exact absurd hmem (habsent.not_progress (.inl ⟨_, rfl⟩))
  · rintro ⟨down, rest, rfl, hdown, hdisarms, hcalled⟩
    obtain ⟨hcalling, -⟩ := (hdown.done h).1 hdisarms
    rw [acts_append]
    exact List.mem_append_right _ ((call_iff_gets_called hd.after hcalling).mpr hcalled)

/-- **A landing arrives** with its touchdown, or with the answer to its second call. -/
theorem landing_arrives_iff (hd : s.Distinct es)
    (h : s.navigator.active = some ⟨id, false, .calling (.land disarm) deadline⟩) :
    .ends id (.outcome .arrived) ∈ s.acts es ↔ ∃ down rest, es = down ++ rest ∧
      s.TouchesDown id deadline down ∧ ((s.after down).Disarms disarm →
        ∃ exchange later, rest = exchange ++ later ∧
          (s.after down).Exchange id deadline exchange) := by
  constructor
  · intro hmem
    obtain ⟨down, rest, rfl, hdown⟩ := exists_touchdown hd h (.inr rfl) nofun hmem
    refine ⟨down, rest, rfl, hdown, fun hdisarms => ?_⟩
    obtain ⟨hcalling, hacts⟩ := (hdown.done h).1 hdisarms
    rw [acts_append, hacts, List.mem_append, or_iff_right (by simp)] at hmem
    exact exists_exchange hd.after hcalling (.inr rfl) nofun hmem
  · rintro ⟨down, rest, rfl, hdown, hexchanges⟩
    rw [acts_append]
    by_cases hdisarms : (s.after down).Disarms disarm
    · obtain ⟨hcalling, -⟩ := (hdown.done h).1 hdisarms
      obtain ⟨exchange, later, rfl, hexchange⟩ := hexchanges hdisarms
      rw [acts_append (s.after down), (hexchange.done hcalling).2]
      simp [Navigator.carryOut, Task.accepted, Move.finish]
    · rw [((hdown.done h).2 hdisarms).2]
      simp

/-! ## Every takeoff and every landing -/

variable {marked : Bool} {r : Request}

/-- An operation is planned now and not cancelled before, and the clock can hold its deadline. -/
def Plans (s : Session) (marked : Bool) (deadline : Instant) : Prop :=
  marked = false ∧ s.navigator.settings.deadline? s.now = some deadline

/-- **How a takeoff goes** that is planned at a session, in the run that follows. -/
structure TakesOff (s : Session) (id : Nat) (altitude : Float32) (marked : Bool)
    (es : List Event) (calls : List LinkCall) (endings : List Ending) : Prop where
  /-- Without a sample it fails, and makes no call. -/
  unready : s.telemetry.latest = none →
    calls = [] ∧ endings = [.outcome (.failed .notReady)]
  /-- It makes the first of its calls, in their order. -/
  in_order : calls <+: [.arm, .setTakeoffAltitude altitude, .takeoff]
  /-- Each of them is made just when those before it are exchanged. -/
  called : ∀ n call, [LinkCall.arm, .setTakeoffAltitude altitude, .takeoff][n]? = some call →
    (call ∈ calls ↔ s.telemetry.latest ≠ none ∧ ∃ deadline, s.Plans marked deadline ∧
      ∃ done rest, es = done ++ rest ∧ (s.step .move).1.Exchanges id deadline n done ∧
        GetsCalled id rest)
  /-- It arrives just when all of them are exchanged, and the vehicle climbs. -/
  arrived : endings = [.outcome .arrived] ↔ s.telemetry.latest ≠ none ∧
    ∃ deadline, s.Plans marked deadline ∧
      ∃ done rest, es = done ++ rest ∧ (s.step .move).1.Exchanges id deadline 3 done ∧
        ((s.step .move).1.after done).Climbs id altitude deadline rest

/-- **How a landing goes** that is planned at a session, in the run that follows. -/
structure Lands (s : Session) (id : Nat) (disarm : Bool) (marked : Bool)
    (es : List Event) (calls : List LinkCall) (endings : List Ending) : Prop where
  /-- It makes the first of its calls, in their order. -/
  in_order : calls <+: [.land, .disarm]
  /-- The first one needs no sample, nor anything else. -/
  called : .land ∈ calls ↔ ∃ deadline, s.Plans marked deadline ∧ GetsCalled id es
  /-- The second one is made just when the vehicle touches down armed and is to be disarmed. -/
  disarmed : .disarm ∈ calls ↔ ∃ deadline, s.Plans marked deadline ∧
    ∃ down rest, es = down ++ rest ∧ (s.step .move).1.TouchesDown id deadline down ∧
      ((s.step .move).1.after down).Disarms disarm ∧ GetsCalled id rest
  /-- Otherwise the landing arrives with the touchdown. -/
  at_once : ∀ deadline down rest, s.Plans marked deadline → es = down ++ rest →
    (s.step .move).1.TouchesDown id deadline down →
    ¬ ((s.step .move).1.after down).Disarms disarm →
    endingsOf id ((s.step .move).1.acts down) = [.outcome .arrived] ∧ calls = [.land]
  /-- It arrives just when the vehicle has touched down and, if it is to be disarmed, the second
  call is exchanged as well. -/
  arrived : endings = [.outcome .arrived] ↔ ∃ deadline, s.Plans marked deadline ∧
    ∃ down rest, es = down ++ rest ∧ (s.step .move).1.TouchesDown id deadline down ∧
      (((s.step .move).1.after down).Disarms disarm →
        ∃ exchange later, rest = exchange ++ later ∧
          ((s.step .move).1.after down).Exchange id deadline exchange)

/-- The deadline of an operation is set when it is planned, and then its first call is due. If
the clock cannot hold the deadline, that is its end. -/
structure SetsOut (s : Session) (r : Request) (task : Task) : Prop where
  sets : ∀ deadline, s.navigator.settings.deadline? s.now = some deadline →
    ∃ shows, r.begin s.navigator.settings s.now s.telemetry =
      ⟨shows, .enter (.calling task deadline)⟩
  never : s.navigator.settings.deadline? s.now = none →
    r.begin s.navigator.settings s.now s.telemetry = ⟨none, .finish .overflow⟩

/-- The first call of a planned operation is due, and nothing else is done yet. -/
theorem SetsOut.calling (hout : s.SetsOut r task)
    (h : s.navigator.active = some ⟨id, marked, .begun r⟩)
    (hdeadline : s.navigator.settings.deadline? s.now = some deadline) :
    (s.step .move).1.navigator.active = some ⟨id, marked, .calling task deadline⟩ ∧
      ∀ a : NavigatorAct, a.IsProgress id → a ∉ (s.step .move).2 := by
  obtain ⟨shows, hbegin⟩ := hout.sets deadline hdeadline
  have hm : (Stage.begun r).move s.navigator.settings s.now s.telemetry marked =
      some ⟨shows, .enter (.calling task deadline)⟩ := congrArg some hbegin
  obtain ⟨hnext, hacts⟩ := step_running h .move
  rw [ActiveOperation.react_move hm] at hnext hacts
  refine ⟨hnext, fun a ha => ?_⟩
  rw [hacts]
  rcases ha with ⟨call, rfl⟩ | rfl <;> simp [Navigator.carryOut]

/-- **What a planned operation gets done** it does from its first call on, if it is not cancelled
before that. -/
theorem SetsOut.progress_iff (hout : s.SetsOut r task) (hd : s.Distinct (Event.move :: es))
    (h : s.navigator.active = some ⟨id, marked, .begun r⟩) (ha : a.IsProgress id) :
    a ∈ s.acts (Event.move :: es) ↔
      ∃ deadline, s.Plans marked deadline ∧ a ∈ (s.step .move).1.acts es := by
  cases hdeadline : s.navigator.settings.deadline? s.now with
  | none =>
      have hm : (Stage.begun r).move s.navigator.settings s.now s.telemetry marked =
          some ⟨none, .finish .overflow⟩ := congrArg some (hout.never hdeadline)
      have hreact : (ActiveOperation.mk id marked (.begun r)).react s.navigator.settings s.now
          s.telemetry .move = (none, [.ends id .overflow]) := by
        rw [ActiveOperation.react_move hm]
        rfl
      have hnothing : a ∉ s.acts (Event.move :: es) := by
        refine not_progress_of_left hd h (congrArg Prod.fst hreact) ?_ ha
        rw [hreact]
        rcases ha with ⟨call, rfl⟩ | rfl <;> simp
      simp [hnothing, Plans, hdeadline]
  | some deadline =>
      obtain ⟨hcalling, hnothing⟩ := hout.calling h hdeadline
      rw [acts_cons, List.mem_append, or_iff_right (hnothing a ha)]
      constructor
      · intro hmem
        cases marked with
        | false => exact ⟨deadline, ⟨rfl, hdeadline⟩, hmem⟩
        | true =>
            -- the mark ends the operation before its first call
            exact absurd hmem (not_progress_of_cancelled hd.step hcalling rfl rfl ha)
      · rintro ⟨_, _, hmem⟩
        exact hmem

/-- The first call of an operation that is not cancelled before is due. -/
theorem SetsOut.calling_of_plans (hout : s.SetsOut r task)
    (h : s.navigator.active = some ⟨id, marked, .begun r⟩) (hplans : s.Plans marked deadline) :
    (s.step .move).1.navigator.active = some ⟨id, false, .calling task deadline⟩ := by
  obtain ⟨rfl, hdeadline⟩ := hplans
  exact (hout.calling h hdeadline).1

/-- An operation ends once at most, so it has ended in one way when that is among its acts. -/
theorem endingsOf_eq_singleton_iff {ending : Ending} (hd : s.Distinct es) :
    endingsOf id (s.acts es) = [ending] ↔ .ends id ending ∈ s.acts es := by
  rw [← mem_endingsOf]
  constructor
  · intro heq
    rw [heq]
    exact List.mem_singleton_self _
  · intro hmem
    have hone : (endingsOf id (s.acts es)).length ≤ 1 := endingsOf_length_le_one hd
    obtain ⟨only, heq⟩ := List.length_eq_one_iff.mp
      (Nat.le_antisymm hone (List.length_pos_of_mem hmem))
    rw [heq] at hmem ⊢
    rw [List.mem_singleton.mp hmem]

/-- The calls of a takeoff, with the tasks that make them. -/
theorem takeoff_task {call : LinkCall} (settings : NavigatorSettings)
    (h : [LinkCall.arm, .setTakeoffAltitude altitude, .takeoff][n]? = some call) :
    ∃ last, (Task.arm altitude).after n = some last ∧ last.call settings = call ∧
      ∀ k t, k < n → (Task.arm altitude).after k = some t → call ≠ t.call settings := by
  have hlength : n < 3 := (List.getElem?_eq_some_iff.mp h).1
  obtain rfl | rfl | rfl : n = 0 ∨ n = 1 ∨ n = 2 := by omega
  · obtain rfl : LinkCall.arm = call := Option.some.inj h
    exact ⟨.arm altitude, rfl, rfl, nofun⟩
  · obtain rfl : LinkCall.setTakeoffAltitude altitude = call := Option.some.inj h
    refine ⟨.presetAltitude altitude, rfl, rfl, fun k t hk ht => ?_⟩
    obtain rfl : k = 0 := by omega
    cases ht
    nofun
  · obtain rfl : LinkCall.takeoff = call := Option.some.inj h
    refine ⟨.takeoff altitude, rfl, rfl, fun k t hk ht => ?_⟩
    obtain rfl | rfl : k = 0 ∨ k = 1 := by omega
    all_goals
      cases ht
      nofun

/-- A takeoff goes as it should. -/
theorem takesOff_of_begun (hd : s.Distinct (Event.move :: es))
    (h : s.navigator.active = some ⟨id, marked, .begun (.takeoff altitude)⟩) :
    s.TakesOff id altitude marked es (callsOf id (s.acts (Event.move :: es)))
      (endingsOf id (s.acts (Event.move :: es))) := by
  have hunready : s.telemetry.latest = none → callsOf id (s.acts (Event.move :: es)) = [] ∧
      endingsOf id (s.acts (Event.move :: es)) = [.outcome (.failed .notReady)] := fun hlatest =>
    acts_of_fails hd h (by simp [Stage.move, Request.begin, hlatest])
  have hout : s.telemetry.latest ≠ none → s.SetsOut (.takeoff altitude) (.arm altitude) := by
    intro hready
    obtain ⟨sample, hlatest⟩ := Option.ne_none_iff_exists'.mp hready
    constructor
    case sets =>
      intro deadline hdeadline
      exact ⟨some .arming, by simp [Request.begin, hlatest, hdeadline]⟩
    case never =>
      intro hdeadline
      simp [Request.begin, hlatest, hdeadline]
  -- whatever gets done needs a sample
  have hprogress : ∀ a : NavigatorAct, a.IsProgress id → (a ∈ s.acts (Event.move :: es) ↔
      s.telemetry.latest ≠ none ∧ ∃ deadline, s.Plans marked deadline ∧
        a ∈ (s.step .move).1.acts es) := by
    intro a ha
    by_cases hready : s.telemetry.latest = none
    · obtain ⟨hcalls, hendings⟩ := hunready hready
      have hnothing : a ∉ s.acts (Event.move :: es) := by
        rcases ha with ⟨call, rfl⟩ | rfl
        · simp [← mem_callsOf, hcalls]
        · simp [← mem_endingsOf, hendings]
      simp [hnothing, hready]
    · rw [(hout hready).progress_iff hd h ha, and_iff_right hready]
  constructor
  case unready => exact hunready
  case in_order =>
    obtain ⟨route, -, hcalls⟩ := covers_acts hd h
    exact hcalls
  case called =>
    intro n call hcall
    obtain ⟨last, hlast, rfl, hne⟩ := takeoff_task (s.step .move).1.navigator.settings hcall
    rw [mem_callsOf, hprogress _ (.inl ⟨_, rfl⟩)]
    refine and_congr_right fun hready => exists_congr fun deadline => ?_
    exact and_congr_right fun hplans =>
      call_iff_exchanges hd.step ((hout hready).calling_of_plans h hplans) hlast hne
  case arrived =>
    rw [endingsOf_eq_singleton_iff hd, hprogress _ (.inr rfl)]
    refine and_congr_right fun hready => exists_congr fun deadline => ?_
    exact and_congr_right fun hplans =>
      takeoff_completes_iff hd.step ((hout hready).calling_of_plans h hplans)

/-- A landing goes as it should. -/
theorem lands_of_begun (hd : s.Distinct (Event.move :: es))
    (h : s.navigator.active = some ⟨id, marked, .begun (.land disarm)⟩) :
    s.Lands id disarm marked es (callsOf id (s.acts (Event.move :: es)))
      (endingsOf id (s.acts (Event.move :: es))) := by
  have hout : s.SetsOut (.land disarm) (.land disarm) := by
    constructor
    case sets =>
      intro deadline hdeadline
      exact ⟨some .landing, by simp [Request.begin, hdeadline]⟩
    case never =>
      intro hdeadline
      simp [Request.begin, hdeadline]
  constructor
  case in_order =>
    obtain ⟨route, -, hcalls⟩ := covers_acts hd h
    refine hcalls.trans ?_
    cases disarm <;> simp [Request.itinerary]
  case called =>
    rw [mem_callsOf, hout.progress_iff hd h (.inl ⟨_, rfl⟩)]
    refine exists_congr fun deadline => and_congr_right fun hplans => ?_
    exact call_iff_gets_called hd.step (hout.calling_of_plans h hplans)
  case disarmed =>
    rw [mem_callsOf, hout.progress_iff hd h (.inl ⟨_, rfl⟩)]
    refine exists_congr fun deadline => and_congr_right fun hplans => ?_
    exact landing_disarms_iff hd.step (hout.calling_of_plans h hplans)
  case at_once =>
    rintro deadline down rest hplans rfl hdown hdone
    have hcalling := hout.calling_of_plans h hplans
    have hrest := callsOf_eq_nil (actsOf_of_absent (hdown.absent hd.step hcalling hdone))
    have hplanning : callsOf id (s.step .move).2 = [] := by
      refine List.eq_nil_iff_forall_not_mem.mpr fun call hcall => ?_
      exact (hout.calling h hplans.2).2 _ (.inl ⟨call, rfl⟩) (mem_callsOf.mp hcall)
    rw [acts_cons, callsOf_append, hplanning, acts_append, callsOf_append, hrest,
      ((hdown.done hcalling).2 hdone).2]
    simp [callsOf, endingsOf, NavigatorAct.callOf?, NavigatorAct.endingOf?]
  case arrived =>
    rw [endingsOf_eq_singleton_iff hd, hout.progress_iff hd h (.inr rfl)]
    refine exists_congr fun deadline => and_congr_right fun hplans => ?_
    exact landing_arrives_iff hd.step (hout.calling_of_plans h hplans)

/-- **Every takeoff and every landing keeps to its course.** The session may have done anything
before the planning, and anything may reach it afterwards: answers, telemetry, the passage of
time, cancellations, other requests. As the run is any run, what is said of its end is said of
each of its beginnings. -/
theorem takeoff_and_landing_complete {before later run : List Event} (settings : NavigatorSettings)
    (capacity : Nat) (hnum : Numbered (before ++ later)) (hrun : run = before ++ .move :: later)
    (hbegun : ((new settings capacity).after before).navigator.active =
      some ⟨id, marked, .begun r⟩) :
    (∀ altitude, r = .takeoff altitude →
      ((new settings capacity).after before).TakesOff id altitude marked later
        (callsOf id ((new settings capacity).acts run))
        (endingsOf id ((new settings capacity).acts run))) ∧
    (∀ disarm, r = .land disarm →
      ((new settings capacity).after before).Lands id disarm marked later
        (callsOf id ((new settings capacity).acts run))
        (endingsOf id ((new settings capacity).acts run))) := by
  have hd : ((new settings capacity).after before).Distinct (.move :: later) :=
    (distinct_new settings capacity hnum).after
  obtain ⟨hcalls, hendings, -⟩ := acts_from_planning hnum hbegun
  rw [hrun, hcalls, hendings]
  constructor
  · rintro altitude rfl
    exact takesOff_of_begun hd hbegun
  · rintro disarm rfl
    exact lands_of_begun hd hbegun

/-- A sample on the ground, and a takeoff to ten metres about to be planned. -/
def takeoffBegun : List Event :=
  [.telemetry (.velocity ⟨0.0, 0.0, 0.0⟩) 1,
    .telemetry (.imu ⟨⟨0.0, 0.0, 0.0⟩, ⟨0.0, 0.0, 0.0⟩, ⟨0.0, 0.0, 0.0⟩, 20.0⟩) 2,
    .telemetry (.position ⟨47.0, 8.0, 400.0, 0.0⟩) 3, .request 0 (.takeoff 10.0), .move]

/-- The three calls are accepted, and then the vehicle passes ten metres. -/
def takeoffFlown : List Event :=
  [.move, .answer (.ok ()), .move, .move, .answer (.ok ()), .move, .move, .answer (.ok ()), .move,
    .telemetry (.position ⟨47.0, 8.0, 411.0, 11.0⟩) 4,
    .telemetry (.position ⟨47.0, 8.0, 409.0, 9.0⟩) 5, .move]

/-- A landing about to be planned; the vehicle was reported armed and on the ground before. -/
def landingBegun : List Event :=
  [.telemetry (.armed true) 1, .telemetry (.landed .onGround) 2, .request 0 (.land true), .move]

/-- The landing is accepted, and the vehicle is disarmed. -/
def landingFlown : List Event :=
  [.move, .answer (.ok ()), .move, .move, .move, .answer (.ok ()), .move]

/-- The takeoff arrives although the vehicle has sunk again when the operation looks; the
landing needs no report after its call. -/
theorem takeoff_and_landing_complete_tenMetres :
    ((new unhurried 4).after takeoffBegun).TakesOff 0 10.0 false takeoffFlown
        [.arm, .setTakeoffAltitude 10.0, .takeoff] [.outcome .arrived] ∧
      ((new unhurried 4).after landingBegun).Lands 0 true false landingFlown
        [.land, .disarm] [.outcome .arrived] := by
  have hnum : Numbered (takeoffBegun ++ takeoffFlown) := by decide
  have htakeoff := (takeoff_and_landing_complete unhurried 4 hnum rfl rfl).1 10.0 rfl
  have hcalls : callsOf 0 ((new unhurried 4).acts (takeoffBegun ++ .move :: takeoffFlown)) =
      [.arm, .setTakeoffAltitude 10.0, .takeoff] := by decide +kernel
  have hend : endingsOf 0 ((new unhurried 4).acts (takeoffBegun ++ .move :: takeoffFlown)) =
      [.outcome .arrived] := by decide +kernel
  rw [hcalls, hend] at htakeoff
  have hnum' : Numbered (landingBegun ++ landingFlown) := by decide
  have hlanding := (takeoff_and_landing_complete unhurried 4 hnum' rfl rfl).2 true rfl
  have hcalls' : callsOf 0 ((new unhurried 4).acts (landingBegun ++ .move :: landingFlown)) =
      [.land, .disarm] := by decide +kernel
  have hend' : endingsOf 0 ((new unhurried 4).acts (landingBegun ++ .move :: landingFlown)) =
      [.outcome .arrived] := by decide +kernel
  rw [hcalls', hend'] at hlanding
  exact ⟨htakeoff, hlanding⟩

end Session

end GroundStation
