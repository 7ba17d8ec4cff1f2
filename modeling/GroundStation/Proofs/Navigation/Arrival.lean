import GroundStation.Proofs.Navigation.Mission
import GroundStation.Proofs.Navigation.Waiting

/-!
# When a leg is over

What follows an outbound leg has to wait for three things, one after the other: the answer to
the leg's call, a sample that is emitted after the operation took note of the answer and that
shows the vehicle near the target, and the end of the hover. A run in which the flight goes on
behind the leg can be cut accordingly (`Session.Passes`); the pieces are found in the log of the
flight, from note to note.

An operation that takes note of a call, an answer, a sight or the end of a hover is at the stage
that can (`Stage.calling_of_note` and what follows it), so each piece ends at a known stage, and
the next one begins with the move.

## Main results

* `Session.completion`, `Session.sighting`, `Session.resting`: the three things, each from one
  note to the next.
* `Route.Stands.leg_flown`: what follows a leg has the leg's course before it in the log.
* `Session.Planned.passes`: a leg whose course is in the log is passed.
-/

namespace GroundStation

/-! ## Cutting a leg out of a run -/

/-- The part of a run in which a leg is flown up to the sighting of its target, in pieces: until
the call is answered, until the operation takes note of that, until the event that emits the
sample, and until the operation takes note of the sample. -/
structure Approach where
  asked : List Session.Event
  answered : List Session.Event
  nearing : List Session.Event
  emitting : Session.Event
  watched : List Session.Event

namespace Approach

/-- The events before the operation takes note of the answer. -/
def untilCompletion (a : Approach) : List Session.Event :=
  a.asked ++ .answer (.ok ()) :: a.answered

/-- The events before the emission of the sample. -/
def untilEmission (a : Approach) : List Session.Event := a.untilCompletion ++ .move :: a.nearing

/-- The events before the operation takes note of the sample. -/
def untilSighting (a : Approach) : List Session.Event :=
  a.untilEmission ++ a.emitting :: a.watched

end Approach

/-- Who takes note of a call makes it now. -/
theorem Stage.calling_of_note {settings : NavigatorSettings} {now : Instant}
    {telemetry : Aggregator} {stage : Stage} {linkCall : LinkCall}
    (h : stage.note? settings now telemetry = some (.called linkCall)) :
    ∃ task deadline, stage = .calling task deadline := by
  cases stage with
  | calling task deadline => exact ⟨task, deadline, rfl⟩
  | awaiting task deadline reply => cases reply <;> grind [note?]
  | _ => grind [note?]

/-- Who takes note of an answer has it. -/
theorem Stage.answered_of_note {settings : NavigatorSettings} {now : Instant}
    {telemetry : Aggregator} {stage : Stage} {reply : Reply}
    (h : stage.note? settings now telemetry = some (.answered reply)) :
    ∃ task deadline, stage = .awaiting task deadline (some reply) := by
  cases stage with
  | awaiting task deadline answer =>
      cases answer with
      | none => grind [note?]
      | some answer =>
          obtain rfl : answer = reply := by simpa [note?] using h
          exact ⟨task, deadline, rfl⟩
  | _ => grind [note?]

/-- Who takes note of a sight sees it. -/
theorem Stage.seen_of_note {settings : NavigatorSettings} {now : Instant}
    {telemetry : Aggregator} {sight : Sight} {deadline : Instant}
    (h : (Stage.watching sight deadline).note? settings now telemetry = some .sighted) :
    sight.seen settings telemetry = true := by
  grind [note?]

/-- Who takes note of the end of a hover has hovered until then. -/
theorem Stage.late_of_note {settings : NavigatorSettings} {now : Instant}
    {telemetry : Aggregator} {l : Leg} {wake : Instant}
    (h : (Stage.hovering l wake).note? settings now telemetry = some .rested) : wake ≤ now := by
  grind [note?]

namespace Session

/-- An operation that has made so many calls, and has not ended. -/
def HasCalled (s : Session) (id n : Nat) (es : List Event) : Prop :=
  (callsOf id (s.acts es)).length = n ∧ endingsOf id (s.acts es) = []

/-- **How a leg's target is reached.** -/
structure Approaches (s : Session) (id : Nat) (l : Leg) (a : Approach) : Prop where
  /-- The leg's call is made and waits for its answer. -/
  asked : ∃ cancelled deadline, (s.after a.asked).navigator.active =
    some ⟨id, cancelled, .awaiting (.leg l) deadline none⟩
  /-- The answer is the vehicle's consent, and the operation takes note of it. -/
  completed : ∃ deadline, (s.after a.untilCompletion).navigator.active =
    some ⟨id, false, .awaiting (.leg l) deadline (some (.ok ()))⟩
  /-- A sample is emitted after that, and is within the tolerance of the target. -/
  emitted : ∃ x, (s.after a.untilEmission).emission? a.emitting = some x ∧
    x.position.within l.target.latitude l.target.longitude
      s.navigator.settings.arrivalTolerance = true
  /-- So far nothing was called but the legs up to this one, and the operation goes on. -/
  goes_on : s.HasCalled id l.index a.untilSighting

/-- **How a leg is passed**: its target is reached and then, if the waypoint has a hover, its time
passes. The longest pause is thirty years. -/
def Passes (s : Session) (id : Nat) (l : Leg) (es : List Event) : Prop :=
  ∃ a rest, es = a.untilSighting ++ .move :: rest ∧ s.Approaches id l a ∧
    (l.target.hovers = true → ∃ pause hovered later, rest = hovered ++ .move :: later ∧
      l.target.hoverDuration? = some pause ∧
      min pause.nanoseconds (farFuture * 1000000) ≤
        ((s.after (a.untilSighting ++ .move :: hovered)).now -
          (s.after a.untilSighting).now) * 1000000 ∧
      s.HasCalled id l.index (a.untilSighting ++ .move :: hovered))

variable {s : Session} {op : ActiveOperation} {es : List Event} {id : Nat}

/-! ## One move -/

theorem active_of_move {m : Move} (h : s.navigator.active = some op)
    (hm : op.stage.move s.navigator.settings s.now s.telemetry op.cancelled = some m) :
    (s.step .move).1.navigator.active =
      m.act.stage?.map fun stage => { op with stage := stage } := by
  rw [(step_running h .move).1, ActiveOperation.react_move hm]

/-- An operation that runs has not ended before. -/
theorem endingsOf_eq_nil_of_active (hd : s.Distinct es)
    (h : (s.after es).navigator.active = some op) : endingsOf op.id (s.acts es) = [] := by
  refine Classical.byContradiction fun hended => ?_
  rw [← List.append_nil es] at hd
  exact (absent_of_ended hd hended).1 (by simp [roster, h])

/-- A run without its end has distinct numbers as well. -/
theorem Distinct.front {later : List Event} (h : s.Distinct (es ++ later)) : s.Distinct es := by
  unfold Distinct requested at h ⊢
  rw [List.filterMap_append, ← List.append_assoc] at h
  exact h.sublist (List.sublist_append_left ..)

/-! ## From note to note -/

variable {more : List FlightNote}

/-- **The completion of a call.** -/
theorem completion {task : Task} {deadline : Instant} {cancelled : Bool} (hd : s.Distinct es)
    (h : s.navigator.active = some ⟨id, cancelled, .awaiting task deadline none⟩)
    (hlog : s.log id es = .answered (.ok ()) :: more) :
    ∃ asked answered rest marked, es = (asked ++ .answer (.ok ()) :: answered) ++ .move :: rest ∧
      (s.after asked).navigator.active = some ⟨id, marked, .awaiting task deadline none⟩ ∧
      s.TakesNote id (.answered (.ok ())) (asked ++ .answer (.ok ()) :: answered)
        (.awaiting task deadline (some (.ok ()))) ∧
      s.log id (asked ++ .answer (.ok ()) :: answered) = [] ∧
      (s.after ((asked ++ .answer (.ok ()) :: answered) ++ [.move])).log id rest = more := by
  have hlog' : s.log id es = [] ++ .answered (.ok ()) :: more := hlog
  obtain ⟨before, rest, stage, rfl, hquiet, hnote, hrest⟩ := log_split hlog'
  obtain ⟨task', deadline', rfl⟩ := Stage.answered_of_note hnote.taken
  obtain ⟨hstage, asked, answered, marked, rfl, hasked⟩ :=
    answered_within hd.front h rfl hquiet hnote.running rfl rfl
  exact ⟨asked, answered, rest, marked, rfl, hasked, hstage ▸ hnote, hquiet, hrest⟩

/-- **The sighting of a target.** The wait began when the receiver subscribed, so the sample
that ends it is emitted in the run. -/
theorem sighting {l : Leg} {deadline : Instant} {cancelled : Bool} (hd : s.Distinct es)
    (h : s.navigator.active =
      some ⟨id, cancelled, .watching (.arrival l s.telemetry.subscribe) deadline⟩)
    (hlog : s.log id es = .sighted :: more) :
    ∃ nearing emitting watched rest x, es = (nearing ++ emitting :: watched) ++ .move :: rest ∧
      (s.after nearing).emission? emitting = some x ∧
      x.position.within l.target.latitude l.target.longitude
        s.navigator.settings.arrivalTolerance = true ∧
      s.TakesNote id .sighted (nearing ++ emitting :: watched)
        (.watching (.arrival l s.telemetry.subscribe) deadline) ∧
      s.log id (nearing ++ emitting :: watched) = [] ∧
      (s.after ((nearing ++ emitting :: watched) ++ [.move])).log id rest = more := by
  have hlog' : s.log id es = [] ++ .sighted :: more := hlog
  obtain ⟨before, rest, stage, rfl, hquiet, hnote, hrest⟩ := log_split hlog'
  obtain rfl : stage = .watching (.arrival l s.telemetry.subscribe) deadline :=
    stage_kept hd.front h rfl hquiet hnote.running rfl
  have hseen := Stage.seen_of_note hnote.taken
  simp only [Sight.seen, List.any_eq_true, available_eq] at hseen
  obtain ⟨x, hx, hwithin⟩ := hseen
  rw [after_settings] at hwithin
  obtain ⟨nearing, emitting, watched, rfl, hemission⟩ :=
    exists_of_mem_emissions (List.mem_of_mem_drop hx)
  exact ⟨nearing, emitting, watched, rest, x, rfl, hemission, hwithin, hnote, hquiet, hrest⟩

/-- **The end of a hover.** -/
theorem resting {l : Leg} {wake : Instant} {cancelled : Bool} (hd : s.Distinct es)
    (h : s.navigator.active = some ⟨id, cancelled, .hovering l wake⟩)
    (hlog : s.log id es = .rested :: more) :
    ∃ hovered rest, es = hovered ++ .move :: rest ∧ wake ≤ (s.after hovered).now ∧
      s.log id hovered = [] ∧
      (s.after hovered).navigator.active = some ⟨id, false, .hovering l wake⟩ := by
  have hlog' : s.log id es = [] ++ .rested :: more := hlog
  obtain ⟨hovered, rest, stage, rfl, hquiet, hnote, -⟩ := log_split hlog'
  obtain rfl : stage = .hovering l wake := stage_kept hd.front h rfl hquiet hnote.running rfl
  exact ⟨hovered, rest, rfl, Stage.late_of_note hnote.taken, hquiet, hnote.running⟩

/-! ## From the call of a leg on -/

/-- A pause lasts until it is over, or for the longest time a pause can last. -/
theorem le_pauseEnd (now : Instant) (pause : Duration) :
    min pause.nanoseconds (farFuture * 1000000) ≤ (pauseEnd now pause - now) * 1000000 := by
  rw [pauseEnd, Nat.add_sub_cancel_left, Duration.timerMillis]
  omega

/-- The calls of an operation that still runs, as its log has them. -/
theorem HasCalled.of_log {n : Nat} (hd : s.Distinct es)
    (h : (s.after es).navigator.active = some op) (hid : op.id = id)
    (hn : (calledIn (s.log id es)).length = n) : s.HasCalled id n es :=
  ⟨by rw [callsOf_acts, hn], hid ▸ endingsOf_eq_nil_of_active hd h⟩

/-- The wait for the arrival begins with the move that takes note of the answer. -/
theorem watching_of_answered {l : Leg} {deadline : Instant}
    (h : s.navigator.active = some ⟨id, false, .awaiting (.leg l) deadline (some (.ok ()))⟩) :
    (s.step .move).1.navigator.active =
      some ⟨id, false, .watching (.arrival l (s.step .move).1.telemetry.subscribe) deadline⟩ := by
  rw [(step_inside s rfl).2]
  exact active_of_move h rfl

/-- **The target of a leg is reached** if the log has the answer to its call and the sight. -/
theorem approaches_of_called {l : Leg} {front es : List Event} {deadline : Instant}
    {cancelled : Bool} (hd : s.Distinct (front ++ es))
    (h : (s.after front).navigator.active =
      some ⟨id, cancelled, .awaiting (.leg l) deadline none⟩)
    (hcalls : (calledIn (s.log id front)).length = l.index)
    (hlog : (s.after front).log id es = .answered (.ok ()) :: .sighted :: more) :
    ∃ a rest since, front ++ es = a.untilSighting ++ .move :: rest ∧ s.Approaches id l a ∧
      s.TakesNote id .sighted a.untilSighting (.watching (.arrival l since) deadline) ∧
      (s.after (a.untilSighting ++ [.move])).log id rest = more := by
  obtain ⟨asked, answered, rest, marked, rfl, hasked, hanswered, hquiet, hlog⟩ :=
    completion hd.after h hlog
  -- the rest of the run begins where the operation has taken note of the answer
  generalize hnoted : front ++ ((asked ++ .answer (.ok ()) :: answered) ++ [.move]) = noted
  have hfrom : (s.after noted).navigator.active = some
      ⟨id, false, .watching (.arrival l (s.after noted).telemetry.subscribe) deadline⟩ := by
    rw [← hnoted, after_append, after_append]
    exact watching_of_answered hanswered.running
  have hrun : front ++ ((asked ++ .answer (.ok ()) :: answered) ++ .move :: rest) =
      noted ++ rest := by
    rw [← hnoted]
    simp
  rw [hrun] at hd ⊢
  rw [← after_append, hnoted] at hlog
  obtain ⟨nearing, emitting, watched, later, x, rfl, hemission, hwithin, hsighted, hwaiting,
    hmore⟩ := sighting hd.after hfrom hlog
  rw [after_settings] at hwithin
  let a : Approach := ⟨front ++ asked, answered, nearing, emitting, watched⟩
  have hcompletion : a.untilCompletion = front ++ (asked ++ .answer (.ok ()) :: answered) := by
    simp [a, Approach.untilCompletion]
  have hemitted : a.untilEmission = noted ++ nearing := by
    simp [← hnoted, a, Approach.untilCompletion, Approach.untilEmission]
  have hsight : a.untilSighting = noted ++ (nearing ++ emitting :: watched) := by
    rw [Approach.untilSighting, hemitted, List.append_assoc]
  have hsighting := hsight ▸ hsighted.of_after
  rw [← List.append_assoc, ← hsight] at hd ⊢
  refine ⟨a, later, _, rfl, ?_, hsighting, ?_⟩
  · constructor
    case asked => exact ⟨marked, deadline, by rwa [after_append]⟩
    case completed => exact ⟨deadline, hcompletion ▸ hanswered.of_after.running⟩
    case emitted => exact ⟨x, by rwa [hemitted, after_append], hwithin⟩
    case goes_on =>
      refine .of_log hd.front hsighting.running rfl ?_
      have hlogs : s.log id noted = s.log id front ++ [.answered (.ok ())] := by
        rw [← hnoted, log_append, hanswered.logged, hquiet, List.nil_append]
      rw [hsight, log_append, hwaiting, hlogs, List.append_nil, calledIn_append,
        List.length_append, hcalls]
      rfl
  · rwa [hsight, List.append_assoc, after_append]

/-- A hover that ends has begun with the arrival, and its time is a duration. -/
theorem hovering_of_sighted {l : Leg} {since : Receiver} {deadline : Instant}
    {front : List Event} (hd : s.Distinct (front ++ .move :: es))
    (h : s.TakesNote id .sighted front (.watching (.arrival l since) deadline))
    (hhover : l.target.hovers = true)
    (hlog : (s.after (front ++ [.move])).log id es = .rested :: more) :
    ∃ pause, l.target.hoverDuration? = some pause ∧
      (s.after (front ++ [.move])).navigator.active =
        some ⟨id, false, .hovering l (pauseEnd (s.after front).now pause)⟩ := by
  rw [after_append] at hlog ⊢
  have hmove : (Stage.watching (.arrival l since) deadline).move
      (s.after front).navigator.settings (s.after front).now (s.after front).telemetry false =
        some (l.arrive (s.after front).navigator.settings (s.after front).now) := by
    simp [Stage.move, Stage.seen_of_note h.taken, Sight.followUp]
  rw [Leg.arrive, if_pos hhover] at hmove
  cases hpause : l.target.hoverDuration? with
  | some pause =>
      rw [hpause] at hmove
      exact ⟨pause, rfl, active_of_move h.running hmove⟩
  | none =>
      -- the operation is over, and takes note of nothing any more
      rw [hpause] at hmove
      have hstep := (step_running h.running .move).1
      rw [active_of_move h.running hmove] at hstep
      have hsilent := log_of_absent (absent_of_left hd.after h.running hstep.symm)
      exact absurd (hsilent.symm.trans hlog) (List.cons_ne_nil _ _).symm

/-- **A leg whose call is made and whose course is in the log is passed.** -/
theorem passes_of_called {l : Leg} {front es : List Event} {deadline : Instant}
    {cancelled : Bool} (hd : s.Distinct (front ++ es))
    (h : (s.after front).navigator.active =
      some ⟨id, cancelled, .awaiting (.leg l) deadline none⟩)
    (hcalls : (calledIn (s.log id front)).length = l.index)
    (hlog : (s.after front).log id es =
      .answered (.ok ()) :: .sighted :: ((if l.target.hovers then [.rested] else []) ++ more)) :
    s.Passes id l (front ++ es) := by
  obtain ⟨a, rest, since, hrun, happroach, hsighted, hmore⟩ := approaches_of_called hd h hcalls hlog
  rw [hrun] at hd ⊢
  refine ⟨a, rest, rfl, happroach, fun hhover => ?_⟩
  rw [if_pos hhover, List.singleton_append] at hmore
  obtain ⟨pause, hpause, hhovering⟩ := hovering_of_sighted hd hsighted hhover hmore
  rw [List.append_cons] at hd
  obtain ⟨hovered, later, rfl, hlate, hquiet, hhovered⟩ := resting hd.after hhovering hmore
  rw [← after_append, ← List.append_cons] at hlate hhovered
  refine ⟨pause, hovered, later, rfl, hpause, ?_, ?_⟩
  · exact (le_pauseEnd _ pause).trans (Nat.mul_le_mul_right _ (Nat.sub_le_sub_right hlate _))
  · have hreached := happroach.goes_on.1
    rw [callsOf_acts] at hreached
    rw [← List.append_cons, ← List.cons_append, ← List.append_assoc] at hd
    refine .of_log hd.front hhovered rfl ?_
    rw [List.append_cons, log_append, hsighted.logged, hquiet, List.append_nil, calledIn_append,
      List.length_append, hreached]
    rfl

end Session

/-! ## Legs in the log of a flight -/

namespace Route

variable {settings : NavigatorSettings} {route : Route} {ws done rest : List Waypoint}
  {w : Waypoint} {log : List FlightNote}

/-- A stage at which a call is due, with the legs of the log behind, is that of the next leg. -/
theorem At.leg_due {task : Task} {deadline : Instant}
    (h : At settings route ws (.calling task deadline) (route.outbound settings done))
    (hws : ws = done ++ w :: rest) : task = .leg ⟨route, done.length + 1, w, rest⟩ := by
  generalize hlog : route.outbound settings done = log at h
  have hcalls := congrArg (fun log => (calledIn log).length) hlog
  cases h with
  | @due l behind deadline hbehind =>
      have hlength : done.length = behind.length := by simpa using hcalls
      obtain ⟨rfl, hrest⟩ := List.append_inj (hws.symm.trans hbehind.split) hlength
      obtain ⟨rfl, rfl⟩ := List.cons.inj hrest
      obtain ⟨hroute, hindex, -⟩ := hbehind
      rw [← hroute, ← hindex]
  | homeDue deadline hhome =>
      simp [hws] at hcalls

/-- A stage at which a call is due, with all legs behind, is that of the way home. -/
theorem At.home_due {home : HomePosition} {task : Task} {deadline : Instant}
    (h : At settings route ws (.calling task deadline) (route.outbound settings ws))
    (hhome : route.home = some home) : task = .home route home := by
  generalize hlog : route.outbound settings ws = log at h
  have hcalls := congrArg (fun log => (calledIn log).length) hlog
  cases h with
  | due deadline hbehind => simp [hbehind.split] at hcalls
  | homeDue deadline hhome' => rw [Option.some.inj (hhome.symm.trans hhome')]

/-- The course of fewer legs is the beginning of the course of more. -/
theorem outbound_le (h : done <+: ws) :
    route.outbound settings done <+: route.outbound settings ws := by
  obtain ⟨more, rfl⟩ := h
  rw [outbound_append]
  exact List.prefix_append ..

/-- **What follows a leg follows its course.** A flight that has called more often than the
leg counts, or has arrived, has the leg in its log. -/
theorem Stands.leg_flown {endings : List Ending} (h : route.Stands settings ws endings log)
    (hws : ws = done ++ w :: rest)
    (hfollows : done.length + 1 < (calledIn log).length ∨ .outcome .arrived ∈ endings) :
    ∃ more, log = route.outbound settings done ++ (route.legCourse settings w ++ more) := by
  have hflown : done ++ [w] <+: ws := ⟨rest, by simp [hws]⟩
  have hcourse : route.outbound settings (done ++ [w]) <+: route.course settings ws :=
    (outbound_le hflown).trans (List.prefix_append ..)
  have hshort : (calledIn (route.outbound settings (done ++ [w]))).length = done.length + 1 := by
    simp
  suffices hle : route.outbound settings (done ++ [w]) <+: log by
    obtain ⟨more, hmore⟩ := hle
    exact ⟨more, by rw [← hmore, outbound_append, outbound_cons]; simp [outbound]⟩
  -- a log that follows the course and calls more often is the longer one
  have hpartial : route.Partial settings ws log →
      done.length + 1 < (calledIn log).length → route.outbound settings (done ++ [w]) <+: log := by
    intro hpart hmore
    rcases List.prefix_or_prefix_of_prefix hcourse hpart.le_course with hle | hle
    · exact hle
    · have hfew : (calledIn log).length ≤ done.length + 1 :=
        hshort ▸ (hle.filterMap FlightNote.call?).length_le
      omega
  rcases h with ⟨rfl, stage, hat⟩ | ⟨ending, rfl, hover⟩
  · exact hpartial hat.le (hfollows.resolve_right List.not_mem_nil)
  · have hmore : ending ≠ .outcome .arrived → done.length + 1 < (calledIn log).length :=
      fun hne => hfollows.resolve_right fun hmem => hne (List.mem_singleton.mp hmem).symm
    cases hover with
    | arrived => exact hcourse
    | cancelled hpart => exact hpartial hpart (hmore (by simp))
    | overflow hpart => exact hpartial hpart (hmore (by simp))
    | @leg l behind cause part hbehind hpart =>
        have hcalls := hmore (by simp)
        rw [calledIn_append, List.length_append, hpart.calledIn_eq] at hcalls
        have hlength : (done ++ [w]).length ≤ behind.length := by
          simp at hcalls ⊢
          omega
        have hbefore := List.prefix_of_prefix_length_le hflown ⟨_, hbehind.split.symm⟩ hlength
        exact (outbound_le hbefore).trans (List.prefix_append ..)
    | home hhome hpart => exact (outbound_le hflown).trans (List.prefix_append ..)

end Route

namespace Session

/-- A flight that is planned in a run, and has taken note of nothing yet. -/
structure Planned (s : Session) (id : Nat) (route : Route) (ws : List Waypoint)
    (planning : List Event) : Prop where
  quiet : s.log id planning = []
  running : ∃ cancelled stage, (s.after planning).navigator.active = some ⟨id, cancelled, stage⟩ ∧
    Route.At s.navigator.settings route ws stage []

variable {s : Session} {id : Nat} {planning es : List Event} {route : Route}
  {ws done rest : List Waypoint} {w : Waypoint} {log more : List FlightNote}

/-- **The call of a flight**, from a log that has it. -/
theorem Planned.asked {linkCall : LinkCall} (h : s.Planned id route ws planning)
    (hd : s.Distinct (planning ++ es))
    (hlog : (s.after planning).log id es = log ++ .called linkCall :: more) :
    ∃ asked later task deadline, planning ++ es = asked ++ later ∧
      Route.At s.navigator.settings route ws (.calling task deadline) log ∧
      (s.after asked).navigator.active = some ⟨id, false, .awaiting task deadline none⟩ ∧
      s.log id asked = log ++ [.called linkCall] ∧ (s.after asked).log id later = more := by
  obtain ⟨cancelled, stage, hrunning, hat⟩ := h.running
  obtain ⟨before, later, due, rfl, hbefore, hnote, hmore⟩ := log_split hlog
  obtain ⟨task, deadline, rfl⟩ := Stage.calling_of_note hnote.taken
  have hdue := at_after (after_settings s planning) hd.after.front hrunning hat hnote.running rfl
  rw [hbefore, List.nil_append] at hdue
  refine ⟨planning ++ (before ++ [.move]), later, task, deadline, by simp, hdue, ?_, ?_, ?_⟩
  · rw [after_append, after_append]
    exact active_of_move hnote.running rfl
  · rw [log_append, h.quiet, hnote.logged, hbefore, List.nil_append]
  · rw [after_append, hmore]

/-- **A leg whose course is in the log is passed.** -/
theorem Planned.passes (h : s.Planned id route ws planning) (hd : s.Distinct (planning ++ es))
    (hws : ws = done ++ w :: rest)
    (hlog : (s.after planning).log id es =
      route.outbound s.navigator.settings done ++
        (route.legCourse s.navigator.settings w ++ more)) :
    s.Passes id ⟨route, done.length + 1, w, rest⟩ (planning ++ es) := by
  obtain ⟨asked, later, task, deadline, hrun, hdue, hasked, hlogged, hmore⟩ := h.asked hd hlog
  obtain rfl := hdue.leg_due hws
  rw [hrun] at hd ⊢
  have hcalls : (calledIn (s.log id asked)).length = done.length + 1 := by
    rw [hlogged, calledIn_append, Route.calledIn_outbound, List.length_append, List.length_map]
    rfl
  exact passes_of_called hd hasked hcalls hmore

end Session

end GroundStation
