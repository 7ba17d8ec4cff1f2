import GroundStation.Proofs.Navigation.Acts

/-!
# Whom a cancellation reaches

A cancellation marks the operation that runs at that moment. This module proves
both sides of that sentence.

The operation that is marked ends cancelled at its next move. It looks at the mark
before anything else, so an answer, a sample, the end of a hover or a deadline that
is there as well comes too late (`Stage.move_of_cancelled`), and it makes no call
any more (`Session.acts_of_cancelled`).

Every other operation is out of reach. What an operation does from its beginning on
is a matter of the clock and the telemetry at its beginning and of the events that
follow (`Session.Alike.actsOf_eq`); neither remembers a cancellation
(`Session.after_outside`). An operation that is over does nothing any more
(`Session.absent_of_ended`).

## Main results

* `Session.cancel_ends_running_only`: both sides, for every run of a session.
-/

namespace GroundStation

/-- Is an operation at this stage suspended in a wait? -/
def Stage.isSuspended : Stage → Bool
  | .awaiting .. | .watching .. | .hovering .. => true
  | _ => false

theorem Stage.isUnderWay_of_isSuspended {stage : Stage} (h : stage.isSuspended = true) :
    stage.isUnderWay = true := by
  cases stage <;> simp_all [isSuspended, isUnderWay]

/-- The mark of a cancellation comes before whatever else an operation waits for. -/
theorem Stage.move_of_cancelled (settings : NavigatorSettings) (now : Instant)
    (telemetry : Aggregator) {stage : Stage} (h : stage.isUnderWay = true) :
    stage.move settings now telemetry true = some (.finish .cancelled) := by
  cases stage with
  | begun request => simp [isUnderWay] at h
  | _ => rfl

/-- What an event does to a cancelled operation: a move ends it cancelled, its
abandonment takes it away, and nothing else gets it going again. -/
theorem ActiveOperation.react_of_cancelled (settings : NavigatorSettings) (now : Instant)
    (telemetry : Aggregator) {op : ActiveOperation} (e : Session.Event)
    (hcancelled : op.cancelled = true) (hstage : op.stage.isUnderWay = true) :
    (e = .move ∧
      op.react settings now telemetry e =
        (none, ((Navigator.new settings).carryOut op (.finish .cancelled)).2)) ∨
    (e = .abandon op.id ∧ op.react settings now telemetry e = (none, Navigator.dropped op)) ∨
    (e ≠ .move ∧ e ≠ .abandon op.id ∧ ∃ next : ActiveOperation,
      op.react settings now telemetry e = (some next, []) ∧ next.id = op.id ∧
        next.cancelled = true ∧ next.stage.isUnderWay = true) := by
  cases e with
  | move =>
      refine .inl ⟨rfl, ?_⟩
      have hm := Stage.move_of_cancelled settings now telemetry hstage
      rw [← hcancelled] at hm
      exact react_move hm
  | abandon id =>
      by_cases hid : id = op.id
      · exact .inr (.inl ⟨by rw [hid], by simp [react, hid]⟩)
      · refine .inr (.inr ⟨by simp, by simp [hid], op, ?_, rfl, hcancelled, hstage⟩)
        simp [react, hid]
  | answer reply =>
      refine .inr (.inr ⟨by simp, by simp, op.hear (.answer reply), rfl, op.hear_id _, ?_, ?_⟩)
      · grind [hear]
      · grind [hear, Stage.isUnderWay]
  | _ => exact .inr (.inr ⟨by simp, by simp, _, rfl, rfl, by simp [hear, hcancelled], hstage⟩)

namespace Session

variable {s t : Session} {op : ActiveOperation} {es later : List Event} {id : Nat}

/-! ## The operation that is reached -/

/-- A cancelled operation makes no call. If it ends it ends cancelled, and the first
move after the cancellation ends it. -/
theorem acts_of_cancelled (hd : s.Distinct es) (h : s.navigator.active = some op)
    (hcancelled : op.cancelled = true) (hstage : op.stage.isUnderWay = true) :
    callsOf op.id (s.acts es) = [] ∧
      (∀ ending ∈ endingsOf op.id (s.acts es), ending = .outcome .cancelled) ∧
      (.move ∈ es → .abandon op.id ∉ es →
        endingsOf op.id (s.acts es) = [.outcome .cancelled]) := by
  induction es generalizing s op with
  | nil => simp
  | cons e es ih =>
      have hstep := step_running h e
      rw [acts_cons, callsOf_append, endingsOf_append, hstep.2]
      rcases ActiveOperation.react_of_cancelled s.navigator.settings s.now s.telemetry e
        hcancelled hstage with
        ⟨rfl, hr⟩ | ⟨rfl, hr⟩ | ⟨hmove, habandon, next, hr, hid, hnext, hstage'⟩
      · -- the move ends it, and what is over does nothing
        have hrest := actsOf_of_absent (absent_of_left hd h (congrArg Prod.fst hr))
        rw [hr, callsOf_eq_nil hrest, endingsOf_eq_nil hrest, Navigator.callsOf_carryOut,
          Navigator.endingsOf_carryOut]
        simp [Move.finish, Act.call?, Act.ending?]
      · have hrest := actsOf_of_absent (absent_of_left hd h (congrArg Prod.fst hr))
        rw [hr, callsOf_eq_nil hrest, endingsOf_eq_nil hrest, Navigator.callsOf_dropped,
          Navigator.endingsOf_dropped]
        simp
      · rw [hr] at hstep
        have hrest := ih hd.step hstep.1 hnext hstage'
        rw [hid] at hrest
        rw [hr]
        simpa [Ne.symm hmove, Ne.symm habandon] using hrest

/-! ## The operations that are not -/

/-- The passage of time and the telemetry, which reach a session from outside. -/
def Event.isOutside : Event → Bool
  | .telemetry .. | .pass _ => true
  | _ => false

/-- What a run brings from outside. -/
def outside (es : List Event) : List Event := es.filter Event.isOutside

/-- An event that does not come from outside leaves the clock and the telemetry. -/
theorem step_inside (s : Session) {e : Event} (h : e.isOutside = false) :
    (s.step e).1.now = s.now ∧ (s.step e).1.telemetry = s.telemetry := by
  cases e with
  | move =>
      simp only [step]
      split <;> exact ⟨rfl, rfl⟩
  | telemetry update timestamp => simp [Event.isOutside] at h
  | pass millis => simp [Event.isOutside] at h
  | _ => exact ⟨rfl, rfl⟩

/-- The clock and the telemetry follow what comes from outside and nothing else. -/
theorem after_outside (hnow : s.now = t.now) (htelemetry : s.telemetry = t.telemetry)
    (es : List Event) :
    (s.after es).now = (t.after (outside es)).now ∧
      (s.after es).telemetry = (t.after (outside es)).telemetry := by
  induction es generalizing s t with
  | nil => exact ⟨hnow, htelemetry⟩
  | cons e es ih =>
      by_cases hout : e.isOutside = true
      · rw [outside, List.filter_cons_of_pos hout, ← outside, after_cons, after_cons]
        cases e with
        | telemetry update timestamp =>
            exact ih hnow (congrArg (Aggregator.apply · update timestamp) htelemetry)
        | pass millis => exact ih (congrArg (· + millis) hnow) htelemetry
        | _ => simp [Event.isOutside] at hout
      · rw [outside, List.filter_cons_of_neg hout, ← outside, after_cons]
        obtain ⟨hnow', htelemetry'⟩ := step_inside s (Bool.eq_false_iff.mpr hout)
        exact ih (hnow'.trans hnow) (htelemetry'.trans htelemetry)

/-- Two sessions in which the same operation runs at the same time, with the same
telemetry. -/
structure Alike (s t : Session) (op : ActiveOperation) : Prop where
  now : s.now = t.now
  telemetry : s.telemetry = t.telemetry
  settings : s.navigator.settings = t.navigator.settings
  left : s.navigator.active = some op
  right : t.navigator.active = some op

/-- **What an operation does is settled by the clock, the telemetry and the events from
its beginning on.** Whatever else the two sessions differ in makes no difference. -/
theorem Alike.actsOf_eq (h : Alike s t op) (hs : s.Distinct es) (ht : t.Distinct es) :
    actsOf op.id (s.acts es) = actsOf op.id (t.acts es) := by
  induction es generalizing s t op with
  | nil => rfl
  | cons e es ih =>
      have hleft := step_running h.left e
      have hright := step_running h.right e
      have hreact : op.react t.navigator.settings t.now t.telemetry e =
          op.react s.navigator.settings s.now s.telemetry e := by
        rw [h.settings, h.now, h.telemetry]
      rw [hreact] at hright
      rw [acts_cons, acts_cons, actsOf_append, actsOf_append, hleft.2, hright.2]
      congr 1
      cases hnext : (op.react s.navigator.settings s.now s.telemetry e).1 with
      | none =>
          rw [actsOf_of_absent (absent_of_left hs h.left hnext),
            actsOf_of_absent (absent_of_left ht h.right (hreact ▸ hnext))]
      | some next =>
          rw [hnext] at hleft hright
          have houtside := after_outside h.now h.telemetry [e]
          have houtside' := after_outside (s := t) (t := t) rfl rfl [e]
          rw [← ActiveOperation.react_id hnext]
          exact ih
            { now := houtside.1.trans houtside'.1.symm
              telemetry := houtside.2.trans houtside'.2.symm
              settings := by rw [step_settings, step_settings, h.settings]
              left := hleft.1
              right := hright.1 } hs.step ht.step

/-! ## Before the beginning and after the end -/

/-- Is an operation the next to begin, with nothing in its way? -/
def IsNext (s : Session) (id : Nat) (r : Request) : Prop :=
  s.navigator.active = none ∧ s.navigator.waiting.head? = some (id, r)

/-- An operation that runs or is absent does not wait. -/
theorem Reached.not_next {p : ActiveOperation → Prop} {r : Request} (h : s.Reached p id es) :
    ¬ s.IsNext id r := by
  rintro ⟨hidle, hhead⟩
  rcases h with ⟨op, hop, -⟩ | habsent
  · simp [hidle] at hop
  · obtain ⟨rest, hrest⟩ := List.head?_eq_some_iff.mp hhead
    exact habsent.1 (by simp [roster, hidle, hrest])

private theorem always : ActiveOperation.Lasting fun _ => True := fun _ _ => trivial

/-- Whoever acts in a step waits no more. -/
theorem reached_of_acts {e : Event} (hd : s.Distinct (e :: es))
    (h : actsOf id (s.step e).2 ≠ []) : (s.step e).1.Reached (fun _ => True) id es := by
  obtain ⟨a, hmem⟩ := List.exists_mem_of_ne_nil _ h
  obtain ⟨ha, hid⟩ := List.mem_filter.mp hmem
  simp only [decide_eq_true_eq] at hid
  cases hactive : s.navigator.active with
  | some op =>
      have hrun : s.Reached (fun _ => True) op.id (e :: es) := .inl ⟨op, hactive, rfl, trivial⟩
      rw [(step_running hactive e).2] at ha
      exact ActiveOperation.operation_of_mem_react ha hid ▸ hrun.step always hd
  | none =>
      obtain ⟨first, r, rest, -, rfl, hfirst⟩ := step_idle_acts hactive ha
      exact .inl ⟨_, hfirst, by simpa [NavigatorAct.operation?] using hid, trivial⟩

/-- An operation that has yet to begin has done nothing so far. -/
theorem actsOf_of_isNext {r : Request} (hd : s.Distinct (es ++ later))
    (h : (s.after es).IsNext id r) : actsOf id (s.acts es) = [] := by
  induction es generalizing s with
  | nil => rfl
  | cons e es ih =>
      rw [acts_cons, actsOf_append, ih hd.step h, List.append_nil]
      apply Classical.byContradiction
      intro hacts
      exact ((reached_of_acts hd hacts).after always hd.step).not_next h

/-- What an operation does in a whole run is its beginning and what it does from there. -/
theorem actsOf_beginning {settings : NavigatorSettings} {capacity : Nat} {r : Request}
    (hnum : Numbered (es ++ later)) (h : ((new settings capacity).after es).IsNext id r) :
    actsOf id ((new settings capacity).acts (es ++ .move :: later)) =
      .begins id :: actsOf id
        ((((new settings capacity).after es).step .move).1.acts later) := by
  have hbefore := actsOf_of_isNext (distinct_new settings capacity hnum) h
  obtain ⟨rest, hw⟩ := List.head?_eq_some_iff.mp h.2
  rw [acts_append, acts_cons, actsOf_append, actsOf_append, hbefore,
    step_move_begins h.1 hw]
  simp [actsOf, NavigatorAct.operation?]

/-- Two histories with the same passage of time and the same telemetry lead to sessions in
which the operation begins alike. -/
theorem alike_of_isNext {settings : NavigatorSettings} {capacity : Nat} {r : Request}
    (h : ((new settings capacity).after es).IsNext id r)
    (h' : ((new settings capacity).after later).IsNext id r)
    (houtside : outside es = outside later) :
    Alike (((new settings capacity).after es).step .move).1
      (((new settings capacity).after later).step .move).1 ⟨id, false, .begun r⟩ := by
  obtain ⟨rest, hw⟩ := List.head?_eq_some_iff.mp h.2
  obtain ⟨rest', hw'⟩ := List.head?_eq_some_iff.mp h'.2
  have heq := after_outside (s := new settings capacity) rfl rfl es
  have heq' := after_outside (s := new settings capacity) rfl rfl later
  rw [← houtside] at heq'
  rw [step_move_begins h.1 hw, step_move_begins h'.1 hw']
  exact
    { now := heq.1.trans heq'.1.symm
      telemetry := heq.2.trans heq'.2.symm
      settings := (after_settings _ es).trans (after_settings _ later).symm
      left := rfl
      right := rfl }

/-! ## Both sides -/

/-- **A cancellation ends the operation that runs, and touches no other.**

* An operation that is suspended in a wait when it is cancelled makes no link call from
  then on, whatever else happens before it runs again. If it ends it ends cancelled, and
  it does end with the next move.
* The calls and the end of an operation are the same after any two histories that led to
  its beginning with the same passage of time and the same telemetry. So a cancellation
  that comes while it waits, or before it is requested, makes no difference.
* Once an operation has ended, nothing that follows adds a call or an end. -/
theorem cancel_ends_running_only (settings : NavigatorSettings) (capacity : Nat) :
    (∀ before later op, Numbered (before ++ later) →
      ((new settings capacity).after before).navigator.active = some op →
      op.stage.isSuspended = true →
      callsOf op.id (((new settings capacity).after before).acts (.cancel :: later)) = [] ∧
        (∀ ending ∈ endingsOf op.id
            (((new settings capacity).after before).acts (.cancel :: later)),
          ending = .outcome .cancelled) ∧
        (.move ∈ later → .abandon op.id ∉ later →
          endingsOf op.id (((new settings capacity).after before).acts (.cancel :: later)) =
            [.outcome .cancelled])) ∧
    (∀ before before' later id r, Numbered (before ++ later) → Numbered (before' ++ later) →
      ((new settings capacity).after before).IsNext id r →
      ((new settings capacity).after before').IsNext id r →
      outside before = outside before' →
      callsOf id ((new settings capacity).acts (before ++ .move :: later)) =
          callsOf id ((new settings capacity).acts (before' ++ .move :: later)) ∧
        endingsOf id ((new settings capacity).acts (before ++ .move :: later)) =
          endingsOf id ((new settings capacity).acts (before' ++ .move :: later))) ∧
    (∀ es later id, Numbered (es ++ later) →
      endingsOf id ((new settings capacity).acts es) ≠ [] →
      callsOf id ((new settings capacity).acts (es ++ later)) =
          callsOf id ((new settings capacity).acts es) ∧
        endingsOf id ((new settings capacity).acts (es ++ later)) =
          endingsOf id ((new settings capacity).acts es)) := by
  refine ⟨?reached, ?waiting, ?ended⟩
  case reached =>
    intro before later op hnum hactive hstage
    have hd : ((new settings capacity).after before).Distinct (.cancel :: later) :=
      (distinct_new settings capacity hnum).after
    have hmarked : (((new settings capacity).after before).step .cancel).1.navigator.active =
        some { op with cancelled := true } := (step_running hactive .cancel).1
    have hrest := acts_of_cancelled hd.step hmarked rfl (Stage.isUnderWay_of_isSuspended hstage)
    exact hrest
  case waiting =>
    intro before before' later id r hnum hnum' hnext hnext' houtside
    have hbegins := actsOf_beginning hnum hnext
    have hbegins' := actsOf_beginning hnum' hnext'
    have halike := alike_of_isNext hnext hnext' houtside
    have hd : (((new settings capacity).after before).step .move).1.Distinct later :=
      Distinct.step (distinct_new settings capacity hnum).after
    have hd' : (((new settings capacity).after before').step .move).1.Distinct later :=
      Distinct.step (distinct_new settings capacity hnum').after
    have hacts : actsOf id ((new settings capacity).acts (before ++ .move :: later)) =
        actsOf id ((new settings capacity).acts (before' ++ .move :: later)) := by
      rw [hbegins, hbegins']
      exact congrArg _ (halike.actsOf_eq hd hd')
    exact ⟨callsOf_congr hacts, endingsOf_congr hacts⟩
  case ended =>
    intro es later id hnum hended
    have habsent := absent_of_ended (distinct_new settings capacity hnum) hended
    have hacts := actsOf_of_absent habsent
    rw [acts_append, callsOf_append, endingsOf_append, callsOf_eq_nil hacts,
      endingsOf_eq_nil hacts, List.append_nil, List.append_nil]
    exact ⟨rfl, rfl⟩

/-- A slow flight with two minutes for each leg. -/
def unhurried : NavigatorSettings := ⟨4.0, 0.000003, .ofSeconds 120, .young⟩

/-- Two landings are requested, and the call of the first one is made. -/
def firstLandingCalled : List Event :=
  [.request 0 (.land true), .request 1 (.land false), .move, .move, .move]

/-- The vehicle has accepted the first landing, which has not noticed yet. -/
def firstLandingAnswered : List Event := firstLandingCalled ++ [.answer (.ok ())]

/-- The first landing is cancelled at that moment. -/
def firstLandingCancelled : List Event := firstLandingAnswered ++ [.cancel, .move]

/-- The vehicle refuses the first landing. -/
def firstLandingRefused : List Event :=
  firstLandingCalled ++ [.answer (.error (.rejected "land" 4)), .move]

/-- A landing that is cancelled when its answer is there already ends cancelled, and the
landing behind it flies as it would have after a refusal of the first. -/
theorem cancel_ends_answered_landing :
    endingsOf 0 (((new unhurried 4).after firstLandingAnswered).acts [.cancel, .move, .move]) =
        [.outcome .cancelled] ∧
      callsOf 1 ((new unhurried 4).acts (firstLandingCancelled ++ .move :: [.move, .move])) =
        callsOf 1 ((new unhurried 4).acts (firstLandingRefused ++ .move :: [.move, .move])) ∧
      callsOf 0 ((new unhurried 4).acts (firstLandingCancelled ++ [.cancel, .move, .move])) =
        callsOf 0 ((new unhurried 4).acts firstLandingCancelled) := by
  obtain ⟨reached, waiting, ended⟩ := cancel_ends_running_only unhurried 4
  have hactive : ((new unhurried 4).after firstLandingAnswered).navigator.active =
      some ⟨0, false, .awaiting (.land true) 120000 (some (.ok ()))⟩ := rfl
  have hreached := reached firstLandingAnswered [.move, .move] _ (by decide) hactive rfl
  have hnext : ((new unhurried 4).after firstLandingCancelled).IsNext 1 (.land false) :=
    ⟨rfl, rfl⟩
  have hnext' : ((new unhurried 4).after firstLandingRefused).IsNext 1 (.land false) :=
    ⟨rfl, rfl⟩
  have hwaiting := waiting firstLandingCancelled firstLandingRefused [.move, .move] 1 _
    (by decide) (by decide) hnext hnext' rfl
  have hended : endingsOf 0 ((new unhurried 4).acts firstLandingCancelled) ≠ [] := by decide
  have hnothing := ended firstLandingCancelled [.cancel, .move, .move] 0 (by decide) hended
  exact ⟨hreached.2.2 (by simp) (by simp), hwaiting.1, hnothing.1⟩

end Session

end GroundStation
