import GroundStation.Proofs.Navigation.Cancellation
import GroundStation.Proofs.Navigation.Flight
import GroundStation.Proofs.Telemetry.Delivery

/-!
# How an operation waits

The log of an operation grows only when the operation moves, so a run can be cut at any note
of the log (`Session.log_split`). Between two notes the operation stays where it is, except that
an answer may come in for the call that it made: if it is answered later, the answer was an
event in between (`Session.answered_within`).

Meanwhile the samples that the telemetry emits are handed to the receivers
(`Session.emissions`). Whatever a receiver finds was emitted after it subscribed.

## Main results

* `Session.log_split`: a run, cut at a note.
* `Session.at_after`: the stage of a flight at any point of its run.
* `Session.stage_kept`, `Session.answered_within`: what an operation does between two notes.
* `Session.available_eq`, `Session.exists_of_mem_emissions`: what a receiver finds, and when it
  was emitted.
-/

namespace GroundStation

/-- A stage that no answer changes, and at which the operation is past its planning. -/
def Stage.isSettled : Stage → Bool
  | .awaiting _ _ none | .begun _ => false
  | _ => true

theorem Stage.isUnderWay_of_isSettled {stage : Stage} (h : stage.isSettled = true) :
    stage.isUnderWay = true := by
  cases stage with
  | begun request => cases h
  | _ => rfl

theorem ActiveOperation.hear_stage {op : ActiveOperation} (h : op.stage.isSettled = true)
    (e : Session.Event) : (op.hear e).stage = op.stage := by
  cases e with
  | answer reply =>
      simp only [hear]
      split
      · rename_i hstage
        rw [hstage] at h
        cases h
      · rfl
  | _ => rfl

/-- A stage past the planning that takes note of nothing has to wait. -/
theorem Stage.waits_of_note {settings : NavigatorSettings} {now : Instant}
    {telemetry : Aggregator} {stage : Stage} (hstage : stage.isUnderWay = true)
    (hnote : stage.note? settings now telemetry = none) :
    stage.move settings now telemetry false = none := by
  cases stage with
  | begun request => cases hstage
  | calling task deadline => cases hnote
  | awaiting task deadline reply =>
      cases reply with
      | some reply => cases hnote
      | none => grind [Stage.move, Stage.note?]
  | watching sight deadline => grind [Stage.move, Stage.note?]
  | hovering l wake => grind [Stage.move, Stage.note?]

namespace Session

variable {s : Session} {op last : ActiveOperation} {es later : List Event} {id : Nat}

theorem after_append (s : Session) (es later : List Event) :
    s.after (es ++ later) = (s.after es).after later := by
  induction es generalizing s with
  | nil => rfl
  | cons e es ih => exact ih (s.step e).1

/-! ## Cutting a run at a note -/

/-- Notes are taken at moves of the operation that runs, unless it is cancelled. -/
theorem noticing {e : Event} {note : FlightNote} (h : note ∈ s.notes id e) :
    e = .move ∧ ∃ stage, s.navigator.active = some ⟨id, false, stage⟩ ∧
      stage.note? s.navigator.settings s.now s.telemetry = some note := by
  unfold notes at h
  split at h
  · rename_i op hop
    obtain ⟨number, cancelled, stage⟩ := op
    split at h
    · rename_i hid
      obtain rfl : number = id := hid
      cases e with
      | move =>
          cases cancelled with
          | true => exact absurd h List.not_mem_nil
          | false => exact ⟨rfl, stage, hop, by simpa [ActiveOperation.notes] using h⟩
      | _ => exact absurd h List.not_mem_nil
    · exact absurd h List.not_mem_nil
  · exact absurd h List.not_mem_nil

/-- There is one note an event at most. -/
theorem notes_eq_singleton {e : Event} {note : FlightNote} (h : note ∈ s.notes id e) :
    s.notes id e = [note] := by
  obtain ⟨rfl, stage, hop, hnote⟩ := noticing h
  simp [notes, hop, ActiveOperation.notes, hnote]

/-- An operation that takes note of something in the next move, after a run. -/
structure TakesNote (s : Session) (id : Nat) (note : FlightNote) (es : List Event)
    (stage : Stage) : Prop where
  running : (s.after es).navigator.active = some ⟨id, false, stage⟩
  taken : stage.note? (s.after es).navigator.settings (s.after es).now (s.after es).telemetry =
    some note

namespace TakesNote

variable {note : FlightNote} {stage : Stage}

/-- The log grows by the note. -/
theorem logged (h : s.TakesNote id note es stage) :
    s.log id (es ++ [.move]) = s.log id es ++ [note] := by
  rw [log_append, log, log, List.append_nil]
  simp [notes, h.running, ActiveOperation.notes, h.taken]

theorem of_after (h : (s.after es).TakesNote id note later stage) :
    s.TakesNote id note (es ++ later) stage := by
  obtain ⟨hrunning, htaken⟩ := h
  rw [← after_append] at hrunning htaken
  exact ⟨hrunning, htaken⟩

end TakesNote

/-- **A run, cut at a note of its log.** -/
theorem log_split {front back : List FlightNote} {note : FlightNote}
    (h : s.log id es = front ++ note :: back) :
    ∃ before after stage, es = before ++ .move :: after ∧ s.log id before = front ∧
      s.TakesNote id note before stage ∧ (s.after (before ++ [.move])).log id after = back := by
  induction es generalizing s front with
  | nil => simp [log] at h
  | cons e es ih =>
      rw [log] at h
      cases hnotes : s.notes id e with
      | nil =>
          rw [hnotes, List.nil_append] at h
          obtain ⟨before, after, stage, rfl, hfront, hnote, hback⟩ := ih h
          refine ⟨e :: before, after, stage, rfl, ?_, ⟨hnote.running, hnote.taken⟩, hback⟩
          rw [log, hnotes, hfront]
          rfl
      | cons n others =>
          have hn : n ∈ s.notes id e := hnotes ▸ List.mem_cons_self
          rw [notes_eq_singleton hn, List.singleton_append] at h
          cases front with
          | nil =>
              obtain ⟨rfl, hback⟩ := List.cons.inj h
              obtain ⟨rfl, stage, hrunning, htaken⟩ := noticing hn
              exact ⟨[], es, stage, rfl, rfl, ⟨hrunning, htaken⟩, hback⟩
          | cons first rest =>
              obtain ⟨rfl, hrest⟩ := List.cons.inj h
              obtain ⟨before, after, stage, rfl, hfront, hnote, hback⟩ := ih hrest
              refine ⟨e :: before, after, stage, rfl, ?_, ⟨hnote.running, hnote.taken⟩, hback⟩
              rw [log, notes_eq_singleton hn, hfront]
              rfl

/-! ## Between two notes -/

/-- An operation that still runs later has not left the navigator now. -/
theorem react_of_later {e : Event} (hd : s.Distinct (e :: es))
    (h : s.navigator.active = some op)
    (hlast : (s.after (e :: es)).navigator.active = some last) (hid : last.id = op.id) :
    ∃ next, (op.react s.navigator.settings s.now s.telemetry e).1 = some next ∧
      (s.step e).1.navigator.active = some next := by
  cases hnext : (op.react s.navigator.settings s.now s.telemetry e).1 with
  | some next => exact ⟨next, rfl, (step_running h e).1.trans hnext⟩
  | none =>
      have habsent := absent_of_left hd h hnext
      rw [← List.append_nil es] at habsent
      refine absurd ?_ habsent.after.1
      rw [← hid]
      exact List.mem_append_left _ (by simp [← after_cons, hlast])

/-- An operation that takes note of nothing and does not leave only hears of the event. -/
theorem hear_of_quiet {e : Event} {next : ActiveOperation} (hstage : op.stage.isUnderWay = true)
    (hnotes : op.notes s.navigator.settings s.now s.telemetry e = [])
    (hnext : (op.react s.navigator.settings s.now s.telemetry e).1 = some next) :
    next = op.hear e := by
  cases e with
  | move =>
      cases hcancelled : op.cancelled with
      | true =>
          have hends := op.react_of_cancelled s.navigator.settings s.now s.telemetry .move
            hcancelled hstage
          rcases hends with ⟨-, hleft⟩ | ⟨habsurd, -⟩ | ⟨habsurd, -⟩
          · rw [hleft] at hnext
            cases hnext
          · cases habsurd
          · exact absurd rfl habsurd
      | false =>
          simp only [ActiveOperation.notes, hcancelled, Bool.false_eq_true, if_false,
            Option.toList_eq_nil_iff] at hnotes
          have hwaits := Stage.waits_of_note hstage hnotes
          rw [← hcancelled] at hwaits
          simp only [ActiveOperation.react, hwaits] at hnext
          exact (Option.some.inj hnext).symm
  | abandon number =>
      simp only [ActiveOperation.react] at hnext
      split at hnext
      · cases hnext
      · exact (Option.some.inj hnext).symm
  | _ => exact (Option.some.inj hnext).symm

/-- A quiet event, as an operation hears of it that still runs later. -/
theorem heard_of_quiet {e : Event} (hd : s.Distinct (e :: es))
    (h : s.navigator.active = some op) (hstage : op.stage.isUnderWay = true)
    (hlog : s.log op.id (e :: es) = [])
    (hlast : (s.after (e :: es)).navigator.active = some last) (hid : last.id = op.id) :
    (s.step e).1.navigator.active = some (op.hear e) ∧ (s.step e).1.log op.id es = [] := by
  obtain ⟨hnotes, hrest⟩ := List.append_eq_nil_iff.mp hlog
  have hop : op.notes s.navigator.settings s.now s.telemetry e = [] := by
    simpa [notes, h] using hnotes
  obtain ⟨next, hnext, hactive⟩ := react_of_later hd h hlast hid
  exact ⟨hear_of_quiet hstage hop hnext ▸ hactive, hrest⟩

/-- **A settled stage is kept between two notes.** -/
theorem stage_kept (hd : s.Distinct es) (h : s.navigator.active = some op)
    (hstage : op.stage.isSettled = true) (hlog : s.log op.id es = [])
    (hlast : (s.after es).navigator.active = some last) (hid : last.id = op.id) :
    last.stage = op.stage := by
  induction es generalizing s op with
  | nil =>
      obtain rfl : op = last := Option.some.inj (h.symm.trans hlast)
      rfl
  | cons e es ih =>
      obtain ⟨hactive, hrest⟩ :=
        heard_of_quiet hd h (Stage.isUnderWay_of_isSettled hstage) hlog hlast hid
      have hheard := ActiveOperation.hear_stage hstage e
      rw [← op.hear_id e] at hrest hid
      exact (ih hd.step hactive (hheard ▸ hstage) hrest hlast hid).trans hheard

/-- **A call that is answered after a while was answered by an event in between.** -/
theorem answered_within {task : Task} {deadline : Instant} {reply : Reply} (hd : s.Distinct es)
    (h : s.navigator.active = some op) (hstage : op.stage = .awaiting task deadline none)
    (hlog : s.log op.id es = []) (hlast : (s.after es).navigator.active = some last)
    (hid : last.id = op.id) {task' : Task} {deadline' : Instant}
    (hanswered : last.stage = .awaiting task' deadline' (some reply)) :
    last.stage = .awaiting task deadline (some reply) ∧
      ∃ before after cancelled, es = before ++ .answer reply :: after ∧
        (s.after before).navigator.active =
          some ⟨op.id, cancelled, .awaiting task deadline none⟩ := by
  induction es generalizing s op with
  | nil =>
      obtain rfl : op = last := Option.some.inj (h.symm.trans hlast)
      rw [hstage] at hanswered
      cases hanswered
  | cons e es ih =>
      have hunder : op.stage.isUnderWay = true := by rw [hstage]; rfl
      obtain ⟨hactive, hrest⟩ := heard_of_quiet hd h hunder hlog hlast hid
      have hnumber := op.hear_id e
      rw [← hnumber] at hrest hid
      by_cases hanswer : ∃ r, e = .answer r
      · obtain ⟨r, rfl⟩ := hanswer
        have hheard : (op.hear (.answer r)).stage = .awaiting task deadline (some r) := by
          simp [ActiveOperation.hear, hstage]
        have hkept := stage_kept hd.step hactive (by rw [hheard]; rfl) hrest hlast hid
        rw [hheard] at hkept
        obtain ⟨-, -, rfl⟩ : task' = task ∧ deadline' = deadline ∧ reply = r := by
          simpa using hanswered.symm.trans hkept
        refine ⟨hkept, [], es, op.cancelled, rfl, ?_⟩
        obtain ⟨number, cancelled, stage⟩ := op
        obtain rfl : stage = _ := hstage
        exact h
      · have hheard : (op.hear e).stage = .awaiting task deadline none := by
          cases e with
          | answer r => exact absurd ⟨r, rfl⟩ hanswer
          | _ => exact hstage
        obtain ⟨hresult, before, after, cancelled, rfl, hbefore⟩ :=
          ih hd.step hactive hheard hrest hlast hid
        rw [hnumber] at hbefore
        exact ⟨hresult, e :: before, after, cancelled, rfl, hbefore⟩

/-- **Where a flight stands at any point of its run.** -/
theorem at_after {settings : NavigatorSettings} {route : Route} {ws : List Waypoint}
    {log : List FlightNote} (hsettings : s.navigator.settings = settings) (hd : s.Distinct es)
    (h : s.navigator.active = some op) (hat : Route.At settings route ws op.stage log)
    (hlast : (s.after es).navigator.active = some last) (hid : last.id = op.id) :
    Route.At settings route ws last.stage (log ++ s.log op.id es) := by
  induction es generalizing s op log with
  | nil =>
      obtain rfl : op = last := Option.some.inj (h.symm.trans hlast)
      rw [Session.log, List.append_nil]
      exact hat
  | cons e es ih =>
      have hnotes : s.notes op.id e = op.notes settings s.now s.telemetry e := by
        simp [notes, h, hsettings]
      obtain ⟨next, hnext, hactive⟩ := react_of_later hd h hlast hid
      have hnumber := ActiveOperation.react_id hnext
      rw [hsettings] at hnext
      rcases hat.goesOn s.now s.telemetry e with ⟨next', hnext', -, hat'⟩ | ⟨hnone, -⟩
      · obtain rfl : next = next' := Option.some.inj (hnext.symm.trans hnext')
        rw [Session.log, hnotes, ← List.append_assoc, ← hnumber]
        exact ih ((step_settings s e).trans hsettings) hd.step hactive hat' hlast
          (hid.trans hnumber.symm)
      · rw [hnext] at hnone
        cases hnone

/-! ## What a receiver is handed meanwhile -/

/-- The sample that the telemetry emits at an event, if it emits one. -/
def emission? (s : Session) : Event → Option Sample
  | .telemetry update timestamp => s.telemetry.emission? update timestamp
  | _ => none

/-- The samples that the telemetry emits in a run, in order. -/
def emissions (s : Session) : List Event → List Sample
  | [] => []
  | e :: es => (s.emission? e).toList ++ (s.step e).1.emissions es

/-- An event sends the sample that it emits. -/
theorem samples_step (s : Session) (e : Event) :
    (s.step e).1.telemetry.samples = s.telemetry.samples.sendAll (s.emission? e).toList := by
  cases e with
  | telemetry update timestamp => exact s.telemetry.apply_samples update timestamp
  | move =>
      rw [step]
      split <;> rfl
  | _ => rfl

/-- The channel after a run has sent the samples of the run. -/
theorem samples_after (s : Session) (es : List Event) :
    (s.after es).telemetry.samples = s.telemetry.samples.sendAll (s.emissions es) := by
  induction es generalizing s with
  | nil => rfl
  | cons e es ih => rw [after_cons, ih, samples_step, emissions, Channel.sendAll_append]

/-- **A receiver finds the last of the samples that were emitted since it subscribed**, as many
as the channel keeps. -/
theorem available_eq (s : Session) (es : List Event) :
    (s.after es).telemetry.samples.available s.telemetry.subscribe =
      (s.emissions es).rtake s.telemetry.samples.size := by
  rw [samples_after]
  exact Channel.available_sendAll _ _

/-- A sample that was emitted in a run was emitted by one of its events. -/
theorem exists_of_mem_emissions {x : Sample} (h : x ∈ s.emissions es) :
    ∃ before e after, es = before ++ e :: after ∧ (s.after before).emission? e = some x := by
  induction es generalizing s with
  | nil => exact absurd h List.not_mem_nil
  | cons e es ih =>
      rw [emissions, List.mem_append] at h
      rcases h with hfirst | hlater
      · exact ⟨[], e, es, rfl, Option.mem_toList.mp hfirst⟩
      · obtain ⟨before, e', after, rfl, hemission⟩ := ih hlater
        exact ⟨e :: before, e', after, rfl, hemission⟩

end Session

end GroundStation
