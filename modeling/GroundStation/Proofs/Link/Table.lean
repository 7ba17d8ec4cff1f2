import GroundStation.Link.Acknowledgement

/-!
# Looking into the table of acknowledgements

What the operations on the table do to the entry of each command. An operation on one
command leaves the entries of all others as they are, so every lemma here answers the
same question, what `AckTable.find?` sees afterwards, once for the command itself and
once for the rest.

## Main results

* `AckTable.find?_start`, `AckTable.find?_finish`: the entries after a request has
  started or ended.
* `AckTable.find?_resolve`, `AckTable.resolve_told`: the entries after an
  acknowledgement, and whom it completes.
* `AckTable.Keyed`: every entry can be looked up, which all operations preserve.
-/

namespace GroundStation

open Mavlink

/-- Does an acknowledgement say how its command ended? -/
def Mavlink.CommandAck.isTerminal (a : CommandAck) : Bool := a.result ≠ CommandResult.inProgress

namespace AckTable

variable {t : AckTable} {c c' : CommandId} {e : PendingAck} {k : Nat} {a : CommandAck}

/-- The entries of a table have different commands, so that each can be looked up. -/
def Keyed (t : AckTable) : Prop := (t.entries.map (·.command)).Nodup

theorem Keyed.find? (h : t.Keyed) (he : e ∈ t.entries) : t.find? e.command = some e := by
  obtain ⟨entries, nextTicket⟩ := t
  unfold Keyed at h
  unfold AckTable.find?
  dsimp only at h he ⊢
  induction entries with
  | nil => cases he
  | cons first rest ih =>
      rw [List.map_cons, List.nodup_cons] at h
      rcases List.mem_cons.mp he with rfl | hrest
      · simp
      · have hne : first.command ≠ e.command := by
          intro heq
          exact h.1 (heq ▸ List.mem_map_of_mem hrest)
        rw [List.find?_cons_of_neg (by simpa using hne)]
        exact ih h.2 hrest

/-! ## Removing and changing an entry -/

theorem find?_remove (t : AckTable) (c c' : CommandId) :
    (t.remove c).find? c' = if c' = c then none else t.find? c' := by
  unfold remove AckTable.find?
  rw [List.find?_filter]
  split
  · rename_i heq
    rw [List.find?_eq_none]
    simp [heq]
  · rename_i hne
    congr 1
    funext e
    grind

theorem find?_modify (t : AckTable) (c c' : CommandId) (change : PendingAck → PendingAck)
    (hchange : ∀ e, (change e).command = e.command) :
    (t.modify c change).find? c' = if c' = c then (t.find? c).map change else t.find? c' := by
  unfold modify AckTable.find?
  rw [List.find?_map]
  have hpred : ((fun e : PendingAck => decide (e.command = c')) ∘
      fun e => if e.command = c then change e else e) = fun e => decide (e.command = c') := by
    funext e
    by_cases h : e.command = c <;> simp [h, hchange]
  rw [hpred]
  split
  · rename_i heq
    rw [heq]
    cases hfind : t.entries.find? fun e => decide (e.command = c) with
    | none => rfl
    | some e =>
        have hcommand : e.command = c := by simpa using List.find?_some hfind
        simp [hcommand]
  · rename_i hne
    cases hfind : t.entries.find? fun e => decide (e.command = c') with
    | none => rfl
    | some e =>
        have hcommand : e.command = c' := by simpa using List.find?_some hfind
        simp [hcommand, hne]

theorem Keyed.remove (h : t.Keyed) (c : CommandId) : (t.remove c).Keyed :=
  h.sublist ((List.filter_sublist).map _)

theorem Keyed.modify (h : t.Keyed) (c : CommandId) (change : PendingAck → PendingAck)
    (hchange : ∀ e, (change e).command = e.command) : (t.modify c change).Keyed := by
  unfold Keyed AckTable.modify
  rw [List.map_map]
  have hmap : ((·.command) ∘ fun e : PendingAck => if e.command = c then change e else e) =
      (·.command) := by
    funext e
    by_cases he : e.command = c <;> simp [he, hchange]
  rw [hmap]
  exact h

/-! ## The start of a request -/

/-- A request that starts has the entry of its command, marked if there was one. -/
theorem find?_start (t : AckTable) (c c' : CommandId) :
    (t.start c).table.find? c' =
      if c' = c then some ⟨c, t.nextTicket, true, (t.find? c).isSome⟩ else t.find? c' := by
  have hremove := find?_remove t c c'
  unfold AckTable.find? at hremove
  unfold start
  rw [AckTable.find?, List.find?_append, hremove]
  by_cases h : c' = c
  · simp [h]
  · simp [h, Ne.symm h, AckTable.find?]

theorem start_superseded (t : AckTable) (c : CommandId) :
    (t.start c).superseded = some k ↔
      ∃ e, t.find? c = some e ∧ e.waiting = true ∧ e.ticket = k := by
  unfold start
  cases t.find? c with
  | none => simp
  | some e => cases h : e.waiting <;> simp [h]

theorem Keyed.start (h : t.Keyed) (c : CommandId) : (t.start c).table.Keyed := by
  have hremove := h.remove c
  unfold Keyed AckTable.start at *
  rw [List.map_append, List.nodup_append]
  refine ⟨hremove, by simp, ?_⟩
  intro command hold command' hnew
  obtain ⟨e, he, rfl⟩ := List.mem_map.mp hold
  have hne : e.command ≠ c := by simpa using (List.mem_filter.mp he).2
  simpa [List.mem_singleton.mp hnew] using hne

/-! ## The end of a request -/

theorem find?_finish (t : AckTable) (c c' : CommandId) (k : Nat) :
    (t.finish c k).find? c' = if c' = c then
      (t.find? c).map fun e => if e.ticket = k then { e with waiting := false } else e
      else t.find? c' := by
  refine find?_modify t c c' _ fun e => ?_
  split <;> rfl

/-- The end of a request takes the waiter of its own entry. -/
theorem find?_finish_some {e' : PendingAck} (h : (t.finish c k).find? c' = some e') :
    ∃ e, t.find? c' = some e ∧ e.ticket = e'.ticket ∧
      (e'.waiting = true → e.waiting = true) ∧
      (c' = c → e.ticket = k → e'.waiting = false) := by
  rw [find?_finish] at h
  split at h
  · rename_i heq
    obtain ⟨e, he, rfl⟩ := Option.map_eq_some_iff.mp h
    refine ⟨e, heq ▸ he, ?_⟩
    by_cases hk : e.ticket = k <;> simp [hk]
  · rename_i hne
    exact ⟨e', h, rfl, id, fun heq => absurd heq hne⟩

theorem Keyed.finish (h : t.Keyed) (c : CommandId) (k : Nat) : (t.finish c k).Keyed := by
  refine h.modify c _ fun e => ?_
  split <;> rfl

/-- A request that ends without an entry of its own leaves the table as it is. -/
theorem finish_eq_self (h : ∀ e ∈ t.entries, e.command = c → e.ticket ≠ k) :
    t.finish c k = t := by
  have hentries : ∀ e ∈ t.entries,
      (if e.command = c then (if e.ticket = k then { e with waiting := false } else e) else e) =
        e := by
    intro e he
    split
    · rename_i hc
      rw [if_neg (h e he hc)]
    · rfl
  unfold finish modify
  rw [List.map_congr_left hentries, List.map_id']

/-! ## An acknowledgement -/

theorem resolve_inProgress (h : a.isTerminal = false) : t.resolve a = (t, none) := by
  have hresult : a.result = CommandResult.inProgress := by simpa [CommandAck.isTerminal] using h
  rw [resolve, if_pos hresult]

/-- What an acknowledgement that says how its command ended does to the entry. -/
theorem resolve_terminal (h : a.isTerminal = true) :
    t.resolve a = match t.find? a.command with
      | none => (t, none)
      | some e =>
        if ¬ e.waiting then (t.remove a.command, none)
        else if e.stale then (t.modify a.command fun e => { e with stale := false }, none)
        else (t.remove a.command, some e.ticket) := by
  have hresult : a.result ≠ CommandResult.inProgress := by simpa [CommandAck.isTerminal] using h
  unfold resolve
  exact if_neg hresult

/-- An acknowledgement leaves the entries of other commands. -/
theorem find?_resolve_of_ne (h : c ≠ a.command) : (t.resolve a).1.find? c = t.find? c := by
  cases hterm : a.isTerminal with
  | false => rw [resolve_inProgress hterm]
  | true =>
      rw [resolve_terminal hterm]
      repeat' split
      · rfl
      · rw [find?_remove, if_neg h]
      · have hmodify := find?_modify t a.command c (fun e => { e with stale := false }) fun _ => rfl
        rw [hmodify, if_neg h]
      · rw [find?_remove, if_neg h]

/-- An acknowledgement leaves an entry that it does not remove to its request. -/
theorem find?_resolve {e' : PendingAck} (h : (t.resolve a).1.find? c = some e') :
    ∃ e, t.find? c = some e ∧ e.ticket = e'.ticket ∧ e.waiting = e'.waiting ∧
      (c = a.command → (t.resolve a).2 = none) := by
  by_cases hc : c = a.command
  · cases hterm : a.isTerminal with
    | false =>
        rw [resolve_inProgress hterm] at h ⊢
        exact ⟨e', h, rfl, rfl, fun _ => rfl⟩
    | true =>
        rw [resolve_terminal hterm] at h ⊢
        cases hfind : t.find? a.command with
        | none => simp [hfind, hc] at h
        | some e =>
            simp only [hfind] at h ⊢
            split at h
            · simp [find?_remove, hc] at h
            · rename_i hwaiting
              split at h
              · rename_i hstale
                have hmodify := find?_modify t a.command c (fun e => { e with stale := false })
                  fun _ => rfl
                rw [hmodify, if_pos hc, hfind] at h
                obtain rfl := Option.some.inj h
                exact ⟨e, hc ▸ hfind, rfl, rfl, fun _ => by simp [hwaiting, hstale]⟩
              · simp [find?_remove, hc] at h
  · rw [find?_resolve_of_ne hc] at h
    exact ⟨e', h, rfl, rfl, fun heq => absurd heq hc⟩

/-- An acknowledgement completes the request whose entry waits without a mark. -/
theorem resolve_told : (t.resolve a).2 = some k ↔ a.isTerminal = true ∧
    ∃ e, t.find? a.command = some e ∧ e.waiting = true ∧ e.stale = false ∧ e.ticket = k := by
  cases hterm : a.isTerminal with
  | false => simp [resolve_inProgress hterm]
  | true =>
      rw [resolve_terminal hterm]
      cases t.find? a.command with
      | none => simp
      | some e => cases hw : e.waiting <;> cases hs : e.stale <;> simp [hw, hs]

theorem resolve_nextTicket (t : AckTable) (a : CommandAck) :
    (t.resolve a).1.nextTicket = t.nextTicket := by
  unfold resolve
  repeat' split
  all_goals rfl

theorem Keyed.resolve (h : t.Keyed) (a : CommandAck) : (t.resolve a).1.Keyed := by
  unfold AckTable.resolve
  repeat' split
  · exact h
  · exact h
  · exact h.remove _
  · exact h.modify _ _ fun _ => rfl
  · exact h.remove _

end AckTable

end GroundStation
