import GroundStation.Proofs.Telemetry.Samples

/-!
# What a subscriber is handed

A subscriber counts from the moment at which it subscribed, and a channel keeps its latest
values only. So whoever subscribed and looks again after some values were sent finds the last of
these, as many as the channel keeps: nothing from before, and of a long burst not all.

The values of an aggregator's channel are the samples that its updates emit (`emission?`).

## Main results

* `Channel.available_sendAll`: what is there for a subscriber after any number of sends.
* `Aggregator.apply_samples`: an update sends the sample that it emits, and nothing else.
-/

namespace GroundStation

namespace Channel

variable {α : Type}

/-- A channel after one send after the other. -/
def sendAll (c : Channel α) (xs : List α) : Channel α := xs.foldl send c

theorem sendAll_append (c : Channel α) (xs ys : List α) :
    c.sendAll (xs ++ ys) = (c.sendAll xs).sendAll ys := List.foldl_append ..

theorem sendAll_concat (c : Channel α) (xs : List α) (x : α) :
    c.sendAll (xs ++ [x]) = (c.sendAll xs).send x := List.foldl_append ..

@[simp] theorem sendAll_size (c : Channel α) (xs : List α) : (c.sendAll xs).size = c.size := by
  induction xs using List.reverseRecOn with
  | nil => rfl
  | append_singleton xs x ih => rw [sendAll_concat, send, ih]

@[simp] theorem sendAll_sent (c : Channel α) (xs : List α) :
    (c.sendAll xs).sent = c.sent + xs.length := by
  induction xs using List.reverseRecOn with
  | nil => rfl
  | append_singleton xs x ih =>
      rw [sendAll_concat, send, ih, List.length_append, List.length_singleton, Nat.add_assoc]

/-- The values kept after sends are the latest ones. -/
theorem kept_sendAll (c : Channel α) (xs : List α) :
    (c.sendAll xs).latest.take c.size = (xs.reverse ++ c.latest).take c.size := by
  induction xs using List.reverseRecOn with
  | nil => rfl
  | append_singleton xs x ih =>
      have hkept := kept_send (c.sendAll xs) x
      rw [← sendAll_concat, kept, sendAll_size, sendAll_size, List.reverse_inj] at hkept
      rw [hkept, List.reverse_concat, List.cons_append]
      cases hsize : c.size with
      | zero => rfl
      | succ n =>
          rw [hsize] at ih
          have hfewer := congrArg (List.take n) ih
          rw [List.take_take, List.take_take, Nat.min_eq_left (Nat.le_succ n)] at hfewer
          rw [List.take_succ_cons, List.take_succ_cons, hfewer]

/-- **A subscriber finds the last of the values that were sent since**, as many as are kept. -/
theorem available_sendAll (c : Channel α) (xs : List α) :
    (c.sendAll xs).available c.subscribe = xs.rtake c.size := by
  have hcount : c.sent + xs.length - max c.sent (c.sent + xs.length - c.size) =
      min xs.length c.size := by omega
  have hlatest : (c.sendAll xs).latest.take (min xs.length c.size) =
      (xs.reverse ++ c.latest).take (min xs.length c.size) := by
    rw [← List.take_take, kept_sendAll, List.take_take]
  have hsent : (xs.reverse ++ c.latest).take (min xs.length c.size) = xs.reverse.take c.size := by
    have hroom : min xs.length c.size ≤ xs.reverse.length := by
      rw [List.length_reverse]
      exact Nat.min_le_left ..
    rw [List.take_append_of_le_length hroom, List.take_eq_take_iff, List.length_reverse]
    omega
  rw [available, oldest, sendAll_sent, sendAll_size]
  show ((c.sendAll xs).latest.take
    (c.sent + xs.length - max c.sent (c.sent + xs.length - c.size))).reverse = _
  rw [hcount, hlatest, hsent, List.rtake_eq_reverse_take_reverse]

end Channel

namespace Aggregator

/-- The sample that an update emits, if it emits one. -/
def emission? (a : Aggregator) (u : Update) (timestamp : Nat) : Option Sample :=
  if u.isSampled then (a.taken u).merged timestamp else none

/-- **An update sends the sample that it emits**, and nothing else. -/
theorem apply_samples (a : Aggregator) (u : Update) (timestamp : Nat) :
    (a.apply u timestamp).samples = a.samples.sendAll (a.emission? u timestamp).toList := by
  cases hu : u.isSampled with
  | false =>
      obtain ⟨status, heq⟩ : ∃ status, a.apply u timestamp =
          { a.taken u with status := status } :=
        apply_of_not_isSampled hu
      rw [heq, emission?, if_neg (by simp [hu])]
      rfl
  | true =>
      rw [apply_of_isSampled hu, refresh, emission?, if_pos hu]
      cases (a.taken u).merged timestamp <;> rfl

end Aggregator

end GroundStation
